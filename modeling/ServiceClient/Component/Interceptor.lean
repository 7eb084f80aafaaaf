import ServiceClient.Call.Log
import ServiceClient.Call.Template
import ServiceClient.Table

/-!
# Interceptors

An interceptor changes a template before it is sent.
-/

namespace ServiceClient

/-- A change of a template before it is sent. -/
structure Interceptor where
  apply : Template → Template
  /-- What is reported while the interceptor is made. -/
  reports : List Report := []

/-- Names with a list of values each. -/
abbrev ValueLists := Table (List String)

namespace Interceptor

/-- The legal lines of configured headers: names in lower case with their legal values. -/
def headerLines (headers : ValueLists) : List (String × List Bytes) :=
  headers.filterMap fun (name, values) =>
    (Http.headerName? name).map fun n => (n, values.filterMap Http.headerValue?)

/-- What is reported while configured headers are checked. -/
def headerReports (headers : ValueLists) : List Report :=
  headers.flatMap fun (name, values) =>
    if (Http.headerName? name).isNone then [.droppedHeaderName name]
    else (values.filter fun v => (Http.headerValue? v).isNone).map fun _ => .droppedHeaderValue name

/-- Replaces the lines of each configured header. -/
def headers (configured : ValueLists) : Interceptor where
  apply t := t.withHeaders ((headerLines configured).foldl
    (fun h (name, values) => Http.Headers.put h name values) t.headers)
  reports := headerReports configured

/-- Replaces the values of each configured query. -/
def queryParameters (configured : ValueLists) : Interceptor where
  apply t := configured.foldl (fun t (name, values) => t.setQuery name values) t

/-- Puts octets into the place of the body. -/
def body (octets : Bytes) : Interceptor where
  apply t := t.withBody (.raw octets)

/-- Adds a header line. -/
def headerLine (name : String) (value : Bytes) : Interceptor where
  apply t := t.withHeaders (t.headers ++ [(name, value)])

end Interceptor
end ServiceClient
