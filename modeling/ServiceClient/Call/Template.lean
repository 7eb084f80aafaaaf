import ServiceClient.Http.Message
import ServiceClient.Json.Basic
import ServiceClient.Text.Blank
import ServiceClient.Url.Form
import ServiceClient.Url.Parser

/-!
# Request templates

A request before it is encoded: a method, a path below the address of the service, queries, headers,
a body, and a value that still has to become queries.
-/

namespace ServiceClient

/-- The body of a template. -/
inductive Body where
  | empty
  | raw (octets : Bytes)
  /-- A value that still has to be encoded. -/
  | value (v : Json)
  deriving Inhabited

/-- Whether nothing would be sent as the body. -/
def Body.isEmpty : Body → Bool
  | empty => true
  | raw octets => octets.isEmpty
  | value _ => false

/-- A request before it is encoded. -/
structure Template where
  method : String := "GET"
  path : String := ""
  queries : List Url.Form.Pair := []
  headers : Http.Headers := []
  body : Body := .empty
  /-- A value whose fields become queries. -/
  queryMap : Option Json := none
  deriving Inhabited

namespace Template

/-- The template with one more query. -/
def addQuery (t : Template) (name value : String) : Template :=
  { t with queries := t.queries ++ [(name, value)] }

/-- The template with several more queries. -/
def addQueries (t : Template) (pairs : List Url.Form.Pair) : Template :=
  { t with queries := t.queries ++ pairs }

/-- The template with the given values as the only ones of a query, behind the others. -/
def setQuery (t : Template) (name : String) (values : List String) : Template :=
  { t with queries := t.queries.filter (·.1 != name) ++ values.map (name, ·) }

/-- Whether there is a query of a name. -/
def hasQuery (t : Template) (name : String) : Bool :=
  t.queries.any (·.1 == name)

/-- The template without its query map. -/
def withoutQueryMap (t : Template) : Template :=
  { t with queryMap := none }

/-- The template with another body. -/
def withBody (t : Template) (body : Body) : Template :=
  { t with body := body }

/-- The template with other headers. -/
def withHeaders (t : Template) (headers : Http.Headers) : Template :=
  { t with headers := headers }

/-- A path put behind an address, with one slash between. -/
def joinPath (base path : String) : String :=
  if path.isEmpty then base
  else
    let base := Text.dropEndSlashes base
    if Text.beginsWith path "/" then base ++ path else base ++ "/" ++ path

/-- The URL of the request below an address, with the queries behind those of the address. -/
def url (t : Template) (base : String) : Except Url.Error Url :=
  (Url.parse (joinPath base t.path)).map (·.appendPairs t.queries)

end Template
end ServiceClient
