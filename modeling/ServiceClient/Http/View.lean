import ServiceClient.Http.Message
import ServiceClient.Json.Basic
import ServiceClient.Text.CodeSet

/-!
# Messages as JSON

Octets are shown as text when they are UTF-8, and by their hexadecimal digits otherwise; header
lines are shown in the order of their names.
-/

namespace ServiceClient.Http

/-- Octets as JSON. -/
def octetsJson (octets : Bytes) : Json :=
  match Text.Utf8.text? octets with
  | some s => .string s
  | none => .object [("hex", .string (String.ofList (octets.flatMap Text.hexByte)))]

/-- Header lines as JSON. -/
def headersJson (h : Headers) : Json :=
  .array ((Headers.sorted h).map fun (name, value) => .array [.string name, octetsJson value])

/-- A response as JSON. -/
def Response.json (r : Response) : Json :=
  .object [("body", octetsJson r.body), ("headers", headersJson r.headers),
    ("status", .int r.status)]

end ServiceClient.Http
