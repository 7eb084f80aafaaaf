import ServiceClient.Json.Printer
import ServiceClient.Url.Form

/-!
# Query maps

How a value becomes queries.
-/

namespace ServiceClient

/-- How a value becomes queries. -/
structure QueryMapEncoder where
  encode : Json → List Url.Form.Pair

namespace QueryMapEncoder

/-- A string as it is, any other value as compact JSON. -/
def scalarText : Json → String
  | .string s => s
  | v => v.text

/-- Whether a value is null. -/
def isNull : Json → Bool
  | .null => true
  | _ => false

/-- The queries of a field: none for null, one for each item of an array that is not null. -/
def fieldPairs (name : String) : Json → List Url.Form.Pair
  | .null => []
  | .array items => (items.filter (!isNull ·)).map fun v => (name, scalarText v)
  | v => [(name, scalarText v)]

/-- The queries of the fields of an object; any other value has none. -/
def fields : QueryMapEncoder where
  encode
    | .object fs => fs.flatMap fun (name, v) => fieldPairs name v
    | _ => []

/-- The whole value as compact JSON in one query. -/
def whole (name : String) : QueryMapEncoder where
  encode v := [(name, v.text)]

end QueryMapEncoder
end ServiceClient
