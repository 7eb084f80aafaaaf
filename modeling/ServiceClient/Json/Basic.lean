import ServiceClient.Table

/-!
# JSON values

Integers lie between `-2 ^ 63` and `2 ^ 64 - 1`; every other number is a binary64 value. The fields
of an object have different names and stand in the order of their names.
-/

namespace ServiceClient

/-- A JSON value. -/
inductive Json where
  | null
  | bool (b : Bool)
  | int (n : Int)
  | float (x : Float)
  | string (s : String)
  | array (items : List Json)
  | object (fields : List (String × Json))
  deriving Inhabited

namespace Json

/-- The object with the given fields, the last of one name counting. -/
def ofFields (fields : List (String × Json)) : Json :=
  .object (Table.ofRows fields)

/-- The value of a field. -/
def field? (name : String) : Json → Option Json
  | .object fields => fields.lookup name
  | _ => none

/-- A text, or null. -/
def ofText? : Option String → Json
  | none => .null
  | some s => .string s

end Json
end ServiceClient
