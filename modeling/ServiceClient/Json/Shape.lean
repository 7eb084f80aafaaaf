import ServiceClient.Json.Basic

/-!
# Shapes of JSON values

A shape says which values a caller can use, and as which value each of them counts.
-/

namespace ServiceClient.Json

/-- What a caller wants. -/
inductive Shape where
  | any
  | null
  /-- A whole number of at most so many bits. -/
  | unsigned (bits : Nat)
  | text
  | list (item : Shape)
  | optional (inner : Shape)
  /-- An object with at least the given fields, or an array of their values. -/
  | record (fields : List (String × Shape))

namespace Shape

mutual

/-- The value as which a JSON value counts, if it has the shape. -/
def fit : Shape → Json → Option Json
  | any, v => some v
  | null, .null => some .null
  | unsigned bits, .int n => if 0 ≤ n && n.toNat < Nat.pow 2 bits then some (.int n) else none
  | text, .string s => some (.string s)
  | list item, .array vs => (vs.mapM fun v => fit item v).map .array
  | optional _, .null => some .null
  | optional inner, v => fit inner v
  | record fields, .object values => (fitFields fields values).map Json.ofFields
  | record fields, .array values => (fitItems fields values).map Json.ofFields
  | _, _ => none

/-- The fields of an object; others do not count. -/
def fitFields : List (String × Shape) → Table Json → Option (List (String × Json))
  | [], _ => some []
  | (name, shape) :: fields, values =>
    match (values.get? name).bind (fit shape), fitFields fields values with
    | some v, some vs => some ((name, v) :: vs)
    | _, _ => none

/-- The fields as the items of an array of the same length. -/
def fitItems : List (String × Shape) → List Json → Option (List (String × Json))
  | [], [] => some []
  | (name, shape) :: fields, v :: vs =>
    match fit shape v, fitItems fields vs with
    | some w, some ws => some ((name, w) :: ws)
    | _, _ => none
  | _, _ => none

end

end Shape
end ServiceClient.Json
