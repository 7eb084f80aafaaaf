import ServiceClient.Properties.Basic

/-!
# Documents with properties

Properties stand in a section of a document. Several documents are put over each other, the later
ones counting more; when one of them cannot be used, there are only the default properties.
-/

namespace ServiceClient

mutual

/-- A value put over another one: tables are put over each other row by row. -/
def Json.over (base : Json) : Json → Json
  | .object rows =>
    match base with
    | .object baseRows => .object (Json.rowsOver baseRows rows)
    | _ => .object rows
  | v => v

/-- Rows put over a table. -/
def Json.rowsOver (base : Table Json) : List (String × Json) → Table Json
  | [] => base
  | (key, v) :: rows =>
    let value := match base.get? key with
      | some old => Json.over old v
      | none => v
    Json.rowsOver (base.put key value) rows

end

namespace Properties

/-- The documents put over each other, if each of them is a table. -/
def overlay? (docs : List (Option Json)) : Option Json :=
  docs.foldl (fun base doc =>
    match base, doc with
    | some base, some (.object rows) => some (base.over (.object rows))
    | _, _ => none) (some (.object []))

/-- The properties in the section of some documents. -/
def ofDocuments (docs : List (Option Json)) : Except PropertyFlaw Properties :=
  match (overlay? docs).bind (Json.field? "clients") with
  | none => .ok {}
  | some v => codec.read v

end Properties
end ServiceClient
