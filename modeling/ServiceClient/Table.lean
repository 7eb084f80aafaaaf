/-!
# Tables

A table holds a value for each of finitely many names. Its rows have different names and stand in
rising order, so that tables with the same rows are equal.
-/

namespace ServiceClient

/-- Rows of names and values. -/
abbrev Table (α : Type u) := List (String × α)

namespace Table

variable {α : Type u}

/-- The value of a name. -/
def get? (t : Table α) (name : String) : Option α :=
  List.lookup name t

/-- The names of a table. -/
def names (t : Table α) : List String :=
  List.map Prod.fst t

/-- Puts a row into its place; a row of the same name gives way. -/
def put (name : String) (value : α) : Table α → Table α
  | [] => [(name, value)]
  | (n, v) :: rows =>
    if name = n then (name, value) :: rows
    else if name < n then (name, value) :: (n, v) :: rows
    else (n, v) :: put name value rows

/-- The table without the row of a name. -/
def drop (t : Table α) (name : String) : Table α :=
  List.filter (fun row => row.1 != name) t

/-- The table of the given rows, the last of one name counting. -/
def ofRows (rows : List (String × α)) : Table α :=
  rows.foldl (fun t (name, value) => put name value t) []

end Table
end ServiceClient
