import ServiceClient.Scope.Basic

/-!
# Catalogs

A catalog holds components that can be made by name, one for each kind and name.
-/

namespace ServiceClient

/-- Components that can be made by name. -/
structure Catalog {κ : Type} (β : κ → Type) where
  entries : List (Entry β) := []

namespace Catalog

variable {κ : Type} [DecidableEq κ] {β : κ → Type}

/-- The catalog with one more component; one of the same kind and name gives way. -/
def register (c : Catalog β) (e : Entry β) : Catalog β :=
  ⟨c.entries.filter (!·.isAt e.kind e.name) ++ [e]⟩

/-- The component of a kind and a name. -/
def instantiate? (c : Catalog β) (k : κ) (n : String) : Option (Component (β k)) :=
  (c.entries.find? (·.isAt k n)).bind (·.ofKind? k)

/-- Whether a component can be made. -/
def contains (c : Catalog β) (k : κ) (n : String) : Bool :=
  c.entries.any (·.isAt k n)

/-- The diagnostic text of a catalog. -/
def debugText (c : Catalog β) : String :=
  "ComponentCatalog \x7b constructors: " ++ toString c.entries.length ++ " \x7d"

end Catalog
end ServiceClient
