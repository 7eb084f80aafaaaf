import ServiceClient.Text.Quoted

/-!
# Scopes

A scope holds components of several kinds. A kind and a name together denote at most one component;
a component that is registered again goes to the end.
-/

namespace ServiceClient

/-- A value under a name. Values of one kind can be put in order. -/
structure Component (α : Type) where
  name : String
  value : α
  order : Int := 0
  deriving Inhabited

/-- The diagnostic text of a component. -/
def Component.debugText {α : Type} (c : Component α) : String :=
  "Component \x7b name: " ++ Text.quoted c.name ++ ", order: " ++ toString c.order ++ ", .. \x7d"

/-- A component of some kind; `β` gives the values of each kind. -/
structure Entry {κ : Type} (β : κ → Type) where
  kind : κ
  component : Component (β kind)

namespace Entry

variable {κ : Type} [DecidableEq κ] {β : κ → Type}

/-- The name of the component. -/
def name (e : Entry β) : String := e.component.name

/-- Whether an entry is known under a kind and a name. -/
def isAt (k : κ) (n : String) (e : Entry β) : Bool :=
  decide (e.kind = k) && e.name == n

/-- The component, if it is of the kind asked for. -/
def ofKind? (k : κ) (e : Entry β) : Option (Component (β k)) :=
  if h : e.kind = k then some (h ▸ e.component) else none

end Entry

/-- Components in the order in which they were registered. -/
structure Scope {κ : Type} (β : κ → Type) where
  name : String
  entries : List (Entry β) := []

namespace Scope

variable {κ : Type} [DecidableEq κ] {β : κ → Type}

/-- The scope with one more component; one of the same kind and name gives way. -/
def register (s : Scope β) (e : Entry β) : Scope β :=
  { s with entries := s.entries.filter (!·.isAt e.kind e.name) ++ [e] }

/-- The scope with several more components, one after the other. -/
def registerAll (s : Scope β) (es : List (Entry β)) : Scope β :=
  es.foldl register s

/-- A scope keeps its name. -/
theorem name_registerAll (s : Scope β) (es : List (Entry β)) :
    (s.registerAll es).name = s.name := by
  induction es generalizing s with
  | nil => rfl
  | cons e es ih => exact ih (s.register e)

/-- The components of a kind, in the order of their registration. -/
def findAllLocal (s : Scope β) (k : κ) : List (Component (β k)) :=
  s.entries.filterMap (·.ofKind? k)

/-- The component of a kind that was registered last. -/
def findLocal? (s : Scope β) (k : κ) : Option (Component (β k)) :=
  s.entries.reverse.findSome? (·.ofKind? k)

/-- The component of a kind and a name. -/
def get? (s : Scope β) (k : κ) (n : String) : Option (Component (β k)) :=
  (s.entries.find? (·.isAt k n)).bind (·.ofKind? k)

/-- The component of a kind and a name, the one registered last. -/
def findNamedLocal? (s : Scope β) (k : κ) (n : String) : Option (Component (β k)) :=
  (s.entries.reverse.filter (·.name == n)).findSome? (·.ofKind? k)

/-- The kind of the component of a name that was registered last. -/
def kindOf? (s : Scope β) (n : String) : Option κ :=
  (s.entries.reverse.find? (·.name == n)).map (·.kind)

/-- The scope without the component of a kind and a name. -/
def remove (s : Scope β) (k : κ) (n : String) : Scope β :=
  { s with entries := s.entries.eraseP (·.isAt k n) }

/-- The scope without components. -/
def clear (s : Scope β) : Scope β :=
  { s with entries := [] }

/-- The number of components. -/
def size (s : Scope β) : Nat := s.entries.length

/-- The diagnostic text of a scope. -/
def debugText (s : Scope β) : String :=
  "Scope \x7b name: " ++ Text.quoted s.name ++ ", entries: " ++ toString s.size ++ ", .. \x7d"

end Scope
end ServiceClient
