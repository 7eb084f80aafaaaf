import ServiceClient.Scope.Basic

/-!
# Chains of scopes

A scope sees its own components and those of the scopes above it. A chain lists these scopes, the
nearest one first; what is nearer hides what is farther away.
-/

namespace ServiceClient

/-- Why a component is not found by its name. -/
inductive ScopeError (κ : Type) where
  | notFound (kind : κ) (name scope : String)
  | typeMismatch (requested registered : κ) (name scope : String)
  deriving DecidableEq, Repr

/-- The text of an error, given the names of the kinds. -/
def ScopeError.message {κ : Type} (label : κ → String) : ScopeError κ → String
  | notFound k n s => "component not found: type=" ++ label k ++ ", name=" ++ n ++ ", scope=" ++ s
  | typeMismatch requested registered n s =>
    "type mismatch in scope '" ++ s ++ "' for name=" ++ n ++ ": requested " ++ label requested ++
      ", registered " ++ label registered

/-- A scope and the scopes above it, the nearest one first. -/
structure Chain {κ : Type} (β : κ → Type) where
  nearest : Scope β
  above : List (Scope β) := []

namespace Chain

variable {κ : Type} [DecidableEq κ] {β : κ → Type}

/-- The scopes of a chain. -/
def scopes (c : Chain β) : List (Scope β) := c.nearest :: c.above

/-- The component of a kind that was registered last in the nearest scope that has any. -/
def find? (c : Chain β) (k : κ) : Option (Component (β k)) :=
  c.scopes.findSome? (·.findLocal? k)

/-- Adds a component at the end, unless one of its name is there. -/
def addNew {α : Type} (found : List (Component α)) (x : Component α) : List (Component α) :=
  if found.any (·.name == x.name) then found else found ++ [x]

/-- The components of a kind; of several of one name, the nearest one. -/
def findAll (c : Chain β) (k : κ) : List (Component (β k)) :=
  c.above.foldl (fun found s => (s.findAllLocal k).foldl addNew found) (c.nearest.findAllLocal k)

/-- The component of a kind and a name in the nearest scope that has one. Otherwise the nearest
scope that knows the name under another kind is told. -/
def findNamed (c : Chain β) (k : κ) (n : String) : Except (ScopeError κ) (Component (β k)) :=
  match c.scopes.findSome? (·.findNamedLocal? k n) with
  | some x => .ok x
  | none =>
    .error ((c.scopes.findSome? fun s =>
      (s.kindOf? n).map fun registered => .typeMismatch k registered n s.name).getD
        (.notFound k n c.nearest.name))

/-- The component of a kind, from the nearest scope alone when the chain is cut there. -/
def lookup (c : Chain β) (inherit : Bool) (k : κ) : Option (Component (β k)) :=
  if inherit then c.find? k else c.nearest.findLocal? k

/-- The components of a kind in their order, from the nearest scope alone when the chain is cut. -/
def lookupAll (c : Chain β) (inherit : Bool) (k : κ) : List (Component (β k)) :=
  (if inherit then c.findAll k else c.nearest.findAllLocal k).mergeSort
    fun a b => decide (a.order ≤ b.order)

end Chain
end ServiceClient
