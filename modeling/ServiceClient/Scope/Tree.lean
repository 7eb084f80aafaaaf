import ServiceClient.Scope.Chain

/-!
# Trees of scopes

A scope knows the scope above it without holding it: when that one is dropped, the way up ends
there.
-/

namespace ServiceClient

/-- A scope of a tree, and the number of the scope above it. -/
structure ScopeNode {κ : Type} (β : κ → Type) where
  scope : Scope β
  parent : Option Nat
  /-- Whether the scope is still held. -/
  held : Bool := true

/-- Scopes by number, in the order of their creation. -/
structure ScopeTree {κ : Type} (β : κ → Type) where
  nodes : Array (ScopeNode β) := #[]

namespace ScopeTree

variable {κ : Type} {β : κ → Type}

/-- The tree with one more scope, and the number of that scope. -/
def add (t : ScopeTree β) (name : String) (parent : Option Nat) : Nat × ScopeTree β :=
  (t.nodes.size, ⟨t.nodes.push ⟨⟨name, []⟩, parent, true⟩⟩)

/-- The tree without a hold on a scope. -/
def release (t : ScopeTree β) (n : Nat) : ScopeTree β :=
  ⟨t.nodes.modify n fun node => { node with held := false }⟩

/-- The tree with a scope changed. -/
def update (t : ScopeTree β) (n : Nat) (f : Scope β → Scope β) : ScopeTree β :=
  ⟨t.nodes.modify n fun node => { node with scope := f node.scope }⟩

/-- A scope that is held. -/
def node? (t : ScopeTree β) (n : Nat) : Option (ScopeNode β) :=
  t.nodes[n]?.filter (·.held)

/-- The scopes from the given one upwards. -/
def upward (t : ScopeTree β) (n : Nat) : List (Scope β) :=
  match t.node? n with
  | none => []
  | some node =>
    match node.parent with
    | none => [node.scope]
    | some p => node.scope :: if p < n then t.upward p else []
termination_by n

/-- The chain that begins with a scope. -/
def chain? (t : ScopeTree β) (n : Nat) : Option (Chain β) :=
  match t.upward n with
  | [] => none
  | s :: above => some ⟨s, above⟩

end ScopeTree
end ServiceClient
