import ServiceClient.Scope.Basic
import ServiceClient.TypeRef

/-!
# Operations on scopes

The operations that change a scope, one after the other.
-/

namespace ServiceClient.Scope

/-- An operation that changes a scope. -/
inductive Operation {κ : Type} (β : κ → Type) where
  | register (kind : κ) (name : String) (value : β kind)
  /-- Registers a value with its place among those of its kind. -/
  | registerOrdered (kind : κ) (name : String) (order : Int) (value : β kind)
  /-- Registers a value under the name of its own type. -/
  | registerAs (kind : κ) (type : TypeRef) (value : β kind)
  | remove (kind : κ) (name : String)
  | clear

/-- The entry that an operation registers. -/
def Operation.registered? {κ : Type} {β : κ → Type} : Operation β → Option (Entry β)
  | register k n v => some ⟨k, ⟨n, v, 0⟩⟩
  | registerOrdered k n order v => some ⟨k, ⟨n, v, order⟩⟩
  | registerAs k t v => some ⟨k, ⟨t.name, v, 0⟩⟩
  | remove _ _ => none
  | clear => none

variable {κ : Type} [DecidableEq κ] {β : κ → Type}

/-- Removes the component of a kind and a name; its value is given out. -/
def take (s : Scope β) (k : κ) (n : String) : Option (β k) × Scope β :=
  ((s.get? k n).map (·.value), s.remove k n)

/-- Carries out an operation. -/
def step (s : Scope β) : Operation β → Scope β
  | .register k n v => s.register ⟨k, ⟨n, v, 0⟩⟩
  | .registerOrdered k n order v => s.register ⟨k, ⟨n, v, order⟩⟩
  | .registerAs k t v => s.register ⟨k, ⟨t.name, v, 0⟩⟩
  | .remove k n => (s.take k n).2
  | .clear => s.clear

/-- Carries out operations, one after the other. -/
def run (s : Scope β) (ops : List (Operation β)) : Scope β :=
  ops.foldl step s

end ServiceClient.Scope
