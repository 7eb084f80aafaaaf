import ServiceClient.Proofs.Scope.Acting

/-!
# Configurations that reach other scopes

A form of configurations which do more than to register components: they look up the scopes of other
contexts and give configurations to them. A lookup takes a scope into use, which may carry out more
configurations that look up others, so it has a depth; configurations that look each other up in a
circle would never come to an end.
-/

namespace ServiceClient

/-- What a configuration does. -/
inductive Reaching {κ : Type} (β : κ → Type) where
  /-- Registers components. -/
  | registers (entries : List (Entry β))
  /-- Registers all that the scope of a context holds. -/
  | copies (contextId : String)
  /-- Gives a configuration to a context, or to all. -/
  | gives (name : String) (configuration : Reaching β)

namespace Reaching

variable {κ : Type} [DecidableEq κ] {β : κ → Type}

/-- Carries out a configuration whose lookups lead to others up to a depth. -/
def actWithin : Nat → Reaching β → Contexts β (Reaching β) → Scope β →
    Contexts β (Reaching β) × Scope β
  | _, registers entries, cs, s => (cs, s.registerAll entries)
  | 0, _, cs, s => (cs, s)
  | depth + 1, copies id, cs, s =>
    letI : Acts β (Reaching β) := ⟨actWithin depth⟩
    (cs.ensure id, s.registerAll (cs.scopeOf id).entries)
  | depth + 1, gives name c, cs, s =>
    letI : Acts β (Reaching β) := ⟨actWithin depth⟩
    let given := cs.addConfiguration name c
    -- a scope that is made just now is not in use yet, so what is given does not arrive there
    (given, if (cs.scopes.get? s.name).isSome then (given.scopes.get? s.name).getD s else s)

instance : Acts β (Reaching β) where
  act := actWithin 8

/-- A lookup takes a scope into use, and what is given to the context arrives there. A scope that is
in use also gets what is given to all while a configuration is carried out on it. -/
example :
    let late : Entry fun _ : Unit => Nat := ⟨(), ⟨"late", 5, 0⟩⟩
    let cs : Contexts (fun _ : Unit => Nat) (Reaching _) :=
      { configurations := [("users", [.copies "shared", .gives "shared" (.registers [late])])] }
    let used := cs.ensure "users"
    let held (cs : Contexts (fun _ : Unit => Nat) (Reaching _)) :=
      cs.scopes.map fun row => (row.1, row.2.entries.map (·.name))
    held used = [("shared", ["late"]), ("users", [])] ∧
      held (used.addConfiguration "users" (.gives "default.late" (.registers [late]))) =
        [("shared", ["late"]), ("users", ["late"])] := by
  decide +kernel

/-- A configuration only registers components. -/
def onlyRegisters : Reaching β → Bool
  | registers _ => true
  | _ => false

/-- Such a one acts alone. -/
lemma alone_of_onlyRegisters {c : Reaching β} (only : c.onlyRegisters = true) :
    Acts.Alone β c := by
  cases c with
  | registers entries => exact ⟨fun chain => chain.nearest.registerAll entries, fun _ _ => rfl⟩
  | _ => cases only

end Reaching
end ServiceClient
