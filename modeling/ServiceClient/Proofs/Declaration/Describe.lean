import Mathlib.Tactic.Lemma
import ServiceClient.Declaration.Describe

/-!
# What a descriptor takes from its declaration

A declaration is accepted under one context id, or refused. Its configurations do not count for
this; they are taken over as they are.
-/

namespace ServiceClient.Declaration

/-- The context id under which a declaration is registered, if it is accepted. -/
def contextId? {γ : Type} (d : Declaration γ) (ps : Placeholders) : Option String :=
  (d.describe ps).toOption.map (·.contextId)

/-- A declaration with other configurations is accepted or refused all the same. -/
lemma describe_configurations {γ : Type} (d : Declaration γ) (configurations : List γ)
    (ps : Placeholders) : ({ d with configurations } : Declaration γ).describe ps =
      (d.describe ps).map fun desc => { desc with configurations } := by
  simp only [describe, describeWith, Bind.bind, Except.bind,
    show ({ d with configurations } : Declaration γ).checkedName = d.checkedName from rfl,
    show ({ d with configurations } : Declaration γ).checkedContextId = d.checkedContextId from rfl,
    show ({ d with configurations } : Declaration γ).checkedFallback = d.checkedFallback from rfl,
    show ({ d with configurations } : Declaration γ).checkedUrl = d.checkedUrl from rfl]
  cases d.checkedName ps.expand with
  | error e => rfl
  | ok name =>
    dsimp only
    cases d.checkedContextId ps.expand name with
    | error e => rfl
    | ok contextId =>
      dsimp only
      cases d.checkedFallback contextId with
      | error e => rfl
      | ok fallback =>
        dsimp only
        cases d.checkedUrl ps.expand <;> rfl

/-- The configurations of a declaration are taken over as they are. -/
lemma configurations_of_describe {γ : Type} {d : Declaration γ} {ps : Placeholders}
    {desc : Descriptor γ} (described : d.describe ps = .ok desc) :
    desc.configurations = d.configurations := by
  have law := d.describe_configurations d.configurations ps
  rw [described] at law
  exact congrArg (·.configurations) (Except.ok.inj law)

/-- A declaration is registered under the context id of its descriptor. -/
lemma contextId?_eq_some {γ : Type} {d : Declaration γ} {ps : Placeholders} {id : String} :
    d.contextId? ps = some id ↔ ∃ desc, d.describe ps = .ok desc ∧ desc.contextId = id := by
  unfold contextId?
  cases d.describe ps <;> simp [Except.toOption]

end ServiceClient.Declaration
