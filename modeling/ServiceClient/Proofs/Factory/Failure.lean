import ServiceClient.Proofs.Factory.Cache
import ServiceClient.Proofs.Factory.Isolation
import ServiceClient.Proofs.Scope.Reaching

/-!
# Operations that fail

An operation that fails has done nothing but to take the scope of a context into use, if it came so
far: `step_eq_of_failed`. Configurations that are carried out then may use other contexts, but when
they keep contexts as they are, the factory is left as it was up to the scope of the context that is
asked for. `step_failed` says both, and `run_failed` the latter of any number of failed operations.
-/

namespace ServiceClient.Factory

section

variable {γ τ : Type} (f : Factory γ τ)

/-- The context for whose client an operation asks. -/
def asksFor? [Capability τ] : Operation γ τ → Option String
  | .resolve id => some id
  | .create _ id => some id
  | op => (f.looksUp? op).map (·.2)

/-- The factory with a new scope for a context. -/
def withScope [Acts Kind.Value γ] (id : String) : Factory γ τ :=
  { f with contexts :=
    { f.contexts with scopes := f.contexts.scopes.put id (f.contexts.fresh id) } }

variable {f}

/-- An operation takes no scope into use but that of the context for which it asks. -/
lemma asksFor?_of_takes? [Capability τ] {op : Operation γ τ} {id : String}
    (used : f.takes? op = some id) : f.asksFor? op = some id := by
  have created {t id' : String} (used : f.createTakes? t id' = some id) : id' = id := by
    obtain ⟨d, -, eq⟩ := Option.bind_eq_some_iff.1 used
    exact Option.some.inj (Option.ite_none_right_eq_some.1 eq).2
  have got {t id' : String} (used : f.getTakes? t id' = some id) : id' = id := by
    unfold getTakes? at used
    cases kept : f.clients.get? id' with
    | some c =>
      rw [kept] at used
      cases used
    | none =>
      rw [kept] at used
      exact created used
  cases op with
  | register => cases used
  | registerDefault => cases used
  | resolve id' =>
    obtain ⟨-, -, eq⟩ := Option.map_eq_some_iff.1 used
    exact congrArg some eq
  | create t id' => exact congrArg some (created used)
  | get t id' => exact congrArg some (got used)
  | getQualified t q =>
    obtain ⟨d, found, used⟩ := Option.bind_eq_some_iff.1 used
    simp [asksFor?, looksUp?, found, got used]
  | getPrimary t =>
    obtain ⟨d, found, used⟩ := Option.bind_eq_some_iff.1 used
    simp [asksFor?, looksUp?, found, got used]

end

variable {γ τ : Type} [Acts Kind.Value γ] [Reporting γ] {f : Factory γ τ}

/-- The first use of a scope makes it, and nothing else when its configurations keep contexts as
they are. -/
lemma ensure_factory {id : String} (missing : f.contexts.scopes.get? id = none)
    (keeps : ∀ c ∈ f.contexts.configurationsFor id, Acts.Keeps Kind.Value c) :
    (f.ensure id).factory = f.withScope id := by
  rw [ensure, Contexts.ensure_of_keeps keeps missing, withScope]

variable [Capability τ]

/-- A client that cannot be made is not counted. -/
lemma create_factory_of_error {t : τ} {id : String} {e : FactoryError}
    (failed : (f.create t id).value = .error e) : (f.create t id).factory =
      { f with contexts := f.contexts.taking (f.createTakes? (Capability.name t) id) } := by
  unfold create createTakes? at *
  cases registered : f.descriptor? id with
  | none => rfl
  | some d =>
    simp only [registered, Option.bind_some] at failed ⊢
    by_cases fits : d.clientType.name = Capability.name t
    · simp only [if_pos fits] at failed ⊢
      cases made : (f.resolution d).client (Capability.name t) with
      | error e => rfl
      | ok c =>
        rw [made] at failed
        cases failed
    · simp only [if_neg fits]
      rfl

/-- Nor is it kept. -/
lemma get_factory_of_error {t : τ} {id : String} {e : FactoryError}
    (failed : (f.get t id).value = .error e) : (f.get t id).factory =
      { f with contexts := f.contexts.taking (f.getTakes? (Capability.name t) id) } := by
  unfold get getTakes? at *
  cases kept : f.clients.get? id with
  | some c => rfl
  | none =>
    simp only [kept] at failed ⊢
    cases made : (f.create t id).value with
    | error e => exact create_factory_of_error made
    | ok c =>
      rw [made] at failed
      cases failed

/-- An operation that fails takes at most a scope into use. -/
lemma step_eq_of_failed {op : Operation γ τ} (failed : (f.step op).1.failed = true) :
    (f.step op).2 = { f with contexts := f.contexts.taking (f.takes? op) } := by
  have refused {x : Except FactoryError MadeClient}
      (no : (Reply.client x : Reply γ).failed = true) : ∃ e, x = .error e := by
    cases x with
    | error e => exact ⟨e, rfl⟩
    | ok c => cases no
  cases op with
  | register declaration =>
    simp only [step, register, takes?] at failed ⊢
    cases described : declaration.describe f.placeholders with
    | error e => rfl
    | ok d =>
      rw [described] at failed
      cases failed
  | registerDefault => cases failed
  | resolve id => exact resolve_factory id
  | create t id =>
    obtain ⟨e, eq⟩ := refused failed
    exact create_factory_of_error eq
  | get t id =>
    obtain ⟨e, eq⟩ := refused failed
    exact get_factory_of_error eq
  | getQualified t q =>
    obtain ⟨e, eq⟩ := refused failed
    simp only [step, getQualified, takes?] at eq ⊢
    cases found : f.qualified? q with
    | none => rfl
    | some d =>
      rw [found] at eq
      exact get_factory_of_error eq
  | getPrimary t =>
    obtain ⟨e, eq⟩ := refused failed
    simp only [step, getPrimary, takes?] at eq ⊢
    cases found : f.primary? (Capability.name t) with
    | none => rfl
    | some d =>
      rw [found] at eq
      exact get_factory_of_error eq

/-- An operation that fails leaves the factory as it was, with all its clients, descriptors and
properties, but for one thing: the context for which it asks may have been taken into use, if it had
no scope, with the outcome that any first use of it has. A registration that fails does not even do
this. When the configurations for the context keep contexts as they are, the new scope is all that
there is of it: all configurations and all scopes that were there stay. -/
theorem step_failed {op : Operation γ τ} (failed : (f.step op).1.failed = true) :
    ((f.step op).2 = f ∨ ∃ id, f.asksFor? op = some id ∧ f.contexts.scopes.get? id = none ∧
      (f.step op).2 = (f.ensure id).factory ∧
      ∀ op', f.takes? op' = some id → (f.step op').2.contexts = (f.step op).2.contexts) ∧
    (∀ declaration, op = .register declaration → (f.step op).2 = f) ∧
    ∀ id, f.asksFor? op = some id →
      (∀ c ∈ f.contexts.configurationsFor id, Acts.Keeps Kind.Value c) →
      ((f.step op).2 = f ∨ f.contexts.scopes.get? id = none ∧ (f.step op).2 = f.withScope id) ∧
      ∀ name s, f.contexts.scopes.get? name = some s →
        (f.step op).2.contexts.scopes.get? name = some s := by
  have eq := step_eq_of_failed failed
  have left : (f.step op).2 = f ∨ ∃ id, f.asksFor? op = some id ∧
      f.contexts.scopes.get? id = none ∧ (f.step op).2 = (f.ensure id).factory := by
    cases used : f.takes? op with
    | none =>
      rw [used] at eq
      exact .inl eq
    | some id =>
      rw [used] at eq
      cases missing : f.contexts.scopes.get? id with
      | some s =>
        rw [Contexts.taking, Contexts.ensure_of_some missing] at eq
        exact .inl eq
      | none => exact .inr ⟨id, asksFor?_of_takes? used, missing, eq⟩
  refine ⟨?_, ?_, fun id asked keeps => ?_⟩
  · rcases left with same | ⟨id, asked, missing, made⟩
    · exact .inl same
    · refine .inr ⟨id, asked, missing, made, fun op' used => ?_⟩
      rw [contexts_step_of_takes? used, made]
      rfl
  · rintro declaration rfl
    exact eq
  · rcases left with same | ⟨id', asked', missing, made⟩
    · refine ⟨.inl same, fun name s found => ?_⟩
      rw [same, found]
    · cases asked.symm.trans asked'
      have new := made.trans (ensure_factory missing keeps)
      refine ⟨.inr ⟨missing, new⟩, fun name s found => ?_⟩
      have other : name ≠ id := by
        rintro rfl
        cases missing.symm.trans found
      rw [new, withScope]
      exact (Table.get?_put _ _ _ _).trans ((if_neg other).trans found)

/-- A registration reports what is left out of its components; lookups report nothing. -/
instance : Reporting (Reaching Kind.Value) where
  reports
    | .registers entries => entries.flatMap Entry.reports
    | _ => []

/-- A client without a transport whose configuration looks up another scope. -/
def peering : Factory (Reaching Kind.Value) :=
  ({ contexts := { defaults := [.registers (defaultConfiguration .plain)], catalog := builtins } :
    Factory (Reaching Kind.Value) }.register
      { clientType := ⟨"UsersClient", .interface⟩
        name := some "users"
        configurations := [.copies "shared"] }).factory

/-- With configurations that do not keep contexts as they are, other scopes come into use, too. -/
theorem not_step_eq_withScope : ¬ ∀ (f : Factory (Reaching Kind.Value)) op id,
    (f.step op).1.failed = true → f.asksFor? op = some id →
      (f.step op).2 = f ∨ (f.step op).2 = f.withScope id := by
  intro law
  have failed : (peering.step (.create "UsersClient" "users")).1.failed = true := by decide +kernel
  have made : ((peering.step (.create "UsersClient" "users")).2.contexts.scopes.get?
      "shared").isSome = true := by decide +kernel
  have before : (peering.contexts.scopes.get? "shared").isSome = false := by decide +kernel
  have alone : ((peering.withScope "users").contexts.scopes.get? "shared").isSome = false := by
    decide +kernel
  rcases law _ _ "users" failed rfl with same | same
  · rw [same, before] at made
    cases made
  · rw [same, alone] at made
    cases made

/-- Whatever operations fail, one after the other, they leave all as it was but the scopes of some
contexts, and these scopes are seen as before: as they are, or as they would be made. -/
theorem run_failed {ops : List (Operation γ τ)} (failed : ∀ r ∈ (f.run ops).1, r.failed = true)
    (all : f.contexts.AllAlone) :
    ∃ scopes, (f.run ops).2 = { f with contexts := { f.contexts with scopes } } ∧
      ∀ id, (f.run ops).2.contexts.scopeOf id = f.contexts.scopeOf id := by
  induction ops generalizing f with
  | nil => exact ⟨_, rfl, fun _ => rfl⟩
  | cons op ops ih =>
    have first := step_eq_of_failed (f := f) (List.forall_mem_cons.1 failed).1
    have later : ∀ r ∈ ((f.step op).2.run ops).1, r.failed = true :=
      (List.forall_mem_cons.1 failed).2
    obtain ⟨_, taken, -⟩ :=
      Contexts.taking_of_keeps fun id (_ : f.takes? op = some id) => all.keeps
    obtain ⟨scopes, eq, seen⟩ := ih later (first ▸ all.taking _)
    refine ⟨scopes, ?_, fun id => (seen id).trans ?_⟩
    · rw [run, eq, first, taken]
    · rw [first, all.scopeOf_taking]

/-- A factory in which one client is registered that has no transport. -/
def untransported : Factory := (plain.register usersClient).factory

/-- A client without a transport is missed in a scope that was made for it. -/
theorem step_failed_untransported :
    let op := Operation.get "UsersClient" "users"
    (untransported.step op).1.failed = true ∧
      (untransported.step op).2 = untransported.withScope "users" ∧
      (untransported.contexts.scopes.get? "users").isNone = true ∧
      ((untransported.step op).2.contexts.scopes.get? "users").isSome = true := by
  intro op
  have failed : (untransported.step op).1.failed = true := by decide +kernel
  have made : ((untransported.step op).2.contexts.scopes.get? "users").isSome = true := by
    decide +kernel
  have missing : (untransported.contexts.scopes.get? "users").isNone = true := by decide +kernel
  refine ⟨failed, ?_, missing, made⟩
  have asked : untransported.asksFor? op = some "users" := rfl
  rcases ((step_failed failed).2.2 "users" asked fun c _ => (Acts.alone c).keeps).1 with
    same | ⟨-, new⟩
  · rw [same, ← Option.not_isNone, missing] at made
    cases made
  · exact new

end ServiceClient.Factory
