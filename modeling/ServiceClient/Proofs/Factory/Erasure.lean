import ServiceClient.Proofs.Factory.Agreement
import ServiceClient.Proofs.Factory.Isolation

/-!
# Erasing a resolution from a run

To resolve a configuration makes the scope of its client, if it is not there yet. What is configured
from then on goes to the end of this scope, while a scope that is made later has it in its place.
`eraseIdx_run_resolve` says when the answers of a run do not depend on such a resolution: exactly
those runs are safe in which what was brought to the end of the scope is `InPlace`.
-/

namespace ServiceClient.Factory

variable {f : Factory} {t : Table (Scope Kind.Value)} {c : String}

/-- An operation makes the scope of a context. -/
def Makes (f : Factory) (c : String) (op : Operation) : Prop :=
  f.contexts.scopes.get? c = none ∧ (f.step op).2.contexts.scopes.get? c ≠ none

/-- What operations bring to the scope of a context that is there. -/
def brought (ps : Placeholders) (c : String) (ops : List Operation) : Configuration Kind.Value :=
  Contexts.bringing c (ops.flatMap (·.additions ps))

/-- A resolution that makes the scope of its client comes not too early: when one of the operations
would make the scope instead, the same would settle in it as in the earlier scope and behind it. -/
def InPlace (f : Factory) (c : String) (ops : List Operation) : Prop :=
  f.Makes c (.resolve c) → ∀ zs op us, ops = zs ++ op :: us → (f.run zs).2.Makes c op →
    ∀ k, settled k ((f.run zs).2.contexts.configurationsFor c).flatten =
      settled k ((f.contexts.configurationsFor c).flatten ++ brought f.placeholders c zs)

/-- Which clients are registered does not depend on scopes. -/
lemma RegistersOnce.congr {g : Factory} (placeholders : g.placeholders = f.placeholders)
    (descriptors : g.descriptors = f.descriptors) {ops : List Operation}
    (once : f.RegistersOnce ops) : g.RegistersOnce ops := by
  induction ops generalizing f g with
  | nil => trivial
  | cons op ops ih =>
    obtain ⟨new, once⟩ := once
    refine ⟨fun d desc eq described => ?_, ih ?_ ?_ once⟩
    · rw [descriptor?, descriptors]
      exact new d desc eq (placeholders ▸ described)
    · rw [placeholders_step, placeholders_step, placeholders]
    · rw [descriptors_step, descriptors_step]
      cases op <;> simp only [descriptorsAfter, placeholders, descriptors]

/-- A run is made of two parts that register each client once. -/
lemma registersOnce_append {xs ys : List Operation} :
    f.RegistersOnce (xs ++ ys) ↔ f.RegistersOnce xs ∧ (f.run xs).2.RegistersOnce ys := by
  induction xs generalizing f with
  | nil => exact (true_and _).symm.to_iff
  | cons op xs ih => exact (and_congr_right' ih).trans and_assoc.symm

/-- Operations bring one after the other. -/
lemma brought_cons (ps : Placeholders) (c : String) (op : Operation) (ops : List Operation) :
    brought ps c (op :: ops) = Contexts.bringing c (op.additions ps) ++ brought ps c ops := by
  simp only [brought, Contexts.bringing, List.flatMap_cons, List.filter_append, List.flatMap_append]

/-- A scope that is there collects what a run brings. -/
lemma get?_scopes_run {ops : List Operation} (once : f.RegistersOnce ops) {s : Scope Kind.Value}
    (found : f.contexts.scopes.get? c = some s) :
    (f.run ops).2.contexts.scopes.get? c =
      some (s.registerAll (brought f.placeholders c ops)) := by
  induction ops generalizing f s with
  | nil => exact found
  | cons op ops ih =>
    obtain ⟨new, once⟩ := once
    have here : (f.step op).2.contexts.scopes.get? c =
        some (s.registerAll (Contexts.bringing c (op.additions f.placeholders))) := by
      have added : (f.contexts.addAll (op.additions f.placeholders)).scopes.get? c =
          some (s.registerAll (Contexts.bringing c (op.additions f.placeholders))) := by
        rw [Contexts.get?_scopes_addAll, found, Option.map_some]
      rw [contexts_step new, Contexts.get?_scopes_taking, Contexts.scopeOf_of_some added, added,
        ite_self]
    have rest := ih once here
    rw [placeholders_step] at rest
    rw [brought_cons, Scope.registerAll, List.foldl_append]
    exact rest

/-- Scopes that are alike where they are there look alike. -/
lemma looksAlike_of_rel
    (rel : Option.Rel Scope.Alike (f.contexts.scopes.get? c) (t.get? c)) : f.LooksAlike t c := by
  have same : (f.withScopes t).contexts.fresh c = f.contexts.fresh c :=
    Contexts.fresh_congr (fun c _ => Acts.alone c) rfl rfl
  have there : (f.withScopes t).contexts.scopes.get? c = t.get? c := rfl
  rw [LooksAlike, Contexts.scopeOf_eq, Contexts.scopeOf_eq, there, same]
  generalize f.contexts.scopes.get? c = s, t.get? c = s' at rel
  cases rel with
  | none => exact .refl _
  | some alike => exact alike

/-- Factories with alike scopes give the same answers. -/
lemma run_withScopes (reach : f.Reachable) {ops : List Operation} (once : f.RegistersOnce ops)
    (rel : ∀ id, Option.Rel Scope.Alike (f.contexts.scopes.get? id) (t.get? id)) :
    ((f.withScopes t).run ops).1 = (f.run ops).1 := by
  induction ops generalizing f t with
  | nil => rfl
  | cons op ops ih =>
    obtain ⟨new, once⟩ := once
    obtain ⟨t', eq, alike⟩ := step_withScopes reach new fun u _ => looksAlike_of_rel (rel u)
    have rest := ih (reach.step op) once fun id => alike id (.inl (rel id))
    simp only [run, eq, rest]

/-- A factory in which only one scope is missing gives the same answers, if what this scope would be
is alike when it is made. -/
lemma run_withScopes_of_missing (reach : f.Reachable) {ops : List Operation}
    (once : f.RegistersOnce ops)
    (rel : ∀ id, id ≠ c → Option.Rel Scope.Alike (f.contexts.scopes.get? id) (t.get? id))
    (missing : f.contexts.scopes.get? c = none)
    (meet : ∀ zs op us, ops = zs ++ op :: us → (f.run zs).2.Makes c op →
      ((f.run zs).2.contexts.scopeOf c).Alike
        (((f.withScopes t).run zs).2.contexts.scopeOf c)) :
    ((f.withScopes t).run ops).1 = (f.run ops).1 := by
  induction ops generalizing f t with
  | nil => rfl
  | cons op ops ih =>
    obtain ⟨new, once⟩ := once
    by_cases used : f.takes? op = some c
    · -- from here on both factories have the scope
      have makes : f.Makes c op := by
        refine ⟨missing, ?_⟩
        rw [contexts_step new, Contexts.get?_scopes_taking, if_pos used]
        exact Option.some_ne_none _
      have look : ∀ u, f.takes? op = some u → f.LooksAlike t u := by
        intro u taken
        cases used.symm.trans taken
        exact meet [] op ops rfl makes
      obtain ⟨t', eq, alike⟩ := step_withScopes reach new look
      have rel' (id : String) := alike id (by
        by_cases here : id = c
        · exact .inr (here ▸ used)
        · exact .inl (rel id here))
      simp only [run, eq, run_withScopes (reach.step op) once rel']
    · -- the scope is still missing, and no other one tells the factories apart
      have look : ∀ u, f.takes? op = some u → f.LooksAlike t u := by
        intro u taken
        refine looksAlike_of_rel (rel u ?_)
        rintro rfl
        exact used taken
      obtain ⟨t', eq, alike⟩ := step_withScopes reach new look
      have missing' : (f.step op).2.contexts.scopes.get? c = none := by
        rw [contexts_step new, Contexts.get?_scopes_taking, if_neg used,
          Contexts.get?_scopes_addAll, missing, Option.map_none]
      have rest := ih (reach.step op) once (fun id ne => alike id (.inl (rel id ne))) missing'
        fun zs op' us split makes => by
          have met := meet (op :: zs) op' us (congrArg (op :: ·) split) makes
          simp only [run, eq] at met
          exact met
      simp only [run, eq, rest]

/-- The factory after a client is resolved, which may have a scope more. -/
lemma step_resolve (c : String) : (f.step (.resolve c)).2 =
    f.withScopes (f.contexts.taking (f.takes? (.resolve c))).scopes := by
  obtain ⟨scopes, eq⟩ := f.contexts.taking_eq (f.takes? (.resolve c))
  rw [step, resolve_factory, eq]
  rfl

/-- The scopes after a client is resolved. -/
lemma get?_scopes_resolve (c id : String) : (f.step (.resolve c)).2.contexts.scopes.get? id =
    if f.takes? (.resolve c) = some id then some (f.contexts.scopeOf id)
    else f.contexts.scopes.get? id := by
  rw [step_resolve]
  exact Contexts.get?_scopes_taking _ _ _

/-- Only a scope that is taken into use is made. -/
lemma Makes.takes {op : Operation} (new : f.RegistersNew op) (makes : f.Makes c op) :
    f.takes? op = some c := by
  obtain ⟨missing, made⟩ := makes
  by_contra unused
  rw [contexts_step new, Contexts.get?_scopes_taking, if_neg unused, Contexts.get?_scopes_addAll,
    missing] at made
  exact made rfl

/-- A resolution that does not make the scope changes nothing. -/
lemma step_resolve_of_not_makes (kept : ¬ f.Makes c (.resolve c)) :
    (f.step (.resolve c)).2 = f := by
  have taken : f.takes? (.resolve c) = none ∨ f.takes? (.resolve c) = some c := by
    simp only [takes?]
    cases f.descriptor? c with
    | none => exact .inl rfl
    | some d => exact .inr rfl
  rw [step_resolve]
  rcases taken with unused | used
  · rw [unused]
    rfl
  · have there : f.contexts.scopes.get? c ≠ none := by
      intro missing
      refine kept ⟨missing, ?_⟩
      rw [get?_scopes_resolve, if_pos used]
      exact Option.some_ne_none _
    obtain ⟨s, found⟩ := Option.ne_none_iff_exists'.1 there
    rw [used, Contexts.taking, Contexts.ensure_of_some found]
    rfl

/-- A resolution that makes the scope makes it from what is configured, and no other scope. -/
lemma Makes.get?_scopes_step (makes : f.Makes c (.resolve c)) (id : String) :
    (f.step (.resolve c)).2.contexts.scopes.get? id =
      if id = c then some (f.contexts.fresh c) else f.contexts.scopes.get? id := by
  have used : f.takes? (.resolve c) = some c := makes.takes fun _ _ eq => nomatch eq
  rw [get?_scopes_resolve, used]
  by_cases here : id = c
  · rw [here, if_pos rfl, if_pos rfl, Contexts.scopeOf_eq, makes.1, Option.getD_none]
  · rw [if_neg here, if_neg fun eq => here (Option.some.inj eq).symm]

/-- When the scope is made later, it is alike exactly when the same settles in it. -/
lemma alike_iff_settled (makes : f.Makes c (.resolve c)) {ops : List Operation}
    (once : f.RegistersOnce ops) (missing : (f.run ops).2.contexts.scopes.get? c = none) :
    ((f.run ops).2.contexts.scopeOf c).Alike
        (((f.step (.resolve c)).2.run ops).2.contexts.scopeOf c) ↔
      ∀ k, settled k ((f.run ops).2.contexts.configurationsFor c).flatten =
        settled k ((f.contexts.configurationsFor c).flatten ++ brought f.placeholders c ops) := by
  have once' : (f.step (.resolve c)).2.RegistersOnce ops :=
    once.congr (placeholders_step _) (descriptors_step _)
  have found : (f.step (.resolve c)).2.contexts.scopes.get? c = some (f.contexts.fresh c) := by
    rw [makes.get?_scopes_step, if_pos rfl]
  have late : (f.run ops).2.contexts.scopeOf c = (f.run ops).2.contexts.fresh c := by
    rw [Contexts.scopeOf_eq, missing, Option.getD_none]
  have early : ((f.step (.resolve c)).2.run ops).2.contexts.scopeOf c =
      Scope.registerAll ⟨c, []⟩
        ((f.contexts.configurationsFor c).flatten ++ brought f.placeholders c ops) := by
    rw [Contexts.scopeOf_of_some (get?_scopes_run once' found), placeholders_step,
      Contexts.fresh_eq_registerAll, Scope.registerAll, Scope.registerAll, Scope.registerAll,
      List.foldl_append]
  refine forall_congr' fun k => ?_
  rw [late, early, Contexts.findAllLocal_fresh, Scope.findAllLocal_registerAll]

/-- A resolution does not count for the answers of a run in which the same is in its place. -/
lemma run_step_resolve (reach : f.Reachable) {ops : List Operation} (once : f.RegistersOnce ops)
    (inPlace : f.InPlace c ops) : ((f.step (.resolve c)).2.run ops).1 = (f.run ops).1 := by
  by_cases makes : f.Makes c (.resolve c)
  · rw [step_resolve]
    refine run_withScopes_of_missing (c := c) reach once (fun id ne => ?_) makes.1
      fun zs op us split made => ?_
    · have same := makes.get?_scopes_step id
      rw [step_resolve, if_neg ne] at same
      change (f.contexts.taking (f.takes? (.resolve c))).scopes.get? id = _ at same
      rw [same]
      cases f.contexts.scopes.get? id with
      | none => exact .none
      | some s => exact .some (.refl s)
    · rw [split, registersOnce_append] at once
      rw [← step_resolve]
      exact (alike_iff_settled makes once.1 made.1).2 (inPlace makes zs op us split made)
  · rw [step_resolve_of_not_makes makes]

/-- In a run that registers each client once, a resolution counts for nothing exactly when the same
is in its place: no other answer depends on it, and the scope that would be made instead is alike.
What a client declares itself keeps winning over a default configuration that is registered later,
unless the scope is there and gets a component of the kind. -/
theorem eraseIdx_run_resolve (reach : f.Reachable) {xs ys : List Operation} (c : String)
    (once : f.RegistersOnce (xs ++ ys)) {m : Factory} (reached : (f.run xs).2 = m) :
    (m.InPlace c ys ↔
      (f.run (xs ++ .resolve c :: ys)).1.eraseIdx xs.length = (f.run (xs ++ ys)).1 ∧
      (m.Makes c (.resolve c) → ∀ zs op us, ys = zs ++ op :: us → (m.run zs).2.Makes c op →
        ((m.run zs).2.contexts.scopeOf c).Alike
          (((m.step (.resolve c)).2.run zs).2.contexts.scopeOf c))) ∧
    ∀ name configuration k, c ≠ "default." ++ name → lastOfKind? k (m.contexts.own c) ≠ none →
      ((m.registerDefault name configuration).factory.contexts.scopeOf c).findLocal? k =
        if (m.contexts.scopes.get? c).isSome then
          (lastOfKind? k configuration).or ((m.contexts.scopeOf c).findLocal? k)
        else lastOfKind? k (m.contexts.own c) := by
  subst reached
  rw [registersOnce_append] at once
  have once_of {zs op us} (split : ys = zs ++ op :: us) : (f.run xs).2.RegistersOnce zs :=
    (registersOnce_append.1 (split ▸ once.2)).1
  refine ⟨⟨fun inPlace => ⟨?_, fun makes zs op us split made => ?_⟩,
    fun same makes zs op us split made => ?_⟩, fun name configuration k ne declared => ?_⟩
  · have same := run_step_resolve (reach.run xs) once.2 inPlace
    rw [run_append, run_append, ← length_run f xs, run,
      List.eraseIdx_append_of_length_le (Nat.le_refl _)]
    simp [same]
  · exact (alike_iff_settled makes (once_of split) made.1).2 (inPlace makes zs op us split made)
  · exact (alike_iff_settled makes (once_of split) made.1).1 (same.2 makes zs op us split made)
  · exact (f.run xs).2.contexts.findLocal?_scopeOf_addConfiguration configuration
      (Contexts.isShared_default name) ne declared

/-- A configuration that tells to log a little. -/
def ownLevel : Configuration Kind.Value := [Kind.entry .loggerLevel "own" LoggerLevel.basic]

/-- A client that declares what it logs. -/
def loggingClient : Declaration := { usersClient with configurations := [ownLevel] }

/-- A configuration that tells to log everything. -/
def lateLevel : Configuration Kind.Value := [Kind.entry .loggerLevel "late" LoggerLevel.full]

/-- A configuration that tells when to try again. -/
def lateRetry : Configuration Kind.Value := [Kind.entry .retryPolicy "late" RetryPolicy.standard]

/-- Operations that register nothing register each client at most once. -/
lemma registersOnce_of_not_mem {ops : List Operation} (nothing : ∀ d, .register d ∉ ops) :
    f.RegistersOnce ops := by
  induction ops generalizing f with
  | nil => trivial
  | cons op ops ih =>
    refine ⟨fun d _ eq _ => ?_, ih fun d mem => nothing d (List.mem_cons_of_mem _ mem)⟩
    exact absurd (eq ▸ List.mem_cons_self) (nothing d)

/-- The contexts after the client is registered. -/
lemma contexts_register_logging : (plain.register loggingClient).factory.contexts =
    plain.contexts.addConfiguration "users" ownLevel := by
  have registered : loggingClient.contextId? plain.placeholders = some "users" := by decide +kernel
  exact contexts_register registered rfl

/-- A default for what the client does not declare is in its place. -/
lemma inPlace_lateRetry : (plain.run [.register loggingClient]).2.InPlace "users"
    [.registerDefault "late" lateRetry, .resolve "users"] := by
  intro _ zs op us split made k
  have first : (plain.run [.register loggingClient]).2 =
      (plain.register loggingClient).factory := rfl
  rw [first] at made ⊢
  rcases zs with _ | ⟨z, zs⟩
  · -- the default is added before any scope is made
    cases split
    have new : (plain.register loggingClient).factory.RegistersNew
        (.registerDefault "late" lateRetry) := fun _ _ eq => nomatch eq
    cases made.takes new
  · obtain ⟨rfl, rest⟩ := List.cons.inj split
    have alone : zs = [] := by
      cases zs with
      | nil => rfl
      | cons z zs => simp at rest
    subst alone
    have next : ((plain.register loggingClient).factory.run
        [.registerDefault "late" lateRetry]).2.contexts =
        (plain.register loggingClient).factory.contexts.addConfiguration "default.late"
          lateRetry := rfl
    have brings : brought (plain.register loggingClient).factory.placeholders "users"
        [.registerDefault "late" lateRetry] = lateRetry := rfl
    have late : (((plain.contexts.addConfiguration "users" ownLevel).addConfiguration "default.late"
        lateRetry).configurationsFor "users").flatten =
        defaultConfiguration .plain ++ (lateRetry ++ ownLevel) := rfl
    have early : ((plain.contexts.addConfiguration "users" ownLevel).configurationsFor
        "users").flatten = defaultConfiguration .plain ++ ownLevel := rfl
    rw [next, brings, contexts_register_logging, late, early]
    refine settled_swap _ ?_
    by_cases level : k = .loggerLevel
    · subst level
      exact .inl rfl
    · have other : Kind.loggerLevel ≠ k := fun eq => level eq.symm
      exact .inr (List.filterMap_cons_none (Entry.ofKind?_of_ne other))

/-- So the answers do not depend on an earlier resolution. -/
theorem eraseIdx_run_lateRetry :
    (plain.run [.register loggingClient, .resolve "users", .registerDefault "late" lateRetry,
        .resolve "users"]).1.eraseIdx 1 =
      (plain.run [.register loggingClient, .registerDefault "late" lateRetry,
        .resolve "users"]).1 := by
  have once : plain.RegistersOnce ([.register loggingClient] ++
      [.registerDefault "late" lateRetry, .resolve "users"]) :=
    ⟨fun _ _ _ _ => rfl, registersOnce_of_not_mem (by simp)⟩
  have counts := (eraseIdx_run_resolve (.new _ _ _) "users" once rfl).1.1 inPlace_lateRetry
  exact counts.1

/-- What is logged according to an answer. -/
def Reply.level? : Reply → Option LoggerLevel
  | .resolved (.ok e) => some e.loggerLevel
  | _ => none

/-- A default for what the client declares wins only if the scope of the client is there. -/
theorem not_eraseIdx_run_resolve :
    ¬ ∀ (f : Factory) xs ys c, Reachable f → f.RegistersOnce (xs ++ ys) →
      (f.run (xs ++ .resolve c :: ys)).1.eraseIdx xs.length = (f.run (xs ++ ys)).1 := by
  intro same
  have once : plain.RegistersOnce ([.register loggingClient] ++
      [.registerDefault "late" lateLevel, .resolve "users"]) :=
    ⟨fun _ _ _ _ => rfl, registersOnce_of_not_mem (by simp)⟩
  have answers := congrArg (List.map Reply.level?) (same _ _ _ "users" (.new _ _ _) once)
  revert answers
  decide +kernel

end ServiceClient.Factory
