import ServiceClient.Factory.Operation
import ServiceClient.Proofs.Scope.Contexts

/-!
# What a step of a factory does

A step may register a descriptor, add configurations, and take the scope of one context into use;
`descriptors_step` and `contexts_step` say this once for all operations. Runs are put together by
`run_append`, and `Reachable` factories are those that runs of new factories lead to.
-/

namespace ServiceClient.Factory

section

variable {γ τ : Type} (f : Factory γ τ)

/-- The descriptors after an operation. -/
def descriptorsAfter : Operation γ τ → Table (Descriptor γ)
  | .register d =>
    match d.describe f.placeholders with
    | .ok desc => f.descriptors.put desc.contextId desc
    | .error _ => f.descriptors
  | _ => f.descriptors

/-- The context whose scope is taken into use when a client is made. -/
def createTakes? (capability id : String) : Option String :=
  (f.descriptor? id).bind fun d => if d.clientType.name = capability then some id else none

/-- The context whose scope is taken into use when a client is looked up. -/
def getTakes? (capability id : String) : Option String :=
  match f.clients.get? id with
  | some _ => none
  | none => f.createTakes? capability id

/-- The context whose scope an operation takes into use. -/
def takes? [Capability τ] : Operation γ τ → Option String
  | .register _ => none
  | .registerDefault _ _ => none
  | .resolve id => (f.descriptor? id).map fun _ => id
  | .create t id => f.createTakes? (Capability.name t) id
  | .get t id => f.getTakes? (Capability.name t) id
  | .getQualified t q => (f.qualified? q).bind fun d => f.getTakes? (Capability.name t) d.contextId
  | .getPrimary t =>
    (f.primary? (Capability.name t)).bind fun d => f.getTakes? (Capability.name t) d.contextId

/-- The configurations that an operation adds, with their names. -/
def Operation.additions (ps : Placeholders) : Operation γ τ → List (String × γ)
  | .register d =>
    match d.describe ps with
    | .ok desc => desc.configurations.map (desc.contextId, ·)
    | .error _ => []
  | .registerDefault name c => [("default." ++ name, c)]
  | _ => []

/-- An operation that registers no client in the place of another one. -/
def RegistersNew (op : Operation γ τ) : Prop :=
  ∀ d desc, op = .register d → d.describe f.placeholders = .ok desc →
    f.descriptor? desc.contextId = none

variable {f}

/-- An operation that takes a scope into use adds no configuration. -/
lemma additions_of_takes? [Capability τ] {op : Operation γ τ} {id : String}
    (used : f.takes? op = some id) :
    op.additions f.placeholders = [] := by
  cases op with
  | register d => cases used
  | registerDefault name c => cases used
  | _ => rfl

end

variable {γ τ : Type} [Acts Kind.Value γ] {f : Factory γ τ}

/-- The configurations of a client replace those of an earlier registration, or else are added, all
under its context id. -/
lemma configured_eq (d : Descriptor γ) : f.configured d =
    if (f.descriptor? d.contextId).isSome then
      f.contexts.replaceConfigurations d.contextId d.configurations
    else f.contexts.addAll (d.configurations.map (d.contextId, ·)) := by
  unfold configured descriptor?
  cases f.descriptors.get? d.contextId with
  | some old => rfl
  | none =>
    simp only [Contexts.addAll, List.foldl_map, Option.isSome_none, Bool.false_eq_true, if_false]

variable [Reporting γ]

/-- The configuration of a client is told from its descriptor. -/
lemma resolve_value {id : String} {d : Descriptor γ} (registered : f.descriptor? id = some d) :
    (f.resolve id).value = (f.resolution d).builder.map Builder.effective := by
  simp only [resolve, registered]

/-- And from its scopes, the catalog and the properties. -/
lemma resolve_value_congr {g : Factory γ τ} {d : Descriptor γ}
    (registered : f.descriptor? d.contextId = some d)
    (registered' : g.descriptor? d.contextId = some d)
    (chain : g.contexts.chain d.contextId = f.contexts.chain d.contextId)
    (catalog : (g.contexts.ensure d.contextId).catalog = (f.contexts.ensure d.contextId).catalog)
    (properties : g.properties = f.properties) :
    (g.resolve d.contextId).value = (f.resolve d.contextId).value := by
  rw [resolve_value registered, resolve_value registered', resolution, resolution, chain, catalog,
    properties]

variable [Capability τ]

/-- The factories to which runs lead, beginning with new ones. -/
inductive Reachable : Factory γ τ → Prop where
  | new (contexts properties placeholders) : Reachable { contexts, properties, placeholders }
  | step {f : Factory γ τ} (op) : Reachable f → Reachable (f.step op).2

/-- Operations none of which registers a client in the place of another one. -/
def RegistersOnce (f : Factory γ τ) : List (Operation γ τ) → Prop
  | [] => True
  | op :: ops => f.RegistersNew op ∧ RegistersOnce (f.step op).2 ops

/-- The configuration of a client is told after its scope is taken into use. -/
lemma resolve_factory (id : String) : (f.resolve id).factory =
    { f with contexts := f.contexts.taking (f.takes? (.resolve id)) } := by
  simp only [resolve, takes?]
  cases f.descriptor? id <;> rfl

/-- A client is made after the scope of its context is taken into use. -/
lemma create_factory (t : τ) (id : String) : ∃ made, (f.create t id).factory =
    { f with contexts := f.contexts.taking (f.createTakes? (Capability.name t) id), made } := by
  unfold create createTakes?
  cases f.descriptor? id with
  | none => exact ⟨f.made, rfl⟩
  | some d =>
    dsimp only [Option.bind_some]
    by_cases fits : d.clientType.name = Capability.name t
    · rw [if_pos fits, if_pos fits]
      cases (f.resolution d).client (Capability.name t) with
      | error e => exact ⟨f.made, rfl⟩
      | ok c => exact ⟨f.made + 1, rfl⟩
    · rw [if_neg fits, if_neg fits]
      exact ⟨f.made, rfl⟩

/-- A client is kept after it is made. -/
lemma get_factory (t : τ) (id : String) : ∃ clients made, (f.get t id).factory =
    { f with
      contexts := f.contexts.taking (f.getTakes? (Capability.name t) id), clients, made } := by
  unfold get getTakes?
  cases f.clients.get? id with
  | some c => exact ⟨f.clients, f.made, rfl⟩
  | none =>
    obtain ⟨made, eq⟩ := create_factory (f := f) t id
    dsimp only
    cases (f.create t id).value with
    | error e => exact ⟨f.clients, made, eq⟩
    | ok c =>
      dsimp only
      rw [eq]
      exact ⟨_, made, rfl⟩

/-- What an operation may change: a client that is new adds its configurations. -/
lemma step_eq (op : Operation γ τ) : ∃ contexts clients made,
    (f.step op).2 =
        { f with contexts, descriptors := f.descriptorsAfter op, clients, made } ∧
      (f.RegistersNew op →
        contexts = (f.contexts.addAll (op.additions f.placeholders)).taking (f.takes? op)) := by
  cases op with
  | register d =>
    simp only [step, register, descriptorsAfter, Operation.additions, takes?]
    cases described : d.describe f.placeholders with
    | error e => exact ⟨f.contexts, f.clients, f.made, rfl, fun _ => rfl⟩
    | ok desc =>
      refine ⟨f.configured desc, f.clientsBeside desc, f.made, rfl, fun new => ?_⟩
      rw [configured_eq, new d desc rfl described, Option.isSome_none, if_neg Bool.false_ne_true]
      rfl
  | registerDefault name c => exact ⟨_, f.clients, f.made, rfl, fun _ => rfl⟩
  | resolve id => exact ⟨_, f.clients, f.made, resolve_factory id, fun _ => rfl⟩
  | create t id =>
    obtain ⟨made, eq⟩ := create_factory (f := f) t id
    exact ⟨_, f.clients, made, eq, fun _ => rfl⟩
  | get t id =>
    obtain ⟨clients, made, eq⟩ := get_factory (f := f) t id
    exact ⟨_, clients, made, eq, fun _ => rfl⟩
  | getQualified t q =>
    simp only [step, getQualified, takes?]
    cases f.qualified? q with
    | none => exact ⟨f.contexts, f.clients, f.made, rfl, fun _ => rfl⟩
    | some d =>
      obtain ⟨clients, made, eq⟩ := get_factory (f := f) t d.contextId
      exact ⟨_, clients, made, eq, fun _ => rfl⟩
  | getPrimary t =>
    simp only [step, getPrimary, takes?]
    cases f.primary? (Capability.name t) with
    | none => exact ⟨f.contexts, f.clients, f.made, rfl, fun _ => rfl⟩
    | some d =>
      obtain ⟨clients, made, eq⟩ := get_factory (f := f) t d.contextId
      exact ⟨_, clients, made, eq, fun _ => rfl⟩

/-- Only a registration changes descriptors. -/
lemma descriptors_step (op : Operation γ τ) :
    (f.step op).2.descriptors = f.descriptorsAfter op := by
  obtain ⟨contexts, clients, made, eq, -⟩ := step_eq (f := f) op
  rw [eq]

/-- No operation changes properties. -/
lemma properties_step (op : Operation γ τ) : (f.step op).2.properties = f.properties := by
  obtain ⟨contexts, clients, made, eq, -⟩ := step_eq (f := f) op
  rw [eq]

/-- Nor placeholders. -/
lemma placeholders_step (op : Operation γ τ) :
    (f.step op).2.placeholders = f.placeholders := by
  obtain ⟨contexts, clients, made, eq, -⟩ := step_eq (f := f) op
  rw [eq]

/-- Operations that register new clients only add configurations and take a scope into use. -/
lemma contexts_step {op : Operation γ τ} (new : f.RegistersNew op) :
    (f.step op).2.contexts =
      (f.contexts.addAll (op.additions f.placeholders)).taking (f.takes? op) := by
  obtain ⟨contexts, clients, made, eq, added⟩ := step_eq (f := f) op
  rw [eq, added new]

/-- An operation that takes a scope into use does nothing else with contexts. -/
lemma contexts_step_of_takes? {op : Operation γ τ} {id : String} (used : f.takes? op = some id) :
    (f.step op).2.contexts = f.contexts.ensure id := by
  have new : f.RegistersNew op := by
    intro declaration _ eq
    subst eq
    cases used
  rw [contexts_step new, additions_of_takes? used, used]
  rfl

/-- What holds of no descriptors, and still holds when one more is put under its context id, holds
of those of a reachable factory. -/
lemma Reachable.descriptors_ind {motive : Table (Descriptor γ) → Prop} (reach : f.Reachable)
    (none : motive []) (put : ∀ t d, motive t → motive (t.put d.contextId d)) :
    motive f.descriptors := by
  induction reach with
  | new => exact none
  | @step f op _ ih =>
    rw [descriptors_step]
    cases op with
    | register d =>
      simp only [descriptorsAfter]
      cases d.describe f.placeholders with
      | error e => exact ih
      | ok desc => exact put _ desc ih
    | _ => exact ih

/-- A descriptor is found under its own context id. -/
lemma Reachable.contextId_eq (reach : f.Reachable) {id : String} {d : Descriptor γ}
    (found : f.descriptor? id = some d) : d.contextId = id := by
  revert found
  refine reach.descriptors_ind (motive := fun t => t.get? id = some d → d.contextId = id) ?_ ?_
  · intro found
    cases found
  · intro t d' ih found
    rw [Table.get?_put] at found
    split at found
    next same =>
      cases found
      exact same.symm
    next => exact ih found

/-- Descriptors stand in the order of the names under which they are found. -/
lemma Reachable.ordered (reach : f.Reachable) : f.descriptors.Ordered :=
  reach.descriptors_ind (motive := Table.Ordered) .nil fun _ d ordered =>
    ordered.put d.contextId d

/-- Each descriptor is found under its context id, so no two have the same one. -/
lemma Reachable.descriptor?_of_mem (reach : f.Reachable) {d : Descriptor γ}
    (mem : d ∈ List.map Prod.snd f.descriptors) : f.descriptor? d.contextId = some d := by
  obtain ⟨⟨id, d⟩, row, rfl⟩ := List.mem_map.1 mem
  have found : f.descriptor? id = some d := reach.ordered.get?_of_mem row
  rw [reach.contextId_eq found]
  exact found

variable (f) in
/-- Operations are carried out in two parts. -/
lemma run_append (xs ys : List (Operation γ τ)) :
    f.run (xs ++ ys) = ((f.run xs).1 ++ ((f.run xs).2.run ys).1, ((f.run xs).2.run ys).2) := by
  induction xs generalizing f with
  | nil => rfl
  | cons op xs ih => simp only [List.cons_append, run, ih]

variable (f) in
/-- Each operation is answered. -/
lemma length_run (xs : List (Operation γ τ)) : (f.run xs).1.length = xs.length := by
  induction xs generalizing f with
  | nil => rfl
  | cons op xs ih => simp only [run, List.length_cons, ih]

/-- Runs of reachable factories lead to reachable ones. -/
lemma Reachable.run (reach : f.Reachable) (xs : List (Operation γ τ)) : (f.run xs).2.Reachable := by
  induction xs generalizing f with
  | nil => exact reach
  | cons op xs ih => exact ih (reach.step op)

section

variable {γ τ : Type} [Configures Kind.Value γ] (f : Factory γ τ)

/-- When configurations know nothing of contexts, a client is resolved in these as they are. -/
lemma resolution_eq (d : Descriptor γ) :
    f.resolution d = ⟨f.contexts.chain d.contextId, f.contexts.catalog, f.properties, d⟩ := by
  obtain ⟨scopes, eq⟩ := f.contexts.ensure_eq d.contextId
  rw [resolution, eq]

/-- And its transport is found in them. -/
lemma origin_eq (id : String) : f.origin id =
    if ((f.contexts.scopeOf id).findLocal? .transport).isSome then .scope (f.contexts.scopeId id)
    else if (f.contexts.shared.findLocal? .transport).isSome then .shared
    else .client f.made := by
  obtain ⟨scopes, eq⟩ := f.contexts.ensure_eq id
  rw [origin, Contexts.scopeOf_ensure, eq]
  rfl

end

end ServiceClient.Factory
