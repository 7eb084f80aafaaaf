import Mathlib.Data.List.Count
import ServiceClient.Proofs.Factory.Customization
import ServiceClient.Proofs.Factory.Interceptors
import ServiceClient.Proofs.Scope.Nearest

/-!
# How often interceptors run

Interceptors come from scopes, from entries and from customizers, and those that come on several
ways run several times: `times_eq` counts the ways for each name. `times_le_one_iff` says for which
clients there is no more than one.
-/

namespace ServiceClient
open Builder (Aspect)

/-- Where an interceptor of a client comes from. -/
inductive Provenance where
  /-- It is found under a name. -/
  | named (name : String)
  /-- It is made for the headers or the queries of an entry. -/
  | values
  /-- A customizer hands it over. -/
  | custom
  deriving DecidableEq

namespace Resolution

variable (r : Resolution)

/-- The interceptors of the scopes, or those that customizers set in their place. -/
def group : List (Provenance × Component Interceptor) :=
  match r.customized? .scopeInterceptors with
  | none => (r.chain.lookupAll r.inherits .interceptor).map fun x => (.named x.name, x)
  | some xs => xs.map (.custom, ·)

/-- The interceptors that an entry brings. -/
def broughtBy (e : PropertyEntry) : List (Provenance × Component Interceptor) :=
  (e.interceptors.filterMap fun n => (r.known? .interceptor n).map (.named n, ·)) ++
    ((valueInterceptors e).filterMap Builder.added?).map (.values, ·)

/-- The entries that count for the client. -/
def layers : List PropertyEntry :=
  if r.inherits then r.entries else []

/-- The interceptors of the client in the order in which they run, each with where it comes from. -/
def executed : List (Provenance × Component Interceptor) :=
  r.group ++ r.layers.flatMap r.broughtBy ++
    (r.customSettings.filterMap Builder.added?).map (.custom, ·)

/-- The interceptors of several ones that are components. Those that are made for the values of an
entry are none. -/
def components (xs : List (Provenance × Component Interceptor)) : List (Component Interceptor) :=
  (xs.filter (·.1 ≠ .values)).map (·.2)

open Classical in
/-- How often the interceptor that a name stands for is among several ones. -/
noncomputable def occurrences (n : String) (xs : List (Component Interceptor)) : Nat :=
  xs.countP fun x => r.named .interceptor n = .ok x

/-- How often the interceptor that a name stands for runs over a template, wherever it comes
from. -/
noncomputable def times (n : String) : Nat :=
  r.occurrences n (components r.executed)

/-- The interceptors that customizers hand over: those that they set for the scope, and those that
they add. -/
def handed : List (Component Interceptor) :=
  (r.customized? .scopeInterceptors).getD [] ++ r.customSettings.filterMap Builder.added?

/-- The scopes bring an interceptor of a name, and customizers leave it there. -/
def Brings (n : String) : Prop :=
  (r.customized? .scopeInterceptors).isNone ∧
    n ∈ (r.chain.lookupAll r.inherits .interceptor).map (·.name)

instance (n : String) : Decidable (r.Brings n) :=
  inferInstanceAs (Decidable (_ ∧ _))

/-- No entry lists a name twice, and the entry for all clients lists no name of another own one. -/
structure ListsOnce : Prop where
  each : ∀ e ∈ r.entries, e.interceptors.Nodup
  apart : r.descriptor.contextId ≠ r.properties.defaultConfig →
    ∀ e ∈ r.shared?, ∀ e' ∈ r.own?, e.interceptors.Disjoint e'.interceptors

variable {r} {capability : String}

/-- Before the customizers, only entries add interceptors. -/
lemma added_uncustomized :
    r.uncustomized.filterMap Builder.added? = r.layers.flatMap r.interceptorsOf := by
  unfold uncustomized layers
  split
  · split
    · rw [List.filterMap_append, added_declaredSettings, List.nil_append, added_entries]
    · rw [List.filterMap_append, added_declaredSettings, List.append_nil, added_entries]
  · exact added_declaredSettings false

/-- An entry brings the interceptors that it adds. -/
lemma broughtBy_snd (e : PropertyEntry) : (r.broughtBy e).map (·.2) = r.interceptorsOf e := by
  rw [broughtBy, List.map_append, List.map_filterMap, interceptorsOf, List.append_assoc]
  congr 1
  · simp [Function.comp_def]
  · unfold valueInterceptors
    cases e.headers.isEmpty <;> cases e.queryParameters.isEmpty <;> rfl

/-- Before the customizers, only declarations tell interceptors of the scopes. -/
lemma last_uncustomized : (Aspect.scopeInterceptors.last r.uncustomized).getD [] =
    r.chain.lookupAll r.inherits .interceptor := by
  have told : Aspect.scopeInterceptors.last (r.entries.flatMap r.toldBy) = none := by
    simp [last_entries, last_toldBy, Aspect.scopeInterceptors]
  -- a scope without interceptors sets none, and leaves the group empty as it is
  have declared (inherit : Bool) :
      (Aspect.scopeInterceptors.last (r.declaredSettings inherit)).getD [] =
        r.chain.lookupAll inherit .interceptor := by
    have last : Aspect.scopeInterceptors.last (r.declaredSettings inherit) =
        if (r.chain.lookupAll inherit .interceptor).isEmpty then none
        else some (r.chain.lookupAll inherit .interceptor) := by
      simp [declaredSettings, Aspect.scopeInterceptors, Option.bind_map]
    rw [last]
    cases r.chain.lookupAll inherit .interceptor <;> rfl
  unfold uncustomized
  cases r.inherits with
  | false => exact declared false
  | true =>
    rw [← declared true, if_pos rfl]
    split <;> simp [told]

/-- The interceptors of the scopes are in the builder, or those that customizers set in their
place. -/
lemma scopeInterceptors_builder {b : Builder} (eq : r.builder = .ok b) :
    b.scopeInterceptors = r.group.map (·.2) := by
  obtain ⟨base, baseOk, rfl⟩ := builder_eq eq
  obtain ⟨_, _, _, _, -, -, -, -, rfl⟩ := base_ok baseOk
  refine (Aspect.scopeInterceptors.get_setAll _ _).trans ?_
  rw [Aspect.last_append, group, customized?]
  cases Aspect.scopeInterceptors.last r.customSettings with
  | none =>
    rw [Option.none_or, List.map_map]
    exact last_uncustomized.trans (List.map_id _).symm
  | some xs =>
    rw [List.map_map]
    exact (List.map_id _).symm

/-- The interceptors of a builder are those that the client runs. -/
lemma interceptors_eq_executed {b : Builder} (eq : r.builder = .ok b) :
    b.interceptors = r.executed.map (·.2) := by
  rw [Builder.interceptors, scopeInterceptors_builder eq, addedInterceptors_of_builder eq,
    List.filterMap_append, added_uncustomized, executed, List.map_append, List.map_append,
    List.append_assoc, List.map_flatMap, List.map_map]
  simp only [broughtBy_snd]
  congr 2
  exact (List.map_id _).symm

/-- Components that are seen from a scope on bear different names, in their order too. -/
lemma nodup_lookupAll (unique : ∀ s ∈ r.chain.scopes, s.Unique) (inherit : Bool) (k : Kind) :
    ((r.chain.lookupAll inherit k).map (·.name)).Nodup := by
  unfold Chain.lookupAll
  rw [((List.mergeSort_perm _ _).map _).nodup_iff]
  cases inherit with
  | false => exact (unique _ List.mem_cons_self).nodup_names k
  | true =>
    rw [if_pos rfl, r.chain.findAll_eq_visible k fun s mem => unique s (List.mem_cons_of_mem _ mem)]
    exact Chain.nodup_visible k _ unique

/-- Each of them is what its name stands for. -/
lemma named_of_mem_lookupAll (unique : ∀ s ∈ r.chain.scopes, s.Unique) {inherit : Bool} {k : Kind}
    {x : Component k.Value} (mem : x ∈ r.chain.lookupAll inherit k) :
    r.named k x.name = .ok x := by
  have seen : x ∈ Chain.visible k r.chain.scopes := by
    have mem := List.mem_mergeSort.1 mem
    cases inherit with
    | false => exact List.mem_append_left _ mem
    | true =>
      rw [if_pos rfl, r.chain.findAll_eq_visible k fun s mem =>
        unique s (List.mem_cons_of_mem _ mem)] at mem
      exact mem
  rw [named, (Chain.mem_visible_iff_findNamed unique).1 ⟨seen, rfl⟩]

/-- An interceptor that runs under a name is what this name stands for. -/
lemma named_of_mem_executed (unique : ∀ s ∈ r.chain.scopes, s.Unique) {n : String}
    {x : Component Interceptor} (mem : (.named n, x) ∈ r.executed) :
    r.named .interceptor n = .ok x := by
  have other {xs : List (Component Interceptor)} {p : Provenance} (apart : p ≠ .named n) :
      (.named n, x) ∉ xs.map (p, ·) := by
    intro mem
    obtain ⟨y, -, eq⟩ := List.mem_map.1 mem
    exact apart (congrArg Prod.fst eq)
  rcases List.mem_append.1 mem with mem | mem
  · rcases List.mem_append.1 mem with mem | mem
    · unfold group at mem
      split at mem
      · obtain ⟨y, seen, eq⟩ := List.mem_map.1 mem
        cases eq
        exact named_of_mem_lookupAll unique seen
      · exact absurd mem (other nofun)
    · obtain ⟨e, -, mem⟩ := List.mem_flatMap.1 mem
      rcases List.mem_append.1 mem with mem | mem
      · obtain ⟨m, -, eq⟩ := List.mem_filterMap.1 mem
        obtain ⟨y, known, eq⟩ := Option.map_eq_some_iff.1 eq
        cases eq
        exact toOption_eq_some.1 known
      · exact absurd mem (other nofun)
  · exact absurd mem (other nofun)

section components

variable (xs ys : List (Provenance × Component Interceptor))

lemma components_append : components (xs ++ ys) = components xs ++ components ys := by
  rw [components, List.filter_append, List.map_append, components, components]

lemma components_flatMap {α : Type} (l : List α)
    (f : α → List (Provenance × Component Interceptor)) :
    components (l.flatMap f) = l.flatMap fun a => components (f a) := by
  simp only [components, List.filter_flatMap, List.map_flatMap]

/-- What comes on another way is a component. -/
lemma components_of_ne (apart : ∀ x ∈ xs, x.1 ≠ .values) : components xs = xs.map (·.2) := by
  rw [components, List.filter_eq_self.2 fun x mem => decide_eq_true (apart x mem)]

end components

/-- What customizers hand over are components. -/
lemma components_custom (xs : List (Component Interceptor)) :
    components (xs.map (.custom, ·)) = xs := by
  rw [components_of_ne, List.map_map]
  · exact List.map_id _
  · intro x mem
    obtain ⟨y, -, rfl⟩ := List.mem_map.1 mem
    exact Provenance.noConfusion

/-- So are the interceptors of the scopes, or those that customizers set in their place. -/
lemma components_group : components r.group =
    (r.customized? .scopeInterceptors).getD (r.chain.lookupAll r.inherits .interceptor) := by
  unfold group
  cases r.customized? .scopeInterceptors with
  | none =>
    rw [components_of_ne, List.map_map]
    · exact List.map_id _
    · intro x mem
      obtain ⟨y, -, rfl⟩ := List.mem_map.1 mem
      exact Provenance.noConfusion
  | some xs => exact components_custom xs

/-- An entry brings the components that it lists. -/
lemma components_broughtBy (e : PropertyEntry) :
    components (r.broughtBy e) = e.interceptors.filterMap (r.known? .interceptor) := by
  have made (xs : List (Component Interceptor)) : components (xs.map (.values, ·)) = [] := by
    rw [components, List.filter_eq_nil_iff.2, List.map_nil]
    intro x mem
    obtain ⟨y, -, rfl⟩ := List.mem_map.1 mem
    simp
  rw [broughtBy, components_append, made, List.append_nil, components_of_ne, List.map_filterMap]
  · refine List.filterMap_congr fun n _ => ?_
    rw [Option.map_map]
    exact Option.map_id'
  · intro x mem
    obtain ⟨n, -, eq⟩ := List.mem_filterMap.1 mem
    obtain ⟨y, -, rfl⟩ := Option.map_eq_some_iff.1 eq
    exact Provenance.noConfusion

section occurrences

variable (n : String) (xs ys : List (Component Interceptor))

lemma occurrences_append :
    r.occurrences n (xs ++ ys) = r.occurrences n xs + r.occurrences n ys :=
  List.countP_append

/-- Interceptors that their names stand for are counted by name. -/
lemma occurrences_of_named {xs : List (Component Interceptor)}
    (known : ∀ x ∈ xs, r.named .interceptor x.name = .ok x) :
    r.occurrences n xs = (xs.map (·.name)).count n := by
  rw [occurrences, List.count, List.countP_map]
  refine List.countP_congr fun x mem => ?_
  simp only [decide_eq_true_eq, Function.comp_apply, beq_iff_eq]
  exact ⟨name_of_named, fun same => same ▸ known x mem⟩

end occurrences

/-- The scopes bring an interceptor at most once, if customizers leave it there. -/
lemma occurrences_group (unique : ∀ s ∈ r.chain.scopes, s.Unique) (n : String) :
    r.occurrences n (components r.group) = (if r.Brings n then 1 else 0) +
      r.occurrences n ((r.customized? .scopeInterceptors).getD []) := by
  rw [components_group]
  cases custom : r.customized? .scopeInterceptors with
  | some xs =>
    have replaced : ¬r.Brings n := by simp [Brings, custom]
    rw [if_neg replaced, Nat.zero_add, Option.getD_some, Option.getD_some]
  | none =>
    have brings : r.Brings n ↔ n ∈ (r.chain.lookupAll r.inherits .interceptor).map (·.name) := by
      simp [Brings, custom]
    rw [Option.getD_none, Option.getD_none,
      occurrences_of_named n fun x mem => named_of_mem_lookupAll unique mem]
    simp only [brings]
    exact List.Nodup.count (nodup_lookupAll unique r.inherits .interceptor)

/-- An entry brings an interceptor as often as it lists the name. -/
lemma occurrences_broughtBy {e : PropertyEntry} (knows : r.Knows e) (n : String) :
    r.occurrences n (components (r.broughtBy e)) = e.interceptors.count n := by
  rw [components_broughtBy, occurrences_of_named, knows.interceptors]
  intro x mem
  obtain ⟨m, -, known⟩ := List.mem_filterMap.1 mem
  have named := toOption_eq_some.1 known
  rw [name_of_named named]
  exact named

/-- Several entries bring an interceptor as often as they list the name. -/
lemma occurrences_entries {es : List PropertyEntry} (knows : ∀ e ∈ es, r.Knows e) (n : String) :
    r.occurrences n (components (es.flatMap r.broughtBy)) =
      (es.flatMap (·.interceptors)).count n := by
  rw [components_flatMap, occurrences, List.countP_flatMap, List.count_flatMap]
  congr 1
  exact List.map_congr_left fun e mem => occurrences_broughtBy (knows e mem) n

/-- An interceptor runs once for the scopes, if they bring it, once for each time that an entry
lists its name, and once for each time that a customizer hands it over. -/
lemma times_eq (unique : ∀ s ∈ r.chain.scopes, s.Unique) (knows : ∀ e ∈ r.layers, r.Knows e)
    (n : String) : r.times n =
      (if r.Brings n then 1 else 0) + (r.layers.flatMap (·.interceptors)).count n +
        r.occurrences n r.handed := by
  rw [times, executed, components_append, components_append, components_custom,
    occurrences_append, occurrences_append, occurrences_group unique, occurrences_entries knows,
    handed, occurrences_append]
  omega

/-- The entries that count are known. -/
lemma knows_layers {b : Builder} (eq : r.builder = .ok b) : ∀ e ∈ r.layers, r.Knows e := by
  unfold layers
  split
  next inherits =>
    obtain ⟨-, -, knows, -⟩ := builder_ok inherits eq
    exact knows
  next => exact fun e mem => absurd mem List.not_mem_nil

/-- Then a name is listed twice only by an entry that counts twice. -/
lemma ListsOnce.nodup_layers_iff (lists : r.ListsOnce) :
    (r.layers.flatMap (·.interceptors)).Nodup ↔
      (r.inherits = true → r.descriptor.contextId = r.properties.defaultConfig →
        ∀ e ∈ r.shared?, e.interceptors = []) := by
  have both : r.entries.flatMap (·.interceptors) =
      r.shared?.toList.flatMap (·.interceptors) ++ r.own?.toList.flatMap (·.interceptors) :=
    List.flatMap_append
  have ofShared : ∀ e ∈ r.shared?, e.interceptors.Nodup := fun e mem =>
    lists.each e (List.mem_append_left _ (Option.mem_toList.2 mem))
  have ofOwn : ∀ e ∈ r.own?, e.interceptors.Nodup := fun e mem =>
    lists.each e (List.mem_append_right _ (Option.mem_toList.2 mem))
  unfold layers
  by_cases inherits : r.inherits = true
  · rw [if_pos inherits, both]
    by_cases same : r.descriptor.contextId = r.properties.defaultConfig
    · have own : r.own? = r.shared? := by
        rw [own?, shared?, Properties.clientEntry?, same, Properties.defaultEntry?]
      have twice (l : List String) : (l ++ l).Nodup ↔ l = [] := by
        refine ⟨fun nodup => List.eq_nil_iff_forall_not_mem.2 fun n mem => ?_, fun none => ?_⟩
        · exact (List.nodup_append.1 nodup).2.2 n mem n mem rfl
        · rw [none]
          exact List.nodup_nil
      rw [own, twice]
      cases r.shared? <;> simp [inherits, same]
    · refine iff_of_true (List.nodup_append.2 ⟨?_, ?_, ?_⟩) fun _ eq => absurd eq same
      · cases shared : r.shared? with
        | none => exact List.nodup_nil
        | some e => simpa using ofShared e shared
      · cases own : r.own? with
        | none => exact List.nodup_nil
        | some e => simpa using ofOwn e own
      · intro n mem n' mem' eq
        obtain ⟨e, shared, mem⟩ := List.mem_flatMap.1 mem
        obtain ⟨e', own, mem'⟩ := List.mem_flatMap.1 mem'
        have disjoint :=
          lists.apart same e (Option.mem_toList.1 shared) e' (Option.mem_toList.1 own)
        exact disjoint mem (eq ▸ mem')
  · simp [inherits]

/-- Without customizers none is handed over. -/
lemma handed_of_nil (none : r.customizers = []) : r.handed = [] := by
  rw [handed, customized?, customSettings_of_nil none]
  rfl

/-- A client whose scope has an interceptor, whose entry lists some names, and which has some
customizers. -/
def audited (id : String) (listed : List String) (customizers : List Customizer := []) :
    Resolution where
  chain :=
    ⟨⟨id, [Kind.entry .interceptor "audit" (.headerLine "x-audit" [])]⟩,
      [⟨"application", defaultConfiguration .plain ++
        [Kind.entry .transport "http" (.direct ⟨0, "direct"⟩)]⟩]⟩
  catalog := ⟨builtins.entries ++ [Kind.entry .interceptor "tenant" (.headerLine "x-tenant" [])]⟩
  properties := { config := [(id, { interceptors := listed })] }
  descriptor :=
    { clientType := ⟨"UsersClient", .interface⟩, name := "users", contextId := id, customizers }

section audited

variable {id : String} {listed : List String} {customizers : List Customizer}

/-- Its customizers are those of its descriptor. -/
lemma customizers_audited : (audited id listed customizers).customizers = customizers := by
  have nothing : (audited id listed customizers).chain.findAll .customizer = [] := rfl
  have inherits : (audited id listed customizers).inherits = true := rfl
  rw [Resolution.customizers, inherits, Chain.lookupAll, if_pos rfl, nothing, List.mergeSort_nil]
  rfl

/-- An entry of its own is the only one. -/
lemma listsOnce_audited (nodup : listed.Nodup) :
    (audited "users" listed customizers).ListsOnce where
  each e mem := by
    rw [List.mem_singleton.1 mem]
    exact nodup
  apart _ e shared := by cases shared

/-- The scope brings one interceptor. -/
lemma eq_of_brings_audited {n : String} (brings : (audited id listed customizers).Brings n) :
    n = "audit" := by
  have found : (audited id listed customizers).chain.findAll .interceptor =
      [⟨"audit", .headerLine "x-audit" [], 0⟩] := rfl
  have inherits : (audited id listed customizers).inherits = true := rfl
  have names := brings.2
  rw [inherits, Chain.lookupAll, if_pos rfl, found, List.mergeSort_singleton] at names
  exact List.mem_singleton.1 names

end audited

end Resolution
end ServiceClient
