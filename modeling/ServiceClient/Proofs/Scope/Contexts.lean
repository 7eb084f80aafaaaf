import ServiceClient.Proofs.Scope.Acting
import ServiceClient.Proofs.Scope.Settled

/-!
# What becomes of the scopes of contexts

Each operation on contexts is described by what it does to the scope of one context, to the
configurations for it and to its scopes that gave way. Adding a configuration concerns the contexts
told by `concerns`, replacing configurations one context only unless its name begins as those of
shared configurations do, and `ensure` changes nothing but whether the scope is there, when
configurations know nothing of contexts. `addAll` and `taking` put together what a step of a factory
does with contexts.
-/

namespace ServiceClient.Contexts

section

variable {κ : Type} {β : κ → Type} {γ : Type} (cs : Contexts β γ) {name id : String}
  (configurations : List γ)

/-- The scope of a context whose configurations are replaced is gone, and the others stay. -/
lemma get?_scopes_replaceConfigurations :
    (cs.replaceConfigurations name configurations).scopes.get? id =
      if id = name then none else cs.scopes.get? id :=
  Table.get?_drop _ _ _

/-- The scope of a context whose configurations are replaced may still be held. -/
lemma retiredScopes_replaceConfigurations :
    (cs.replaceConfigurations name configurations).retiredScopes id =
      if id = name then cs.retiredScopes id ++ (cs.scopes.get? id).toList
      else cs.retiredScopes id := by
  simp only [retiredScopes, replaceConfigurations, Table.get?_put]
  split
  next same => rw [same, Option.getD_some]
  next => rfl

/-- Configurations that are replaced are not those of another context, unless they are shared. -/
lemma configurationsFor_replaceConfigurations (own : isShared name = false) (ne : id ≠ name) :
    (cs.replaceConfigurations name configurations).configurationsFor id =
      cs.configurationsFor id := by
  simp only [configurationsFor, replaceConfigurations]
  split
  · rw [Table.filter_drop own, Table.get?_drop, if_neg ne]
  · rw [Table.filter_put own, Table.get?_put, if_neg ne]

end

section

variable {κ : Type} {β : κ → Type} {γ : Type} [Acts β γ] (cs : Contexts β γ)

/-- Adds configurations under their names, one after the other. -/
def addAll (additions : List (String × γ)) : Contexts β γ :=
  additions.foldl (fun cs (name, c) => cs.addConfiguration name c) cs

/-- The contexts with a scope for a context that is taken into use. -/
def taking : Option String → Contexts β γ
  | some id => cs.ensure id
  | none => cs

/-- Of several added configurations those that are for a context. -/
def concerning (id : String) (additions : List (String × γ)) : List γ :=
  (additions.filter fun a => concerns a.1 id).map (·.2)

/-- Added configurations that act alone are carried out at once on the scopes that they concern, and
all else stays. -/
lemma addAll_of_alone {additions : List (String × γ)} (alone : ∀ a ∈ additions, Acts.Alone β a.2) :
    ∃ configurations scopes, cs.addAll additions = { cs with configurations, scopes } ∧
      ∀ id, scopes.get? id =
        (cs.scopes.get? id).map ((concerning id additions).foldl cs.configured) := by
  induction additions generalizing cs with
  | nil => exact ⟨cs.configurations, cs.scopes, rfl, fun id => Option.map_id'.symm⟩
  | cons a additions ih =>
    obtain ⟨here, later⟩ := List.forall_mem_cons.1 alone
    obtain ⟨scopes, eq, first⟩ := addConfiguration_of_alone here cs a.1
    obtain ⟨configurations, scopes', eq', rest⟩ := ih (cs.addConfiguration a.1 a.2) later
    refine ⟨configurations, scopes', eq'.trans (by rw [eq]), fun id => ?_⟩
    have others : ∀ c ∈ concerning id additions, Acts.Alone β c := by
      intro c mem
      obtain ⟨b, kept, rfl⟩ := List.mem_map.1 mem
      exact later b (List.mem_filter.1 kept).1
    have shared : (cs.addConfiguration a.1 a.2).shared = cs.shared := by rw [eq]
    rw [rest, eq, first, Option.map_map, ← eq]
    congr 1
    funext s
    rw [Function.comp_apply, foldl_configured_congr others shared]
    by_cases concerned : concerns a.1 id <;> simp [concerning, concerned]

/-- Configurations that are added for a context come behind all others for it. -/
lemma configurationsFor_addAll {id : String} (unshared : isShared id = false) {l : List γ}
    (alone : ∀ c ∈ l, Acts.Alone β c) :
    (cs.addAll (l.map (id, ·))).configurationsFor id = cs.configurationsFor id ++ l := by
  induction l generalizing cs with
  | nil => exact (List.append_nil _).symm
  | cons c l ih =>
    have first : (cs.addConfiguration id c).configurationsFor id =
        cs.configurationsFor id ++ [c] := by
      obtain ⟨scopes, eq, -⟩ := addConfiguration_of_alone (alone c List.mem_cons_self) cs id
      simp only [eq, configurationsFor, Table.filter_put unshared, Table.get?_put, if_pos,
        Option.getD_some, List.append_assoc]
    have later := ih (cs.addConfiguration id c) fun d mem => alone d (List.mem_cons_of_mem c mem)
    refine later.trans ?_
    rw [first, List.append_assoc, List.singleton_append]

variable {cs}

/-- Only the scope that is taken into use may be made, and all else stays. -/
lemma taking_of_keeps {use : Option String}
    (keeps : ∀ id, use = some id → ∀ c ∈ cs.configurationsFor id, Acts.Keeps β c) :
    ∃ scopes, cs.taking use = { cs with scopes } ∧ ∀ id, scopes.get? id =
      if use = some id then some (cs.scopeOf id) else cs.scopes.get? id := by
  cases use with
  | none => exact ⟨cs.scopes, rfl, fun id => rfl⟩
  | some used =>
    obtain ⟨scopes, eq, found⟩ := ensure_eq_of_keeps (keeps used rfl)
    refine ⟨scopes, eq, fun id => ?_⟩
    rw [found]
    by_cases same : id = used
    · rw [if_pos same, if_pos (congrArg some same.symm)]
    · rw [if_neg same, if_neg fun eq => same (Option.some.inj eq).symm]

namespace AllAlone

variable (all : cs.AllAlone)

include all

lemma addAll {additions : List (String × γ)} (alone : ∀ a ∈ additions, Acts.Alone β a.2) :
    (cs.addAll additions).AllAlone := by
  induction additions generalizing cs with
  | nil => exact all
  | cons a additions ih =>
    obtain ⟨here, alone⟩ := List.forall_mem_cons.1 alone
    exact ih (all.addConfiguration here) alone

lemma taking (use : Option String) : (cs.taking use).AllAlone := by
  obtain ⟨scopes, eq, -⟩ := taking_of_keeps fun id (_ : use = some id) => all.keeps
  rw [eq]
  exact all

/-- Each scope is seen as before when one is taken into use. -/
lemma scopeOf_taking (use : Option String) (id : String) :
    (cs.taking use).scopeOf id = cs.scopeOf id := by
  obtain ⟨scopes, eq, found⟩ := taking_of_keeps fun id (_ : use = some id) => all.keeps
  have same : (cs.taking use).fresh id = cs.fresh id := by
    rw [eq]
    exact fresh_congr all.of_mem rfl rfl
  rw [scopeOf_of_keeps (all.taking use).keeps, same, eq, found]
  split
  · rw [Option.getD_some]
  · rw [scopeOf_of_keeps all.keeps]

end AllAlone

end

section

variable {κ : Type} {β : κ → Type} {γ : Type} [Configures β γ] (cs : Contexts β γ)

/-- Configurations that know nothing of contexts leave them as they are. -/
lemma keeps (id : String) : ∀ c ∈ cs.configurationsFor id, Acts.Keeps β c :=
  fun c _ => (Acts.alone c).keeps

/-- An added configuration is carried out at once on the scopes that it concerns. -/
lemma get?_scopes_add (name : String) (configuration : γ) (id : String) :
    (cs.addConfiguration name configuration).scopes.get? id =
      (cs.scopes.get? id).map fun s =>
        if concerns name id then cs.configured s configuration else s := by
  obtain ⟨scopes, eq, found⟩ := addConfiguration_of_alone (Acts.alone configuration) cs name
  rw [eq, found]

/-- All else stays. -/
lemma addConfiguration_eq (name : String) (configuration : γ) : ∃ scopes,
    cs.addConfiguration name configuration =
      { cs with
        configurations :=
          cs.configurations.put name ((cs.configurations.get? name).getD [] ++ [configuration])
        scopes } := by
  obtain ⟨scopes, eq, -⟩ := addConfiguration_of_alone (Acts.alone configuration) cs name
  exact ⟨scopes, eq⟩

/-- The scope of a context is the one that is there, or else a new one. -/
lemma scopeOf_eq (id : String) : cs.scopeOf id = (cs.scopes.get? id).getD (cs.fresh id) :=
  scopeOf_of_keeps (cs.keeps id)

/-- A scope that is ensured is there, and the others are there as before. -/
lemma get?_scopes_ensure (name id : String) :
    (cs.ensure name).scopes.get? id =
      if id = name then some (cs.scopeOf id) else cs.scopes.get? id := by
  obtain ⟨scopes, eq, found⟩ := ensure_eq_of_keeps (cs.keeps name)
  rw [eq, found]

/-- All but the scopes stays when a scope is taken into use. -/
lemma ensure_eq (id : String) : ∃ scopes, cs.ensure id = { cs with scopes } := by
  obtain ⟨scopes, eq, -⟩ := ensure_eq_of_keeps (cs.keeps id)
  exact ⟨scopes, eq⟩

/-- So the chain of a context ends with the shared scope as it is. -/
lemma chain_eq (id : String) : cs.chain id = ⟨cs.scopeOf id, [cs.shared]⟩ :=
  chain_of_keeps (cs.keeps id)

/-- And the catalog stays. -/
lemma catalog_ensure (id : String) : (cs.ensure id).catalog = cs.catalog :=
  catalog_of_keeps (cs.keeps id)

end

variable {κ : Type} [DecidableEq κ] {β : κ → Type} (cs : Contexts β)

/-- A name that is not shared concerns the context of this name only. -/
lemma concerns_eq_false {name id : String} (own : isShared name = false) (ne : id ≠ name) :
    concerns name id = false := by
  simp [concerns, own, ne]

/-- A new scope is made from all configurations for it, one behind the other. -/
lemma fresh_eq_registerAll (id : String) :
    cs.fresh id = Scope.registerAll ⟨id, []⟩ (cs.configurationsFor id).flatten := by
  rw [fresh_of_keeps (cs.keeps id)]
  exact List.foldl_flatten.symm

/-- What a new scope shows. -/
lemma findAllLocal_fresh (id : String) (k : κ) :
    (cs.fresh id).findAllLocal k = settled k (cs.configurationsFor id).flatten := by
  rw [fresh_eq_registerAll, Scope.findAllLocal_registerAll]

section

variable (name : String) (configuration : Configuration β) {id : String}

/-- The scopes that an added configuration concerns get it at once. -/
lemma get?_scopes_addConfiguration : (cs.addConfiguration name configuration).scopes.get? id =
    (cs.scopes.get? id).map fun s =>
      if concerns name id then s.registerAll configuration else s :=
  cs.get?_scopes_add name configuration id

/-- A scope that an added configuration does not concern is not made from it. -/
lemma configurationsFor_addConfiguration (apart : concerns name id = false) :
    (cs.addConfiguration name configuration).configurationsFor id = cs.configurationsFor id := by
  -- the name is not shared, so the row stands outside of the shared ones
  rw [concerns, Bool.or_eq_false_iff] at apart
  obtain ⟨own, ne⟩ := apart
  obtain ⟨scopes, eq⟩ := cs.addConfiguration_eq name configuration
  simp only [eq, configurationsFor, Table.filter_put own, Table.get?_put,
    if_neg (beq_eq_false_iff_ne.1 ne)]

end

/-- The name of a configuration that is registered for all clients is a shared one. -/
lemma isShared_default (name : String) : isShared ("default." ++ name) = true := by
  rw [isShared, Text.beginsWith, String.toList_append]
  exact List.isPrefixOf_iff_prefix.2 (List.prefix_append _ _)

/-- The components that the configurations of a context itself register. -/
def own (id : String) : Configuration β :=
  ((cs.configurations.get? id).getD []).flatten

/-- What a context registers itself wins in a new scope. -/
lemma findLocal?_fresh {id : String} {k : κ} (declared : lastOfKind? k (cs.own id) ≠ none) :
    (cs.fresh id).findLocal? k = lastOfKind? k (cs.own id) := by
  rw [fresh_eq_registerAll, Scope.findLocal?_registerAll, configurationsFor, List.flatten_append,
    lastOfKind?_append, ← own]
  cases found : lastOfKind? k (cs.own id) with
  | none => exact absurd found declared
  | some x => rfl

/-- A shared configuration wins over what a context registers itself in a scope that is there, and
never in one that is made later. -/
lemma findLocal?_scopeOf_addConfiguration {name id : String} (configuration : Configuration β)
    (shared : isShared name = true) (ne : id ≠ name) {k : κ}
    (declared : lastOfKind? k (cs.own id) ≠ none) :
    ((cs.addConfiguration name configuration).scopeOf id).findLocal? k =
      if (cs.scopes.get? id).isSome then
        (lastOfKind? k configuration).or ((cs.scopeOf id).findLocal? k)
      else lastOfKind? k (cs.own id) := by
  have concerned : concerns name id = true := by rw [concerns, shared, Bool.true_or]
  have same : (cs.addConfiguration name configuration).own id = cs.own id := by
    obtain ⟨scopes, eq⟩ := cs.addConfiguration_eq name configuration
    rw [own, eq, Table.get?_put, if_neg ne, own]
  rw [scopeOf_eq, get?_scopes_addConfiguration]
  cases found : cs.scopes.get? id with
  | some s =>
    rw [Option.map_some, if_pos concerned, Option.getD_some, Scope.findLocal?_registerAll,
      scopeOf_eq, found]
    rfl
  | none =>
    have wins := (cs.addConfiguration name configuration).findLocal?_fresh (same ▸ declared)
    rw [same] at wins
    exact wins

/-- What added configurations bring to the scope of a context. -/
def bringing (id : String) (additions : List (String × Configuration β)) : Configuration β :=
  (additions.filter fun (name, _) => concerns name id).flatMap (·.2)

/-- A scope that is there gets all that added configurations bring to it. -/
lemma get?_scopes_addAll (additions : List (String × Configuration β)) (id : String) :
    (cs.addAll additions).scopes.get? id =
      (cs.scopes.get? id).map (·.registerAll (bringing id additions)) := by
  obtain ⟨configurations, scopes, eq, found⟩ :=
    cs.addAll_of_alone fun a (_ : a ∈ additions) => Acts.alone a.2
  rw [eq, found]
  congr 1
  funext s
  rw [bringing, List.flatMap_def]
  exact List.foldl_flatten.symm

/-- Only the scope that is taken into use may be made. -/
lemma get?_scopes_taking (use : Option String) (id : String) :
    (cs.taking use).scopes.get? id =
      if use = some id then some (cs.scopeOf id) else cs.scopes.get? id := by
  obtain ⟨scopes, eq, found⟩ := taking_of_keeps fun id (_ : use = some id) => cs.keeps id
  rw [eq, found]

/-- All else stays. -/
lemma taking_eq (use : Option String) : ∃ scopes, cs.taking use = { cs with scopes } := by
  obtain ⟨scopes, eq, -⟩ := taking_of_keeps fun id (_ : use = some id) => cs.keeps id
  exact ⟨scopes, eq⟩

end ServiceClient.Contexts
