import Mathlib.Data.List.Basic
import Mathlib.Data.List.Nodup
import ServiceClient.Proofs.Table
import ServiceClient.Scope.Contexts

/-!
# What configurations do besides

A configuration that is carried out on a scope may use contexts meanwhile, so that to take a scope
into use, or to add a configuration, can lead anywhere. There are two conditions under which it does
not: a configuration `Keeps` contexts as they are, or it acts `Alone`, and then it does not even
look at other scopes than the shared one. Under the first one `ensure` makes one scope and nothing
else; under the second one so does `addConfiguration` with the scopes that it concerns.
-/

namespace ServiceClient

namespace Acts

variable {κ : Type} (β : κ → Type) {γ : Type}

/-- A configuration leaves contexts as they are. -/
def Keeps [Acts β γ] (c : γ) : Prop :=
  ∀ (cs : Contexts β γ) s, (act c cs s).1 = cs

/-- A configuration does to a scope what is told by this scope and the shared one, and nothing
else. -/
def Alone [Acts β γ] (c : γ) : Prop :=
  ∃ f : Chain β → Scope β, ∀ (cs : Contexts β γ) s, act c cs s = (cs, f ⟨s, [cs.shared]⟩)

variable {β}

lemma Alone.keeps [Acts β γ] {c : γ} (alone : Alone β c) : Keeps β c := by
  obtain ⟨f, law⟩ := alone
  intro cs s
  rw [law]

/-- Configurations that know nothing of contexts act alone. -/
lemma alone [Configures β γ] (c : γ) : Alone β c :=
  ⟨Configures.configure c, fun _ _ => rfl⟩

end Acts

namespace Contexts

variable {κ : Type} {β : κ → Type} {γ : Type}

/-- A configuration is one of those that contexts give to new scopes. -/
def Gives (cs : Contexts β γ) (c : γ) : Prop :=
  c ∈ cs.defaults ∨ ∃ row ∈ cs.configurations, c ∈ row.2

lemma gives_of_mem {cs : Contexts β γ} {id : String} {c : γ}
    (mem : c ∈ cs.configurationsFor id) : cs.Gives c := by
  rcases List.mem_append.1 mem with mem | own
  · rcases List.mem_append.1 mem with first | shared
    · exact .inl first
    · obtain ⟨row, kept, mem⟩ := List.mem_flatMap.1 shared
      exact .inr ⟨row, (List.mem_filter.1 kept).1, mem⟩
  · cases found : cs.configurations.get? id with
    | none =>
      rw [found] at own
      cases own
    | some l =>
      rw [found] at own
      exact .inr ⟨(id, l), Table.mem_of_get? found, own⟩

/-- The scope of a context that is in use is the one that is meant. -/
lemma scopeAt?_scopeId (cs : Contexts β γ) (id : String) :
    cs.scopeAt? (cs.scopeId id) = cs.scopes.get? id := by
  rw [scopeAt?, scopeId, List.getElem?_append_right (Nat.le_refl _), Nat.sub_self]
  cases cs.scopes.get? id <;> rfl

variable [Acts β γ] {cs : Contexts β γ} {id : String}

/-- A scope that is there is not made anew. -/
lemma ensure_of_some {s : Scope β} (found : cs.scopes.get? id = some s) : cs.ensure id = cs := by
  rw [ensure, found]

/-- A scope that is taken into use is there. -/
lemma get?_ensure (cs : Contexts β γ) (id : String) :
    (cs.ensure id).scopes.get? id = some (cs.scopeOf id) := by
  have there : ((cs.ensure id).scopes.get? id).isSome = true := by
    unfold ensure
    cases found : cs.scopes.get? id with
    | some s => exact Option.isSome_of_eq_some found
    | none =>
      dsimp only
      cases meanwhile : (cs.make id).1.scopes.get? id with
      | some s => exact Option.isSome_of_eq_some meanwhile
      | none => simp
  obtain ⟨s, found⟩ := Option.isSome_iff_exists.1 there
  rw [scopeOf, found, Option.getD_some]

/-- It stays the one that is there. -/
lemma ensure_ensure (cs : Contexts β γ) (id : String) : (cs.ensure id).ensure id = cs.ensure id :=
  ensure_of_some (cs.get?_ensure id)

lemma scopeOf_of_some {s : Scope β} (found : cs.scopes.get? id = some s) : cs.scopeOf id = s := by
  rw [scopeOf, ensure_of_some found, found, Option.getD_some]

/-- And it is seen as before. -/
lemma scopeOf_ensure (cs : Contexts β γ) (id : String) :
    (cs.ensure id).scopeOf id = cs.scopeOf id :=
  scopeOf_of_some (cs.get?_ensure id)

/-- So is its chain. -/
lemma chain_ensure (cs : Contexts β γ) (id : String) : (cs.ensure id).chain id = cs.chain id := by
  rw [chain, scopeOf_ensure, ensure_ensure, chain]

section

variable (keeps : ∀ c ∈ cs.configurationsFor id, Acts.Keeps β c)

include keeps

/-- Contexts stay as they are while a scope is made by configurations that keep them. -/
lemma make_of_keeps :
    cs.make id = (cs, (cs.configurationsFor id).foldl cs.configured ⟨id, []⟩) := by
  unfold make
  generalize Scope.mk id [] = s
  generalize cs.configurationsFor id = l at keeps
  induction l generalizing s with
  | nil => rfl
  | cons c l ih =>
    have first : Acts.act c cs s = (cs, cs.configured s c) :=
      Prod.ext (keeps c List.mem_cons_self cs s) rfl
    rw [List.foldl_cons]
    dsimp only
    rw [first]
    exact ih _ fun d mem => keeps d (List.mem_cons_of_mem c mem)

/-- A new scope is an empty one on which the configurations were carried out. -/
lemma fresh_of_keeps :
    cs.fresh id = (cs.configurationsFor id).foldl cs.configured ⟨id, []⟩ := by
  rw [fresh, make_of_keeps keeps]

/-- A scope that is missing is made, and nothing else changes. -/
lemma ensure_of_keeps (missing : cs.scopes.get? id = none) :
    cs.ensure id = { cs with scopes := cs.scopes.put id (cs.fresh id) } := by
  rw [ensure, missing, fresh, make_of_keeps keeps]
  dsimp only
  rw [missing]

/-- The scope of a context is the one that is there, or else a new one. -/
lemma scopeOf_of_keeps : cs.scopeOf id = (cs.scopes.get? id).getD (cs.fresh id) := by
  cases found : cs.scopes.get? id with
  | some s => rw [scopeOf_of_some found, Option.getD_some]
  | none =>
    rw [scopeOf, ensure_of_keeps keeps found, Table.get?_put, if_pos rfl, Option.getD_some,
      Option.getD_none]

/-- All but the scopes stays when a scope is taken into use. -/
lemma ensure_eq_of_keeps : ∃ scopes, cs.ensure id = { cs with scopes } ∧
    ∀ name, scopes.get? name =
      if name = id then some (cs.scopeOf name) else cs.scopes.get? name := by
  cases found : cs.scopes.get? id with
  | some s =>
    refine ⟨cs.scopes, ensure_of_some found, fun name => ?_⟩
    split
    next same => rw [same, found, scopeOf_of_some found]
    next => rfl
  | none =>
    refine ⟨_, ensure_of_keeps keeps found, fun name => ?_⟩
    rw [Table.get?_put]
    split
    next same => rw [same, scopeOf_of_keeps keeps, found, Option.getD_none]
    next => rfl

/-- So the chain of a context ends with the shared scope as it is. -/
lemma chain_of_keeps : cs.chain id = ⟨cs.scopeOf id, [cs.shared]⟩ := by
  obtain ⟨scopes, eq, -⟩ := ensure_eq_of_keeps keeps
  rw [chain, eq]

/-- And the catalog stays. -/
lemma catalog_of_keeps : (cs.ensure id).catalog = cs.catalog := by
  obtain ⟨scopes, eq, -⟩ := ensure_eq_of_keeps keeps
  rw [eq]

end

/-- A configuration that acts alone does the same whatever else there is. -/
lemma configured_congr {c : γ} (alone : Acts.Alone β c) {cs' : Contexts β γ}
    (shared : cs'.shared = cs.shared) (s : Scope β) : cs'.configured s c = cs.configured s c := by
  obtain ⟨f, law⟩ := alone
  rw [configured, configured, law, law, shared]

/-- So do several together. -/
lemma foldl_configured_congr {l : List γ} (alone : ∀ c ∈ l, Acts.Alone β c) {cs' : Contexts β γ}
    (shared : cs'.shared = cs.shared) (s : Scope β) :
    l.foldl cs'.configured s = l.foldl cs.configured s :=
  List.foldl_ext _ _ _ fun s c mem => configured_congr (alone c mem) shared s

/-- And those for a new scope. -/
lemma fresh_congr (alone : ∀ c ∈ cs.configurationsFor id, Acts.Alone β c) {cs' : Contexts β γ}
    (shared : cs'.shared = cs.shared) (same : cs'.configurationsFor id = cs.configurationsFor id) :
    cs'.fresh id = cs.fresh id := by
  rw [fresh_of_keeps fun c mem => (alone c mem).keeps,
    fresh_of_keeps fun c mem => (alone c (same ▸ mem)).keeps, same]
  exact foldl_configured_congr alone shared _

/-- A configuration that acts alone changes the scope on which it is carried out, and nothing
else. -/
lemma carryOut_of_alone {c : γ} (alone : Acts.Alone β c) (cs : Contexts β γ) (id : String) :
    ∃ scopes, carryOut c cs (cs.scopeId id) = { cs with scopes } ∧ ∀ name, scopes.get? name =
      (cs.scopes.get? name).map fun s => if name = id then cs.configured s c else s := by
  unfold carryOut
  rw [scopeAt?_scopeId]
  cases found : cs.scopes.get? id with
  | none =>
    refine ⟨cs.scopes, rfl, fun name => ?_⟩
    by_cases same : name = id
    · rw [same, found, Option.map_none]
    · simp only [if_neg same, Option.map_id']
  | some s =>
    have eq : Acts.act c cs s = (cs, cs.configured s c) := Prod.ext (alone.keeps cs s) rfl
    refine ⟨cs.scopes.put id (cs.configured s c), ?_, fun name => ?_⟩
    · simp only [eq, setScope]
      exact if_pos rfl
    · rw [Table.get?_put]
      by_cases same : name = id
      · simp only [same, found, Option.map_some, if_true]
      · simp only [if_neg same, Option.map_id']

/-- It may be carried out on several scopes, each of them once. -/
lemma foldl_carryOut_of_alone {c : γ} (alone : Acts.Alone β c) {ids : List String}
    (distinct : ids.Nodup) (cs : Contexts β γ) :
    ∃ scopes, (ids.map cs.scopeId).foldl (carryOut c) cs = { cs with scopes } ∧
      ∀ name, scopes.get? name =
        (cs.scopes.get? name).map fun s => if name ∈ ids then cs.configured s c else s := by
  induction ids generalizing cs with
  | nil => exact ⟨cs.scopes, rfl, fun name => by simp⟩
  | cons id ids ih =>
    obtain ⟨new, distinct⟩ := List.nodup_cons.1 distinct
    obtain ⟨scopes, eq, first⟩ := carryOut_of_alone alone cs id
    obtain ⟨scopes', eq', rest⟩ := ih distinct { cs with scopes }
    refine ⟨scopes', ?_, fun name => ?_⟩
    · rw [List.map_cons, List.foldl_cons, eq]
      exact eq'
    · have shared : ({ cs with scopes } : Contexts β γ).shared = cs.shared := rfl
      have same := configured_congr alone shared
      rw [rest, first, Option.map_map]
      congr 1
      funext s
      by_cases here : name = id
      · subst here
        simp [new]
      · simp [here, same]

lemma nodup_eraseDups {α : Type} [BEq α] [LawfulBEq α] : ∀ l : List α, l.eraseDups.Nodup
  | [] => .nil
  | a :: l => by
    rw [List.eraseDups_cons, List.nodup_cons]
    exact ⟨by simp, nodup_eraseDups _⟩
termination_by l => l.length
decreasing_by exact Nat.lt_succ_of_le (List.length_filter_le _ _)

/-- An added configuration that acts alone is carried out at once on the scopes that it concerns,
and all else stays. -/
lemma addConfiguration_of_alone {c : γ} (alone : Acts.Alone β c) (cs : Contexts β γ)
    (name : String) : ∃ scopes,
      cs.addConfiguration name c =
        { cs with
          configurations :=
            cs.configurations.put name ((cs.configurations.get? name).getD [] ++ [c])
          scopes } ∧
      ∀ id, scopes.get? id =
        (cs.scopes.get? id).map fun s => if concerns name id then cs.configured s c else s := by
  let cs' : Contexts β γ :=
    { cs with
      configurations := cs.configurations.put name ((cs.configurations.get? name).getD [] ++ [c]) }
  obtain ⟨scopes, eq, found⟩ := foldl_carryOut_of_alone alone
    (nodup_eraseDups (cs.contextIds.filter (concerns name))) cs'
  refine ⟨scopes, eq, fun id => (found id).trans ?_⟩
  have shared : cs'.shared = cs.shared := rfl
  have same := configured_congr alone shared
  cases there : cs.scopes.get? id with
  | none => simp [cs']
  | some s =>
    have known : id ∈ cs.contextIds := List.mem_map.2 ⟨(id, s), Table.mem_of_get? there, rfl⟩
    simp [cs', known, same]

/-- All configurations that contexts give act alone. -/
def AllAlone (cs : Contexts β γ) : Prop := ∀ c, cs.Gives c → Acts.Alone β c

namespace AllAlone

/-- So do those for a new scope. -/
lemma of_mem (all : cs.AllAlone) : ∀ c ∈ cs.configurationsFor id, Acts.Alone β c :=
  fun c mem => all c (gives_of_mem mem)

lemma keeps (all : cs.AllAlone) : ∀ c ∈ cs.configurationsFor id, Acts.Keeps β c :=
  fun c mem => (all.of_mem c mem).keeps

/-- Configurations may be replaced by others that act alone. -/
lemma replaceConfigurations (all : cs.AllAlone) {l : List γ} (alone : ∀ c ∈ l, Acts.Alone β c) :
    (cs.replaceConfigurations id l).AllAlone := by
  rintro c (first | ⟨row, mem, own⟩)
  · exact all c (.inl first)
  · simp only [Contexts.replaceConfigurations] at mem
    split at mem
    · exact all c (.inr ⟨row, (List.mem_filter.1 mem).1, own⟩)
    · rcases Table.mem_of_mem_put mem with rfl | mem
      · exact alone c own
      · exact all c (.inr ⟨row, mem, own⟩)

/-- One more that acts alone may be added. -/
lemma addConfiguration (all : cs.AllAlone) {name : String} {c : γ} (alone : Acts.Alone β c) :
    (cs.addConfiguration name c).AllAlone := by
  obtain ⟨scopes, eq, -⟩ := addConfiguration_of_alone alone cs name
  rw [eq]
  rintro d (first | ⟨row, mem, own⟩)
  · exact all d (.inl first)
  · rcases Table.mem_of_mem_put mem with rfl | mem
    · rcases List.mem_append.1 own with before | last
      · cases found : cs.configurations.get? name with
        | none =>
          rw [found] at before
          cases before
        | some l =>
          rw [found] at before
          exact all d (.inr ⟨(name, l), Table.mem_of_get? found, before⟩)
      · rwa [List.mem_singleton.1 last]
    · exact all d (.inr ⟨row, mem, own⟩)

end AllAlone
end Contexts
end ServiceClient
