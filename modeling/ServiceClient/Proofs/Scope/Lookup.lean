import Mathlib.Tactic.Lemma
import ServiceClient.Scope.Chain

/-!
# What lookups see

Every lookup in a scope can be told from `findAllLocal`, the components of each kind in the order of
their registration. Scopes that agree on these lists are called `Alike`; the lemmas about `Alike`
scopes and chains say that no lookup tells them apart.
-/

namespace ServiceClient

variable {κ : Type} [DecidableEq κ] {β : κ → Type}

namespace Entry

/-- An entry gives its component to a lookup of its own kind. -/
@[simp] lemma ofKind?_mk {k : κ} (c : Component (β k)) : (⟨k, c⟩ : Entry β).ofKind? k = some c := by
  simp [ofKind?]

/-- An entry gives nothing to a lookup of another kind. -/
lemma ofKind?_of_ne {k : κ} {e : Entry β} (ne : e.kind ≠ k) : e.ofKind? k = none := by
  simp [ofKind?, ne]

/-- Only an entry of the kind asked for gives a component. -/
lemma ofKind?_eq_some {k : κ} {e : Entry β} {c : Component (β k)} :
    e.ofKind? k = some c ↔ e = ⟨k, c⟩ := by
  constructor
  · obtain ⟨k', c'⟩ := e
    intro eq
    by_cases same : k' = k
    · subst same
      simp only [ofKind?_mk, Option.some.injEq] at eq
      rw [eq]
    · rw [ofKind?_of_ne same] at eq
      cases eq
  · rintro rfl
    exact ofKind?_mk c

/-- An entry gives a component to a lookup of a kind exactly when it is of this kind. -/
lemma ofKind?_isSome {k : κ} {e : Entry β} : (e.ofKind? k).isSome ↔ e.kind = k := by
  unfold ofKind?
  split <;> simp [*]

/-- The component of an entry bears the name of the entry. -/
lemma name_of_ofKind? {k : κ} {e : Entry β} {c : Component (β k)} (eq : e.ofKind? k = some c) :
    c.name = e.name := by
  cases ofKind?_eq_some.1 eq
  rfl

end Entry

namespace Scope

/-- A component that is found by its name bears it. -/
lemma name_of_findNamedLocal? {s : Scope β} {k : κ} {n : String} {c : Component (β k)}
    (eq : s.findNamedLocal? k n = some c) : c.name = n := by
  obtain ⟨e, mem, eq⟩ := List.exists_of_findSome?_eq_some eq
  have named := (List.mem_filter.1 mem).2
  rw [Entry.name_of_ofKind? eq]
  exact eq_of_beq named

/-- The component that was registered last stands at the end. -/
lemma findLocal?_eq_getLast? (s : Scope β) (k : κ) :
    s.findLocal? k = (s.findAllLocal k).getLast? := by
  rw [findLocal?, findAllLocal, ← List.head?_filterMap, List.filterMap_reverse, List.head?_reverse]

/-- A component of a name is found among those of its kind, from the end. -/
lemma findNamedLocal?_eq_find? (s : Scope β) (k : κ) (n : String) :
    s.findNamedLocal? k n = (s.findAllLocal k).reverse.find? (·.name == n) := by
  unfold findNamedLocal? findAllLocal
  rw [← List.filterMap_reverse]
  induction s.entries.reverse with
  | nil => rfl
  | cons e es ih =>
    cases found : e.ofKind? k with
    | none =>
      rw [List.filterMap_cons_none found, ← ih, List.filter_cons]
      split
      · rw [List.findSome?_cons, found]
      · rfl
    | some c =>
      rw [List.filterMap_cons_some found, List.find?_cons, ← ih, List.filter_cons,
        Entry.name_of_ofKind? found]
      cases e.name == n with
      | true => rw [if_pos rfl, List.findSome?_cons, found]
      | false => rfl

/-- A component is found when an entry is of its kind. -/
lemma findLocal?_isSome {s : Scope β} {k : κ} :
    (s.findLocal? k).isSome ↔ ∃ e ∈ s.entries, e.kind = k := by
  simp [findLocal?, List.findSome?_isSome_iff, Entry.ofKind?_isSome]

/-- It is found by its name when such an entry bears the name. -/
lemma findNamedLocal?_isSome {s : Scope β} {k : κ} {n : String} :
    (s.findNamedLocal? k n).isSome ↔ ∃ e ∈ s.entries, e.kind = k ∧ e.name = n := by
  simp [findNamedLocal?, List.findSome?_isSome_iff, Entry.ofKind?_isSome, and_assoc,
    and_comm (a := _ = k)]

omit [DecidableEq κ] in
/-- A scope knows a name when an entry bears it. -/
lemma kindOf?_isSome_iff {s : Scope β} {n : String} :
    (s.kindOf? n).isSome ↔ ∃ e ∈ s.entries, e.name = n := by
  simp [kindOf?, List.find?_isSome]

/-- It does so when a component of some kind bears the name. -/
lemma kindOf?_isSome {s : Scope β} {n : String} :
    (s.kindOf? n).isSome ↔ ∃ k, ∃ c ∈ s.findAllLocal k, c.name = n := by
  rw [kindOf?_isSome_iff]
  constructor
  · rintro ⟨⟨k, c⟩, mem, named⟩
    exact ⟨k, c, List.mem_filterMap.2 ⟨⟨k, c⟩, mem, Entry.ofKind?_mk c⟩, named⟩
  · rintro ⟨k, c, mem, named⟩
    obtain ⟨e, mem, eq⟩ := List.mem_filterMap.1 mem
    exact ⟨e, mem, (Entry.name_of_ofKind? eq).symm.trans named⟩

/-- Scopes that hold the same components of each kind, in the same order. -/
def Alike (s t : Scope β) : Prop :=
  ∀ k, s.findAllLocal k = t.findAllLocal k

namespace Alike

variable {s t : Scope β}

lemma refl (s : Scope β) : s.Alike s := fun _ => rfl

/-- The same component was registered last. -/
lemma findLocal? (alike : s.Alike t) (k : κ) : s.findLocal? k = t.findLocal? k := by
  rw [findLocal?_eq_getLast?, findLocal?_eq_getLast?, alike k]

/-- The same component is found by its name. -/
lemma findNamedLocal? (alike : s.Alike t) (k : κ) (n : String) :
    s.findNamedLocal? k n = t.findNamedLocal? k n := by
  rw [findNamedLocal?_eq_find?, findNamedLocal?_eq_find?, alike k]

/-- The same names are known, though perhaps under other kinds first. -/
lemma kindOf?_isSome (alike : s.Alike t) (n : String) :
    (s.kindOf? n).isSome = (t.kindOf? n).isSome := by
  rw [Bool.eq_iff_iff, Scope.kindOf?_isSome, Scope.kindOf?_isSome]
  constructor
  · rintro ⟨k, c, mem, named⟩
    exact ⟨k, c, alike k ▸ mem, named⟩
  · rintro ⟨k, c, mem, named⟩
    exact ⟨k, c, alike k ▸ mem, named⟩

end Alike
end Scope

/-- Whether a name is known, but under another kind. -/
def ScopeError.isMismatch : ScopeError κ → Bool
  | typeMismatch .. => true
  | notFound .. => false

namespace Chain

/-- A component that is found by its name in a chain bears it. -/
lemma name_of_findNamed {c : Chain β} {k : κ} {n : String} {x : Component (β k)}
    (eq : c.findNamed k n = .ok x) : x.name = n := by
  unfold findNamed at eq
  split at eq
  next y found =>
    cases eq
    obtain ⟨s, -, eq⟩ := List.exists_of_findSome?_eq_some found
    exact Scope.name_of_findNamedLocal? eq
  next => cases eq

/-- Some scope of a chain holds a component of a kind. -/
def Holds (c : Chain β) (k : κ) : Prop :=
  ∃ s ∈ c.scopes, ∃ e ∈ s.entries, e.kind = k

/-- Some scope of a chain holds a component of a kind under a name. -/
def HoldsNamed (c : Chain β) (k : κ) (n : String) : Prop :=
  ∃ s ∈ c.scopes, ∃ e ∈ s.entries, e.kind = k ∧ e.name = n

/-- Some scope of a chain holds a component under a name, of whatever kind. -/
def Knows (c : Chain β) (n : String) : Prop :=
  ∃ s ∈ c.scopes, ∃ e ∈ s.entries, e.name = n

instance (c : Chain β) (k : κ) : Decidable (c.Holds k) :=
  inferInstanceAs (Decidable (∃ s ∈ c.scopes, ∃ e ∈ s.entries, e.kind = k))

instance (c : Chain β) (k : κ) (n : String) : Decidable (c.HoldsNamed k n) :=
  inferInstanceAs (Decidable (∃ s ∈ c.scopes, ∃ e ∈ s.entries, e.kind = k ∧ e.name = n))

instance (c : Chain β) (n : String) : Decidable (c.Knows n) :=
  inferInstanceAs (Decidable (∃ s ∈ c.scopes, ∃ e ∈ s.entries, e.name = n))

/-- A component is found exactly when the chain holds one of its kind. -/
lemma find?_isSome {c : Chain β} {k : κ} : (c.find? k).isSome ↔ c.Holds k := by
  simp only [find?, List.findSome?_isSome_iff, Scope.findLocal?_isSome, Holds]

/-- A component is found by its name exactly when the chain holds it. -/
lemma exists_findNamed_ok {c : Chain β} {k : κ} {n : String} :
    (∃ x, c.findNamed k n = .ok x) ↔ c.HoldsNamed k n := by
  have found : (c.scopes.findSome? (·.findNamedLocal? k n)).isSome ↔ c.HoldsNamed k n := by
    simp only [List.findSome?_isSome_iff, Scope.findNamedLocal?_isSome, HoldsNamed]
  rw [← found, findNamed]
  cases c.scopes.findSome? (·.findNamedLocal? k n) <;> simp

/-- A component that is missed is said to be of another kind exactly when its name is known. -/
lemma isMismatch_of_findNamed {c : Chain β} {k : κ} {n : String} {e : ScopeError κ}
    (missed : c.findNamed k n = .error e) : e.isMismatch = true ↔ c.Knows n := by
  let report (s : Scope β) : Option (ScopeError κ) :=
    (s.kindOf? n).map fun registered => .typeMismatch k registered n s.name
  have known : (c.scopes.findSome? report).isSome ↔ c.Knows n := by
    simp only [report, List.findSome?_isSome_iff, Option.isSome_map, Scope.kindOf?_isSome_iff,
      Knows]
  rw [← known]
  unfold findNamed at missed
  split at missed
  next => cases missed
  next =>
    cases missed
    change ((c.scopes.findSome? report).getD _).isMismatch = true ↔ _
    cases told : c.scopes.findSome? report with
    | none => simp [ScopeError.isMismatch]
    | some e =>
      -- what is told by some scope is a mismatch
      obtain ⟨s, -, eq⟩ := List.exists_of_findSome?_eq_some told
      obtain ⟨registered, -, rfl⟩ := Option.map_eq_some_iff.1 eq
      simp [ScopeError.isMismatch]

/-- Chains of alike scopes below the same scopes. -/
structure Alike (c d : Chain β) : Prop where
  nearest : c.nearest.Alike d.nearest
  above : c.above = d.above

namespace Alike

variable {c d : Chain β}

/-- The same component is found. -/
lemma find? (alike : c.Alike d) (k : κ) : c.find? k = d.find? k := by
  rw [Chain.find?, Chain.find?, scopes, scopes, List.findSome?_cons, List.findSome?_cons,
    alike.nearest.findLocal?, alike.above]

/-- So it is when the chain is cut. -/
lemma lookup (alike : c.Alike d) (inherit : Bool) (k : κ) :
    c.lookup inherit k = d.lookup inherit k := by
  rw [Chain.lookup, Chain.lookup, alike.find?, alike.nearest.findLocal?]

/-- The same components are found, in the same order. -/
lemma lookupAll (alike : c.Alike d) (inherit : Bool) (k : κ) :
    c.lookupAll inherit k = d.lookupAll inherit k := by
  rw [Chain.lookupAll, Chain.lookupAll, findAll, findAll, alike.nearest k, alike.above]

/-- What is found by its name is found in both, and what is not is missed for the same reason. -/
lemma findNamed (alike : c.Alike d) (k : κ) (n : String) :
    (∃ x, c.findNamed k n = .ok x ∧ d.findNamed k n = .ok x) ∨
      ∃ e e', c.findNamed k n = .error e ∧ d.findNamed k n = .error e' ∧
        e.isMismatch = e'.isMismatch := by
  have same : c.scopes.findSome? (·.findNamedLocal? k n) =
      d.scopes.findSome? (·.findNamedLocal? k n) := by
    rw [scopes, scopes, List.findSome?_cons, List.findSome?_cons, alike.nearest.findNamedLocal?,
      alike.above]
  cases found : d.scopes.findSome? (·.findNamedLocal? k n) with
  | some x =>
    rw [found] at same
    exact .inl ⟨x, by rw [Chain.findNamed, same], by rw [Chain.findNamed, found]⟩
  | none =>
    rw [found] at same
    refine .inr ⟨_, _, by rw [Chain.findNamed, same], by rw [Chain.findNamed, found], ?_⟩
    -- the scopes above are the same; in the nearest ones the name may be known under two kinds
    rw [scopes, scopes, List.findSome?_cons, List.findSome?_cons, ← alike.above]
    have known := alike.nearest.kindOf?_isSome n
    cases here : c.nearest.kindOf? n <;> cases there : d.nearest.kindOf? n <;>
      simp only [here, there, Option.isSome_none, Option.isSome_some, Bool.false_eq_true,
        Bool.true_eq_false] at known
    · simp only [Option.map_none]
      cases c.above.findSome? _ <;> rfl
    · rfl

end Alike
end Chain
end ServiceClient
