import Mathlib.Data.List.Infix
import ServiceClient.Proofs.Scope.Visible

/-!
# The nearest scope

The lookups of a chain are walks of their own, but they follow one rule: what a nearer scope has
under a kind and a name hides what is farther away. `IsNearest` names the scope that counts,
`contribution` what a scope shows beside the nearer ones, and `Missed` why a name is not found.
`lookups_agree` tells all lookups of a chain by these three.
-/

namespace ServiceClient

variable {κ : Type} [DecidableEq κ] {β : κ → Type}

namespace Scope

/-- A scope has a component of a kind under a name. -/
def HoldsNamed (k : κ) (n : String) (s : Scope β) : Prop :=
  ∃ e ∈ s.entries, e.kind = k ∧ e.name = n

instance (k : κ) (n : String) (s : Scope β) : Decidable (s.HoldsNamed k n) :=
  inferInstanceAs (Decidable (∃ e ∈ s.entries, e.kind = k ∧ e.name = n))

/-- A scope has a component under a name, of whatever kind. -/
def Knows (n : String) (s : Scope β) : Prop :=
  ∃ e ∈ s.entries, e.name = n

/-- The entry of a name that was registered last. -/
def lastNamed? (s : Scope β) (n : String) : Option (Entry β) :=
  (s.entries.filter (·.name == n)).getLast?

lemma mem_findAllLocal {s : Scope β} {k : κ} {x : Component (β k)} :
    x ∈ s.findAllLocal k ↔ ⟨k, x⟩ ∈ s.entries := by
  unfold findAllLocal
  rw [List.mem_filterMap]
  constructor
  · rintro ⟨e, mem, eq⟩
    cases Entry.ofKind?_eq_some.1 eq
    exact mem
  · intro mem
    exact ⟨⟨k, x⟩, mem, Entry.ofKind?_mk x⟩

/-- What is found by its name is the entry of this kind and name. -/
lemma Unique.findNamedLocal?_eq_some {s : Scope β} (unique : s.Unique) {k : κ} {n : String}
    {x : Component (β k)} :
    s.findNamedLocal? k n = some x ↔ ⟨k, x⟩ ∈ s.entries ∧ x.name = n := by
  rw [findNamedLocal?_eq_find?]
  constructor
  · intro found
    have mem := List.mem_reverse.1 (List.mem_of_find?_eq_some found)
    have named := List.find?_some found
    exact ⟨mem_findAllLocal.1 mem, eq_of_beq named⟩
  · rintro ⟨mem, named⟩
    have mem' : x ∈ s.findAllLocal k := mem_findAllLocal.2 mem
    cases found : (s.findAllLocal k).reverse.find? (·.name == n) with
    | none =>
      have other := List.find?_eq_none.1 found x (List.mem_reverse.2 mem')
      exact absurd (beq_iff_eq.2 named) other
    | some y =>
      have there := List.mem_reverse.1 (List.mem_of_find?_eq_some found)
      have here := List.find?_some found
      have same : y.name = x.name := (eq_of_beq here).trans named.symm
      rw [List.inj_on_of_nodup_map (unique.nodup_names k) there mem' same]

omit [DecidableEq κ] in
/-- The kind that is told for a name is that of the entry registered last. -/
lemma kindOf?_eq_map (s : Scope β) (n : String) : s.kindOf? n = (s.lastNamed? n).map (·.kind) := by
  unfold kindOf? lastNamed?
  rw [← List.head?_filter, List.filter_reverse, List.head?_reverse]

/-- What is told of a scope that knows a name, when a component of another kind was asked for. -/
def mismatch? (k : κ) (n : String) (s : Scope β) : Option (ScopeError κ) :=
  (s.lastNamed? n).map fun e => .typeMismatch k e.kind n s.name

omit [DecidableEq κ] in
/-- Something is told of each scope that knows the name. -/
lemma mismatch?_isSome {s : Scope β} {k : κ} {n : String} :
    (s.mismatch? k n).isSome ↔ s.Knows n := by
  rw [mismatch?, Option.isSome_map, Knows, ← kindOf?_isSome_iff, kindOf?_eq_map, Option.isSome_map]

omit [DecidableEq κ] in
/-- And nothing of the others. -/
lemma mismatch?_eq_none {s : Scope β} {k : κ} {n : String} :
    s.mismatch? k n = none ↔ ¬s.Knows n := by
  rw [← mismatch?_isSome, Option.not_isSome_iff_eq_none]

end Scope

namespace Chain

/-- The nearest scope of a chain for which `p` holds. -/
def IsNearest (c : Chain β) (p : Scope β → Prop) (s : Scope β) : Prop :=
  ∃ nearer farther, c.scopes = nearer ++ s :: farther ∧ p s ∧ ∀ t ∈ nearer, ¬p t

/-- What a scope shows beside the nearer ones: its components of a kind, as they were registered,
whose names none of the others has. -/
def contribution (k : κ) (nearer : List (Scope β)) (s : Scope β) : List (Component (β k)) :=
  (s.findAllLocal k).filter fun x => ∀ t ∈ nearer, ¬t.HoldsNamed k x.name

/-- Why a chain finds nothing under a kind and a name. -/
inductive Missed (c : Chain β) (k : κ) (n : String) : ScopeError κ → Prop where
  | mismatch {s e} :
    ¬c.HoldsNamed k n →
    c.IsNearest (·.Knows n) s →
    s.lastNamed? n = some e →
    Missed c k n (.typeMismatch k e.kind n s.name)
  | unknown :
    ¬c.Knows n →
    Missed c k n (.notFound k n c.nearest.name)

/-- Scopes that began without entries, each with its name and the operations on it. -/
def grown (nearest : String × List (Scope.Operation β))
    (above : List (String × List (Scope.Operation β))) : Chain β where
  nearest := Scope.run ⟨nearest.1, []⟩ nearest.2
  above := above.map fun (name, ops) => Scope.run ⟨name, []⟩ ops

variable {c : Chain β} {k : κ} {n : String}

/-- Operations leave every scope of a chain unique. -/
lemma unique_grown (nearest : String × List (Scope.Operation β))
    (above : List (String × List (Scope.Operation β))) :
    ∀ s ∈ (grown nearest above).scopes, s.Unique := by
  intro s mem
  rcases List.mem_cons.1 mem with rfl | mem
  · exact (Scope.unique_run nearest.1 nearest.2).2
  · obtain ⟨⟨name, ops⟩, -, rfl⟩ := List.mem_map.1 mem
    exact (Scope.unique_run name ops).2

/-- The scopes of a list, each with those before it, are the places where it can be cut. -/
lemma mem_zip_inits {α : Type} {l nearer : List α} {s : α} :
    (nearer, s) ∈ l.inits.zip l ↔ ∃ farther, l = nearer ++ s :: farther := by
  induction l generalizing nearer with
  | nil => simp
  | cons a l ih =>
    rw [List.inits_cons, List.zip_cons_cons, List.mem_cons, List.zip_map_left]
    constructor
    · rintro (here | there)
      · cases here
        exact ⟨l, rfl⟩
      · obtain ⟨⟨nearer', s'⟩, mem, eq⟩ := List.mem_map.1 there
        cases eq
        obtain ⟨farther, rfl⟩ := ih.1 mem
        exact ⟨farther, rfl⟩
    · rintro ⟨farther, eq⟩
      cases nearer with
      | nil =>
        cases eq
        exact .inl rfl
      | cons b nearer =>
        cases eq
        exact .inr (List.mem_map.2 ⟨(nearer, s), ih.2 ⟨farther, rfl⟩, rfl⟩)

/-- A scope in front hides what it has from all that the others show. -/
lemma contribution_cons (k : κ) (s : Scope β) (nearer : List (Scope β)) (t : Scope β) :
    contribution k (s :: nearer) t =
      (contribution k nearer t).filter fun x => (s.findAllLocal k).all (·.name != x.name) := by
  unfold contribution
  rw [List.filter_filter]
  refine List.filter_congr fun x _ => ?_
  have hides : ¬s.HoldsNamed k x.name ↔ ∀ y ∈ s.findAllLocal k, y.name ≠ x.name := by
    constructor
    · intro free y mem same
      exact free ⟨⟨k, y⟩, Scope.mem_findAllLocal.1 mem, rfl, same⟩
    · rintro free ⟨⟨k', y⟩, mem, rfl, same⟩
      exact free y (Scope.mem_findAllLocal.2 mem) same
  rw [Bool.eq_iff_iff]
  simp [hides, and_comm]

/-- What is seen in several scopes is what each of them contributes. -/
lemma visible_eq_flatMap (k : κ) (scopes : List (Scope β)) :
    visible k scopes =
      (scopes.inits.zip scopes).flatMap fun place => contribution k place.1 place.2 := by
  induction scopes with
  | nil => rfl
  | cons s above ih =>
    have first : contribution k [] s = s.findAllLocal k := by simp [contribution]
    rw [visible, ih, List.inits_cons, List.zip_cons_cons, List.flatMap_cons, first,
      List.zip_map_left, List.flatMap_map, List.filter_flatMap]
    congr 1
    refine List.flatMap_congr fun place _ => ?_
    exact (contribution_cons k s place.1 place.2).symm

/-- A component is seen when it is in the nearest scope that has its name. -/
lemma mem_visible {scopes : List (Scope β)} {x : Component (β k)} :
    x ∈ visible k scopes ↔ ∃ nearer s farther, scopes = nearer ++ s :: farther ∧
      ⟨k, x⟩ ∈ s.entries ∧ ∀ t ∈ nearer, ¬t.HoldsNamed k x.name := by
  rw [visible_eq_flatMap, List.mem_flatMap]
  constructor
  · rintro ⟨⟨nearer, s⟩, place, mem⟩
    obtain ⟨farther, eq⟩ := mem_zip_inits.1 place
    obtain ⟨here, free⟩ := List.mem_filter.1 mem
    exact ⟨nearer, s, farther, eq, Scope.mem_findAllLocal.1 here, of_decide_eq_true free⟩
  · rintro ⟨nearer, s, farther, eq, here, free⟩
    refine ⟨(nearer, s), mem_zip_inits.2 ⟨farther, eq⟩, ?_⟩
    exact List.mem_filter.2 ⟨Scope.mem_findAllLocal.2 here, decide_eq_true free⟩

/-- No two components that are seen bear the same name. -/
lemma nodup_visible (k : κ) (scopes : List (Scope β)) (unique : ∀ s ∈ scopes, s.Unique) :
    ((visible k scopes).map (·.name)).Nodup := by
  induction scopes with
  | nil => exact List.nodup_nil
  | cons s above ih =>
    have here := (unique s List.mem_cons_self).nodup_names k
    have there := ih fun t mem => unique t (List.mem_cons_of_mem _ mem)
    rw [visible, List.map_append]
    refine List.nodup_append.2 ⟨here, there.sublist (List.filter_sublist.map _), ?_⟩
    -- what the scope in front has is hidden
    intro n mem n' mem' same
    obtain ⟨x, inFront, rfl⟩ := List.mem_map.1 mem
    obtain ⟨y, behind, rfl⟩ := List.mem_map.1 mem'
    have free := List.all_eq_true.1 (List.mem_filter.1 behind).2 x inFront
    exact (bne_iff_ne.1 free) same

/-- Nothing is seen when no scope has anything to show. -/
lemma visible_eq_nil {scopes : List (Scope β)} :
    visible k scopes = [] ↔ ∀ s ∈ scopes, s.findAllLocal k = [] := by
  induction scopes with
  | nil => simp [visible]
  | cons s above ih =>
    rw [visible, List.append_eq_nil_iff, List.forall_mem_cons, ← ih]
    refine and_congr_right fun none => ?_
    simp [none]

/-- A component is found by its name in the nearest scope that has it. -/
lemma findNamed_ok_iff (unique : ∀ s ∈ c.scopes, s.Unique) {x : Component (β k)} :
    c.findNamed k n = .ok x ↔
      ∃ s, c.IsNearest (·.HoldsNamed k n) s ∧ ⟨k, x⟩ ∈ s.entries ∧ x.name = n := by
  have found : c.findNamed k n = .ok x ↔
      c.scopes.findSome? (·.findNamedLocal? k n) = some x := by
    unfold findNamed
    cases c.scopes.findSome? (·.findNamedLocal? k n) <;> simp
  have free (t : Scope β) : t.findNamedLocal? k n = none ↔ ¬t.HoldsNamed k n := by
    rw [← Option.not_isSome_iff_eq_none, Scope.findNamedLocal?_isSome, Scope.HoldsNamed]
  simp only [found, List.findSome?_eq_some_iff, free]
  constructor
  · rintro ⟨nearer, s, farther, eq, here, hidden⟩
    have mem : s ∈ c.scopes := by simp [eq]
    obtain ⟨entry, named⟩ := (unique s mem).findNamedLocal?_eq_some.1 here
    exact ⟨s, ⟨nearer, farther, eq, ⟨⟨k, x⟩, entry, rfl, named⟩, hidden⟩, entry, named⟩
  · rintro ⟨s, ⟨nearer, farther, eq, -, hidden⟩, entry, named⟩
    have mem : s ∈ c.scopes := by simp [eq]
    exact ⟨nearer, s, farther, eq, (unique s mem).findNamedLocal?_eq_some.2 ⟨entry, named⟩, hidden⟩

/-- So what is seen under a name is what is found by this name. -/
lemma mem_visible_iff_findNamed (unique : ∀ s ∈ c.scopes, s.Unique) {x : Component (β k)} :
    x ∈ visible k c.scopes ∧ x.name = n ↔ c.findNamed k n = .ok x := by
  rw [findNamed_ok_iff unique, mem_visible]
  constructor
  · rintro ⟨⟨nearer, s, farther, eq, entry, free⟩, rfl⟩
    exact ⟨s, ⟨nearer, farther, eq, ⟨⟨k, x⟩, entry, rfl, rfl⟩, free⟩, entry, rfl⟩
  · rintro ⟨s, ⟨nearer, farther, eq, -, free⟩, entry, rfl⟩
    exact ⟨⟨nearer, s, farther, eq, entry, free⟩, rfl⟩

/-- Scopes that have nothing of a kind hide nothing of it. -/
lemma contribution_of_nil {nearer : List (Scope β)} (free : ∀ t ∈ nearer, t.findAllLocal k = [])
    (s : Scope β) : contribution k nearer s = s.findAllLocal k := by
  unfold contribution
  refine List.filter_eq_self.2 fun x _ => decide_eq_true ?_
  rintro t mem ⟨⟨k', y⟩, there, rfl, -⟩
  have shown := Scope.mem_findAllLocal.2 there
  rw [free t mem] at shown
  cases shown

/-- A component is found by its kind when the nearest scope that has any shows it last. -/
lemma find?_eq_some_iff {x : Component (β k)} :
    c.find? k = some x ↔ ∃ nearer s farther, c.scopes = nearer ++ s :: farther ∧
      (∀ t ∈ nearer, t.findAllLocal k = []) ∧ (contribution k nearer s).getLast? = some x := by
  unfold find?
  simp only [Scope.findLocal?_eq_getLast?, List.findSome?_eq_some_iff, List.getLast?_eq_none_iff]
  constructor
  · rintro ⟨nearer, s, farther, eq, last, free⟩
    exact ⟨nearer, s, farther, eq, free, by rw [contribution_of_nil free, last]⟩
  · rintro ⟨nearer, s, farther, eq, free, last⟩
    rw [contribution_of_nil free] at last
    exact ⟨nearer, s, farther, eq, last, free⟩

/-- One is found exactly when any is seen. -/
lemma find?_isSome_iff_visible : (c.find? k).isSome ↔ visible k c.scopes ≠ [] := by
  rw [Option.isSome_iff_ne_none, Ne, Ne, not_iff_not, visible_eq_nil, find?,
    List.findSome?_eq_none_iff]
  simp only [Scope.findLocal?_eq_getLast?, List.getLast?_eq_none_iff]

/-- A chain that has no component of a kind and a name tells of the first scope that knows the
name. -/
lemma findNamed_of_not_holdsNamed (nowhere : ¬c.HoldsNamed k n) : c.findNamed k n =
    .error ((c.scopes.findSome? (·.mismatch? k n)).getD (.notFound k n c.nearest.name)) := by
  have missed : c.scopes.findSome? (·.findNamedLocal? k n) = none := by
    rw [List.findSome?_eq_none_iff]
    intro s mem
    rw [← Option.not_isSome_iff_eq_none, Scope.findNamedLocal?_isSome]
    exact fun here => nowhere ⟨s, mem, here⟩
  unfold findNamed
  rw [missed]
  simp only [Scope.kindOf?_eq_map, Option.map_map, Function.comp_def, Scope.mismatch?]

/-- Nothing else is told than what `Missed` says. -/
lemma findNamed_error_iff {e : ScopeError κ} : c.findNamed k n = .error e ↔ c.Missed k n e := by
  constructor
  · intro missed
    have nowhere : ¬c.HoldsNamed k n := by
      rw [← exists_findNamed_ok]
      rintro ⟨x, found⟩
      rw [missed] at found
      cases found
    rw [findNamed_of_not_holdsNamed nowhere] at missed
    cases missed
    cases told : c.scopes.findSome? (·.mismatch? k n) with
    | none =>
      refine .unknown ?_
      rintro ⟨s, mem, known⟩
      exact Scope.mismatch?_eq_none.1 (List.findSome?_eq_none_iff.1 told s mem) known
    | some e =>
      obtain ⟨nearer, s, farther, eq, here, free⟩ := List.findSome?_eq_some_iff.1 told
      have known : s.Knows n := Scope.mismatch?_isSome.1 (Option.isSome_of_eq_some here)
      obtain ⟨e', last, rfl⟩ := Option.map_eq_some_iff.1 here
      refine .mismatch nowhere ⟨nearer, farther, eq, known, ?_⟩ last
      exact fun t mem => Scope.mismatch?_eq_none.1 (free t mem)
  · intro missed
    cases missed with
    | @mismatch s e nowhere nearest last =>
      obtain ⟨nearer, farther, eq, -, free⟩ := nearest
      have told : c.scopes.findSome? (·.mismatch? k n) =
          some (.typeMismatch k e.kind n s.name) := by
        refine List.findSome?_eq_some_iff.2 ⟨nearer, s, farther, eq, ?_, ?_⟩
        · rw [Scope.mismatch?, last, Option.map_some]
        · exact fun t mem => Scope.mismatch?_eq_none.2 (free t mem)
      rw [findNamed_of_not_holdsNamed nowhere, told, Option.getD_some]
    | unknown unknown =>
      have nowhere : ¬c.HoldsNamed k n := by
        rintro ⟨s, mem, e, here, -, named⟩
        exact unknown ⟨s, mem, e, here, named⟩
      have told : c.scopes.findSome? (·.mismatch? k n) = none := by
        refine List.findSome?_eq_none_iff.2 fun s mem => Scope.mismatch?_eq_none.2 ?_
        exact fun known => unknown ⟨s, mem, known⟩
      rw [findNamed_of_not_holdsNamed nowhere, told, Option.getD_none]

/-- The lookups of a chain agree. All components of a kind are those that each scope shows beside
the nearer ones, the nearest scope first, and no name is there twice; among them are just those that
are found by their names, each in the nearest scope that has it. One is found by its kind alone when
there are any, the last one that the nearest scope with any shows. What is missed under a name is
told of the nearest scope that knows this name, and of the entry that it registered last. -/
theorem lookups_agree (nearest : String × List (Scope.Operation β))
    (above : List (String × List (Scope.Operation β))) (k : κ) :
    let c := grown nearest above
    c.findAll k = (c.scopes.inits.zip c.scopes).flatMap
        (fun place => contribution k place.1 place.2) ∧
      ((c.findAll k).map (·.name)).Nodup ∧
      (∀ n x, x ∈ c.findAll k ∧ x.name = n ↔ c.findNamed k n = .ok x) ∧
      (∀ n x, c.findNamed k n = .ok x ↔
        ∃ s, c.IsNearest (·.HoldsNamed k n) s ∧ ⟨k, x⟩ ∈ s.entries ∧ x.name = n) ∧
      ((c.find? k).isSome ↔ c.findAll k ≠ []) ∧
      (∀ x, c.find? k = some x ↔ ∃ nearer s farther, c.scopes = nearer ++ s :: farther ∧
        (∀ t ∈ nearer, t.findAllLocal k = []) ∧ (contribution k nearer s).getLast? = some x) ∧
      ∀ n e, c.findNamed k n = .error e ↔ c.Missed k n e := by
  intro c
  have unique : ∀ s ∈ c.scopes, s.Unique := unique_grown nearest above
  have seen : c.findAll k = visible k c.scopes :=
    c.findAll_eq_visible k fun s mem => unique s (List.mem_cons_of_mem _ mem)
  rw [seen]
  exact ⟨visible_eq_flatMap k c.scopes, nodup_visible k c.scopes unique,
    fun n x => mem_visible_iff_findNamed unique, fun n x => findNamed_ok_iff unique,
    find?_isSome_iff_visible, fun x => find?_eq_some_iff, fun n e => findNamed_error_iff⟩

end Chain
end ServiceClient
