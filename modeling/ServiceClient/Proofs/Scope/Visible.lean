import Mathlib.Data.List.Nodup
import ServiceClient.Proofs.Scope.History

/-!
# What is seen in a chain of scopes

`visible` lists the components of a kind that no nearer one of their name hides, scope by scope, and
`findAll_eq_visible` says that a chain finds just these. They are put in order by a sort that leaves
components of the same order in their places: `Arranged` says what this means.
-/

namespace ServiceClient

/-- Components in the order that they tell; those of the same order stay in their places. -/
structure Arranged {α : Type} (found arranged : List (Component α)) : Prop where
  rising : arranged.Pairwise fun x y => x.order ≤ y.order
  inPlace : ∀ o, arranged.filter (·.order = o) = found.filter (·.order = o)

/-- Sorting by order arranges components. -/
lemma arranged_mergeSort {α : Type} (found : List (Component α)) :
    Arranged found (found.mergeSort fun a b => decide (a.order ≤ b.order)) := by
  have trans : ∀ a b c : Component α, decide (a.order ≤ b.order) = true →
      decide (b.order ≤ c.order) = true → decide (a.order ≤ c.order) = true := by
    simp only [decide_eq_true_eq]
    intro a b c
    exact Int.le_trans
  have total : ∀ a b : Component α,
      (decide (a.order ≤ b.order) || decide (b.order ≤ a.order)) = true := by
    intro a b
    simpa using Int.le_total a.order b.order
  refine ⟨(List.pairwise_mergeSort trans total found).imp of_decide_eq_true, fun o => ?_⟩
  -- those of one order keep their places, and no others join them
  have tied : (found.filter (·.order = o)).Pairwise fun a b =>
      decide (a.order ≤ b.order) = true := by
    refine List.pairwise_of_forall_mem_list fun a mem b mem' => ?_
    have here : a.order = o := by simpa using (List.mem_filter.1 mem).2
    have there : b.order = o := by simpa using (List.mem_filter.1 mem').2
    simp [here, there]
  have kept := (List.sublist_mergeSort trans total tied List.filter_sublist).filter (·.order = o)
  rw [List.filter_filter] at kept
  simp only [Bool.and_self] at kept
  exact (kept.eq_of_length ((List.mergeSort_perm found _).filter _).length_eq.symm).symm

variable {κ : Type} [DecidableEq κ] {β : κ → Type}

/-- Components of one kind bear different names in a scope. -/
lemma Scope.Unique.nodup_names {s : Scope β} (unique : s.Unique) (k : κ) :
    ((s.findAllLocal k).map (·.name)).Nodup := by
  unfold Scope.Unique List.Nodup at unique
  rw [List.pairwise_map] at unique
  rw [List.Nodup, List.pairwise_map, findAllLocal, List.pairwise_filterMap]
  refine unique.imp fun {e e'} differ c found c' found' same => differ ?_
  cases Entry.ofKind?_eq_some.1 found
  cases Entry.ofKind?_eq_some.1 found'
  exact Prod.ext rfl same

namespace Chain

/-- The components of a kind that are seen in several scopes, the nearest one first: a component
hides those of its name that are farther away. -/
def visible (k : κ) : List (Scope β) → List (Component (β k))
  | [] => []
  | s :: above =>
    s.findAllLocal k ++ (visible k above).filter fun c => (s.findAllLocal k).all (·.name != c.name)

/-- Components of different names are added unless one of their name was there before. -/
lemma foldl_addNew {α : Type} (found cs : List (Component α))
    (distinct : (cs.map (·.name)).Nodup) :
    cs.foldl addNew found = found ++ cs.filter fun c => found.all (·.name != c.name) := by
  induction cs generalizing found with
  | nil => simp
  | cons x cs ih =>
    rw [List.map_cons, List.nodup_cons] at distinct
    rw [List.foldl_cons, ih _ distinct.2, addNew]
    by_cases there : found.any (·.name == x.name) = true
    · have hidden : ¬(found.all (·.name != x.name) = true) := by
        simpa [List.any_eq_true] using there
      rw [if_pos there, List.filter_cons, if_neg hidden]
    · have new : found.all (·.name != x.name) = true := by
        simpa [List.any_eq_true] using there
      rw [if_neg there, List.filter_cons, if_pos new, List.append_assoc, List.singleton_append]
      congr 2
      refine List.filter_congr fun c mem => ?_
      have other : x.name ≠ c.name := fun same =>
        distinct.1 (same ▸ List.mem_map_of_mem mem)
      simp [other]

/-- What is found goes on with what is seen farther away and not hidden by what was found. -/
lemma foldl_findAllLocal (k : κ) (above : List (Scope β)) (unique : ∀ s ∈ above, s.Unique)
    (found : List (Component (β k))) :
    above.foldl (fun found s => (s.findAllLocal k).foldl addNew found) found =
      found ++ (visible k above).filter fun c => found.all (·.name != c.name) := by
  induction above generalizing found with
  | nil => simp [visible]
  | cons s above ih =>
    rw [List.foldl_cons, foldl_addNew _ _ ((unique s List.mem_cons_self).nodup_names k),
      ih (fun s mem => unique s (List.mem_cons_of_mem _ mem)), visible, List.filter_append,
      List.filter_filter, List.append_assoc]
    congr 2
    refine List.filter_congr fun c _ => ?_
    -- a component of the scope that is hidden itself hides nothing more
    rw [Bool.eq_iff_iff]
    simp only [List.all_append, Bool.and_eq_true, List.all_eq_true, List.mem_filter, and_imp]
    constructor
    · rintro ⟨before, here⟩
      refine ⟨before, fun x mem => ?_⟩
      by_cases same : x.name = c.name
      · exact here x mem fun y mem' => same ▸ before y mem'
      · simpa using same
    · rintro ⟨before, here⟩
      exact ⟨before, fun x mem _ => here x mem⟩

/-- A chain finds the components that are seen in its scopes. -/
lemma findAll_eq_visible (c : Chain β) (k : κ) (unique : ∀ s ∈ c.above, s.Unique) :
    c.findAll k = visible k c.scopes :=
  foldl_findAllLocal k c.above unique _

end Chain
end ServiceClient
