import Mathlib.Data.List.Induction
import Mathlib.Tactic.Lemma
import ServiceClient.Table

/-!
# Rows of tables

What is found under a name after a row was put into a table or dropped from it. In an `Ordered`
table each row is found under its name.
-/

namespace ServiceClient.Table

variable {α β : Type}

/-- Nothing is found in a table without rows. -/
@[simp] lemma get?_nil (name : String) : get? ([] : Table α) name = none := rfl

/-- The first row counts. -/
lemma get?_cons (n : String) (v : α) (rows : Table α) (name : String) :
    get? ((n, v) :: rows) name = if name = n then some v else get? rows name := by
  unfold get?
  rw [List.lookup_cons]
  by_cases same : name = n
  · simp [same]
  · simp [same, beq_eq_false_iff_ne.2 same]

/-- A row that was put into a table is found, and the others are found as before. -/
@[simp] lemma get?_put (name other : String) (value : α) (t : Table α) :
    (put name value t).get? other = if other = name then some value else t.get? other := by
  induction t with
  | nil => exact get?_cons name value [] other
  | cons row rows ih =>
    obtain ⟨n, v⟩ := row
    unfold put
    split
    next same =>
      subst same
      rw [get?_cons, get?_cons]
      split <;> rfl
    next =>
      split
      · rw [get?_cons]
      next different _ =>
        rw [get?_cons, get?_cons, ih]
        by_cases here : other = n
        · rw [if_pos here, if_pos here, if_neg]
          intro same
          exact different (same.symm.trans here)
        · rw [if_neg here, if_neg here]

/-- Rows for whose keys `p` does not hold are not found when they are left out. -/
lemma lookup_filter {κ : Type} [BEq κ] [LawfulBEq κ] (p : κ → Bool) (rows : List (κ × α)) (k : κ) :
    (rows.filter (p ·.1)).lookup k = if p k then rows.lookup k else none := by
  induction rows with
  | nil => simp
  | cons row rows ih =>
    obtain ⟨k', v⟩ := row
    rw [List.filter_cons, List.lookup_cons]
    by_cases here : k = k'
    · subst here
      cases holds : p k with
      | true => simp
      | false => simp [holds, ih]
    · rw [beq_eq_false_iff_ne.2 here]
      split
      · rw [List.lookup_cons, beq_eq_false_iff_ne.2 here, ih]
      · exact ih

/-- The names of the rows that are left out are not found. -/
lemma get?_filter (p : String → Bool) (t : Table α) (name : String) :
    get? (t.filter (p ·.1)) name = if p name then t.get? name else none :=
  lookup_filter p t name

/-- A dropped row is gone, and the others are found as before. -/
@[simp] lemma get?_drop (t : Table α) (name other : String) :
    (t.drop name).get? other = if other = name then none else t.get? other := by
  have dropped : (t.drop name).get? other = if other != name then t.get? other else none :=
    get?_filter (· != name) t other
  rw [dropped]
  by_cases same : other = name <;> simp [same]

/-- A row is put outside of the rows for whose names `p` does not hold. -/
lemma filter_put {p : String → Bool} {name : String} (out : p name = false) (value : α)
    (t : Table α) : (put name value t).filter (p ·.1) = t.filter (p ·.1) := by
  induction t with
  | nil => simp [put, out]
  | cons row rows ih =>
    obtain ⟨n, v⟩ := row
    unfold put
    split
    next same => simp [← same, out]
    next =>
      split
      · simp [out]
      · rw [List.filter_cons, List.filter_cons, ih]

/-- A row is dropped from outside of the rows for whose names `p` does not hold. -/
lemma filter_drop {p : String → Bool} {name : String} (out : p name = false) (t : Table α) :
    (t.drop name).filter (p ·.1) = t.filter (p ·.1) := by
  rw [drop, List.filter_filter]
  refine List.filter_congr fun row _ => ?_
  by_cases same : row.1 = name
  · simp [same, out]
  · simp [same]

/-- The rows stand in rising order of their names. -/
def Ordered (t : Table α) : Prop := List.Pairwise (fun a b => a.1 < b.1) t

/-- Nothing but the row that is put comes into a table. -/
lemma mem_of_mem_put {name : String} {value : α} {t : Table α} {row : String × α}
    (mem : row ∈ put name value t) : row = (name, value) ∨ row ∈ t := by
  induction t with
  | nil => exact .inl (List.mem_singleton.1 mem)
  | cons first rows ih =>
    obtain ⟨n, v⟩ := first
    unfold put at mem
    split at mem
    · exact (List.mem_cons.1 mem).imp_right (List.mem_cons_of_mem _)
    · split at mem
      · exact List.mem_cons.1 mem
      · rcases List.mem_cons.1 mem with rfl | mem
        · exact .inr List.mem_cons_self
        · exact (ih mem).imp_right (List.mem_cons_of_mem _)

/-- Rows are put into their places. -/
lemma Ordered.put {t : Table α} (ordered : t.Ordered) (name : String) (value : α) :
    (put name value t).Ordered := by
  induction t with
  | nil => exact List.pairwise_singleton _ _
  | cons row rows ih =>
    obtain ⟨n, v⟩ := row
    obtain ⟨first, rest⟩ := List.pairwise_cons.1 ordered
    unfold Table.put
    split
    next same =>
      subst same
      exact List.pairwise_cons.2 ⟨first, rest⟩
    next different =>
      split
      next before =>
        refine List.pairwise_cons.2 ⟨fun row mem => ?_, ordered⟩
        rcases List.mem_cons.1 mem with rfl | mem
        · exact before
        · exact String.lt_trans before (first row mem)
      next behind =>
        have after : n < name := Decidable.byContradiction fun beyond =>
          different (String.le_antisymm (String.not_lt.1 beyond) (String.not_lt.1 behind))
        refine List.pairwise_cons.2 ⟨fun row mem => ?_, ih rest⟩
        rcases mem_of_mem_put mem with rfl | mem
        · exact after
        · exact first row mem

/-- A row is put in front of those with higher names. -/
lemma put_eq_cons {t : Table α} {name : String} (first : ∀ row ∈ t, name < row.1) (value : α) :
    put name value t = (name, value) :: t := by
  cases t with
  | nil => rfl
  | cons row rows =>
    have lower : name < row.1 := first row List.mem_cons_self
    have other : name ≠ row.1 := fun eq => String.lt_irrefl _ (eq ▸ lower)
    unfold put
    rw [if_neg other, if_pos lower]

/-- Where a row is put it does not count whether there was one of its name. -/
lemma Ordered.put_drop {t : Table α} (ordered : t.Ordered) (name : String) (value : α) :
    Table.put name value (t.drop name) = Table.put name value t := by
  have left {rows : Table α} (first : ∀ row ∈ rows, name < row.1) :
      Table.drop rows name = rows := by
    refine List.filter_eq_self.2 fun row mem => ?_
    have other : row.1 ≠ name := fun eq => String.lt_irrefl _ (eq ▸ first row mem)
    simpa using other
  induction t with
  | nil => rfl
  | cons row rows ih =>
    obtain ⟨n, v⟩ := row
    obtain ⟨first, rest⟩ := List.pairwise_cons.1 ordered
    by_cases same : name = n
    · subst same
      -- the first row is dropped, and the others have higher names
      have gone : Table.drop ((name, v) :: rows) name = rows :=
        (List.filter_cons_of_neg (by simp)).trans (left first)
      rw [gone, put_eq_cons first, Table.put, if_pos rfl]
    · have kept : Table.drop ((n, v) :: rows) name = (n, v) :: Table.drop rows name :=
        List.filter_cons_of_pos (by simpa using Ne.symm same)
      rw [kept, Table.put, Table.put, if_neg same, if_neg same, ih rest]
      split
      next before => rw [left fun row mem => String.lt_trans before (first row mem)]
      next => rfl

/-- A row gives way to one of its name. -/
lemma put_put (t : Table α) (name : String) (old value : α) :
    put name value (put name old t) = put name value t := by
  induction t with
  | nil => simp [put]
  | cons row rows ih =>
    obtain ⟨n, v⟩ := row
    by_cases same : name = n
    · simp [put, same]
    · by_cases before : name < n
      · simp [put, same, before]
      · simp [put, same, before, ih]

/-- No other row of an ordered table has the name of a row. -/
lemma Ordered.get?_of_mem {t : Table α} (ordered : t.Ordered) {name : String} {value : α}
    (mem : (name, value) ∈ t) : t.get? name = some value := by
  induction t with
  | nil => cases mem
  | cons row rows ih =>
    obtain ⟨n, v⟩ := row
    obtain ⟨first, rest⟩ := List.pairwise_cons.1 ordered
    rw [get?_cons]
    rcases List.mem_cons.1 mem with here | there
    · cases here
      rw [if_pos rfl]
    · have other : name ≠ n := by
        rintro rfl
        exact String.lt_irrefl name (first _ there)
      rw [if_neg other, ih rest there]

/-- What is found under a name stands in a row of this name. -/
lemma mem_of_get? {t : Table α} {name : String} {value : α} (found : t.get? name = some value) :
    (name, value) ∈ t := by
  obtain ⟨before, after, rfl, -⟩ := List.lookup_eq_some_iff.1 found
  exact List.mem_append_right _ List.mem_cons_self

/-- Rows that are left keep their order. -/
lemma Ordered.drop {t : Table α} (ordered : t.Ordered) (name : String) : (t.drop name).Ordered :=
  List.Pairwise.filter _ ordered

/-- One more row is put behind the others. -/
lemma ofRows_concat (rows : List (String × α)) (row : String × α) :
    ofRows (rows ++ [row]) = put row.1 row.2 (ofRows rows) := by
  rw [ofRows, List.foldl_append]
  rfl

/-- The rows of a table are among those it was made of. -/
lemma mem_of_mem_ofRows {rows : List (String × α)} {row : String × α} (mem : row ∈ ofRows rows) :
    row ∈ rows := by
  induction rows using List.reverseRecOn with
  | nil => cases mem
  | append_singleton rows last ih =>
    rw [ofRows_concat] at mem
    rcases mem_of_mem_put mem with rfl | mem
    · exact List.mem_append_right _ List.mem_cons_self
    · exact List.mem_append_left _ (ih mem)

/-- Each name has a row in a table that was made of a row with it. -/
lemma exists_mem_ofRows {rows : List (String × α)} {name : String} {value : α}
    (mem : (name, value) ∈ rows) : ∃ v, (name, v) ∈ ofRows rows := by
  suffices found : ((ofRows rows).get? name).isSome by
    obtain ⟨v, found⟩ := Option.isSome_iff_exists.1 found
    exact ⟨v, mem_of_get? found⟩
  induction rows using List.reverseRecOn with
  | nil => cases mem
  | append_singleton rows last ih =>
    rw [ofRows_concat, get?_put]
    split
    next => rfl
    next other =>
      refine ih ((List.mem_append.1 mem).resolve_right fun here => other ?_)
      rw [← List.mem_singleton.1 here]

end ServiceClient.Table
