import Mathlib.Data.List.Induction
import Mathlib.Data.List.Nodup
import ServiceClient.Proofs.Scope.Lookup
import ServiceClient.Scope.Operation

/-!
# The history of a scope

What a scope holds can be read off the operations that led to it: `survivors` are the registrations
that no later operation supersedes. `run_survivors` says that the entries of a scope are just these,
and what this means for its lookups.

A component is removed at the first place where it is found, while lookups begin at the last one.
Both are the same place only in a scope that is `Unique`, so this is shown along with it, step by
step.
-/

namespace ServiceClient

variable {κ : Type} [DecidableEq κ] {β : κ → Type}

namespace Entry

/-- What an entry is known under. -/
def key (e : Entry β) : κ × String := (e.kind, e.name)

/-- An entry is known under one kind and name. -/
lemma isAt_iff {k : κ} {n : String} {e : Entry β} : e.isAt k n = true ↔ e.key = (k, n) := by
  simp [isAt, key]

end Entry

namespace Scope

/-- Whether an operation puts an end to an entry that was there before. -/
def Operation.supersedes (e : Entry β) : Operation β → Bool
  | register k n _ => e.isAt k n
  | registerOrdered k n _ _ => e.isAt k n
  | registerAs k t _ => e.isAt k t.name
  | remove k n => e.isAt k n
  | clear => true

/-- The registrations that no later operation supersedes, in the order in which they were made. -/
def survivors : List (Operation β) → List (Entry β)
  | [] => []
  | op :: ops =>
    (op.registered?.filter fun e => !ops.any (·.supersedes e)).toList ++ survivors ops

/-- A kind and a name together denote at most one entry. -/
def Unique (s : Scope β) : Prop := (s.entries.map Entry.key).Nodup

instance (s : Scope β) : Decidable s.Unique := inferInstanceAs (Decidable (List.Nodup _))

/-- One more operation ends some registrations, and may add one. -/
lemma survivors_concat (ops : List (Operation β)) (op : Operation β) :
    survivors (ops ++ [op]) =
      (survivors ops).filter (!op.supersedes ·) ++ op.registered?.toList := by
  induction ops with
  | nil => cases h : op.registered? <;> simp [survivors, h]
  | cons first ops ih =>
    rw [List.cons_append, survivors, ih, survivors, List.filter_append, List.append_assoc]
    congr 1
    cases first.registered? with
    | none => rfl
    | some e =>
      by_cases ended : ops.any (·.supersedes e) <;> by_cases now : op.supersedes e <;>
        simp [Option.filter, ended, now]

/-- An operation that registers an entry supersedes what was known under the same kind and name. -/
lemma Operation.supersedes_of_registered? {op : Operation β} {e : Entry β}
    (eq : op.registered? = some e) (e' : Entry β) : op.supersedes e' = e'.isAt e.kind e.name := by
  cases op with
  | register | registerOrdered | registerAs =>
    cases eq
    rfl
  | remove | clear => cases eq

/-- Where a kind and a name denote one entry, the first one to be found is the only one. -/
lemma Unique.eraseP_isAt {s : Scope β} (unique : s.Unique) (k : κ) (n : String) :
    s.entries.eraseP (·.isAt k n) = s.entries.filter (!·.isAt k n) := by
  unfold Unique at unique
  generalize s.entries = es at unique ⊢
  induction es with
  | nil => rfl
  | cons e es ih =>
    rw [List.map_cons, List.nodup_cons] at unique
    by_cases here : e.isAt k n = true
    · -- the others are known under other kinds or names
      have others : ∀ e' ∈ es, (!e'.isAt k n) = true := by
        intro e' mem
        rw [Bool.not_eq_true', ← Bool.not_eq_true]
        intro there
        refine unique.1 ?_
        rw [Entry.isAt_iff.1 here, ← Entry.isAt_iff.1 there]
        exact List.mem_map_of_mem mem
      rw [List.eraseP_cons_of_pos here, List.filter_cons_of_neg (by simp [here]),
        List.filter_eq_self.2 others]
    · rw [List.eraseP_cons_of_neg here, List.filter_cons_of_pos (by simpa using here),
        ih unique.2]

/-- An operation ends the entries that it supersedes, and may add one. -/
lemma Unique.entries_step {s : Scope β} (unique : s.Unique) (op : Operation β) :
    (s.step op).entries = s.entries.filter (!op.supersedes ·) ++ op.registered?.toList := by
  cases op with
  | register | registerOrdered | registerAs => rfl
  | remove k n =>
    rw [Operation.registered?, Option.toList_none, List.append_nil]
    exact unique.eraseP_isAt k n
  | clear => simp [step, Scope.clear, Operation.supersedes, Operation.registered?]

/-- Every operation leaves at most one entry of each kind and name. -/
lemma Unique.step {s : Scope β} (unique : s.Unique) (op : Operation β) : (s.step op).Unique := by
  have kept : ((s.entries.filter (!op.supersedes ·)).map Entry.key).Nodup :=
    unique.sublist (List.filter_sublist.map _)
  rw [Unique, unique.entries_step op]
  cases new : op.registered? with
  | none => simpa using kept
  | some e =>
    rw [Option.toList_some, List.map_append]
    refine List.nodup_append.2 ⟨kept, List.nodup_singleton _, ?_⟩
    -- what was known under the key of the new entry is gone
    intro old mem key here same
    obtain ⟨e', there, rfl⟩ := List.mem_map.1 mem
    have stays := (List.mem_filter.1 there).2
    have ended : e'.isAt e.kind e.name = true :=
      Entry.isAt_iff.2 (same.trans (List.mem_singleton.1 here))
    rw [Operation.supersedes_of_registered? new, ended] at stays
    cases stays

/-- A scope that began without entries holds the registrations that survive. -/
lemma unique_run (name : String) (ops : List (Operation β)) :
    (run ⟨name, []⟩ ops).entries = survivors ops ∧ (run ⟨name, []⟩ ops).Unique := by
  induction ops using List.reverseRecOn with
  | nil => exact ⟨rfl, List.nodup_nil⟩
  | append_singleton ops op ih =>
    obtain ⟨entries, unique⟩ := ih
    have last : run ⟨name, []⟩ (ops ++ [op]) = (run ⟨name, []⟩ ops).step op :=
      List.foldl_concat _ _ _ _
    rw [last, unique.entries_step op, entries, survivors_concat]
    exact ⟨rfl, unique.step op⟩

/-- The component of a kind and a name is that of the one entry that is known under them. -/
lemma Unique.get?_eq_some {s : Scope β} (unique : s.Unique) {k : κ} {n : String}
    {c : Component (β k)} : s.get? k n = some c ↔ ⟨k, c⟩ ∈ s.entries ∧ c.name = n := by
  unfold get?
  constructor
  · intro eq
    obtain ⟨e, found, eq⟩ := Option.bind_eq_some_iff.1 eq
    have named := List.find?_some found
    cases Entry.ofKind?_eq_some.1 eq
    exact ⟨List.mem_of_find?_eq_some found, congrArg Prod.snd (Entry.isAt_iff.1 named)⟩
  · rintro ⟨mem, rfl⟩
    have here : (⟨k, c⟩ : Entry β).isAt k c.name = true := Entry.isAt_iff.2 rfl
    cases found : s.entries.find? (·.isAt k c.name) with
    | none => exact absurd here (List.find?_eq_none.1 found _ mem)
    | some e =>
      have there := List.find?_some found
      have same : e = ⟨k, c⟩ := List.inj_on_of_nodup_map unique (List.mem_of_find?_eq_some found)
        mem (Entry.isAt_iff.1 there)
      rw [same]
      exact Entry.ofKind?_mk c

/-- After any operations the entries of a scope are the registrations that survive. So a kind and a
name denote at most one of them, the last one of a kind is looked up and all of them in their order,
and what survives can be removed, which leaves the others as they are. -/
theorem run_survivors (name : String) (ops : List (Operation β)) :
    (run ⟨name, []⟩ ops).entries = survivors ops ∧
      ((survivors ops).map fun e => (e.kind, e.name)).Nodup ∧
      (∀ k, (run ⟨name, []⟩ ops).findLocal? k =
        ((survivors ops).filterMap (·.ofKind? k)).getLast?) ∧
      (∀ k, (run ⟨name, []⟩ ops).findAllLocal k = (survivors ops).filterMap (·.ofKind? k)) ∧
      (∀ k n v, ((run ⟨name, []⟩ ops).take k n).1 = some v ↔
        ∃ order, ⟨k, ⟨n, v, order⟩⟩ ∈ survivors ops) ∧
      (∀ k n, ((run ⟨name, []⟩ ops).take k n).2.entries =
        (survivors ops).filter fun e => ¬(e.kind = k ∧ e.name = n)) ∧
      (run ⟨name, []⟩ ops).size = (survivors ops).length := by
  obtain ⟨entries, unique⟩ := unique_run name ops
  rw [← entries]
  refine ⟨rfl, unique, fun k => findLocal?_eq_getLast? _ k, fun k => rfl, fun k n v => ?_,
    fun k n => ?_, rfl⟩
  · rw [take, Option.map_eq_some_iff]
    constructor
    · rintro ⟨⟨n', v', order⟩, eq, rfl⟩
      obtain ⟨mem, rfl⟩ := unique.get?_eq_some.1 eq
      exact ⟨order, mem⟩
    · rintro ⟨order, mem⟩
      exact ⟨⟨n, v, order⟩, unique.get?_eq_some.2 ⟨mem, rfl⟩, rfl⟩
  · have law := unique.eraseP_isAt k n
    rw [take, remove, law]
    refine List.filter_congr fun e _ => ?_
    simp [Entry.isAt, beq_eq_decide]

end Scope
end ServiceClient
