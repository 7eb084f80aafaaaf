import Mathlib.Data.List.Induction
import Mathlib.Data.List.Nodup
import Mathlib.Data.List.Pairwise
import ServiceClient.Proofs.Steps
import ServiceClient.Proofs.Table
import ServiceClient.Properties.Codec

/-!
# Codecs that read what they wrote

A codec is `Faithful` if it reads back what it wrote. A record of faithful fields that do not touch
each other is `Lawful`, and its codec is faithful. Rows of unknown names do not count in a record,
and neither does a row that tells of a field what the empty record has: `Respelled.read_eq`.
-/

namespace ServiceClient.Codec

variable {α β γ : Type}

/-- What was written is read back. -/
def Faithful (c : Codec α) : Prop :=
  ∀ x, c.read (c.write x) = .ok x

/-- Different values are written differently. -/
lemma Faithful.injective {c : Codec α} (faithful : c.Faithful) {x y : α}
    (same : c.write x = c.write y) : x = y := by
  have read := faithful x
  rw [same, faithful y] at read
  cases read
  rfl

lemma faithful_bool : Faithful bool := fun _ => rfl

lemma faithful_text : Faithful text := fun _ => rfl

/-- A number of 64 bits is read back, the greatest one included. -/
lemma faithful_unsigned : Faithful unsigned := by
  intro n
  have fits : 0 ≤ (n.toNat : Int) ∧ (n.toNat : Int).toNat < Nat.pow 2 64 :=
    ⟨Int.natCast_nonneg _, n.toNat_lt⟩
  show (if 0 ≤ (n.toNat : Int) ∧ (n.toNat : Int).toNat < Nat.pow 2 64
    then Except.ok (UInt64.ofNat (n.toNat : Int).toNat) else _) = _
  rw [if_pos fits, Int.toNat_natCast, UInt64.ofNat_toNat]

/-- Words are read back if each value is found by its own. -/
lemma faithful_word {wordOf : α → String} {all : List α}
    (found : ∀ x, ofWord? wordOf all (wordOf x) = some x) : Faithful (word wordOf all) := by
  intro x
  simp only [word, found]

/-- Nothing is written as null, which is no value of another kind. -/
lemma Faithful.optional {c : Codec α} (faithful : c.Faithful) (some : ∀ x, c.write x ≠ .null) :
    Faithful (.optional c) := by
  rintro (_ | x)
  · rfl
  · show (Codec.optional c).read (c.write x) = _
    cases written : c.write x with
    | null => exact absurd written (some x)
    | _ =>
      show (c.read _).map Option.some = _
      rw [← written, faithful]
      rfl

/-- Items are read back in their order. -/
lemma Faithful.list {c : Codec α} (faithful : c.Faithful) : Faithful (.list c) := by
  have items (xs : List α) : ∀ i, c.readItems i (xs.map c.write) = .ok xs := by
    induction xs with
    | nil => exact fun _ => rfl
    | cons x xs ih =>
      intro i
      rw [List.map_cons, readItems, faithful, ih]
      rfl
  exact fun xs => items xs 0

/-- Rows are read back under their names. -/
lemma Faithful.table {c : Codec α} (faithful : c.Faithful) : Faithful (.table c) := by
  have rows (t : Table α) : c.readRows (t.map fun row => (row.1, c.write row.2)) = .ok t := by
    induction t with
    | nil => rfl
    | cons row rows ih =>
      rw [List.map_cons, readRows, faithful, ih]
      rfl
  exact rows

/-- A row that reads the same makes no difference to a table. -/
lemma table_congr {c : Codec α} {v v' : Json} (same : c.read v' = c.read v) (key : String)
    (before after : Table Json) :
    (table c).read (.object (before ++ (key, v') :: after)) =
      (table c).read (.object (before ++ (key, v) :: after)) := by
  show c.readRows (before ++ (key, v') :: after) = c.readRows (before ++ (key, v) :: after)
  induction before with
  | nil => rw [List.nil_append, List.nil_append, readRows, readRows, same]
  | cons row rows ih => rw [List.cons_append, List.cons_append, readRows, readRows, ih]

/-! ### Fields -/

/-- What was written of a field is read back into any record, and changes nothing where it is. -/
def Field.Puts (f : Field α) : Prop :=
  ∀ a, ∃ put, f.read (f.write a) = .ok put ∧
    ∀ b, f.write (put b) = f.write a ∧ (f.write b = f.write a → put b = b)

/-- Reading a field leaves another one as it is. -/
def Field.Spares (f g : Field α) : Prop :=
  ∀ v put, f.read v = .ok put → ∀ b, g.write (put b) = g.write b

/-- A field with a faithful codec is read back. -/
lemma Faithful.puts {c : Codec β} (faithful : c.Faithful) {name : String} {get : α → β}
    {put : β → α → α} (get_put : ∀ v a, get (put v a) = v) (put_get : ∀ a, put (get a) a = a) :
    (field name c get put).Puts := by
  intro a
  refine ⟨put (get a), ?_, fun b => ⟨?_, fun same => ?_⟩⟩
  · show (c.read (c.write (get a))).map put = _
    rw [faithful]
    rfl
  · show c.write (get (put (get a) b)) = c.write (get a)
    rw [get_put]
  · rw [← faithful.injective same, put_get]

/-- A field that is put leaves what is got from another one. -/
lemma spares_field {c : Codec β} {c' : Codec γ} {name name' : String} {get : α → β}
    {put : β → α → α} {get' : α → γ} {put' : γ → α → α}
    (get_put : ∀ v a, get' (put v a) = get' a) :
    (field name c get put).Spares (field name' c' get' put') := by
  intro v change read b
  obtain ⟨x, -, rfl⟩ := map_ok read
  exact congrArg c'.write (get_put x b)

/-- Fields with names of their own that can be read back and leave each other as they are, and that
tell all of a record. -/
structure Lawful (fields : List (Field α)) : Prop where
  puts : ∀ f ∈ fields, f.Puts
  names : (fields.map Field.name).Nodup
  spares : fields.Pairwise fun f g => f.Spares g ∧ g.Spares f
  whole : ∀ a b, (∀ f ∈ fields, f.write a = f.write b) → a = b

section Records

variable {fields : List (Field α)} {empty a b : α} {rows : List (String × Json)}

/-- A field is found by its name. -/
lemma Lawful.find?_eq (lawful : Lawful fields) {f : Field α} (mem : f ∈ fields) :
    fields.find? (·.name == f.name) = some f := by
  cases found : fields.find? (·.name == f.name) with
  | none => exact absurd (beq_self_eq_true f.name) (List.find?_eq_none.1 found f mem)
  | some g =>
    have same : g.name = f.name := by simpa using List.find?_some found
    rw [List.inj_on_of_nodup_map lawful.names (List.mem_of_find?_eq_some found) mem same]

/-- A field leaves those of other names as they are. -/
lemma Lawful.spares_of_ne (lawful : Lawful fields) {f g : Field α} (mem : f ∈ fields)
    (mem' : g ∈ fields) (other : f.name ≠ g.name) : f.Spares g := by
  have symm : Std.Symm fun f g : Field α => f.Spares g ∧ g.Spares f := ⟨fun _ _ both => both.symm⟩
  have different : f ≠ g := fun same => other (congrArg Field.name same)
  exact (lawful.spares.forall mem mem' different).1

/-- Rows are read one after the other. -/
lemma readFields_append (rows' : List (String × Json)) (a : α) :
    readFields fields (rows ++ rows') a = readFields fields rows a >>= readFields fields rows' := by
  induction rows generalizing a with
  | nil => rfl
  | cons row rows ih =>
    obtain ⟨name, v⟩ := row
    rw [List.cons_append, readFields, readFields]
    split
    next => exact ih a
    next f _ =>
      split
      next => rfl
      next put _ => exact ih (put a)

/-- A row of unknown name is passed over. -/
lemma readFields_unknown {name : String} (unknown : ∀ f ∈ fields, f.name ≠ name) (v : Json) :
    readFields fields ((name, v) :: rows) a = readFields fields rows a := by
  have missing : fields.find? (·.name == name) = none :=
    List.find?_eq_none.2 fun f mem => by simpa using unknown f mem
  rw [readFields, missing]

/-- A row of a field is read by the field. -/
lemma Lawful.readFields_cons (lawful : Lawful fields) {f : Field α} (mem : f ∈ fields) (v : Json) :
    readFields fields ((f.name, v) :: rows) a =
      match f.read v with
      | .error flaw => .error (flaw.under f.name)
      | .ok put => readFields fields rows (put a) := by
  have here := lawful.find?_eq mem
  rw [readFields]
  split
  next missing => cases missing.symm.trans here
  next found =>
    cases found.symm.trans here
    rfl

/-- A row that reads the same makes no difference to a record. -/
lemma Lawful.record_congr (lawful : Lawful fields) {f : Field α} (mem : f ∈ fields)
    {v v' : Json} (same : f.read v' = f.read v) (before after : Table Json) :
    (record fields empty).read (.object (before ++ (f.name, v') :: after)) =
      (record fields empty).read (.object (before ++ (f.name, v) :: after)) := by
  show readFields fields (before ++ (f.name, v') :: after) empty =
    readFields fields (before ++ (f.name, v) :: after) empty
  rw [readFields_append, readFields_append]
  refine congrArg _ (funext fun a => ?_)
  rw [lawful.readFields_cons mem, lawful.readFields_cons mem, same]

/-- A field that no row names is left as it is. -/
lemma Lawful.write_of_readFields (lawful : Lawful fields) {g : Field α} (mem : g ∈ fields)
    (unnamed : ∀ row ∈ rows, row.1 ≠ g.name) (read : readFields fields rows a = .ok b) :
    g.write b = g.write a := by
  induction rows generalizing a with
  | nil =>
    cases read
    rfl
  | cons row rows ih =>
    obtain ⟨name, v⟩ := row
    obtain ⟨other, unnamed⟩ := List.forall_mem_cons.1 unnamed
    rw [readFields] at read
    split at read
    next => exact ih unnamed read
    next f found =>
      split at read
      next => cases read
      next put fieldRead =>
        have named : f.name = name := by simpa using List.find?_some found
        rw [ih unnamed read]
        exact lawful.spares_of_ne (List.mem_of_find?_eq_some found) mem (named ▸ other) v put
          fieldRead a

/-- A row that tells what a field has anyway makes no difference. -/
lemma Lawful.readFields_same (lawful : Lawful fields) {f : Field α} (mem : f ∈ fields)
    (same : f.write b = f.write a) :
    readFields fields ((f.name, f.write a) :: rows) b = readFields fields rows b := by
  obtain ⟨put, read, puts⟩ := lawful.puts f mem a
  rw [lawful.readFields_cons mem, read]
  dsimp only
  rw [(puts b).2 same]

/-- Rows that were written are read back, into all fields that they name. -/
lemma Lawful.exists_readFields (lawful : Lawful fields)
    (written : ∀ row ∈ rows, ∃ f ∈ fields, row = (f.name, f.write a)) (b : α) :
    ∃ c, readFields fields rows b = .ok c ∧
      ∀ g ∈ fields, (∃ v, (g.name, v) ∈ rows) ∨ g.write b = g.write a → g.write c = g.write a := by
  induction rows generalizing b with
  | nil =>
    refine ⟨b, rfl, fun g mem told => ?_⟩
    rcases told with ⟨v, named⟩ | same
    · cases named
    · exact same
  | cons row rows ih =>
    obtain ⟨⟨f, mem, rfl⟩, written'⟩ := List.forall_mem_cons.1 written
    obtain ⟨put, read, puts⟩ := lawful.puts f mem a
    obtain ⟨c, rest, all⟩ := ih written' (put b)
    refine ⟨c, ?_, fun g mem' told => all g mem' ?_⟩
    · rw [lawful.readFields_cons mem, read]
      exact rest
    -- what this row put into its field may be put once more by a row of the same name behind it
    · by_cases here : f.name = g.name
      · cases List.inj_on_of_nodup_map lawful.names mem mem' here
        exact .inr (puts b).1
      · rcases told with ⟨v, named⟩ | same
        · rcases List.mem_cons.1 named with eq | there
          · exact absurd (congrArg Prod.fst eq).symm here
          · exact .inl ⟨v, there⟩
        · exact .inr ((lawful.spares_of_ne mem mem' here _ put read b).trans same)

/-- A record is read back. -/
lemma Lawful.faithful (lawful : Lawful fields) (empty : α) : Faithful (record fields empty) := by
  intro a
  show readFields fields (Table.ofRows (fields.map fun f => (f.name, f.write a))) empty = .ok a
  -- the rows stand in the order of their names, in which the fields need not be
  have written : ∀ row ∈ Table.ofRows (fields.map fun f => (f.name, f.write a)),
      ∃ f ∈ fields, row = (f.name, f.write a) := by
    intro row mem
    obtain ⟨f, mem', rfl⟩ := List.mem_map.1 (Table.mem_of_mem_ofRows mem)
    exact ⟨f, mem', rfl⟩
  obtain ⟨c, read, all⟩ := lawful.exists_readFields written empty
  rw [read, lawful.whole c a fun g mem => all g mem (.inl ?_)]
  exact Table.exists_mem_ofRows (List.mem_map.2 ⟨g, mem, rfl⟩)

/-! ### Rows that do not count -/

/-- A change of the rows of a record that tells the same: a row of unknown name more, or one less
that tells of a field what the empty record has. -/
inductive Respelled (fields : List (Field α)) (empty : α) : Table Json → Table Json → Prop where
  | added {before after name v} :
    (∀ f ∈ fields, f.name ≠ name) →
    Respelled fields empty (before ++ after) (before ++ (name, v) :: after)
  | omitted {before after f} :
    f ∈ fields →
    (∀ row ∈ before, row.1 ≠ f.name) →
    Respelled fields empty (before ++ (f.name, f.write empty) :: after) (before ++ after)

/-- Such a change makes no difference to what is read. -/
lemma Respelled.read_eq (lawful : Lawful fields) {rows rows' : Table Json}
    (respelled : Respelled fields empty rows rows') :
    (record fields empty).read (.object rows') = (record fields empty).read (.object rows) := by
  show readFields fields rows' empty = readFields fields rows empty
  cases respelled with
  | @added before after name v unknown =>
    rw [readFields_append, readFields_append]
    exact congrArg _ (funext fun a => readFields_unknown unknown v)
  | @omitted before after f mem unnamed =>
    rw [readFields_append, readFields_append]
    cases read : readFields fields before empty with
    | error flaw => rfl
    | ok b => exact (lawful.readFields_same mem (lawful.write_of_readFields mem unnamed read)).symm

end Records

end ServiceClient.Codec
