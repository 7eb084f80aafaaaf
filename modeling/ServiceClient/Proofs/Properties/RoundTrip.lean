import Mathlib.Logic.Relation
import ServiceClient.Proofs.Properties.Records
import ServiceClient.Properties.Document

/-!
# Properties that are read back

Properties that were written into a section of some documents are read from these documents again.
They are also read from any other spelling of the section: with rows of unknown names in it or in
its entries, and without rows that tell a default (`Respelled`). `ofDocuments_respelled` says both.
-/

namespace ServiceClient

open Codec

namespace Json

variable {base rows : Table Json} {name : String} {v : Json}

/-- Rows are put over a table one after the other. -/
lemma rowsOver_append (rows' : Table Json) :
    rowsOver base (rows ++ rows') = rowsOver (rowsOver base rows) rows' := by
  induction rows generalizing base with
  | nil => rw [List.nil_append, rowsOver]
  | cons row rows ih => rw [List.cons_append, rowsOver, rowsOver, ih]

/-- What no row names is found as before. -/
lemma get?_rowsOver (unnamed : ∀ row ∈ rows, row.1 ≠ name) :
    (rowsOver base rows).get? name = base.get? name := by
  induction rows generalizing base with
  | nil => rw [rowsOver]
  | cons row rows ih =>
    obtain ⟨key, v⟩ := row
    obtain ⟨other, unnamed⟩ := List.forall_mem_cons.1 unnamed
    have different : name ≠ key := fun same => other same.symm
    rw [rowsOver, ih unnamed, Table.get?_put, if_neg different]

/-- The only row of a name is found if nothing stood there before. -/
lemma get?_rowsOver_of_single (free : base.get? name = none)
    (single : rows.filter (·.1 == name) = [(name, v)]) :
    (rowsOver base rows).get? name = some v := by
  obtain ⟨before, after, rfl, others, -, rest⟩ := List.filter_eq_cons_iff.1 single
  have missing : (rowsOver base before).get? name = none :=
    (get?_rowsOver fun row mem => by simpa using others row mem).trans free
  have unnamed : ∀ row ∈ after, row.1 ≠ name :=
    fun row mem => by simpa using List.filter_eq_nil_iff.1 rest row mem
  rw [rowsOver_append, rowsOver, get?_rowsOver unnamed, Table.get?_put, if_pos rfl, missing]

end Json

namespace PropertyEntry

lemma faithful_level : Faithful (.optional (.word LoggerLevel.word LoggerLevel.all)) :=
  (faithful_word (by rintro (_ | _) <;> rfl)).optional nofun

lemma faithful_policy : Faithful (.optional (.word ExceptionPolicy.word ExceptionPolicy.all)) :=
  (faithful_word (by rintro (_ | _) <;> rfl)).optional nofun

lemma faithful_number : Faithful (.optional .unsigned) :=
  faithful_unsigned.optional nofun

lemma faithful_truth : Faithful (.optional .bool) :=
  faithful_bool.optional nofun

lemma faithful_name : Faithful (.optional .text) :=
  faithful_text.optional nofun

lemma faithful_lists : Faithful (.table (.list .text)) :=
  faithful_text.list.table

/-- The fields of an entry are read back, each on its own. -/
lemma lawful : Lawful fields where
  puts := by
    simp only [fields, List.forall_mem_cons]
    refine ⟨faithful_level.puts ?_ ?_, faithful_number.puts ?_ ?_, faithful_number.puts ?_ ?_,
      faithful_truth.puts ?_ ?_, faithful_name.puts ?_ ?_, faithful_name.puts ?_ ?_,
      faithful_text.list.puts ?_ ?_, faithful_truth.puts ?_ ?_, faithful_name.puts ?_ ?_,
      faithful_name.puts ?_ ?_, faithful_name.puts ?_ ?_, faithful_policy.puts ?_ ?_,
      faithful_lists.puts ?_ ?_, faithful_lists.puts ?_ ?_, nofun⟩
    all_goals intros; rfl
  names := by decide
  spares := by
    simp only [fields, List.pairwise_cons, List.forall_mem_cons, List.not_mem_nil,
      false_implies, implies_true, List.Pairwise.nil, and_true]
    and_intros
    all_goals exact spares_field fun _ _ => rfl
  whole := by
    intro a b same
    simp only [fields, List.forall_mem_cons] at same
    obtain ⟨level, connect, read, follow, retryer, decodesErrors, interceptors, decodes404, encoder,
      decoder, contract, policy, headers, queries, -⟩ := same
    cases a
    cases b
    simp only [mk.injEq]
    exact ⟨faithful_level.injective level, faithful_number.injective connect,
      faithful_number.injective read, faithful_truth.injective follow,
      faithful_name.injective retryer, faithful_name.injective decodesErrors,
      faithful_text.list.injective interceptors, faithful_truth.injective decodes404,
      faithful_name.injective encoder, faithful_name.injective decoder,
      faithful_name.injective contract, faithful_policy.injective policy,
      faithful_lists.injective headers, faithful_lists.injective queries⟩

/-- Entries are read back. -/
lemma faithful : Faithful codec :=
  lawful.faithful {}

end PropertyEntry

namespace Properties

/-- The fields of properties are read back, each on its own. -/
lemma lawful : Lawful fields where
  puts := by
    simp only [fields, List.forall_mem_cons]
    refine ⟨faithful_bool.puts ?_ ?_, faithful_text.puts ?_ ?_,
      PropertyEntry.faithful.table.puts ?_ ?_, nofun⟩
    all_goals intros; rfl
  names := by decide
  spares := by
    simp only [fields, List.pairwise_cons, List.forall_mem_cons, List.not_mem_nil,
      false_implies, implies_true, List.Pairwise.nil, and_true]
    and_intros
    all_goals exact spares_field fun _ _ => rfl
  whole := by
    intro a b same
    simp only [fields, List.forall_mem_cons] at same
    obtain ⟨ranks, name, config, -⟩ := same
    cases a
    cases b
    simp only [mk.injEq]
    exact ⟨faithful_bool.injective ranks, faithful_text.injective name,
      PropertyEntry.faithful.table.injective config⟩

/-- A change of a section that tells the same: of its own rows, or of those of an entry. -/
inductive Respelled : Json → Json → Prop where
  | own {rows rows'} :
    Codec.Respelled fields {} rows rows' →
    Respelled (.object rows) (.object rows')
  | entry {before after front back id rows rows'} :
    Codec.Respelled PropertyEntry.fields {} rows rows' →
    Respelled
      (.object (before ++ ("config", .object (front ++ (id, .object rows) :: back)) :: after))
      (.object (before ++ ("config", .object (front ++ (id, .object rows') :: back)) :: after))

/-- Such a change makes no difference to what is read. -/
lemma Respelled.read_eq {v v' : Json} (respelled : Respelled v v') :
    codec.read v' = codec.read v := by
  cases respelled with
  | own rows => exact rows.read_eq lawful
  | @entry before after front back id entry entry' rows =>
    have mem : field "config" (.table PropertyEntry.codec) (·.config)
        (fun v p => { p with config := v }) ∈ fields := by simp [fields]
    have entries := table_congr (rows.read_eq PropertyEntry.lawful) id front back
    exact lawful.record_congr mem (congrArg (Except.map _) entries) before after

/-- Properties are read from all spellings of their section. -/
lemma read_respelled (p : Properties) {v : Json}
    (spelled : Relation.ReflTransGen Respelled (codec.write p) v) : codec.read v = .ok p := by
  induction spelled with
  | refl => exact lawful.faithful {} p
  | tail _ respelled ih => rw [respelled.read_eq, ih]

/-- The last document is put over the others. -/
lemma overlay?_concat {docs : List (Option Json)} {base : Json}
    (overlaid : overlay? docs = some base) (rows : Table Json) :
    overlay? (docs ++ [some (.object rows)]) = some (base.over (.object rows)) := by
  rw [overlay?] at overlaid
  rw [overlay?, List.foldl_append, overlaid]
  rfl

/-- Documents are put over each other as their rows are. -/
lemma overlay?_objects (docs : List (Table Json)) :
    overlay? (docs.map fun rows => some (.object rows)) =
      some (.object (Json.rowsOver [] docs.flatten)) := by
  induction docs using List.reverseRecOn with
  | nil => rw [List.flatten_nil, Json.rowsOver]; rfl
  | append_singleton docs rows ih =>
    rw [List.map_append, List.map_singleton, overlay?_concat ih, List.flatten_append,
      List.flatten_singleton, Json.rowsOver_append, Json.over]

/-- What stands under a name in one of the documents only is found there. -/
lemma overlay?_of_single {docs : List (Table Json)} {name : String} {v : Json}
    (single : docs.flatten.filter (·.1 == name) = [(name, v)]) :
    (overlay? (docs.map fun rows => some (.object rows))).bind (Json.field? name) = some v := by
  rw [overlay?_objects]
  exact Json.get?_rowsOver_of_single rfl single

/-- Properties are read from all documents with a spelling of them in their section. -/
theorem ofDocuments_respelled (p : Properties) {v : Json}
    (spelled : Relation.ReflTransGen Respelled (codec.write p) v) {docs : List (Option Json)}
    (held : (overlay? docs).bind (Json.field? "clients") = some v) :
    ofDocuments docs = .ok p := by
  rw [ofDocuments, held]
  exact read_respelled p spelled

/-- The greatest timeout and a level of no logging are read from a section without the name of the
default entry, where the entry has a row of an unknown name. -/
theorem ofDocuments_respelled_users :
    let users : PropertyEntry :=
      { loggerLevel := some .none, readMillis := some 0xffffffffffffffff }
    let told : Table Json :=
      Table.ofRows (PropertyEntry.fields.map fun f => (f.name, f.write users))
    let clients : Json := .object [
      ("config", .object [("users", .object (("comment", .string "slow") :: told))]),
      ("default_to_properties", .bool false)]
    let docs : List (Table Json) := [[("server", .object [("port", .int 8080)])],
      [("clients", clients)]]
    ofDocuments (docs.map fun rows => some (.object rows)) =
      .ok { defaultToProperties := false, config := [("users", users)] } := by
  intro users told clients docs
  have shorter := @Codec.Respelled.omitted Properties fields {}
    [("config", .object [("users", .object told)])] [("default_to_properties", .bool false)]
    (field "default_config" .text (·.defaultConfig) (fun v p => { p with defaultConfig := v }))
    (by simp [fields]) (by decide)
  have longer (rows : Table Json) :
      Codec.Respelled PropertyEntry.fields {} rows (("comment", .string "slow") :: rows) :=
    @Codec.Respelled.added PropertyEntry PropertyEntry.fields {} [] rows "comment" _ (by decide)
  have spelled := (Relation.ReflTransGen.single (Respelled.own shorter)).tail
    (@Respelled.entry [] [("default_to_properties", .bool false)] [] [] "users" _ _ (longer told))
  have single : docs.flatten.filter (·.1 == "clients") = [("clients", clients)] := rfl
  exact ofDocuments_respelled { defaultToProperties := false, config := [("users", users)] } spelled
    (overlay?_of_single single)

end Properties
end ServiceClient
