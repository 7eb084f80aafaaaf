import ServiceClient.Component.Interceptor
import ServiceClient.Proofs.Table
import ServiceClient.Proofs.Text.Utf8

/-!
# Layers of headers and queries

Configured headers and queries replace what a template has under their names. Header lines and
queries are both `Lines`, and `Lines.putAll` is what both interceptors do with them: it leaves the
lines of other names in front and forgets what stood under its own names. So the last row of a name
counts, a second map goes before a first one, and nothing changes the second time.
-/

namespace ServiceClient

namespace Lines

variable {β : Type}

/-- The values of a name, in order. -/
def valuesOf (h : List (String × β)) (name : String) : List β :=
  (h.filter (·.1 == name)).map (·.2)

/-- The lines with the given values as the only ones of a name, behind the others. -/
def put (h : List (String × β)) (name : String) (values : List β) : List (String × β) :=
  h.filter (·.1 != name) ++ values.map (name, ·)

/-- The lines after the values of all rows were put, one row after the other. -/
def putAll (h : List (String × β)) (rows : Table (List β)) : List (String × β) :=
  rows.foldl (fun h (name, values) => put h name values) h

/-- The lines of names without a row. -/
def apart (h : List (String × β)) (rows : Table (List β)) : List (String × β) :=
  h.filter fun line => line.1 ∉ rows.names

/-- A table without rows has no names. -/
lemma names_nil : Table.names ([] : Table (List β)) = [] := rfl

/-- The names of a table are those of its rows. -/
lemma names_cons (name : String) (values : List β) (rows : Table (List β)) :
    Table.names ((name, values) :: rows) = name :: rows.names := rfl

/-- Lines in front of others stay in front, except those of the name. -/
lemma put_append (a b : List (String × β)) (name : String) (values : List β) :
    put (a ++ b) name values = a.filter (·.1 != name) ++ put b name values := by
  rw [put, put, List.filter_append, List.append_assoc]

/-- Lines in front of others stay in front, except those of names with a row. -/
lemma putAll_append (a b : List (String × β)) (rows : Table (List β)) :
    putAll (a ++ b) rows = apart a rows ++ putAll b rows := by
  induction rows generalizing a b with
  | nil => simp [putAll, apart, names_nil]
  | cons row rows ih =>
    obtain ⟨name, values⟩ := row
    have rest : apart (a.filter (·.1 != name)) rows = apart a ((name, values) :: rows) := by
      rw [apart, apart, List.filter_filter]
      refine List.filter_congr fun line _ => ?_
      by_cases here : line.1 = name <;> simp [names_cons, here]
    calc putAll (a ++ b) ((name, values) :: rows)
        = putAll (put (a ++ b) name values) rows := rfl
      _ = putAll (a.filter (·.1 != name) ++ put b name values) rows := by rw [put_append]
      _ = apart a ((name, values) :: rows) ++ putAll (put b name values) rows := by rw [ih, rest]

/-- The lines of other names stay in front, and what is behind them comes from the rows alone. -/
lemma putAll_eq (h : List (String × β)) (rows : Table (List β)) :
    putAll h rows = apart h rows ++ putAll [] rows := by
  simpa using putAll_append h [] rows

/-- What comes into the lines has the name of a row. -/
lemma mem_of_mem_putAll {rows : Table (List β)} {h : List (String × β)} {line : String × β}
    (mem : line ∈ putAll h rows) : line ∈ h ∨ line.1 ∈ rows.names := by
  induction rows generalizing h with
  | nil => exact .inl mem
  | cons row rows ih =>
    obtain ⟨name, values⟩ := row
    rcases ih (h := put h name values) mem with before | named
    · rcases List.mem_append.1 before with kept | set
      · exact .inl (List.mem_of_mem_filter kept)
      · obtain ⟨value, -, rfl⟩ := List.mem_map.1 set
        exact .inr List.mem_cons_self
    · exact .inr (List.mem_cons_of_mem _ named)

/-- Nothing that comes from rows stands apart from them. -/
lemma apart_putAll_nil (rows : Table (List β)) : apart (putAll [] rows) rows = [] := by
  refine List.filter_eq_nil_iff.2 fun line mem => ?_
  simpa using (mem_of_mem_putAll mem).resolve_left List.not_mem_nil

/-- The lines that stand apart from two sequences of rows. -/
lemma apart_apart (h : List (String × β)) (rows rows' : Table (List β)) :
    apart (apart h rows) rows' =
      h.filter fun line => line.1 ∉ rows.names ∧ line.1 ∉ rows'.names := by
  rw [apart, apart, List.filter_filter]
  refine List.filter_congr fun line _ => ?_
  rw [Bool.decide_and, Bool.and_comm]

/-- In front stand the lines apart from two sequences of rows. -/
lemma putAll_putAll (h : List (String × β)) (rows rows' : Table (List β)) :
    putAll (putAll h rows) rows' =
      (h.filter fun line => line.1 ∉ rows.names ∧ line.1 ∉ rows'.names) ++
        (apart (putAll [] rows) rows' ++ putAll [] rows') := by
  have kept : apart (putAll h rows) rows' =
      apart (apart h rows) rows' ++ apart (putAll [] rows) rows' := by
    rw [putAll_eq h]
    exact List.filter_append ..
  rw [putAll_eq (putAll h rows), kept, apart_apart, List.append_assoc]

/-- Rows that were put already change nothing. -/
lemma putAll_putAll_self (h : List (String × β)) (rows : Table (List β)) :
    putAll (putAll h rows) rows = putAll h rows := by
  have alone : (h.filter fun line => line.1 ∉ rows.names ∧ line.1 ∉ rows.names) = apart h rows :=
    List.filter_congr fun line _ => decide_eq_decide.2 (and_self_iff ..)
  rw [putAll_putAll, alone, apart_putAll_nil, List.nil_append, ← putAll_eq]

/-- The values that were put are the ones of their name, and the others are as before. -/
lemma valuesOf_put (h : List (String × β)) (name other : String) (values : List β) :
    valuesOf (put h name values) other = if other = name then values else valuesOf h other := by
  rw [put, valuesOf, List.filter_append, List.filter_filter, List.map_append]
  split
  next same =>
    subst same
    have gone : h.filter (fun line => line.1 == other && line.1 != other) = [] := by
      simp
    have all : (values.map (other, ·)).filter (fun line => line.1 == other) =
        values.map (other, ·) := by
      simp
    rw [gone, all]
    simp [Function.comp_def]
  next different =>
    have kept : h.filter (fun line => line.1 == other && line.1 != name) =
        h.filter (·.1 == other) := by
      refine List.filter_congr fun line _ => ?_
      by_cases here : line.1 = other <;> simp [here, different]
    have none : (values.map (name, ·)).filter (fun line => line.1 == other) = [] := by
      simp [Ne.symm different]
    rw [kept, none, List.map_nil, List.append_nil]
    rfl

/-- The values of a name without a row are as before. -/
lemma valuesOf_putAll_of_not_mem {rows : Table (List β)} {name : String}
    (unnamed : name ∉ rows.names) (h : List (String × β)) :
    valuesOf (putAll h rows) name = valuesOf h name := by
  induction rows generalizing h with
  | nil => rfl
  | cons row rows ih =>
    obtain ⟨other, values⟩ := row
    obtain ⟨different, rest⟩ := not_or.1 (mt List.mem_cons.2 unnamed)
    calc valuesOf (putAll (put h other values) rows) name
        = valuesOf (put h other values) name := ih rest _
      _ = valuesOf h name := by rw [valuesOf_put, if_neg different]

/-- The values of a name are those of its last row. -/
lemma valuesOf_putAll_append_cons {after : Table (List β)} {name : String}
    (last : name ∉ after.names) (h : List (String × β)) (before : Table (List β))
    (values : List β) : valuesOf (putAll h (before ++ (name, values) :: after)) name = values := by
  rw [putAll, List.foldl_append, List.foldl_cons]
  change valuesOf (putAll (put (putAll h before) name values) after) name = values
  rw [valuesOf_putAll_of_not_mem last, valuesOf_put, if_pos rfl]

end Lines

namespace Http

/-- A character may stand in a header name when it may do so in lower case. -/
lemma isNameChar_toLower (c : Char) : isNameChar c.toLower = isNameChar c := by
  have ascii : ∀ n < 0x80, isNameChar (Char.ofNat n).toLower = isNameChar (Char.ofNat n) := by
    decide +kernel
  by_cases small : c.toNat < 0x80
  · have here := ascii c.toNat small
    rwa [Char.ofNat_toNat] at here
  · have same : c.toLower = c := dif_neg fun upper =>
      small (Nat.lt_of_le_of_lt (UInt32.le_iff_toNat_le.1 upper.2) (by decide))
    rw [same]

/-- Two texts are the same header name if they differ in case only. -/
lemma headerName?_congr {a b : String}
    (same : a.toList.map Char.toLower = b.toList.map Char.toLower) :
    headerName? a = headerName? b := by
  have legal : ∀ s : String, s.toList.all isNameChar =
      (s.toList.map Char.toLower).all isNameChar := by
    intro s
    rw [List.all_map]
    exact congrArg s.toList.all (funext fun c => (isNameChar_toLower c).symm)
  have long : a.length = b.length := by
    rw [← String.length_toList, ← String.length_toList]
    simpa using congrArg List.length same
  have empty : a.isEmpty = b.isEmpty := by
    rw [Bool.eq_iff_iff, String.isEmpty_iff, String.isEmpty_iff, ← String.length_eq_zero_iff,
      ← String.length_eq_zero_iff, long]
  rw [headerName?, headerName?, legal a, legal b, same, long, empty]

end Http

/-- A row of a map decides over a name: its key stands for the name, and none of the other keys that
do so is behind it in the order of octets. -/
structure Decides (named : String → Option String) (configured : ValueLists) (name key : String)
    (values : List String) : Prop where
  mem : (key, values) ∈ configured
  told : named key = some name
  last : ∀ row ∈ configured, named row.1 = some name →
    Text.Utf8.encode row.1 ≤ Text.Utf8.encode key

/-- The values of a name below two maps: those of the second map, or else those of the first, or
else its own. -/
inductive Layered {β : Type} (named : String → Option String) (read : List String → List β)
    (first second : ValueLists) (name : String) (own : List β) : List β → Prop where
  | second {key values} (decides : Decides named second name key values) :
    Layered named read first second name own (read values)
  | first {key values} (silent : ∀ row ∈ second, named row.1 ≠ some name)
    (decides : Decides named first name key values) :
    Layered named read first second name own (read values)
  | own (silent : ∀ row ∈ second, named row.1 ≠ some name)
    (silent' : ∀ row ∈ first, named row.1 ≠ some name) :
    Layered named read first second name own own

section Layering

variable {β : Type} (named : String → Option String) (read : List String → List β)

/-- The rows that count, with names for their keys and values as they are read. -/
def countingRows (configured : ValueLists) : Table (List β) :=
  configured.filterMap fun (key, values) => (named key).map fun name => (name, read values)

variable {named read}

/-- Of the keys that stand for a name one decides. -/
lemma exists_decides {configured : ValueLists} (ordered : configured.Ordered) {name : String}
    (told : ∃ row ∈ configured, named row.1 = some name) :
    ∃ key values, Decides named configured name key values := by
  induction configured with
  | nil => simp at told
  | cons row rows ih =>
    obtain ⟨key, values⟩ := row
    obtain ⟨rising, rest⟩ := List.pairwise_cons.1 ordered
    by_cases later : ∃ row ∈ rows, named row.1 = some name
    · obtain ⟨key', values', decides⟩ := ih rest later
      refine ⟨key', values', List.mem_cons_of_mem _ decides.mem, decides.told, ?_⟩
      rintro row mem told
      rcases List.mem_cons.1 mem with rfl | mem
      · exact List.le_of_lt (Text.Utf8.encode_lt_encode_iff.2 (rising _ decides.mem))
      · exact decides.last row mem told
    · obtain ⟨row, mem, told⟩ := told
      rcases List.mem_cons.1 mem with rfl | mem
      · refine ⟨key, values, List.mem_cons_self, told, fun row mem told => ?_⟩
        rcases List.mem_cons.1 mem with rfl | mem
        · exact List.le_refl _
        · exact absurd ⟨row, mem, told⟩ later
      · exact absurd ⟨row, mem, told⟩ later

/-- A name that no key stands for has no row that counts. -/
lemma not_mem_countingRows {configured : ValueLists} {name : String}
    (silent : ∀ row ∈ configured, named row.1 ≠ some name) :
    name ∉ (countingRows named read configured).names := by
  intro mem
  obtain ⟨line, counts, rfl⟩ := List.mem_map.1 mem
  obtain ⟨row, here, told⟩ := List.mem_filterMap.1 counts
  obtain ⟨name, stands, rfl⟩ := Option.map_eq_some_iff.1 told
  exact silent row here stands

/-- The row that decides gives the values of its name. -/
lemma Decides.valuesOf_putAll {configured : ValueLists} (ordered : configured.Ordered)
    {name key : String} {values : List String} (decides : Decides named configured name key values)
    (h : List (String × β)) :
    Lines.valuesOf (Lines.putAll h (countingRows named read configured)) name = read values := by
  obtain ⟨before, after, rfl⟩ := List.append_of_mem decides.mem
  obtain ⟨-, behind, -⟩ := List.pairwise_append.1 ordered
  have last : name ∉ (countingRows named read after).names := by
    refine not_mem_countingRows fun row mem told => ?_
    have higher : Text.Utf8.encode key < Text.Utf8.encode row.1 :=
      Text.Utf8.encode_lt_encode_iff.2 ((List.pairwise_cons.1 behind).1 row mem)
    have mem' : row ∈ before ++ (key, values) :: after :=
      List.mem_append_right _ (List.mem_cons_of_mem _ mem)
    exact absurd higher (List.not_lt.2 (decides.last row mem' told))
  have split : countingRows named read (before ++ (key, values) :: after) =
      countingRows named read before ++ (name, read values) :: countingRows named read after := by
    simp [countingRows, List.filterMap_append, decides.told]
  rw [split]
  exact Lines.valuesOf_putAll_append_cons last h _ _

/-- Two maps that are put one after the other leave the values of their layers. -/
lemma layered_putAll {first second : ValueLists} (lower : first.Ordered) (upper : second.Ordered)
    (h : List (String × β)) (name : String) :
    Layered named read first second name (Lines.valuesOf h name)
      (Lines.valuesOf (Lines.putAll (Lines.putAll h (countingRows named read first))
        (countingRows named read second)) name) := by
  by_cases told : ∃ row ∈ second, named row.1 = some name
  · obtain ⟨key, values, decides⟩ := exists_decides upper told
    rw [decides.valuesOf_putAll upper]
    exact .second decides
  · have silent : ∀ row ∈ second, named row.1 ≠ some name := fun row mem here =>
      told ⟨row, mem, here⟩
    rw [Lines.valuesOf_putAll_of_not_mem (not_mem_countingRows silent)]
    by_cases told' : ∃ row ∈ first, named row.1 = some name
    · obtain ⟨key, values, decides⟩ := exists_decides lower told'
      rw [decides.valuesOf_putAll lower]
      exact .first silent decides
    · have silent' : ∀ row ∈ first, named row.1 ≠ some name := fun row mem here =>
        told' ⟨row, mem, here⟩
      rw [Lines.valuesOf_putAll_of_not_mem (not_mem_countingRows silent')]
      exact .own silent silent'

end Layering

namespace Interceptor

/-- Configured headers put the rows of their legal names, with the legal values. -/
lemma apply_headers (configured : ValueLists) (t : Template) :
    (headers configured).apply t = t.withHeaders (Lines.putAll t.headers
      (countingRows Http.headerName? (·.filterMap Http.headerValue?) configured)) := rfl

/-- Configured queries put their rows. -/
lemma apply_queryParameters (configured : ValueLists) (t : Template) :
    (queryParameters configured).apply t =
      { t with queries := Lines.putAll t.queries configured } := by
  induction configured generalizing t with
  | nil => rfl
  | cons row rows ih =>
    obtain ⟨name, values⟩ := row
    exact ih (t.setQuery name values)

/-- All rows of queries count, as they are. -/
lemma countingRows_some (configured : ValueLists) : countingRows some id configured = configured :=
  List.filterMap_some

/-- Below two maps each header has the legal values of the last key of the second map for it, or
else of the first, or else its own, and case does not count in keys. Queries likewise, by their
exact names, and those that are in neither map stay in front. No map changes anything the second
time. -/
theorem layers_replace {first second : ValueLists} (lower : first.Ordered)
    (upper : second.Ordered) (t : Template) :
    (∃ h, (headers second).apply ((headers first).apply t) = t.withHeaders h ∧
      ∀ name, Layered Http.headerName? (·.filterMap Http.headerValue?) first second name
        (t.headers.valuesOf name) (h.valuesOf name)) ∧
    (∀ a b : String, a.toList.map Char.toLower = b.toList.map Char.toLower →
      Http.headerName? a = Http.headerName? b) ∧
    (∃ set, (queryParameters second).apply ((queryParameters first).apply t) =
        { t with queries :=
          t.queries.filter (fun q => q.1 ∉ first.names ∧ q.1 ∉ second.names) ++ set } ∧
      (∀ q ∈ set, q.1 ∈ first.names ∨ q.1 ∈ second.names) ∧
      ∀ name, Layered some id first second name (Lines.valuesOf t.queries name)
        (Lines.valuesOf ((queryParameters second).apply ((queryParameters first).apply t)).queries
          name)) ∧
    ∀ configured (u : Template),
      (headers configured).apply ((headers configured).apply u) = (headers configured).apply u ∧
      (queryParameters configured).apply ((queryParameters configured).apply u) =
        (queryParameters configured).apply u := by
  refine ⟨⟨_, rfl, fun name => layered_putAll lower upper t.headers name⟩,
    fun _ _ same => Http.headerName?_congr same, ?_, fun configured u => ⟨?_, ?_⟩⟩
  · have applied : (queryParameters second).apply ((queryParameters first).apply t) =
        { t with queries := Lines.putAll (Lines.putAll t.queries first) second } := by
      rw [apply_queryParameters, apply_queryParameters]
    rw [applied]
    refine ⟨_, congrArg (fun queries => { t with queries }) (Lines.putAll_putAll ..), ?_, ?_⟩
    · intro q mem
      rcases List.mem_append.1 mem with kept | set
      · have named := Lines.mem_of_mem_putAll (List.mem_of_mem_filter kept)
        exact .inl (named.resolve_left List.not_mem_nil)
      · exact .inr ((Lines.mem_of_mem_putAll set).resolve_left List.not_mem_nil)
    · intro name
      have layered : Layered some id first second name (Lines.valuesOf t.queries name)
          (Lines.valuesOf (Lines.putAll (Lines.putAll t.queries (countingRows some id first))
            (countingRows some id second)) name) :=
        layered_putAll lower upper t.queries name
      rwa [countingRows_some, countingRows_some] at layered
  · rw [apply_headers, apply_headers]
    exact congrArg u.withHeaders (Lines.putAll_putAll_self _ _)
  · rw [apply_queryParameters, apply_queryParameters, Lines.putAll_putAll_self]

/-- A map in which two keys are the same header, one of them with an illegal value, and one key is
no header at all. -/
def colliding : ValueLists :=
  [("Locale", ["de"]), ("X-Tag", ["one"]), ("not a name", ["two"]), ("x-tag", ["three\n", "four"])]

/-- A map that goes before it in one header. -/
def overriding : ValueLists := [("locale", ["en", "fr"])]

/-- Of two keys for a header the last one counts, without its illegal value. -/
theorem layers_replace_colliding : colliding.Ordered ∧ overriding.Ordered ∧
    Layered Http.headerName? (·.filterMap Http.headerValue?) colliding overriding "x-tag" [[0x31]]
      [Text.Utf8.encode "four"] ∧
    Layered some id colliding overriding "x-tag" ["five"] ["three\n", "four"] ∧
    Layered some id colliding overriding "locale" ["it"] ["en", "fr"] ∧
    Layered some id colliding overriding "Locale" [] ["de"] := by
  have lower : colliding.Ordered := by unfold Table.Ordered; decide
  have upper : overriding.Ordered := by unfold Table.Ordered; decide
  let t : Template :=
    { headers := [("x-tag", [0x31])], queries := [("x-tag", "five"), ("locale", "it")] }
  obtain ⟨⟨h, applied, layered⟩, -, ⟨-, -, -, queries⟩, -⟩ := layers_replace lower upper t
  have left : h.valuesOf "x-tag" = [Text.Utf8.encode "four"] := by
    rw [← show _ = h from congrArg Template.headers applied]
    decide
  exact ⟨lower, upper, left ▸ layered "x-tag", queries "x-tag", queries "locale", queries "Locale"⟩

end Interceptor

end ServiceClient
