import ServiceClient.Proofs.Call.Repetition
import ServiceClient.Proofs.Call.Server
import ServiceClient.Proofs.Steps
import ServiceClient.Proofs.Table
import ServiceClient.Proofs.Url.Form

/-!
# Queries that arrive

A service that reads the query of a request finds, in this order, the pairs of the address and the
path, the queries of the template, and those of its query map. `QueryMap.Told` says which pairs a
query map stands for; the rest of the URL is the one without queries.
-/

namespace ServiceClient

namespace QueryMap

open Url.Form (Pair)

/-- The text by which a value is told: a string as it is, any other value as compact JSON. -/
inductive ValueTold : Json → String → Prop where
  | string (s : String) : ValueTold (.string s) s
  | other {v} (noString : ∀ s, v ≠ .string s) : ValueTold v v.text

/-- The texts by which the items of an array are told, one for each item that is not null. -/
inductive ItemsTold : List Json → List String → Prop where
  | nil : ItemsTold [] []
  | null {items texts} (rest : ItemsTold items texts) : ItemsTold (.null :: items) texts
  | cons {v text items texts} (value : v ≠ .null) (told : ValueTold v text)
    (rest : ItemsTold items texts) : ItemsTold (v :: items) (text :: texts)

/-- The texts by which a field is told: none for null, those of its items for an array, and one for
any other value. -/
inductive FieldTold : Json → List String → Prop where
  | null : FieldTold .null []
  | array {items texts} (told : ItemsTold items texts) : FieldTold (.array items) texts
  | single {v text} (value : v ≠ .null) (noArray : ∀ items, v ≠ .array items)
    (told : ValueTold v text) : FieldTold v [text]

/-- The pairs by which fields are told, field by field. -/
inductive FieldsTold : List (String × Json) → List Pair → Prop where
  | nil : FieldsTold [] []
  | cons {name v texts fields pairs} (told : FieldTold v texts) (rest : FieldsTold fields pairs) :
    FieldsTold ((name, v) :: fields) (texts.map (name, ·) ++ pairs)

/-- The pairs by which a query map is told: those of the fields of an object, and none otherwise. -/
inductive Told : Option Json → List Pair → Prop where
  | none : Told none []
  | object {fields pairs} (told : FieldsTold fields pairs) : Told (some (.object fields)) pairs
  | other {v} (noObject : ∀ fields, v ≠ .object fields) : Told (some v) []

/-- A pair has the name of the field that it tells. -/
lemma FieldsTold.name_mem {fields : List (String × Json)} {pairs : List Pair}
    (told : FieldsTold fields pairs) {p : Pair} (mem : p ∈ pairs) : ∃ v, (p.1, v) ∈ fields := by
  induction told with
  | nil => cases mem
  | cons told rest ih =>
    rcases List.mem_append.1 mem with here | there
    · obtain ⟨text, -, rfl⟩ := List.mem_map.1 here
      exact ⟨_, List.mem_cons_self⟩
    · obtain ⟨v, mem⟩ := ih there
      exact ⟨v, List.mem_cons_of_mem _ mem⟩

/-- The pairs of an object stand in the order of its keys. -/
lemma FieldsTold.rising {fields : List (String × Json)} {pairs : List Pair}
    (told : FieldsTold fields pairs) (ordered : Table.Ordered fields) :
    pairs.Pairwise fun p q => Text.Utf8.encode p.1 ≤ Text.Utf8.encode q.1 := by
  induction told with
  | nil => exact .nil
  | @cons name v texts fields pairs told rest ih =>
    obtain ⟨first, ordered⟩ := List.pairwise_cons.1 ordered
    refine List.pairwise_append.2 ⟨?_, ih ordered, fun p here q there => ?_⟩
    · refine List.pairwise_map.2 (List.pairwise_of_forall fun _ _ => List.le_refl _)
    · obtain ⟨text, -, rfl⟩ := List.mem_map.1 here
      obtain ⟨v, mem⟩ := rest.name_mem there
      exact List.le_of_lt (Text.Utf8.encode_lt_encode_iff.2 (first _ mem))

end QueryMap

namespace QueryMapEncoder

open QueryMap

/-- What is written for a value tells it. -/
lemma scalarText_told (v : Json) : ValueTold v (scalarText v) := by
  cases v with
  | string s => exact .string s
  | _ => exact .other fun s eq => by cases eq

/-- What is written for the items of an array tells them. -/
lemma items_told (items : List Json) :
    ItemsTold items ((items.filter (!isNull ·)).map scalarText) := by
  induction items with
  | nil => exact .nil
  | cons v items ih =>
    cases v with
    | null => exact .null ih
    | _ => exact .cons (by simp) (scalarText_told _) ih

/-- What is written for a field tells it under its name. -/
lemma fieldPairs_told (name : String) (v : Json) :
    ∃ texts, FieldTold v texts ∧ fieldPairs name v = texts.map (name, ·) := by
  cases v with
  | null => exact ⟨_, .null, rfl⟩
  | array items => exact ⟨_, .array (items_told items), by simp [fieldPairs]⟩
  | _ => exact ⟨_, .single (by simp) (by simp) (scalarText_told _), rfl⟩

/-- What is written for fields tells them. -/
lemma flatMap_fieldPairs_told (fs : List (String × Json)) :
    FieldsTold fs (fs.flatMap fun (name, v) => fieldPairs name v) := by
  induction fs with
  | nil => exact .nil
  | cons f fs ih =>
    obtain ⟨name, v⟩ := f
    obtain ⟨texts, told, written⟩ := fieldPairs_told name v
    simp only [List.flatMap_cons, written]
    exact .cons told ih

/-- What is written for a query map tells it. -/
lemma fields_told (v : Json) : Told (some v) (fields.encode v) := by
  cases v with
  | object fs => exact .object (flatMap_fieldPairs_told fs)
  | _ => exact .other (by simp)

end QueryMapEncoder

namespace Handler

variable {h : Handler} {target : Target} {key : String} {t u : Template}

/-- The query map is told behind the queries of the template. -/
lemma expandQueries_told (maps : h.queryMapEncoder = .fields) :
    ∃ told, QueryMap.Told t.queryMap told ∧
      (h.expandQueries t).path = t.path ∧ (h.expandQueries t).queries = t.queries ++ told := by
  unfold expandQueries
  split
  next none => exact ⟨[], none ▸ .none, rfl, (List.append_nil _).symm⟩
  next v some => exact ⟨_, some ▸ QueryMapEncoder.fields_told v, rfl, by rw [maps]; rfl⟩

/-- The JSON encoder touches neither the path nor the queries. -/
lemma Encoded.json (encoder : h.encoder = .json) (encoded : h.Encoded t u) :
    u.path = (h.expandQueries t).path ∧ u.queries = (h.expandQueries t).queries := by
  cases encoded with
  | value body enc =>
    rw [encoder] at enc
    cases enc
    exact ⟨rfl, rfl⟩
  | plain => exact ⟨rfl, rfl⟩

/-- The query of a request is read as the pairs of the address and the path, then the queries of the
template, then what tells its query map, in the order of the keys. The rest of the URL is the one of
the address and the path. -/
theorem queries_of_mem_requests (encoder : h.encoder = .json) (maps : h.queryMapEncoder = .fields)
    (plain : h.interceptors = []) {s : Surroundings} {r : Http.Request}
    (sent : r ∈ (h.call target key t s).requests) :
    ∃ url told, Url.parse (Template.joinPath target.url t.path) = .ok url ∧
      QueryMap.Told t.queryMap told ∧
      Url.Form.decode (r.url.query.getD []) =
        Url.Form.decode (url.query.getD []) ++ t.queries ++ told ∧
      r.url = { url with query := r.url.query } ∧ (t.queries ++ told = [] → r.url = url) ∧
      ∀ fields, t.queryMap = some (.object fields) → Table.Ordered fields →
        told.Pairwise fun p q => Text.Utf8.encode p.1 ≤ Text.Utf8.encode q.1 := by
  cases composed_of_mem_requests sent with
  | @mk u url octets encoded allowed found body =>
    obtain ⟨told, tells, path, queries⟩ := expandQueries_told (t := t) maps
    obtain ⟨path', queries'⟩ := encoded.json encoder
    have unchanged : h.intercept u = u := by rw [intercept, plain]; rfl
    rw [unchanged, Template.url, path', path, queries', queries] at found
    obtain ⟨read, parsed, rfl⟩ := map_ok found
    refine ⟨read, told, parsed, tells, ?_, ?_, ?_, ?_⟩
    · rw [List.append_assoc]
      exact Url.decode_appendPairs read _
    · exact Url.appendPairs_eq read _
    · intro nothing
      rw [nothing]
      rfl
    · intro fields object ordered
      rw [object] at tells
      cases tells with
      | object told => exact told.rising ordered
      | other noObject => exact absurd rfl (noObject fields)

/-- A template with names and values that need an escape, behind a query that ends in an
ampersand. -/
def crowded : Template where
  path := "/find?q=1&#top"
  queries := [("a&b", "1=2+3%"), ("", "")]
  queryMap := some (.object [("none", .null),
    ("tags", .array [.string "x y", .null, .array [.null]]), ("ö", .int 3)])

/-- The requests of a call with this template. -/
def crowdedRequests : List Http.Request :=
  (Template.usualHandler.call ⟨⟨"UsersClient", .interface⟩, "users", "http://users:8080/api/"⟩
    "find" crowded { answer := fun _ => .ok ⟨200, [], []⟩ }).requests

/-- What was sent is read, and the fragment stays. -/
theorem queries_of_mem_requests_crowded : ∃ r ∈ crowdedRequests,
    QueryMap.Told crowded.queryMap [("tags", "x y"), ("tags", "[null]"), ("ö", "3")] ∧
      Url.Form.decode (r.url.query.getD []) = [("q", "1"), ("a&b", "1=2+3%"), ("", ""),
        ("tags", "x y"), ("tags", "[null]"), ("ö", "3")] ∧
      r.url.fragment = some "top".toList := by
  have some : crowdedRequests ≠ [] := by decide +kernel
  have arrived : ∀ r ∈ crowdedRequests, Url.Form.decode (r.url.query.getD []) =
      [("q", "1")] ++ crowded.queries ++
        [("tags", "x y"), ("tags", "[null]"), ("ö", "3")] := by decide +kernel
  have parsed : Url.parse (Template.joinPath "http://users:8080/api/" crowded.path) =
      .ok { Template.usersUrl with
        path := .segments ["api".toList, "find".toList]
        query := "q=1&".toList
        fragment := "top".toList } := by decide +kernel
  have first : Url.Form.decode "q=1&".toList = [("q", "1")] := by decide +kernel
  obtain ⟨r, mem⟩ := List.exists_mem_of_ne_nil _ some
  obtain ⟨url, told, read, tells, decoded, rest, -, -⟩ := queries_of_mem_requests rfl rfl rfl mem
  cases read.symm.trans parsed
  rw [arrived r mem, Option.getD_some, first] at decoded
  exact ⟨r, mem, List.append_cancel_left decoded ▸ tells, arrived r mem, congrArg Url.fragment rest⟩

end Handler
end ServiceClient
