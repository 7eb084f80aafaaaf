import ServiceClient.Proofs.Declaration.Checks
import ServiceClient.Proofs.Url.Special

/-!
# Normal forms of paths

The normal form of a path takes blanks off its ends once, and then slashes. A blank behind a slash
is left by that, so that the result may begin or end with one, and may change when it is normalized
again: `not_normal`. `normal_iff` says for which paths the normal form is what it should be: for
those in which all blanks stand outside of the slashes.
-/

namespace ServiceClient

namespace Text

variable {p : Char → Bool} {cs inner : List Char}

/-- Nothing is dropped at the end of a text exactly when its last character is kept. -/
lemma dropEnd_eq_self_iff : dropEnd p cs = cs ↔ ∀ c ∈ cs.getLast?, p c = false := by
  rw [show dropEnd p cs = cs.rdropWhile p from rfl, List.rdropWhile_eq_self_iff]
  constructor
  · intro kept c mem
    obtain ⟨some, rfl⟩ := List.mem_getLast?_eq_getLast mem
    exact Bool.eq_false_iff.2 (kept some)
  · exact fun kept some => Bool.eq_false_iff.1 (kept _ (List.getLast?_eq_some_getLast some))

/-- There is one inner text. -/
lemma Inner.eq_dropBoth (is : Inner p cs inner) : inner = dropBoth p cs := by
  obtain ⟨front, back, rfl, dropped⟩ := is.parts
  have front' : ∀ c ∈ front, p c = true := fun c mem => dropped c (List.mem_append_left _ mem)
  have back' : ∀ c ∈ back, p c = true := fun c mem => dropped c (List.mem_append_right _ mem)
  cases inner with
  | nil =>
    have all : (front ++ [] ++ back).dropWhile p = [] :=
      List.dropWhile_eq_nil_iff.2 fun c mem => dropped c (by simpa using mem)
    rw [dropBoth, all]
    rfl
  | cons x xs =>
    have first : (front ++ (x :: xs ++ back)).dropWhile p = x :: xs ++ back :=
      dropWhile_append_of_head front' is.head
    have last : (back.reverse ++ (x :: xs).reverse).dropWhile p = (x :: xs).reverse :=
      dropWhile_append_of_head (fun c mem => back' c (List.mem_reverse.1 mem)) fun c mem =>
        is.last c (by rwa [List.head?_reverse] at mem)
    rw [dropBoth, List.append_assoc, first, dropEnd, List.reverse_append, last,
      List.reverse_reverse]

/-- A text that neither begins nor ends with a character that could be dropped stays as it is. -/
lemma dropBoth_eq_self (head : ∀ c ∈ cs.head?, p c = false)
    (last : ∀ c ∈ cs.getLast?, p c = false) : dropBoth p cs = cs :=
  (Inner.eq_dropBoth ⟨⟨[], [], by simp, by simp⟩, head, last⟩).symm

end Text

namespace Address

/-- Whether a character is a slash or a blank. -/
def isPadding (c : Char) : Bool :=
  c == '/' || Text.isBlank c

/-- A path as a client should have it: empty, or one slash and a text with neither slashes nor
blanks at its ends. -/
inductive Canonical : String → Prop where
  | empty :
    Canonical ""
  | rooted {inner} :
    inner ≠ [] →
    (∀ c ∈ inner.head?, isPadding c = false) →
    (∀ c ∈ inner.getLast?, isPadding c = false) →
    Canonical (String.ofList ('/' :: inner))

/-- A path whose blanks stand outside of the slashes around it. -/
inductive Tidy : String → Prop where
  | mk {blanks slashes inner slashes' blanks'} :
    (∀ c ∈ blanks ++ blanks', Text.isBlank c = true) →
    (∀ c ∈ slashes ++ slashes', c = '/') →
    (∀ c ∈ inner.head?, isPadding c = false) →
    (∀ c ∈ inner.getLast?, isPadding c = false) →
    Tidy (String.ofList (blanks ++ (slashes ++ inner ++ slashes') ++ blanks'))

/-- A path consists of slashes and blanks. -/
def OnlyPadding (path : String) : Prop := ∀ c ∈ path.toList, isPadding c = true

/-- What is expected of the normal form of a path. -/
structure Normal (path : String) : Prop where
  idempotent : normalizePath (normalizePath path) = normalizePath path
  canonical : Canonical (normalizePath path)
  empty_iff : normalizePath path = "" ↔ OnlyPadding path

variable {path : String} {inner : List Char} {c : Char}

lemma isPadding_eq_false : isPadding c = false ↔ (c == '/') = false ∧ Text.isBlank c = false :=
  Bool.or_eq_false_iff

/-- A path has the normal form that belongs to what is left of it without the blanks around it and
then without the slashes around that. -/
lemma exists_normalizePath (path : String) : ∃ rest inner,
    Text.Inner Text.isBlank path.toList rest ∧ Text.Inner (· == '/') rest inner ∧
      normalizePath path = if inner = [] then "" else String.ofList ('/' :: inner) := by
  refine ⟨_, _, Text.inner_dropBoth _ _, Text.inner_dropBoth _ _, ?_⟩
  simp only [normalizePath, Text.trim, String.toList_ofList, List.isEmpty_iff]

lemma normalizePath_of_inner {rest : List Char} (blank : Text.Inner Text.isBlank path.toList rest)
    (slash : Text.Inner (· == '/') rest inner) :
    normalizePath path = if inner = [] then "" else String.ofList ('/' :: inner) := by
  obtain ⟨rest', inner', blank', slash', eq⟩ := exists_normalizePath path
  obtain rfl : rest' = rest := blank'.eq_dropBoth.trans blank.eq_dropBoth.symm
  obtain rfl : inner' = inner := slash'.eq_dropBoth.trans slash.eq_dropBoth.symm
  exact eq

lemma normalizePath_eq_empty {rest : List Char} (blank : Text.Inner Text.isBlank path.toList rest)
    (slash : Text.Inner (· == '/') rest inner) : normalizePath path = "" ↔ inner = [] := by
  rw [normalizePath_of_inner blank slash]
  by_cases none : inner = []
  · simp [none]
  · simp [none]

/-- Slashes around a text keep the blanks outside of them apart from it. -/
lemma inner_of_slashes {slashes slashes' : List Char} (only : ∀ c ∈ slashes ++ slashes', c = '/')
    (head : ∀ c ∈ inner.head?, isPadding c = false)
    (last : ∀ c ∈ inner.getLast?, isPadding c = false) :
    (∀ c ∈ (slashes ++ inner ++ slashes').head?, Text.isBlank c = false) ∧
      (∀ c ∈ (slashes ++ inner ++ slashes').getLast?, Text.isBlank c = false) ∧
      Text.Inner (· == '/') (slashes ++ inner ++ slashes') inner := by
  have slash (c : Char) (mem : c ∈ slashes ∨ c ∈ slashes') : Text.isBlank c = false := by
    rw [only c (List.mem_append.2 mem)]
    rfl
  refine ⟨fun c mem => ?_, fun c mem => ?_, ⟨⟨slashes, slashes', rfl, ?_⟩, ?_, ?_⟩⟩
  · simp only [List.head?_append, Option.mem_def, Option.or_eq_some_iff] at mem
    obtain (here | ⟨-, here⟩) | ⟨-, here⟩ := mem
    · exact slash c (.inl (List.mem_of_mem_head? here))
    · exact (isPadding_eq_false.1 (head c here)).2
    · exact slash c (.inr (List.mem_of_mem_head? here))
  · simp only [List.getLast?_append, Option.mem_def, Option.or_eq_some_iff] at mem
    obtain here | ⟨-, here | ⟨-, here⟩⟩ := mem
    · exact slash c (.inr (List.mem_of_getLast? here))
    · exact (isPadding_eq_false.1 (last c here)).2
    · exact slash c (.inl (List.mem_of_getLast? here))
  · exact fun c mem => beq_iff_eq.2 (only c mem)
  · exact fun c mem => (isPadding_eq_false.1 (head c mem)).1
  · exact fun c mem => (isPadding_eq_false.1 (last c mem)).1

/-- In a path in order, what is left without blanks and slashes has no padding at its ends. -/
lemma Tidy.exists_inner (tidy : Tidy path) : ∃ rest inner,
    Text.Inner Text.isBlank path.toList rest ∧ Text.Inner (· == '/') rest inner ∧
      (∀ c ∈ inner.head?, isPadding c = false) ∧ ∀ c ∈ inner.getLast?, isPadding c = false := by
  cases tidy with
  | @mk blanks slashes inner slashes' blanks' blank only head last =>
    obtain ⟨first, final, slash⟩ := inner_of_slashes only head last
    have outer : Text.Inner Text.isBlank (String.ofList
        (blanks ++ (slashes ++ inner ++ slashes') ++ blanks')).toList (slashes ++ inner ++ slashes') :=
      ⟨⟨blanks, blanks', String.toList_ofList, blank⟩, first, final⟩
    exact ⟨_, _, outer, slash, head, last⟩

/-- What is left of a path is without padding at its ends exactly when the path is in order. -/
lemma tidy_iff {rest : List Char} (blank : Text.Inner Text.isBlank path.toList rest)
    (slash : Text.Inner (· == '/') rest inner) :
    Tidy path ↔ (∀ c ∈ inner.head?, Text.isBlank c = false) ∧
      ∀ c ∈ inner.getLast?, Text.isBlank c = false := by
  constructor
  · intro tidy
    obtain ⟨rest', inner', blank', slash', head, last⟩ := tidy.exists_inner
    obtain rfl : rest' = rest := blank'.eq_dropBoth.trans blank.eq_dropBoth.symm
    obtain rfl : inner' = inner := slash'.eq_dropBoth.trans slash.eq_dropBoth.symm
    exact ⟨fun c mem => (isPadding_eq_false.1 (head c mem)).2,
      fun c mem => (isPadding_eq_false.1 (last c mem)).2⟩
  · rintro ⟨head, last⟩
    obtain ⟨blanks, blanks', parts, outer⟩ := blank.parts
    obtain ⟨slashes, slashes', rfl, only⟩ := slash.parts
    rw [← String.ofList_toList (s := path), parts]
    exact .mk outer (fun c mem => eq_of_beq (only c mem))
      (fun c mem => isPadding_eq_false.2 ⟨slash.head c mem, head c mem⟩)
      fun c mem => isPadding_eq_false.2 ⟨slash.last c mem, last c mem⟩

/-- A path that is left as it is begins with one slash, and only a blank at its end is taken off. -/
lemma normalizePath_cons_eq_self (some : inner ≠ [])
    (head : ∀ c ∈ inner.head?, (c == '/') = false)
    (last : ∀ c ∈ inner.getLast?, (c == '/') = false) :
    normalizePath (String.ofList ('/' :: inner)) = String.ofList ('/' :: inner) ↔
      ∀ c ∈ inner.getLast?, Text.isBlank c = false := by
  have trimmed : Text.dropBoth Text.isBlank ('/' :: inner) =
      '/' :: Text.dropEnd Text.isBlank inner :=
    Text.dropEnd_append_cons rfl [] inner
  have stripped (cs : List Char) :
      Text.dropBoth (· == '/') ('/' :: cs) = Text.dropBoth (· == '/') cs := rfl
  have normal : normalizePath (String.ofList ('/' :: inner)) =
      if Text.dropBoth (· == '/') (Text.dropEnd Text.isBlank inner) = [] then ""
      else String.ofList ('/' :: Text.dropBoth (· == '/') (Text.dropEnd Text.isBlank inner)) := by
    simp only [normalizePath, Text.trim, String.toList_ofList, trimmed, stripped,
      List.isEmpty_iff]
  rw [normal, ← Text.dropEnd_eq_self_iff]
  constructor
  · intro same
    have same' : Text.dropBoth (· == '/') (Text.dropEnd Text.isBlank inner) = inner := by
      split at same
      next => cases String.ofList_eq_empty_iff.1 same.symm
      next => exact (List.cons.inj (String.ofList_inj.1 same)).2
    -- nothing can have been taken off, since nothing is missing in the end
    have least : inner.length ≤ (Text.dropEnd Text.isBlank inner).length := by
      conv_lhs => rw [← same']
      exact (List.rdropWhile_prefix _ _).length_le.trans (List.dropWhile_suffix _).length_le
    exact (List.rdropWhile_prefix _ _).eq_of_length_le least
  · intro same
    rw [same, Text.dropBoth_eq_self head last, if_neg some]

/-- The normal form of any path is empty, or a slash and a text without slashes at its ends. -/
lemma normalizePath_rooted (path : String) :
    normalizePath path = "" ∨ ∃ inner, inner ≠ [] ∧
      normalizePath path = String.ofList ('/' :: inner) ∧
      (∀ c ∈ inner.head?, (c == '/') = false) ∧ ∀ c ∈ inner.getLast?, (c == '/') = false := by
  obtain ⟨rest, inner, blank, slash, eq⟩ := exists_normalizePath path
  by_cases none : inner = []
  · exact .inl ((normalizePath_eq_empty blank slash).2 none)
  · rw [if_neg none] at eq
    exact .inr ⟨inner, none, eq, slash.head, slash.last⟩

/-- A normal form stays as it is exactly when it does not end in a blank. -/
lemma normalizePath_idem_iff (path : String) :
    normalizePath (normalizePath path) = normalizePath path ↔
      ∀ c ∈ (normalizePath path).toList.getLast?, Text.isBlank c = false := by
  rcases normalizePath_rooted path with empty | ⟨inner, some, eq, head, last⟩
  · rw [empty]
    exact iff_of_true rfl (by simp)
  · rw [eq, normalizePath_cons_eq_self some head last, String.toList_ofList,
      List.getLast?_cons, Option.getD_of_ne_none (by simpa using some)]

/-- A canonical path does not end in a blank. -/
lemma Canonical.last (canonical : Canonical path) :
    ∀ c ∈ path.toList.getLast?, Text.isBlank c = false := by
  cases canonical with
  | empty => simp
  | rooted some head last =>
    rw [String.toList_ofList, List.getLast?_cons_of_ne_nil some]
    exact fun c mem => (isPadding_eq_false.1 (last c mem)).2

/-- A normal form is canonical exactly when it comes from a path in order. -/
lemma canonical_iff (path : String) : Canonical (normalizePath path) ↔ Tidy path := by
  obtain ⟨rest, inner, blank, slash, eq⟩ := exists_normalizePath path
  rw [tidy_iff blank slash, eq]
  by_cases none : inner = []
  · rw [if_pos none, none]
    exact iff_of_true .empty (by simp)
  rw [if_neg none]
  constructor
  · intro canonical
    generalize text : String.ofList ('/' :: inner) = result at canonical
    cases canonical with
    | empty => cases String.ofList_eq_empty_iff.1 text
    | rooted _ head last =>
      cases String.ofList_inj.1 text
      exact ⟨fun c mem => (isPadding_eq_false.1 (head c mem)).2,
        fun c mem => (isPadding_eq_false.1 (last c mem)).2⟩
  · rintro ⟨head, last⟩
    exact .rooted none (fun c mem => isPadding_eq_false.2 ⟨slash.head c mem, head c mem⟩)
      fun c mem => isPadding_eq_false.2 ⟨slash.last c mem, last c mem⟩

/-- A normal form is empty exactly when it comes from slashes with blanks around them. -/
lemma normalizePath_eq_empty_iff (path : String) :
    normalizePath path = "" ↔ Tidy path ∧ OnlyPadding path := by
  obtain ⟨rest, inner, blank, slash, -⟩ := exists_normalizePath path
  obtain ⟨blanks, blanks', parts, outer⟩ := blank.parts
  obtain ⟨slashes, slashes', rfl, only⟩ := slash.parts
  rw [normalizePath_eq_empty blank slash, tidy_iff blank slash, OnlyPadding, parts]
  constructor
  · rintro rfl
    refine ⟨by simp, fun c mem => ?_⟩
    simp only [List.append_nil, List.mem_append] at mem
    rcases mem with (mem | mem | mem) | mem
    · exact Bool.or_eq_true_iff.2 (.inr (outer c (List.mem_append_left _ mem)))
    · exact Bool.or_eq_true_iff.2 (.inl (only c (List.mem_append_left _ mem)))
    · exact Bool.or_eq_true_iff.2 (.inl (only c (List.mem_append_right _ mem)))
    · exact Bool.or_eq_true_iff.2 (.inr (outer c (List.mem_append_right _ mem)))
  · rintro ⟨⟨head, -⟩, padding⟩
    cases inner with
    | nil => rfl
    | cons c cs =>
      have kept := isPadding_eq_false.2 ⟨slash.head c rfl, head c rfl⟩
      rw [padding c (by simp)] at kept
      cases kept

/-- What is expected of the normal form of a path holds exactly for the paths whose blanks stand
outside of the slashes around them. The normal form of any path is empty, or a slash and a text
without slashes at its ends. It stays as it is when it does not end in a blank, and it is empty
exactly when the path consists of slashes with blanks around them. -/
theorem normal_iff (path : String) :
    (Normal path ↔ Tidy path) ∧
      (normalizePath path = "" ∨ ∃ inner, inner ≠ [] ∧
        normalizePath path = String.ofList ('/' :: inner) ∧
        (∀ c ∈ inner.head?, (c == '/') = false) ∧ ∀ c ∈ inner.getLast?, (c == '/') = false) ∧
      (normalizePath (normalizePath path) = normalizePath path ↔
        ∀ c ∈ (normalizePath path).toList.getLast?, Text.isBlank c = false) ∧
      (normalizePath path = "" ↔ Tidy path ∧ OnlyPadding path) := by
  have fixed := normalizePath_idem_iff path
  have empty := normalizePath_eq_empty_iff path
  refine ⟨⟨fun normal => (canonical_iff path).1 normal.canonical, fun tidy => ?_⟩,
    normalizePath_rooted path, fixed, empty⟩
  have canonical := (canonical_iff path).2 tidy
  exact ⟨fixed.2 canonical.last, canonical, empty.trans (and_iff_right tidy)⟩

/-- Slashes with a blank between them. -/
theorem not_normal : ¬ ∀ path, Normal path := by
  intro law
  have empty := (law "/ /").empty_iff.2 (List.all_eq_true.1 (by decide))
  have left : normalizePath "/ /" ≠ "" := by decide
  exact left empty

end Address
end ServiceClient
