import Mathlib.Data.List.Basic
import Mathlib.Data.List.Forall2
import Mathlib.Data.List.Infix
import Mathlib.Tactic.Lemma
import ServiceClient.Declaration.Placeholder

/-!
# Texts written in pieces

A text is put together from pieces: text that stands for itself, and placeholders. When each piece
is `Legible`, the pieces are read back as they were written, wherever they touch each other, and the
text is expanded to what they stand for. This is not read again: `expand_written`.
-/

namespace ServiceClient

namespace Placeholder

/-- A placeholder that ends where it is meant to: its key is not empty and holds neither a closing
brace nor a colon, and its default holds no closing brace. -/
structure Legible (p : Placeholder) : Prop where
  key_ne_nil : p.key ≠ []
  key : ∀ c ∈ p.key, c ≠ '\x7d' ∧ c ≠ ':'
  fallback : ∀ d ∈ p.fallback, '\x7d' ∉ d

instance (p : Placeholder) : Decidable p.Legible :=
  -- the key is gone through, and not all characters that there are
  haveI : Decidable (∀ c ∈ p.key, c ≠ '\x7d' ∧ c ≠ ':') := List.decidableBAll _ _
  decidable_of_iff
    (p.key ≠ [] ∧ (∀ c ∈ p.key, c ≠ '\x7d' ∧ c ≠ ':') ∧ ∀ d ∈ p.fallback, '\x7d' ∉ d)
    ⟨fun ⟨key_ne_nil, key, fallback⟩ => ⟨key_ne_nil, key, fallback⟩,
      fun ⟨key_ne_nil, key, fallback⟩ => ⟨key_ne_nil, key, fallback⟩⟩

variable {p : Placeholder}

/-- The key is read up to the colon or the brace behind it. -/
lemma readBody?_append {key rest : List Char} (key_ne_nil : key ≠ [])
    (legible : ∀ c ∈ key, c ≠ '\x7d' ∧ c ≠ ':') (ends : ∀ c ∈ rest.head?, isKeyChar c = false) :
    readBody? (key ++ rest) = readEnd? key rest := by
  have all : ∀ c ∈ key, isKeyChar c = true := by
    intro c mem
    obtain ⟨brace, colon⟩ := legible c mem
    simp [isKeyChar, brace, colon]
  have stops : rest.takeWhile isKeyChar = [] ∧ rest.dropWhile isKeyChar = rest := by
    cases rest with
    | nil => exact ⟨rfl, rfl⟩
    | cons c rest =>
      have stop := ends c rfl
      simp [stop]
  have taken : (key ++ rest).takeWhile isKeyChar = key := by
    rw [List.takeWhile_append_of_pos all, stops.1, List.append_nil]
  have dropped : (key ++ rest).dropWhile isKeyChar = rest := by
    rw [List.dropWhile_append_of_pos all, stops.2]
  rw [readBody?, taken, dropped, if_neg (by simpa using key_ne_nil)]

/-- A placeholder is read back, whatever follows it. -/
lemma Legible.read?_written (legible : p.Legible) (rest : List Char) :
    read? (p.written ++ rest) = some (p, rest) := by
  obtain ⟨key, fallback⟩ := p
  cases fallback with
  | none =>
    have text : written ⟨key, none⟩ ++ rest = '$' :: '\x7b' :: (key ++ '\x7d' :: rest) := by
      simp [written]
    rw [text, read?, readBody?_append legible.key_ne_nil legible.key (by simp [isKeyChar]),
      readEnd?]
  | some d =>
    have text : written ⟨key, some d⟩ ++ rest =
        '$' :: '\x7b' :: (key ++ ':' :: (d ++ '\x7d' :: rest)) := by
      simp [written]
    have all : ∀ c ∈ d, isDefaultChar c = true := by
      intro c mem
      have closed := legible.fallback d rfl
      simp only [isDefaultChar, bne_iff_ne]
      rintro rfl
      exact closed mem
    have stop : isDefaultChar '\x7d' = false := rfl
    have taken : (d ++ '\x7d' :: rest).takeWhile isDefaultChar = d := by
      rw [List.takeWhile_append_of_pos all, List.takeWhile_cons_of_neg (by simp [stop]),
        List.append_nil]
    have dropped : (d ++ '\x7d' :: rest).dropWhile isDefaultChar = '\x7d' :: rest := by
      rw [List.dropWhile_append_of_pos all, List.dropWhile_cons_of_neg (by simp [stop])]
    rw [text, read?, readBody?_append legible.key_ne_nil legible.key (by simp [isKeyChar]),
      readEnd?, dropped, taken]

/-- A placeholder begins with a dollar sign and an opening brace. -/
lemma read?_eq_none {cs : List Char} (closed : ¬['$', '\x7b'] <+: cs) : read? cs = none := by
  unfold read?
  split
  next cs => exact absurd (List.prefix_append _ cs) closed
  next => rfl

end Placeholder

namespace Segment

/-- The placeholder that a piece is. -/
def placeholder? : Segment → Option Placeholder
  | literal _ => none
  | placeholder p => some p

/-- A piece that is not taken for another one: a literal opens no placeholder, not even together
with what follows it. -/
def Legible : Segment → Prop
  | literal text => ¬['$', '\x7b'] <:+: text ∧ text.getLast? ≠ some '$'
  | placeholder p => p.Legible

instance : DecidablePred Legible
  | literal text =>
    inferInstanceAs (Decidable (¬['$', '\x7b'] <:+: text ∧ text.getLast? ≠ some '$'))
  | placeholder p => inferInstanceAs (Decidable p.Legible)

/-- A piece as it is read: the characters of a literal stand alone. -/
def asRead : Segment → List Segment
  | literal text => text.map fun c => literal [c]
  | placeholder p => [placeholder p]

/-- No placeholder comes or goes when a piece is read. -/
lemma placeholders_asRead (s : Segment) :
    s.asRead.filterMap placeholder? = s.placeholder?.toList := by
  cases s with
  | literal text => simp [asRead, placeholder?]
  | placeholder p => rfl

end Segment

/-- Text that opens no placeholder is read character by character. -/
lemma segments_literal {text : List Char} (closed : ¬['$', '\x7b'] <:+: text)
    (ends : text.getLast? ≠ some '$') (rest : List Char) :
    segments (text ++ rest) = (text.map fun c => .literal [c]) ++ segments rest := by
  induction text with
  | nil => rfl
  | cons c text ih =>
    have closed' : ¬['$', '\x7b'] <:+: text := fun inside => closed (List.infix_cons inside)
    have unread : Placeholder.read? (c :: (text ++ rest)) = none := by
      refine Placeholder.read?_eq_none fun opened => ?_
      cases text with
      | nil =>
        -- the dollar sign would be the last character
        rw [List.cons_prefix_cons] at opened
        exact ends (congrArg some opened.1.symm)
      | cons d text =>
        rw [List.cons_append, List.cons_prefix_cons, List.cons_prefix_cons] at opened
        obtain ⟨rfl, rfl, -⟩ := opened
        exact closed ⟨[], text, rfl⟩
    have ends' : text.getLast? ≠ some '$' := by
      cases text with
      | nil => simp
      | cons d text => rwa [List.getLast?_cons_cons] at ends
    rw [List.cons_append, segments]
    split
    next p more read =>
      rw [unread] at read
      cases read
    next => rw [ih closed' ends', List.map_cons, List.cons_append]

/-- A placeholder is read as a whole. -/
lemma segments_placeholder {p : Placeholder} (legible : p.Legible) (rest : List Char) :
    segments (p.written ++ rest) = .placeholder p :: segments rest := by
  have read := legible.read?_written rest
  obtain ⟨c, cs, eq⟩ : ∃ c cs, p.written ++ rest = c :: cs := ⟨_, _, rfl⟩
  rw [eq] at read
  rw [eq, segments]
  split
  next p' more read' =>
    cases read.symm.trans read'
    rfl
  next unread =>
    rw [read] at unread
    cases unread

/-- Legible pieces are read back one by one. -/
lemma segments_written {pieces : List Segment} (legible : ∀ s ∈ pieces, s.Legible) :
    segments (pieces.flatMap Segment.written) = pieces.flatMap Segment.asRead := by
  induction pieces with
  | nil => rw [List.flatMap_nil, List.flatMap_nil, segments]
  | cons s pieces ih =>
    obtain ⟨first, others⟩ := List.forall_mem_cons.1 legible
    rw [List.flatMap_cons, List.flatMap_cons, ← ih others]
    cases s with
    | literal text => exact segments_literal first.1 first.2 _
    | placeholder p => exact segments_placeholder first _

namespace Placeholders

variable (ps : Placeholders)

/-- A key has a value: in the table, or else in the environment if it is asked. -/
inductive Tells (key : String) : String → Prop where
  | table {v} :
    ps.values.get? key = some v →
    Tells key v
  | environment {env v} :
    ps.values.get? key = none →
    ps.environment = some env →
    env.value? key = some v →
    Tells key v

/-- What a piece stands for: a literal for itself, and a placeholder for the value of its trimmed
key, or else for its default, or else for its own text. -/
inductive StandsFor : Segment → List Char → Prop where
  | literal (text) : StandsFor (.literal text) text
  | told {p v} :
    ps.Tells (Text.trim (String.ofList p.key)) v →
    StandsFor (.placeholder p) v.toList
  | fallback {p d} :
    (∀ v, ¬ps.Tells (Text.trim (String.ofList p.key)) v) →
    p.fallback = some d →
    StandsFor (.placeholder p) d
  | written {p} :
    (∀ v, ¬ps.Tells (Text.trim (String.ofList p.key)) v) →
    p.fallback = none →
    StandsFor (.placeholder p) p.written

variable {ps}

/-- The value of a key is looked up in the table first. -/
lemma tells_iff {key v : String} : ps.Tells key v ↔ ps.value? key = some v := by
  unfold value?
  constructor
  · rintro (found | ⟨missing, asked, found⟩)
    · rw [found, Option.some_or]
    · rw [missing, Option.none_or, asked, Option.bind_some, found]
  · intro eq
    cases found : ps.values.get? key with
    | some w =>
      rw [found, Option.some_or] at eq
      exact .table (found.trans eq)
    | none =>
      rw [found, Option.none_or] at eq
      obtain ⟨env, asked, eq⟩ := Option.bind_eq_some_iff.1 eq
      exact .environment found asked eq

/-- A key without a value is told by neither. -/
lemma not_tells_iff {key : String} : (∀ v, ¬ps.Tells key v) ↔ ps.value? key = none := by
  simp only [tells_iff, Option.eq_none_iff_forall_ne_some, ne_eq]

/-- The value of a placeholder, its default and its own text, in this order. -/
lemma valueOf_eq (p : Placeholder) : ps.valueOf p =
    ((ps.value? (Text.trim (String.ofList p.key))).map String.toList).getD
      (p.fallback.getD p.written) := by
  rw [valueOf, Text.trim, String.toList_ofList]
  cases ps.value? (String.ofList (Text.dropBoth Text.isBlank p.key)) with
  | some v => rfl
  | none => cases p.fallback <;> rfl

/-- A piece stands for its value. -/
lemma standsFor_segmentValue (s : Segment) : ps.StandsFor s (ps.segmentValue s) := by
  cases s with
  | literal text => exact .literal text
  | placeholder p =>
    rw [segmentValue, valueOf_eq]
    cases told : ps.value? (Text.trim (String.ofList p.key)) with
    | some v => exact .told (tells_iff.2 told)
    | none =>
      cases fallback : p.fallback with
      | some d => exact .fallback (not_tells_iff.2 told) fallback
      | none => exact .written (not_tells_iff.2 told) fallback

/-- It stands for nothing else. -/
lemma StandsFor.eq {s : Segment} {t : List Char} (stands : ps.StandsFor s t) :
    t = ps.segmentValue s := by
  cases stands with
  | literal => rfl
  | told tells => rw [segmentValue, valueOf_eq, tells_iff.1 tells]; rfl
  | fallback untold eq => rw [segmentValue, valueOf_eq, not_tells_iff.1 untold, eq]; rfl
  | written untold eq => rw [segmentValue, valueOf_eq, not_tells_iff.1 untold, eq]; rfl

/-- Pieces stand for their values one by one. -/
lemma forall₂_standsFor {pieces : List Segment} {texts : List (List Char)} :
    List.Forall₂ ps.StandsFor pieces texts ↔ texts = pieces.map ps.segmentValue := by
  constructor
  · intro stand
    induction stand with
    | nil => rfl
    | cons first _ ih => rw [List.map_cons, first.eq, ih]
  · rintro rfl
    exact List.forall₂_map_right_iff.2 (List.forall₂_same.2 fun s _ => standsFor_segmentValue s)

/-- Characters that are read alone stand for themselves. -/
lemma flatMap_segmentValue_asRead (s : Segment) :
    s.asRead.flatMap ps.segmentValue = ps.segmentValue s := by
  cases s with
  | literal text => simp [Segment.asRead, List.flatMap_map, segmentValue]
  | placeholder p => simp [Segment.asRead]

/-- A text of legible pieces is read as these pieces, so that no other placeholder is found in it,
and it is expanded to what they stand for, one behind the other. What a placeholder stands for is
not expanded again. -/
theorem expand_written {pieces : List Segment} (legible : ∀ s ∈ pieces, s.Legible)
    (ps : Placeholders) :
    (segments (pieces.flatMap Segment.written)).filterMap Segment.placeholder? =
      pieces.filterMap Segment.placeholder? ∧
    ∀ text, ps.expand (String.ofList (pieces.flatMap Segment.written)) = text ↔
      ∃ texts, List.Forall₂ ps.StandsFor pieces texts ∧ text = String.ofList texts.flatten := by
  have read := segments_written legible
  constructor
  · rw [read, List.filterMap_flatMap, List.filterMap_eq_flatMap_toList]
    exact List.flatMap_congr fun s _ => s.placeholders_asRead
  · intro text
    have value : ps.expand (String.ofList (pieces.flatMap Segment.written)) =
        String.ofList (pieces.map ps.segmentValue).flatten := by
      rw [expand, String.toList_ofList, read, List.flatMap_assoc, ← List.flatMap_def]
      simp only [flatMap_segmentValue_asRead]
    simp only [forall₂_standsFor, exists_eq_left, value, eq_comm]

/-- A table with a value that looks like a placeholder, and an environment. -/
def nestedValues : Placeholders where
  values := [("a", "$\x7bb\x7d"), ("b", "x")]
  environment := some [("HOME", "/root")]

/-- Pieces that touch each other, with blanks and openings in keys and defaults. -/
def touchingPieces : List Segment :=
  [.literal "\x7b$ ".toList, .placeholder ⟨" a ".toList, none⟩,
    .placeholder ⟨"$\x7b".toList, some ":$\x7bb".toList⟩,
    .placeholder ⟨"HOME".toList, some "/".toList⟩, .placeholder ⟨"c".toList, none⟩]

/-- They are told apart, and what looks like a placeholder in a value or a default stays as it
is. -/
theorem expand_written_touching :
    (∀ s ∈ touchingPieces, s.Legible) ∧
      nestedValues.expand
        "\x7b$ $\x7b a \x7d$\x7b$\x7b::$\x7bb\x7d$\x7bHOME:/\x7d$\x7bc\x7d" =
        "\x7b$ $\x7bb\x7d:$\x7bb/root$\x7bc\x7d" := by
  have legible : ∀ s ∈ touchingPieces, s.Legible := by decide
  have stand : List.Forall₂ nestedValues.StandsFor touchingPieces
      ["\x7b$ ".toList, "$\x7bb\x7d".toList, ":$\x7bb".toList, "/root".toList,
        "$\x7bc\x7d".toList] :=
    .cons (.literal _) (.cons (.told (.table rfl)) (.cons (.fallback (not_tells_iff.2 rfl) rfl)
      (.cons (.told (.environment rfl rfl rfl)) (.cons (.written (not_tells_iff.2 rfl) rfl) .nil))))
  exact ⟨legible, ((expand_written legible nestedValues).2 _).2 ⟨_, stand, by decide⟩⟩

end Placeholders
end ServiceClient
