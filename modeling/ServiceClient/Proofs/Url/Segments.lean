import Mathlib.Data.List.DropRight
import ServiceClient.Proofs.Url.Special

/-!
# Segments of a path

A path is cut at its slashes and written again with slashes between its segments. Before that each
segment is encoded. A plain segment is one that this leaves alone and that is no step of the path:
encoding makes a segment plain, unless it is one of dots, and it makes no such segment either.
-/

namespace ServiceClient.Url

variable {cs ds s t p : List Char} {c : Char}

/-- The segments for special schemes stand between slashes and backslashes. -/
lemma segments_eq_splitOnP (cs : List Char) : segments true cs = cs.splitOnP isSlash := by
  induction cs with
  | nil => rfl
  | cons c cs ih =>
    rw [segments, List.splitOnP_cons_eq_if_modifyHead, ih]
    obtain ⟨s, ss, eq⟩ := List.exists_cons_of_ne_nil (List.splitOnP_ne_nil isSlash cs)
    by_cases slash : isSlash c = true
    · simp_all [isSlash]
    · simp_all [isSlash]

/-- A slash cuts a path in two. -/
lemma segments_append_cons (cs ds : List Char) :
    segments true (cs ++ '/' :: ds) = segments true cs ++ segments true ds := by
  simp only [segments_eq_splitOnP]
  exact List.splitOnP_append_cons cs ds rfl

/-- Without slashes and backslashes there is one segment. -/
lemma segments_eq_singleton (slashless : ∀ c ∈ s, isSlash c = false) : segments true s = [s] := by
  rw [segments_eq_splitOnP]
  exact List.splitOnP_eq_singleton slashless

lemma segments_ne_nil (cs : List Char) : segments true cs ≠ [] := by
  rw [segments_eq_splitOnP]
  exact List.splitOnP_ne_nil isSlash cs

/-- The characters of a segment stand in the path, and none of them cuts it. -/
lemma mem_of_mem_segments (mem : s ∈ segments true cs) : ∀ c ∈ s, c ∈ cs ∧ isSlash c = false := by
  rw [segments_eq_splitOnP] at mem
  induction cs generalizing s with
  | nil =>
    rw [List.splitOnP_nil, List.mem_singleton] at mem
    simp [mem]
  | cons x cs ih =>
    have behind : ∀ s ∈ cs.splitOnP isSlash, ∀ c ∈ s, c ∈ x :: cs ∧ isSlash c = false :=
      fun s mem c inside => (ih mem c inside).imp_left (List.mem_cons_of_mem x)
    rw [List.splitOnP_cons_eq_if_modifyHead] at mem
    obtain ⟨s', ss, eq⟩ := List.exists_cons_of_ne_nil (List.splitOnP_ne_nil isSlash cs)
    rw [eq] at mem behind
    split at mem
    next =>
      rcases List.mem_cons.1 mem with rfl | mem
      · simp
      · exact behind s mem
    next plain =>
      rcases List.mem_cons.1 mem with rfl | mem
      · intro c inside
        rcases List.mem_cons.1 inside with rfl | inside
        · exact ⟨List.mem_cons_self, Bool.eq_false_iff.2 plain⟩
        · exact behind s' List.mem_cons_self c inside
      · exact behind s (List.mem_cons_of_mem s' mem)

/-- Slashes between its segments write a path again, unless backslashes stood there. -/
lemma pathText_segments (backslashless : '\\' ∉ p) : pathText (segments true p) = '/' :: p := by
  induction p with
  | nil => rfl
  | cons c p ih =>
    have ih := ih fun mem => backslashless (List.mem_cons_of_mem c mem)
    have plain : c ≠ '\\' := fun eq => backslashless (eq ▸ List.mem_cons_self)
    rw [segments]
    by_cases slash : c = '/'
    · simp [slash, pathText] at ih ⊢
      exact ih
    · obtain ⟨s, ss, eq⟩ := List.exists_cons_of_ne_nil (segments_ne_nil p)
      rw [eq] at ih
      simp_all [pathText]

/-- Segments that were written with slashes between them are read again. -/
lemma segments_of_pathText {path : List (List Char)}
    (slashless : ∀ s ∈ path, ∀ c ∈ s, isSlash c = false) (text : pathText path = '/' :: p) :
    segments true p = path := by
  induction path generalizing p with
  | nil => cases text
  | cons s path ih =>
    have slashless' := slashless s List.mem_cons_self
    cases path with
    | nil =>
      have eq : s = p := by simpa [pathText] using text
      rw [← eq, segments_eq_singleton slashless']
    | cons s' path =>
      have rest : pathText (s' :: path) = '/' :: (s' ++ pathText path) := by simp [pathText]
      have eq : s ++ '/' :: (s' ++ pathText path) = p := by simpa [pathText] using text
      rw [← eq, segments_append_cons, segments_eq_singleton slashless',
        ih (fun s mem => slashless s (List.mem_cons_of_mem _ mem)) rest, List.singleton_append]

/-- What stands behind the last slash. -/
lemma exists_slashless_append (cs : List Char) :
    ∃ front s, cs = front ++ s ∧ (∀ c ∈ s, isSlash c = false) ∧
      ∀ c, front.getLast? = some c → isSlash c = true := by
  refine ⟨cs.rdropWhile (!isSlash ·), cs.rtakeWhile (!isSlash ·),
    List.rdropWhile_append_rtakeWhile.symm, fun c mem => ?_, fun c last => ?_⟩
  · simpa using List.mem_rtakeWhile_imp mem
  · obtain ⟨some, rfl⟩ := List.mem_getLast?_eq_getLast last
    simpa using List.rdropWhile_last_not (!isSlash ·) cs some

/-- The last segment stands behind the last slash. -/
lemma exists_segments_concat (cs : List Char) :
    ∃ ss s front, segments true cs = ss ++ [s] ∧ cs = front ++ s ∧
      (∀ c ∈ s, isSlash c = false) ∧ ∀ c, front.getLast? = some c → isSlash c = true := by
  obtain ⟨front, s, rfl, slashless, ends⟩ := exists_slashless_append cs
  rcases List.eq_nil_or_concat front with rfl | ⟨xs, d, rfl⟩
  · exact ⟨[], s, [], segments_eq_singleton slashless, rfl, slashless, ends⟩
  · refine ⟨segments true xs, s, _, ?_, rfl, slashless, ends⟩
    have slash := ends d (by simp)
    rw [List.concat_eq_append, List.append_assoc, List.singleton_append, segments_eq_splitOnP,
      List.splitOnP_append_cons xs s slash, List.splitOnP_eq_singleton slashless,
      segments_eq_splitOnP]

/-- A slash alone is the path with one empty segment. -/
lemma eq_of_pathText_eq_slash {path : List (List Char)} (text : pathText path = ['/']) :
    path = [[]] := by
  cases path with
  | nil => cases text
  | cons s path => cases path <;> simp_all [pathText]

/-! ### Plain segments -/

/-- Whether a segment stands for a step and not for a place. -/
def isDots (s : List Char) : Bool :=
  isSingleDot s || isDoubleDot s

/-- Whether a segment is written as it is read: it is no step, and nothing in it is encoded. -/
def isPlain (s : List Char) : Bool :=
  !isDots s && s.all (!isEncoded pathSet ·)

/-- Whether a path behind its first slash is written as it is read. -/
def isPlainPath (p : List Char) : Bool :=
  !p.contains '\\' && (segments true p).all isPlain

lemma of_isPlain (plain : isPlain s = true) :
    isDots s = false ∧ ∀ c ∈ s, isEncoded pathSet c = false := by
  simpa [isPlain] using plain

lemma isPlainPath_iff :
    isPlainPath p = true ↔ '\\' ∉ p ∧ ∀ s ∈ segments true p, isPlain s = true := by
  simp [isPlainPath]

/-- Nothing is encoded in a plain path. -/
lemma isEncoded_of_isPlainPath (plain : isPlainPath p = true) :
    ∀ c ∈ p, isEncoded pathSet c = false := by
  obtain ⟨backslashless, plain⟩ := isPlainPath_iff.1 plain
  intro c mem
  have mem' : c ∈ pathText (segments true p) :=
    pathText_segments backslashless ▸ List.mem_cons_of_mem '/' mem
  obtain ⟨s, mem, inside⟩ := List.mem_flatMap.1 mem'
  rcases List.mem_cons.1 inside with rfl | inside
  · rfl
  · exact (of_isPlain (plain s mem)).2 c inside

/-- What is not encoded is taken over as it is. -/
lemma percentEncode_eq_self {set : Char → Bool} (plain : ∀ c ∈ s, isEncoded set c = false) :
    percentEncode set s = s := by
  induction s with
  | nil => rfl
  | cons c s ih =>
    have ih := ih fun c mem => plain c (List.mem_cons_of_mem _ mem)
    rw [percentEncode] at ih ⊢
    rw [List.flatMap_cons, ih, plain c List.mem_cons_self]
    rfl

/-- Blanks and control characters are encoded in a path. -/
lemma isEncoded_of_isOuter (outer : isOuter c = true) : isEncoded pathSet c = true := by
  have blank : c.toNat ≤ 0x20 := of_decide_eq_true outer
  rcases Nat.lt_or_eq_of_le blank with control | space
  · simp [isEncoded, pathSet, fragmentSet, controlSet, control]
  · have eq : c = ' ' := Char.toNat_inj.1 space
    rw [eq]
    rfl

/-- What is not encoded in a path is neither a blank nor a control character. -/
lemma isOuter_eq_false (plain : isEncoded pathSet c = false) : isOuter c = false := by
  rw [Bool.eq_false_iff] at plain ⊢
  exact fun outer => plain (isEncoded_of_isOuter outer)

/-- Only control characters are ignored. -/
lemma clean_eq_self (visible : ∀ c ∈ s, isOuter c = false) : clean s = s := by
  refine List.filter_eq_self.2 fun c mem => ?_
  rw [Bool.not_eq_true', Bool.eq_false_iff]
  intro ignored
  exact Bool.false_ne_true ((visible c mem).symm.trans (isOuter_of_isIgnored ignored))

/-- A plain path is read as it is, whatever is stripped. -/
lemma stripped_of_isPlainPath (plain : isPlainPath p = true) :
    clean (Text.dropEnd isOuter p) = p := by
  have visible : ∀ c ∈ p, isOuter c = false := fun c mem =>
    isOuter_eq_false (isEncoded_of_isPlainPath plain c mem)
  have whole : Text.dropEnd isOuter p = p :=
    List.rdropWhile_eq_self_iff.2 fun some =>
      Bool.eq_false_iff.1 (visible _ (List.getLast_mem some))
  rw [whole, clean_eq_self visible]

/-- The octets of a character that is encoded do not begin with that of a dot. -/
lemma exists_utf8EncodeChar (encoded : isEncoded pathSet c = true) :
    ∃ b bs, String.utf8EncodeChar c = b :: bs ∧ b.toNat ≠ 0x2E := by
  unfold String.utf8EncodeChar
  dsimp only
  split
  next ascii =>
    refine ⟨_, _, rfl, fun dot => ?_⟩
    have small : c.toNat = 0x2E := by
      have : c.val.toNat % 256 = 0x2E := by simpa using dot
      change c.val.toNat = 0x2E
      omega
    have eq : c = '.' := Char.toNat_inj.1 small
    rw [eq] at encoded
    exact absurd encoded (by decide)
  next =>
    split
    next => exact ⟨_, _, rfl, by simp; omega⟩
    next =>
      split
      next => exact ⟨_, _, rfl, by simp; omega⟩
      next => exact ⟨_, _, rfl, by simp; omega⟩

/-- No two digits stand for the octet of a dot but its own. -/
lemma escapedOctet_dot {b : UInt8} {x : Char} (dot : x = 'e' ∨ x = 'E')
    (eq : escapedOctet b = ['%', '2', x]) : b.toNat = 0x2E := by
  have first : ∀ n < 16, upperHex n = '2' → n = 2 := by decide
  have second : ∀ n < 16, upperHex n = 'e' ∨ upperHex n = 'E' → n = 14 := by decide
  have size := b.toNat_lt
  simp only [escapedOctet, List.cons.injEq, true_and, and_true] at eq
  have high := first (b.toNat / 16) (by omega) eq.1
  have low := second (b.toNat % 16) (by omega) (eq.2 ▸ dot)
  omega

/-- What stands at the front of an encoded text stood there before, or it begins an octet that is
not that of a dot. -/
lemma percentEncode_eq_cons {x : Char} {xs : List Char} (eq : percentEncode pathSet s = x :: xs) :
    (∃ t, s = x :: t ∧ percentEncode pathSet t = xs) ∨
      ∃ b ys, x :: xs = escapedOctet b ++ ys ∧ b.toNat ≠ 0x2E := by
  cases s with
  | nil => cases eq
  | cons c t =>
    rw [percentEncode, List.flatMap_cons] at eq
    split at eq
    next encoded =>
      obtain ⟨b, bs, octets, other⟩ := exists_utf8EncodeChar encoded
      rw [octets, List.flatMap_cons, List.append_assoc] at eq
      exact .inr ⟨b, _, eq.symm, other⟩
    next =>
      cases eq
      exact .inl ⟨t, rfl, rfl⟩

/-- An encoded dot that stands at the front of an encoded text stood there before. -/
lemma percentEncode_eq_dot {x : Char} {xs : List Char} (dot : x = 'e' ∨ x = 'E')
    (eq : percentEncode pathSet s = '%' :: '2' :: x :: xs) :
    ∃ t, s = '%' :: '2' :: x :: t ∧ percentEncode pathSet t = xs := by
  -- an escape that the encoding wrote is not that of a dot, and it begins with a percent sign
  obtain ⟨t, rfl, second⟩ | ⟨b, ys, octet, other⟩ := percentEncode_eq_cons eq
  · obtain ⟨t, rfl, third⟩ | ⟨b, ys, octet, -⟩ := percentEncode_eq_cons second
    · obtain ⟨t, rfl, rest⟩ | ⟨b, ys, octet, -⟩ := percentEncode_eq_cons third
      · exact ⟨t, rfl, rest⟩
      · rw [(List.cons.inj octet).1] at dot
        exact absurd dot (by decide)
    · cases octet
  · have digits : escapedOctet b = ['%', '2', x] := by
      rw [escapedOctet] at octet ⊢
      simp only [List.cons_append, List.cons.injEq] at octet
      rw [octet.2.1, octet.2.2.1]
    exact absurd (escapedOctet_dot dot digits) other

/-- A dot that is read at the front of an encoded text was there before. -/
lemma dropDot?_percentEncode {xs : List Char}
    (eq : dropDot? (percentEncode pathSet s) = some xs) :
    ∃ t, dropDot? s = some t ∧ percentEncode pathSet t = xs := by
  unfold dropDot? at eq
  split at eq
  next front =>
    cases eq
    obtain ⟨t, rfl, rest⟩ | ⟨b, ys, octet, -⟩ := percentEncode_eq_cons front
    · exact ⟨t, rfl, rest⟩
    · cases octet
  next front =>
    cases eq
    obtain ⟨t, rfl, rest⟩ := percentEncode_eq_dot (.inl rfl) front
    exact ⟨t, rfl, rest⟩
  next front =>
    cases eq
    obtain ⟨t, rfl, rest⟩ := percentEncode_eq_dot (.inr rfl) front
    exact ⟨t, rfl, rest⟩
  next => cases eq

lemma percentEncode_eq_nil (eq : percentEncode pathSet s = []) : s = [] := by
  cases s with
  | nil => rfl
  | cons c s =>
    rw [percentEncode, List.flatMap_cons] at eq
    split at eq
    next encoded =>
      obtain ⟨b, bs, octets, -⟩ := exists_utf8EncodeChar encoded
      rw [octets] at eq
      cases eq
    next => cases eq

/-- Encoding makes no segment of dots. -/
lemma isDots_percentEncode (dotless : isDots s = false) :
    isDots (percentEncode pathSet s) = false := by
  rw [Bool.eq_false_iff] at dotless ⊢
  refine fun dots => dotless ?_
  rw [isDots, Bool.or_eq_true, isSingleDot, isDoubleDot, beq_iff_eq, beq_iff_eq] at dots ⊢
  rcases dots with single | double
  · obtain ⟨t, front, rest⟩ := dropDot?_percentEncode single
    exact .inl (front.trans (congrArg some (percentEncode_eq_nil rest)))
  · obtain ⟨xs, first, second⟩ := Option.bind_eq_some_iff.1 double
    obtain ⟨t, front, rfl⟩ := dropDot?_percentEncode first
    obtain ⟨t', next, rest⟩ := dropDot?_percentEncode second
    rw [front, Option.bind_some, next, percentEncode_eq_nil rest]
    exact .inr rfl

/-- An encoded text has nothing more to encode, and no character in it cuts a path. -/
lemma of_mem_percentEncode (slashless : ∀ c ∈ s, isSlash c = false) :
    ∀ c ∈ percentEncode pathSet s, isEncoded pathSet c = false ∧ isSlash c = false := by
  have digit : ∀ n < 16, isEncoded pathSet (upperHex n) = false ∧ isSlash (upperHex n) = false := by
    decide
  intro c mem
  obtain ⟨d, inside, mem⟩ := List.mem_flatMap.1 mem
  split at mem
  next =>
    obtain ⟨b, -, mem⟩ := List.mem_flatMap.1 mem
    have size := b.toNat_lt
    rcases List.mem_cons.1 mem with rfl | mem
    · decide
    · rcases List.mem_cons.1 mem with rfl | mem
      · exact digit _ (by omega)
      · rw [List.mem_singleton.1 mem]
        exact digit _ (by omega)
  next plain =>
    rw [List.mem_singleton.1 mem]
    exact ⟨Bool.eq_false_iff.2 plain, slashless d inside⟩

/-- Encoding makes a segment plain that is no step. -/
lemma isPlain_percentEncode (dotless : isDots s = false) (slashless : ∀ c ∈ s, isSlash c = false) :
    isPlain (percentEncode pathSet s) = true := by
  rw [isPlain, isDots_percentEncode dotless, Bool.not_false, Bool.true_and, List.all_eq_true]
  intro c mem
  rw [(of_mem_percentEncode slashless c mem).1]
  rfl

end ServiceClient.Url
