import Mathlib.Data.List.DropRight
import ServiceClient.Proofs.Steps
import ServiceClient.Url.Parser

/-!
# How a URL of a special scheme is read

A URL of a special scheme is read in parts: its text is stripped, the scheme is cut off at the
colon, and the authority, behind all slashes, ends where the path, the query or the fragment begins.
What is put behind such a text, with a slash in front, leaves the parts before it where they are.
-/

namespace ServiceClient

namespace Text

variable {p : Char → Bool} {c : Char}

/-- Taking stops at a character that is not taken. -/
lemma takeWhile_append_cons (stops : p c = false) (cs ds : List Char) :
    (cs ++ c :: ds).takeWhile p = cs.takeWhile p := by
  induction cs with
  | nil => simp [stops]
  | cons x xs ih => rw [List.cons_append, List.takeWhile_cons, List.takeWhile_cons, ih]

/-- Dropping stops at a character that is not dropped, whatever follows it. -/
lemma dropWhile_append_of_eq_cons {cs ds : List Char} (left : cs.dropWhile p = c :: ds)
    (w : List Char) : (cs ++ w).dropWhile p = c :: (ds ++ w) := by
  rw [List.dropWhile_append, left, if_neg (by simp), List.cons_append]

/-- Dropping stops where a text begins with a character that is kept. -/
lemma dropWhile_append_of_head {front rest : List Char} (dropped : ∀ c ∈ front, p c = true)
    (kept : ∀ c ∈ rest.head?, p c = false) : (front ++ rest).dropWhile p = rest := by
  rw [List.dropWhile_append_of_pos dropped]
  cases rest with
  | nil => rfl
  | cons c cs => rw [List.dropWhile_cons_of_neg (by simp [kept c rfl])]

/-- Dropping at the end stops at a character that is kept. -/
lemma dropEnd_append_cons (kept : p c = false) (cs ds : List Char) :
    dropEnd p (cs ++ c :: ds) = cs ++ c :: dropEnd p ds := by
  unfold dropEnd
  rw [List.reverse_append, List.reverse_cons, List.append_assoc, List.dropWhile_append]
  by_cases all : (ds.reverse.dropWhile p).isEmpty
  · rw [if_pos all, List.isEmpty_iff.1 all]
    simp [kept]
  · rw [if_neg all]
    simp

/-- What is dropped at the end is a run of characters that satisfy `p`. -/
lemma exists_dropEnd_append (cs : List Char) :
    ∃ ds, cs = dropEnd p cs ++ ds ∧ ∀ c ∈ ds, p c = true :=
  ⟨cs.rtakeWhile p, List.rdropWhile_append_rtakeWhile.symm, fun _ => List.mem_rtakeWhile_imp⟩

end Text

namespace Url

/-- Whether a character is a control character or a blank, which do not count around a URL. -/
def isOuter (c : Char) : Bool :=
  c.toNat ≤ 0x20

/-- A text as it is read: without what does not count around it or in it. -/
def stripped (cs : List Char) : List Char :=
  clean (Text.dropBoth isOuter cs)

/-- A text without what does not count in front of it or in it. -/
def strippedFront (cs : List Char) : List Char :=
  clean (cs.dropWhile isOuter)

/-- Whether a text ends in a character that counts in it but not around it. -/
def endsOuter (cs : List Char) : Bool :=
  (clean cs).getLast?.any isOuter

/-- Whether a character may separate a special scheme from its authority. -/
def isSlash (c : Char) : Bool :=
  c = '/' || c = '\\'

/-- The text of the authority behind the colon of a special scheme. -/
def authorityText (cs : List Char) : List Char :=
  (cs.dropWhile isSlash).takeWhile (!endsAuthority true ·)

/-- What stands behind the authority of a special scheme. -/
def behindAuthority (cs : List Char) : List Char :=
  (cs.dropWhile isSlash).dropWhile (!endsAuthority true ·)

/-- The URL of a special scheme with an authority and what stands behind it. -/
def specialUrl (scheme : String) (a : Authority) (behind : List Char) : Url :=
  let tail := readTail true (behind.dropWhile (!endsPath ·))
  ⟨scheme, some a, .segments (readPath true ((behind.takeWhile (!endsPath ·)).drop 1)),
    tail.1, tail.2⟩

/-- Whether a text ends in a slash, a backslash, a blank or a control character. -/
def endsOpen (cs : List Char) : Bool :=
  (clean cs).getLast?.any fun c => isSlash c || isOuter c

variable {scheme : String} {usual : Nat} {cs ds w : List Char} {c : Char} {s : String} {u : Url}

/-- What a special scheme makes of its text: the authority alone can fail. -/
lemma parseSpecial_eq (scheme : String) (usual : Nat) (cs : List Char) :
    parseSpecial scheme usual cs =
      (readAuthority (.special usual) (behindAuthority cs).isEmpty (authorityText cs)).map
        fun found => specialUrl scheme found.1 (behindAuthority cs) := by
  change (readAuthority (.special usual) (behindAuthority cs).isEmpty (authorityText cs) >>= _) = _
  cases readAuthority (.special usual) (behindAuthority cs).isEmpty (authorityText cs) <;> rfl

lemma parse_eq (s : String) :
    parse s = match splitScheme? (stripped s.toList) with
      | none => .error .relative
      | some (scheme, rest) =>
        match schemeKind scheme with
        | .special usual => parseSpecial scheme usual rest
        | .file => parseFile (((Text.dropBoth isOuter s.toList).dropWhile (· ≠ ':')).drop 1)
        | .other => parseOther scheme rest :=
  rfl

/-- What a text is read as, given its scheme and what stands behind it. -/
lemma parse_of_splitScheme? (split : splitScheme? (stripped s.toList) = some (scheme, cs))
    (kind : schemeKind scheme = .special usual) : parse s = parseSpecial scheme usual cs := by
  rw [parse_eq, split]
  simp only [kind]

/-- A URL of a file has its scheme. -/
lemma scheme_of_parseFile (eq : parseFile cs = .ok u) : u.scheme = "file" := by
  unfold parseFile at eq
  dsimp only at eq
  split at eq
  next =>
    cases eq
    rfl
  next =>
    split at eq
    next =>
      cases eq
      rfl
    next =>
      obtain ⟨host, -, eq⟩ := bind_ok eq
      cases eq
      rfl

/-- A URL of any other scheme has that scheme. -/
lemma scheme_of_parseOther (eq : parseOther scheme cs = .ok u) : u.scheme = scheme := by
  unfold parseOther at eq
  split at eq
  next =>
    obtain ⟨⟨a, left⟩, -, eq⟩ := bind_ok eq
    cases eq
    rfl
  next =>
    cases eq
    rfl
  next =>
    cases eq
    rfl

/-- A URL of a special scheme was read by the rules of special schemes behind its own scheme. -/
lemma exists_parseSpecial (kind : schemeKind u.scheme = .special usual) (eq : parse s = .ok u) :
    ∃ cs, splitScheme? (stripped s.toList) = some (u.scheme, cs) ∧
      parseSpecial u.scheme usual cs = .ok u := by
  rw [parse_eq] at eq
  split at eq
  next => cases eq
  next scheme cs split =>
    split at eq
    next usual' kind' =>
      have eq' := eq
      rw [parseSpecial_eq] at eq'
      obtain ⟨found, -, rfl⟩ := map_ok eq'
      cases kind'.symm.trans kind
      exact ⟨cs, split, eq⟩
    -- by the other rules a URL keeps a scheme that is not special
    next kind' =>
      rw [scheme_of_parseFile eq] at kind
      cases kind
    next kind' =>
      rw [scheme_of_parseOther eq, kind'] at kind
      cases kind

/-! ### Stripped texts -/

/-- What is ignored in a URL does not count around it either. -/
lemma isOuter_of_isIgnored (ignored : isIgnored c = true) : isOuter c = true := by
  have cases : (c = '\t' ∨ c = '\n') ∨ c = '\r' := by simpa [isIgnored] using ignored
  rcases cases with (rfl | rfl) | rfl <;> rfl

/-- In front of a slash a text loses only what stands at its front. -/
lemma dropBoth_append_cons (cs ds : List Char) :
    Text.dropBoth isOuter (cs ++ '/' :: ds) =
      cs.dropWhile isOuter ++ '/' :: Text.dropEnd isOuter ds := by
  have front : (cs ++ '/' :: ds).dropWhile isOuter = cs.dropWhile isOuter ++ '/' :: ds := by
    rw [List.dropWhile_append]
    by_cases all : (cs.dropWhile isOuter).isEmpty
    · rw [if_pos all, List.isEmpty_iff.1 all]
      rfl
    · rw [if_neg all]
  rw [Text.dropBoth, front, Text.dropEnd_append_cons (by decide)]

/-- A stripped text in front of a slash is stripped at its front only. -/
lemma stripped_append_cons (cs ds : List Char) :
    stripped (cs ++ '/' :: ds) = strippedFront cs ++ '/' :: clean (Text.dropEnd isOuter ds) := by
  rw [stripped, dropBoth_append_cons, clean, List.filter_append]
  rfl

/-- What is stripped at the end of a text are blanks and control characters. -/
lemma exists_stripped_append (cs : List Char) :
    ∃ w, strippedFront cs = stripped cs ++ w ∧ ∀ c ∈ w, isOuter c = true := by
  obtain ⟨w, eq, blank⟩ := Text.exists_dropEnd_append (p := isOuter) (cs.dropWhile isOuter)
  refine ⟨clean w, ?_, fun c mem => blank c (List.mem_filter.1 mem).1⟩
  calc strippedFront cs
      = clean (Text.dropEnd isOuter (cs.dropWhile isOuter) ++ w) := congrArg clean eq
    _ = stripped cs ++ clean w := List.filter_append _ _

/-- What is stripped at the end of a text stands at the end of it. -/
lemma endsOuter_of_stripped_append {cs w : List Char} (eq : strippedFront cs = stripped cs ++ w)
    (outer : ∀ c ∈ w, isOuter c = true) (some : w ≠ []) : endsOuter cs = true := by
  have parts : clean cs = clean (cs.takeWhile isOuter) ++ (stripped cs ++ w) := by
    rw [← eq, strippedFront, clean, clean, clean, ← List.filter_append,
      List.takeWhile_append_dropWhile]
  rw [endsOuter, parts, ← List.append_assoc, List.getLast?_append_of_ne_nil _ some,
    List.getLast?_eq_some_getLast some]
  exact outer _ (List.getLast_mem some)

lemma clean_of_append (cs : List Char) (seen : clean (cs ++ ds) = cs ++ ds) : clean ds = ds :=
  List.filter_eq_self.2 fun c mem =>
    List.filter_eq_self.1 seen c (List.mem_append_right cs mem)

/-- A text ends as what is put at its end, when something of it counts. -/
lemma endsOpen_append (some : clean ds ≠ []) : endsOpen (cs ++ ds) = endsOpen ds := by
  have parts : clean (cs ++ ds) = clean cs ++ clean ds := List.filter_append _ _
  rw [endsOpen, parts, List.getLast?_append_of_ne_nil _ some, endsOpen]

/-- A text that does not end open does not end in what could be stripped. -/
lemma endsOuter_of_endsOpen (closed : endsOpen cs = false) : endsOuter cs = false := by
  rw [endsOpen] at closed
  rw [endsOuter]
  cases last : (clean cs).getLast? with
  | none => rfl
  | some c =>
    rw [last, Option.any_some, Bool.or_eq_false_iff] at closed
    exact closed.2

/-! ### Schemes -/

/-- A scheme begins with a letter and ends at the first colon. -/
lemma splitScheme?_eq_some :
    splitScheme? cs = some (scheme, ds) ↔
      ∃ name, cs = name ++ ':' :: ds ∧ (∀ c ∈ name, isSchemeChar c = true) ∧
        name.head?.any Char.isAlpha = true ∧
        scheme = String.ofList (name.map Domain.lower) := by
  constructor
  · intro eq
    unfold splitScheme? at eq
    split at eq
    next rest found =>
      split at eq
      next letter =>
        cases eq
        have parts : cs = cs.takeWhile isSchemeChar ++ ':' :: ds := by
          rw [← found, List.takeWhile_append_dropWhile]
        refine ⟨cs.takeWhile isSchemeChar, parts, fun c mem => List.mem_takeWhile_imp mem, ?_, rfl⟩
        cases name : cs.takeWhile isSchemeChar with
        | nil =>
          rw [parts, name] at letter
          cases letter
        | cons x xs =>
          rw [parts, name] at letter
          exact letter
      next => cases eq
    next => cases eq
  · rintro ⟨name, rfl, allowed, letter, rfl⟩
    have taken : (name ++ ':' :: ds).takeWhile isSchemeChar = name := by
      rw [List.takeWhile_append_of_pos allowed]
      simp [isSchemeChar]
    have left : (name ++ ':' :: ds).dropWhile isSchemeChar = ':' :: ds := by
      rw [List.dropWhile_append_of_pos allowed]
      rfl
    have letter' : (name ++ ':' :: ds).head?.any Char.isAlpha = true := by
      cases name with
      | nil => cases letter
      | cons x xs => exact letter
    simp only [splitScheme?, left, letter', taken, if_true]

/-- What is put behind a text with a scheme stands behind the scheme. -/
lemma splitScheme?_append (split : splitScheme? cs = some (scheme, ds)) :
    splitScheme? (cs ++ w) = some (scheme, ds ++ w) := by
  obtain ⟨name, rfl, allowed, letter, rfl⟩ := splitScheme?_eq_some.1 split
  refine splitScheme?_eq_some.2 ⟨name, ?_, allowed, letter, rfl⟩
  rw [List.append_assoc, List.cons_append]

/-- A scheme ends before the first slash. -/
lemma splitScheme?_of_append_cons (split : splitScheme? (cs ++ '/' :: w) = some (scheme, ds)) :
    ∃ rest, splitScheme? cs = some (scheme, rest) ∧ ds = rest ++ '/' :: w := by
  obtain ⟨name, parts, allowed, letter, rfl⟩ := splitScheme?_eq_some.1 split
  obtain ⟨more, rfl, colon⟩ | ⟨more, rfl, colon⟩ := List.append_eq_append_iff.1 parts
  · cases more with
    | nil => cases colon
    | cons x xs =>
      cases colon
      exact absurd (allowed '/' (by simp)) (by decide)
  · cases more with
    | nil => cases colon
    | cons x rest =>
      cases colon
      exact ⟨rest, splitScheme?_eq_some.2 ⟨name, rfl, allowed, letter, rfl⟩, rfl⟩

/-! ### Authorities -/

/-- The text behind a special scheme: slashes, the authority and what stands behind it. -/
lemma authority_parts (cs : List Char) :
    cs.takeWhile isSlash ++ (authorityText cs ++ behindAuthority cs) = cs := by
  rw [authorityText, behindAuthority, List.takeWhile_append_dropWhile,
    List.takeWhile_append_dropWhile]

lemma endsAuthority_of_head? (head : (behindAuthority cs).head? = some c) :
    endsAuthority true c = true := by
  have stops := List.head?_dropWhile_not (!endsAuthority true ·) (cs.dropWhile isSlash)
  rw [behindAuthority] at head
  rw [head] at stops
  simpa using stops

lemma dropWhile_isSlash_append (visible : cs.dropWhile isSlash ≠ []) :
    (cs ++ ds).dropWhile isSlash = cs.dropWhile isSlash ++ ds := by
  rw [List.dropWhile_append, if_neg (by simpa using visible)]

/-- What is put behind an authority, with a slash in front, is not part of it. -/
lemma authorityText_append_cons (visible : cs.dropWhile isSlash ≠ []) :
    authorityText (cs ++ '/' :: ds) = authorityText cs := by
  rw [authorityText, dropWhile_isSlash_append visible, authorityText]
  exact Text.takeWhile_append_cons rfl _ _

/-- What is put behind an authority, with a slash in front, stands behind it. -/
lemma behindAuthority_append_cons (visible : cs.dropWhile isSlash ≠ []) :
    behindAuthority (cs ++ '/' :: ds) = behindAuthority cs ++ '/' :: ds := by
  rw [behindAuthority, dropWhile_isSlash_append visible, behindAuthority, List.dropWhile_append]
  split
  next all => rw [List.isEmpty_iff.1 all]; rfl
  next => rfl

/-- What is put behind an authority without a character that ends it belongs to it. -/
lemma authorityText_append (visible : cs.dropWhile isSlash ≠ [])
    (plain : ∀ c ∈ w, endsAuthority true c = false) :
    authorityText (cs ++ w) =
      if behindAuthority cs = [] then authorityText cs ++ w else authorityText cs := by
  rw [authorityText, dropWhile_isSlash_append visible, behindAuthority, authorityText]
  split
  next all =>
    have all' := List.dropWhile_eq_nil_iff.1 all
    rw [List.takeWhile_append_of_pos all', List.takeWhile_eq_self_iff.2 all',
      List.takeWhile_eq_self_iff.2 fun c mem => by rw [plain c mem]; rfl]
  next followed =>
    have short : ¬((cs.dropWhile isSlash).takeWhile (!endsAuthority true ·)).length =
        (cs.dropWhile isSlash).length := fun long =>
      followed (List.dropWhile_eq_nil_iff.2 (List.takeWhile_eq_self_iff.1
        ((List.takeWhile_prefix _).eq_of_length long)))
    rw [List.takeWhile_append, if_neg short]

end Url
end ServiceClient
