import ServiceClient.Proofs.Call.Admission
import ServiceClient.Proofs.Declaration.NormalPath
import ServiceClient.Proofs.Url.Trailing

/-!
# Normal forms of addresses

An address is trimmed, gets a scheme if it has none, has to be read as a URL, and loses the slashes
at its end. Without these slashes it may end in a blank, or have no scheme any more, or be no URL:
then its normal form is changed or refused when it is normalized again, as in `not_normalize_idem`.
`normalize_idem_iff` says that nothing else keeps a normal form from staying as it is.
-/

namespace ServiceClient

namespace Text

variable {p : Char → Bool} {part cs : List Char} {s : String}

/-- A run of characters that are kept is still there when others are dropped at the front. -/
lemma infix_dropWhile (some : part ≠ []) (kept : ∀ c ∈ part, p c = false) :
    part <:+: cs.dropWhile p ↔ part <:+: cs := by
  induction cs with
  | nil => rfl
  | cons c cs ih =>
    rw [List.dropWhile_cons]
    split
    next dropped =>
      have elsewhere : ¬part <+: c :: cs := by
        intro first
        obtain ⟨x, xs, rfl⟩ := List.exists_cons_of_ne_nil some
        obtain rfl : x = c := (List.cons_prefix_cons.1 first).1
        rw [kept x List.mem_cons_self] at dropped
        cases dropped
      rw [ih, List.infix_cons_iff, or_iff_right elsewhere]
    next => rfl

/-- A run of characters that are kept is still there when others are dropped at both ends. -/
lemma infix_dropBoth (some : part ≠ []) (kept : ∀ c ∈ part, p c = false) :
    part <:+: dropBoth p cs ↔ part <:+: cs := by
  have some' : part.reverse ≠ [] := by simpa using some
  have kept' : ∀ c ∈ part.reverse, p c = false := fun c mem => kept c (List.mem_reverse.1 mem)
  rw [dropBoth, dropEnd, ← List.reverse_infix, List.reverse_reverse, infix_dropWhile some' kept',
    List.reverse_infix, infix_dropWhile some kept]

/-- A trimmed text is not trimmed any further. -/
lemma trim_trim (s : String) : trim (trim s) = trim s := by
  have inner := inner_dropBoth isBlank s.toList
  rw [trim, trim, String.toList_ofList, dropBoth_eq_self inner.head inner.last]

/-- A text that begins with no blank is not trimmed when it ends with none. -/
lemma trim_eq_self_iff (head : ∀ c ∈ s.toList.head?, isBlank c = false) :
    trim s = s ↔ ∀ c ∈ s.toList.getLast?, isBlank c = false := by
  constructor
  · intro same
    rw [← same, trim, String.toList_ofList]
    exact (inner_dropBoth isBlank s.toList).last
  · intro last
    rw [trim, dropBoth_eq_self head last, String.ofList_toList]

/-- A text that begins with no blank loses only what stands at its end. -/
lemma trim_prefix (head : ∀ c ∈ s.toList.head?, isBlank c = false) :
    (trim s).toList <+: s.toList := by
  have front : ([] ++ s.toList).dropWhile isBlank = s.toList :=
    dropWhile_append_of_head (by simp) head
  rw [trim, String.toList_ofList, dropBoth, ← List.nil_append s.toList, front, List.nil_append]
  exact List.rdropWhile_prefix _ _

/-- Slashes at the end are dropped at once. -/
lemma dropEndSlashes_dropEndSlashes (s : String) :
    dropEndSlashes (dropEndSlashes s) = dropEndSlashes s := by
  rw [dropEndSlashes, dropEndSlashes, String.toList_ofList]
  exact congrArg String.ofList (List.rdropWhile_idempotent _ _)

/-- No character but blanks is trimmed. -/
lemma mem_trim {c : Char} (kept : isBlank c = false) : c ∈ (trim s).toList ↔ c ∈ s.toList := by
  rw [trim, String.toList_ofList, ← List.singleton_infix_iff, ← List.singleton_infix_iff]
  exact infix_dropBoth (by simp) (by simp [kept])

end Text

namespace Address

/-- An address that is left as it is: it is blank, or left to be computed by someone else. -/
def Verbatim (text : String) : Prop :=
  Text.trim text = "" ∨ isDeferred (Text.trim text) = true

/-- A text has a scheme and what separates it from the rest. -/
def NamesScheme (text : String) : Prop := [':', '/', '/'] <:+: text.toList

variable {text s r : String}

lemma withScheme_of_namesScheme (named : NamesScheme s) : withScheme s = s :=
  if_pos (Text.containsRun_iff.2 named)

lemma withScheme_of_not (unnamed : ¬NamesScheme s) : withScheme s = "http://" ++ s :=
  if_neg fun found => unnamed (Text.containsRun_iff.1 found)

/-- Trimming takes no scheme away. -/
lemma namesScheme_trim : NamesScheme (Text.trim s) ↔ NamesScheme s := by
  rw [NamesScheme, Text.trim, String.toList_ofList]
  exact Text.infix_dropBoth (by simp) (by simp [Text.isBlank])

lemma normalize_of_verbatim (verbatim : Verbatim text) : normalize text = .ok (Text.trim text) := by
  have left : ((Text.trim text).isEmpty || isDeferred (Text.trim text)) = true := by
    rw [Bool.or_eq_true, String.isEmpty_iff]
    exact verbatim
  simp only [normalize, left, if_true]

/-- Any other address has a normal form when it can be read with a scheme: this text without the
slashes at its end. -/
lemma normalize_eq_ok (other : ¬Verbatim text) :
    normalize text = .ok r ↔ (∃ u, Url.parse (withScheme (Text.trim text)) = .ok u) ∧
      r = Text.dropEndSlashes (withScheme (Text.trim text)) := by
  have left : ((Text.trim text).isEmpty || isDeferred (Text.trim text)) = false := by
    rw [Bool.eq_false_iff, Ne, Bool.or_eq_true, String.isEmpty_iff]
    exact other
  simp only [normalize, left, Bool.false_eq_true, if_false]
  cases Url.parse (withScheme (Text.trim text)) <;> simp [eq_comm]

/-- An address that is read as a URL has a colon, and does not begin with a number sign. -/
lemma colon_of_parse {u : Url} (read : Url.parse s = .ok u) :
    ':' ∈ s.toList ∧ ∀ rest, s.toList ≠ '#' :: rest := by
  obtain ⟨scheme, behind, split⟩ :
      ∃ scheme behind, Url.splitScheme? (Url.stripped s.toList) = some (scheme, behind) := by
    rw [Url.parse_eq] at read
    split at read
    next => cases read
    next scheme behind split => exact ⟨scheme, behind, split⟩
  obtain ⟨name, parts, -, letter, -⟩ := Url.splitScheme?_eq_some.1 split
  constructor
  · have mem : ':' ∈ Url.stripped s.toList := by simp [parts]
    obtain ⟨front, back, whole, -⟩ := (Text.inner_dropBoth Url.isOuter s.toList).parts
    rw [whole]
    exact List.mem_append_left _ (List.mem_append_right _ (List.mem_filter.1 mem).1)
  · intro rest eq
    have sign : Url.stripped s.toList = '#' :: Url.clean (Text.dropEnd Url.isOuter rest) := by
      rw [eq, Url.stripped, Text.dropBoth]
      exact congrArg Url.clean (Text.dropEnd_append_cons rfl [] rest)
    rw [sign] at parts
    cases name with
    | nil => cases letter
    | cons c cs =>
      rw [← (List.cons.inj parts).1] at letter
      cases letter

/-- What is left of an address without the slashes at its end still has its colon, begins with the
same character, and is neither blank nor left to be computed. -/
lemma not_verbatim_of_parse {u : Url} (read : Url.parse s = .ok u)
    (head : ∀ c ∈ s.toList.head?, Text.isBlank c = false) :
    ':' ∈ (Text.dropEndSlashes s).toList ∧
      (∀ c ∈ (Text.dropEndSlashes s).toList.head?, Text.isBlank c = false) ∧
      ¬Verbatim (Text.dropEndSlashes s) := by
  obtain ⟨colon, sign⟩ := colon_of_parse read
  obtain ⟨slashes, parts, only⟩ := Text.exists_dropEnd_append (p := (· == '/')) s.toList
  have left : (Text.dropEndSlashes s).toList = Text.dropEnd (· == '/') s.toList :=
    String.toList_ofList
  rw [← left] at parts
  generalize Text.dropEndSlashes s = r at parts left
  rw [parts] at colon head sign
  have colon' : ':' ∈ r.toList := by
    rcases List.mem_append.1 colon with mem | mem
    · exact mem
    · cases only ':' mem
  have head' : ∀ c ∈ r.toList.head?, Text.isBlank c = false := fun c mem =>
    head c (by rw [List.head?_append, Option.mem_def.1 mem]; rfl)
  refine ⟨colon', head', ?_⟩
  rintro (empty | deferred)
  · have kept := (Text.mem_trim rfl).2 colon'
    rw [empty] at kept
    cases kept
  · -- it would begin with a number sign, as the address itself would
    obtain ⟨rest, begins⟩ := List.isPrefixOf_iff_prefix.1 (Bool.and_eq_true_iff.1 deferred).1
    obtain ⟨more, whole⟩ := Text.trim_prefix head'
    exact sign _ (by rw [← whole, ← begins]; rfl)

/-- A text that begins with no blank, is not left as it is and has lost its slashes stays as it is
when it ends in no blank, has a scheme and is read as a URL. -/
lemma normalize_eq_self_iff (other : ¬Verbatim r) (colon : ':' ∈ r.toList)
    (head : ∀ c ∈ r.toList.head?, Text.isBlank c = false) (bare : Text.dropEndSlashes r = r) :
    normalize r = .ok r ↔ (∀ c ∈ r.toList.getLast?, Text.isBlank c = false) ∧ NamesScheme r ∧
      ∃ u, Url.parse r = .ok u := by
  rw [normalize_eq_ok other, ← Text.trim_eq_self_iff head]
  constructor
  · rintro ⟨read, eq⟩
    by_cases named : NamesScheme r
    · rw [withScheme_of_namesScheme (namesScheme_trim.2 named)] at read eq
      -- nothing can have been trimmed, since nothing is missing in the end
      have least : r.toList.length ≤ (Text.trim r).toList.length := by
        conv_lhs => rw [eq, Text.dropEndSlashes, String.toList_ofList]
        exact (List.rdropWhile_prefix _ _).length_le
      have whole := String.toList_inj.1 ((Text.trim_prefix head).eq_of_length_le least)
      rw [whole] at read
      exact ⟨whole, named, read⟩
    · -- the scheme that was put in front would be there already
      rw [withScheme_of_not (mt namesScheme_trim.1 named)] at eq
      obtain ⟨front, rest, parts⟩ := List.append_of_mem ((Text.mem_trim rfl).2 colon)
      have text : r.toList =
          "http://".toList ++ front ++ ':' :: Text.dropEnd (· == '/') rest := by
        rw [eq, Text.dropEndSlashes, String.toList_ofList, String.toList_append, parts,
          ← List.append_assoc]
        exact Text.dropEnd_append_cons rfl _ _
      exact absurd ⟨"http".toList, front ++ ':' :: Text.dropEnd (· == '/') rest, text.symm⟩ named
  · rintro ⟨trimmed, named, read⟩
    rw [trimmed, withScheme_of_namesScheme named]
    exact ⟨read, bare.symm⟩

/-- A trimmed address with a scheme does not begin with a blank. -/
lemma head_withScheme (text : String) :
    ∀ c ∈ (withScheme (Text.trim text)).toList.head?, Text.isBlank c = false := by
  by_cases named : NamesScheme (Text.trim text)
  · rw [withScheme_of_namesScheme named, Text.trim, String.toList_ofList]
    exact (Text.inner_dropBoth Text.isBlank text.toList).head
  · rw [withScheme_of_not named, String.toList_append]
    intro c mem
    cases mem
    rfl

/-- The normal form of an address stays as it is exactly when the address is left as it is anyway,
or when the normal form does not end in a blank, has a scheme and is read as a URL. The latter can
fail only where the scheme is not special and the normal form ends in a control character. -/
theorem normalize_idem_iff (normal : normalize text = .ok r) :
    (normalize r = .ok r ↔ Verbatim text ∨
      (∀ c ∈ r.toList.getLast?, Text.isBlank c = false) ∧ NamesScheme r ∧
        ∃ u, Url.parse r = .ok u) ∧
      (Verbatim text ∨ ∃ u, Url.parse (withScheme (Text.trim text)) = .ok u ∧
        (Url.endsOuter r.toList = false ∨ (∃ usual, Url.schemeKind u.scheme = .special usual) →
          ∃ v, Url.parse r = .ok v)) := by
  by_cases verbatim : Verbatim text
  · cases (normalize_of_verbatim verbatim).symm.trans normal
    have verbatim' : Verbatim (Text.trim text) := by
      rwa [Verbatim, Text.trim_trim]
    rw [normalize_of_verbatim verbatim', Text.trim_trim]
    exact ⟨iff_of_true rfl (.inl verbatim), .inl verbatim⟩
  · obtain ⟨⟨u, read⟩, rfl⟩ := (normalize_eq_ok verbatim).1 normal
    obtain ⟨colon, head, other⟩ := not_verbatim_of_parse read (head_withScheme text)
    obtain ⟨slashes, parts, only⟩ := Text.exists_dropEnd_append (p := (· == '/'))
      (withScheme (Text.trim text)).toList
    have bare := Text.dropEndSlashes_dropEndSlashes (withScheme (Text.trim text))
    rw [normalize_eq_self_iff other colon head bare, or_iff_right verbatim]
    refine ⟨Iff.rfl, .inr ⟨u, read, fun closed => ?_⟩⟩
    rw [← String.ofList_toList (s := withScheme _), parts] at read
    rw [Text.dropEndSlashes, String.toList_ofList] at closed
    exact Url.exists_parse_of_slashes (fun c mem => eq_of_beq (only c mem)) read closed

/-- The normal form of an address with a port and a path stays as it is. -/
theorem normalize_idem_ported :
    normalize " users:8080/api// " = .ok "http://users:8080/api" ∧
      normalize "http://users:8080/api" = .ok "http://users:8080/api" := by
  have normal : normalize " users:8080/api// " = .ok "http://users:8080/api" := by decide +kernel
  refine ⟨normal, (normalize_idem_iff normal).1.2 (.inr ⟨?_, ?_, ?_⟩)⟩
  · rintro c ⟨⟩
    rfl
  · exact ⟨"http".toList, "users:8080/api".toList, by decide⟩
  · rcases (normalize_idem_iff normal).2 with verbatim | ⟨u, -, read⟩
    · exact absurd verbatim (by unfold Verbatim; decide)
    · exact read (.inl (by decide))

/-- Behind the last slash of an address stands a blank, and behind it another slash. -/
theorem not_normalize_idem :
    ¬ ∀ text r, normalize text = .ok r → normalize r = .ok r := by
  intro law
  have first : normalize "http://users/ /" = .ok "http://users/ " := by decide +kernel
  have second : normalize "http://users/ " = .ok "http://users" := by decide +kernel
  exact absurd (Except.ok.inj (second.symm.trans (law _ _ first))) (by decide)

/-- The slashes that separate the scheme are taken for slashes at the end. -/
example : normalize "file:///" = .ok "file:" ∧ normalize "file:" = .ok "http://file:" := by
  decide +kernel

end Address
end ServiceClient
