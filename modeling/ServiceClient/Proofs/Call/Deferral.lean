import ServiceClient.Component.ErrorDecoder
import ServiceClient.Proofs.Declaration.NormalPath
import ServiceClient.Proofs.Text.Lossy

/-!
# Responses that ask for a wait

The standard error decoder tells from a response whether the call may be tried again. `Asks` says
how a response asks for a wait: by a numeral, with blanks around it, in the first of its
`retry-after` lines. `standard_decode` says that the error for a response may be retried exactly if
it asks for a wait, and that it shows the beginning of the body otherwise: whole characters, with
U+FFFD in the place of each ill-formed part.
-/

namespace ServiceClient

namespace Http

/-- The decimal digits of a number, maybe behind zeros. -/
def Digits (n : Nat) (digits : List Char) : Prop :=
  ∃ zeros, digits = List.replicate zeros '0' ++ Nat.toDigits 10 n

/-- The written forms of a number: its digits, maybe behind a plus sign. -/
inductive Numeral (n : Nat) : List Char → Prop where
  | unsigned {digits} : Digits n digits → Numeral n digits
  | signed {digits} : Digits n digits → Numeral n ('+' :: digits)

/-- A text that a value is read as: visible ASCII characters, blanks and tabs. -/
structure Readable (value : Bytes) (text : List Char) : Prop where
  octets : value = text.flatMap String.utf8EncodeChar
  plain : ∀ c ∈ text, c = '\t' ∨ ' ' ≤ c ∧ c ≤ '~'

/-- How a response asks for a wait of some seconds: in its first line of the name. -/
inductive Asks (r : Response) (n : Nat) : Prop where
  | intro {before value after text number} :
    r.headers = before ++ ("retry-after", value) :: after →
    (∀ line ∈ before, line.1 ≠ "retry-after") →
    Readable value text →
    Text.Inner Text.isBlank text number →
    Numeral n number →
    n < 2 ^ 64 →
    Asks r n

/-! ### Numerals -/

/-- A digit is that of a number below ten. -/
lemma exists_digitChar {c : Char} (digit : c.isDigit = true) : ∃ d < 10, d.digitChar = c := by
  have bounds : 48 ≤ c.toNat ∧ c.toNat ≤ 57 := by
    simpa [Char.isDigit, UInt32.le_iff_toNat_le] using digit
  refine ⟨c.toNat - 48, by omega, Char.toNat_inj.1 ?_⟩
  rw [Nat.toNat_digitChar_of_lt_ten (by omega)]
  omega

/-- Digits are those of the number they give. -/
lemma digits_ofDigitChars {digits : List Char} (some : digits ≠ [])
    (all : ∀ c ∈ digits, c.isDigit = true) : Digits (Nat.ofDigitChars 10 digits 0) digits := by
  induction digits using List.reverseRecOn with
  | nil => exact absurd rfl some
  | append_singleton digits c ih =>
    obtain ⟨d, small, rfl⟩ := exists_digitChar (all c (by simp))
    rw [Nat.ofDigitChars_append, Nat.ofDigitChars_cons_digitChar_of_lt_ten small,
      Nat.ofDigitChars_nil]
    by_cases empty : digits = []
    · refine ⟨0, ?_⟩
      rw [empty, Nat.ofDigitChars_nil, Nat.mul_zero, Nat.zero_add, Nat.toDigits_of_lt_base small]
      rfl
    · obtain ⟨zeros, eq⟩ := ih empty fun c mem => all c (List.mem_append_left _ mem)
      -- a number that is zero so far has a digit of its own, which is one more zero in front
      rcases Nat.eq_zero_or_pos (Nat.ofDigitChars 10 digits 0) with zero | pos
      · refine ⟨zeros + 1, ?_⟩
        rw [zero, Nat.toDigits_zero] at eq
        rw [zero, Nat.mul_zero, Nat.zero_add, Nat.toDigits_of_lt_base small, eq,
          ← List.replicate_succ']
      · refine ⟨zeros, ?_⟩
        rw [← Nat.toDigits_append_toDigits (by decide) pos small, ← List.append_assoc, ← eq,
          Nat.toDigits_of_lt_base small]

/-- The digits of a number are one or more digits that give it. -/
lemma digits_iff {digits : List Char} {n : Nat} : Digits n digits ↔
    digits ≠ [] ∧ (∀ c ∈ digits, c.isDigit = true) ∧ Nat.ofDigitChars 10 digits 0 = n := by
  constructor
  · rintro ⟨zeros, rfl⟩
    refine ⟨by simp, fun c mem => ?_, ?_⟩
    · rcases List.mem_append.1 mem with mem | mem
      · rw [List.eq_of_mem_replicate mem]
        rfl
      · exact Nat.isDigit_of_mem_toDigits (by decide) (by decide) mem
    · rw [Nat.ofDigitChars_append, Nat.ofDigitChars_replicate_zero, Nat.mul_zero,
        Nat.ofDigitChars_ten_toDigits]
  · rintro ⟨some, all, rfl⟩
    exact digits_ofDigitChars some all

/-- Behind a sign stand the digits of a number. -/
lemma numeral_plus_iff {cs : List Char} {n : Nat} : Numeral n ('+' :: cs) ↔ Digits n cs := by
  constructor
  · rintro (digits | digits)
    · exact absurd ((digits_iff.1 digits).2.1 '+' List.mem_cons_self) (by decide)
    · exact digits
  · exact .signed

/-- Without a sign there are digits only. -/
lemma numeral_iff_digits {cs : List Char} {n : Nat} (plain : ∀ ds, cs ≠ '+' :: ds) :
    Numeral n cs ↔ Digits n cs := by
  constructor
  · rintro (digits | digits)
    · exact digits
    · exact absurd rfl (plain _)
  · exact .unsigned

/-- A number of at most 64 bits is read from its written forms. -/
lemma unsigned?_eq_some_iff {cs : List Char} {n : Nat} :
    unsigned? cs = some n ↔ Numeral n cs ∧ n < 2 ^ 64 := by
  have given (digits : List Char) :
      (let value := digits.foldl (fun n c => n * 10 + (c.toNat - '0'.toNat)) 0
        if !digits.isEmpty && digits.all Char.isDigit && value < Nat.pow 2 64 then some value
        else none) = some n ↔ Digits n digits ∧ n < 2 ^ 64 := by
    have value : digits.foldl (fun n c => n * 10 + (c.toNat - '0'.toNat)) 0 =
        Nat.ofDigitChars 10 digits 0 := by
      rw [Nat.ofDigitChars_eq_foldl]
      simp only [Nat.mul_comm]
    simp only [value, digits_iff, Option.ite_none_right_eq_some, Bool.and_eq_true,
      Bool.not_eq_true', List.isEmpty_eq_false_iff, List.all_eq_true, decide_eq_true_eq,
      Option.some.injEq]
    constructor
    · rintro ⟨⟨⟨some, all⟩, small⟩, rfl⟩
      exact ⟨⟨some, all, rfl⟩, small⟩
    · rintro ⟨⟨some, all, rfl⟩, small⟩
      exact ⟨⟨⟨some, all⟩, small⟩, rfl⟩
  unfold unsigned?
  split
  next cs => exact (given cs).trans (and_congr_left' numeral_plus_iff.symm)
  next plain => exact (given cs).trans (and_congr_left' (numeral_iff_digits plain).symm)

/-! ### Values that are read -/

/-- A character that can be read has one octet, its number, which can be read. -/
lemma octet_of_plain {c : Char} (plain : c = '\t' ∨ ' ' ≤ c ∧ c ≤ '~') :
    let b := UInt8.ofNat c.toNat
    String.utf8EncodeChar c = [b] ∧ (b = 0x09 ∨ 0x20 ≤ b ∧ b ≤ 0x7e) ∧ Char.ofNat b.toNat = c := by
  have number : c.toNat = 0x09 ∨ 0x20 ≤ c.toNat ∧ c.toNat ≤ 0x7e := by
    rcases plain with rfl | plain
    · exact .inl rfl
    · exact .inr plain
  have octet : (UInt8.ofNat c.toNat).toNat = c.toNat := Nat.mod_eq_of_lt (by omega)
  refine ⟨?_, ?_, by rw [octet, Char.ofNat_toNat]⟩
  · obtain ⟨n, numbered, -, octets⟩ := Text.Utf8.utf8EncodeChar_cases c
    have number' : c.toNat = n := numbered
    rcases octets with ⟨-, eq⟩ | ⟨_, _⟩ | ⟨_, _⟩ | ⟨_, _⟩
    · exact number' ▸ eq
    all_goals omega
  · rw [← UInt8.toNat_inj, UInt8.le_iff_toNat_le, UInt8.le_iff_toNat_le, octet]
    exact number

/-- An octet that can be read is that of the character with its number, which can be read. -/
lemma plain_of_octet {b : UInt8} (plain : b = 0x09 ∨ 0x20 ≤ b ∧ b ≤ 0x7e) :
    let c := Char.ofNat b.toNat
    (c = '\t' ∨ ' ' ≤ c ∧ c ≤ '~') ∧ UInt8.ofNat c.toNat = b := by
  have number : (Char.ofNat b.toNat).toNat = b.toNat := Text.Utf8.toNat_ofNat (.inl (by
    have := b.toNat_lt
    omega))
  refine ⟨?_, by rw [number, UInt8.ofNat_toNat]⟩
  rcases plain with rfl | ⟨low, high⟩
  · exact .inl rfl
  · refine .inr ⟨?_, ?_⟩
    · show ' '.toNat ≤ (Char.ofNat b.toNat).toNat
      rw [number]
      exact UInt8.le_iff_toNat_le.1 low
    · show (Char.ofNat b.toNat).toNat ≤ '~'.toNat
      rw [number]
      exact UInt8.le_iff_toNat_le.1 high

/-- A text that can be read has an octet for each character. -/
lemma octets_of_plain {text : List Char} (plain : ∀ c ∈ text, c = '\t' ∨ ' ' ≤ c ∧ c ≤ '~') :
    text.flatMap String.utf8EncodeChar = text.map fun c => UInt8.ofNat c.toNat := by
  rw [List.map_eq_flatMap]
  exact List.flatMap_congr fun c mem => (octet_of_plain (plain c mem)).1

/-- Values are read as the texts that have their octets. -/
lemma readable?_eq_some_iff {value : Bytes} {text : List Char} :
    readable? value = some text ↔ Readable value text := by
  simp only [readable?, Option.ite_none_right_eq_some, List.all_eq_true, Bool.or_eq_true,
    beq_iff_eq, Bool.and_eq_true, decide_eq_true_eq, Option.some.injEq]
  constructor
  · rintro ⟨plain, rfl⟩
    have plain' : ∀ c ∈ value.map fun b => Char.ofNat b.toNat, c = '\t' ∨ ' ' ≤ c ∧ c ≤ '~' :=
      List.forall_mem_map.2 fun b mem => (plain_of_octet (plain b mem)).1
    refine ⟨?_, plain'⟩
    rw [octets_of_plain plain', List.map_map]
    exact ((List.map_congr_left fun b mem => (plain_of_octet (plain b mem)).2).trans
      (List.map_id value)).symm
  · rintro ⟨rfl, plain⟩
    rw [octets_of_plain plain]
    refine ⟨List.forall_mem_map.2 fun c mem => (octet_of_plain (plain c mem)).2.1, ?_⟩
    rw [List.map_map]
    exact (List.map_congr_left fun c mem => (octet_of_plain (plain c mem)).2.2).trans
      (List.map_id text)

/-! ### What a response asks for -/

/-- The first value of a name is that of the first line with the name. -/
lemma head?_valuesOf {h : Headers} {name : String} {value : Bytes} :
    (Headers.valuesOf h name).head? = some value ↔ ∃ before after,
      h = before ++ (name, value) :: after ∧ ∀ line ∈ before, line.1 ≠ name := by
  rw [Headers.valuesOf, List.head?_map, List.head?_filter, Option.map_eq_some_iff]
  constructor
  · rintro ⟨⟨name', value⟩, found, rfl⟩
    obtain ⟨same, before, after, eq, other⟩ := List.find?_eq_some_iff_append.1 found
    cases eq_of_beq same
    exact ⟨before, after, eq, fun line mem => by simpa using other line mem⟩
  · rintro ⟨before, after, eq, other⟩
    refine ⟨(name, value), List.find?_eq_some_iff_append.2 ⟨beq_self_eq_true _, ?_⟩, rfl⟩
    exact ⟨before, after, eq, fun line mem => by simpa using other line mem⟩

end Http

namespace ErrorDecoder

open Http

variable {r : Response}

/-- A response asks for the wait that is told from it. -/
lemma retryAfter?_eq_some_iff {d : Duration} :
    retryAfter? r = some d ↔ ∃ n, Asks r n ∧ d = .ofSeconds n := by
  constructor
  · intro told
    simp only [retryAfter?, Option.bind_eq_bind, Option.bind_eq_some_iff, Option.pure_def,
      Option.some.injEq] at told
    obtain ⟨value, first, text, read, n, number, rfl⟩ := told
    obtain ⟨before, after, eq, other⟩ := head?_valuesOf.1 first
    obtain ⟨numeral, small⟩ := unsigned?_eq_some_iff.1 number
    have readable := readable?_eq_some_iff.1 read
    exact ⟨n, ⟨eq, other, readable, Text.inner_dropBoth _ _, numeral, small⟩, rfl⟩
  · rintro ⟨n, ⟨eq, other, read, inner, numeral, small⟩, rfl⟩
    have number := unsigned?_eq_some_iff.2 ⟨numeral, small⟩
    rw [inner.eq_dropBoth] at number
    simp only [retryAfter?, head?_valuesOf.2 ⟨_, _, eq, other⟩, readable?_eq_some_iff.2 read,
      number, Option.bind_eq_bind, Option.bind_some, Option.pure_def]

/-- What an error shows of a body: the first characters as which it is read. They are a front of
the text whose octets the body has, if there is one. -/
structure Shows (body : Bytes) (shown : String) : Prop where
  first : ∃ cs, Text.Utf8.Lossy body cs ∧ shown.toList = cs.take (min 256 cs.length)
  front : ∀ s, body = Text.Utf8.encode s → ∃ rest, s = shown ++ rest ∧
    body = Text.Utf8.encode shown ++ Text.Utf8.encode rest

/-- The octets of two texts behind each other. -/
lemma encode_append (s t : String) : Text.Utf8.encode (s ++ t) =
    Text.Utf8.encode s ++ Text.Utf8.encode t := by
  simp only [Text.Utf8.encode, String.toList_append, List.flatMap_append]

/-- The beginning of a body is what is shown of it. -/
lemma shows_preview (body : Bytes) : Shows body (preview body) where
  first := by
    refine ⟨_, Text.Utf8.lossy_iff.2 rfl, ?_⟩
    rw [preview, String.toList_ofList, List.take_eq_take_min]
    rfl
  front := by
    rintro s rfl
    have whole :
        s = preview (Text.Utf8.encode s) ++ String.ofList (s.toList.drop previewLimit) := by
      rw [preview, Text.Utf8.decodeLossy_encode, ← String.ofList_append, List.take_append_drop,
        String.ofList_toList]
    exact ⟨_, whole, by rw [← encode_append, ← whole]⟩

/-- The error for a response may be retried exactly if the response asks for a wait, and tells this
wait. The error for any other response has its status and shows its body. -/
theorem standard_decode (key : String) (r : Response) :
    let e := standard.decode key r
    (e.isRetryable = true ↔ ∃ n, Asks r n) ∧
      (∀ d, e.retryAfter? = some d ↔ ∃ n, Asks r n ∧ d = .ofSeconds n) ∧
      ((∃ n, Asks r n ∧ e = .retryableStatus key r.status (some (.ofSeconds n))) ∨
        (¬∃ n, Asks r n) ∧ ∃ shown, e = .status key r.status shown ∧ Shows r.body shown) := by
  intro e
  cases told : retryAfter? r with
  | some d =>
    obtain ⟨n, asks, rfl⟩ := retryAfter?_eq_some_iff.1 told
    have deferred : e = .retryableStatus key r.status (some (.ofSeconds n)) := by
      simp only [e, standard, told]
    refine ⟨?_, fun d => ?_, .inl ⟨n, asks, deferred⟩⟩
    · rw [deferred]
      exact iff_of_true rfl ⟨n, asks⟩
    · rw [← retryAfter?_eq_some_iff, told, deferred]
      rfl
  | none =>
    have silent : ¬∃ n, Asks r n := by
      rintro ⟨n, asks⟩
      cases told.symm.trans (retryAfter?_eq_some_iff.2 ⟨n, asks, rfl⟩)
    have final : e = .status key r.status (preview r.body) := by
      simp only [e, standard, told]
    refine ⟨?_, fun d => ?_, .inr ⟨silent, _, final, shows_preview r.body⟩⟩
    · rw [final]
      exact iff_of_false nofun silent
    · rw [← retryAfter?_eq_some_iff, told, final]
      rfl

end ErrorDecoder
end ServiceClient
