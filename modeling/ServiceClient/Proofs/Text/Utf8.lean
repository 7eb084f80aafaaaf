import Mathlib.Data.String.Basic
import Mathlib.Tactic.Lemma
import ServiceClient.Text.Utf8

/-!
# The order of octets

Texts stand in the order of their characters, and this is the order of their octets:
`encode_lt_encode_iff`.
-/

namespace ServiceClient.Text.Utf8

/-- The octets of a character by its number, in digits of six bits. -/
lemma utf8EncodeChar_cases (c : Char) : ∃ n, c.val.toNat = n ∧ n < 0x110000 ∧
    (n < 0x80 ∧ String.utf8EncodeChar c = [UInt8.ofNat n] ∨
      0x80 ≤ n ∧ n < 0x800 ∧
        String.utf8EncodeChar c = [UInt8.ofNat (n / 64 + 0xc0), UInt8.ofNat (n % 64 + 0x80)] ∨
      0x800 ≤ n ∧ n < 0x10000 ∧
        String.utf8EncodeChar c = [UInt8.ofNat (n / 64 / 64 + 0xe0),
          UInt8.ofNat (n / 64 % 64 + 0x80), UInt8.ofNat (n % 64 + 0x80)] ∨
      0x10000 ≤ n ∧
        String.utf8EncodeChar c = [UInt8.ofNat (n / 64 / 64 / 64 + 0xf0),
          UInt8.ofNat (n / 64 / 64 % 64 + 0x80), UInt8.ofNat (n / 64 % 64 + 0x80),
          UInt8.ofNat (n % 64 + 0x80)]) := by
  have bound : c.val.toNat < 0x110000 := by
    rcases c.valid with low | ⟨-, high⟩
    · exact Nat.lt_trans low (by decide)
    · exact high
  refine ⟨_, rfl, bound, ?_⟩
  unfold String.utf8EncodeChar
  dsimp only
  split
  next one => exact .inl ⟨by omega, rfl⟩
  next =>
    split
    next two =>
      have lead : c.val.toNat / 64 % 32 = c.val.toNat / 64 := by omega
      exact .inr (.inl ⟨by omega, by omega, by rw [lead]⟩)
    next =>
      split
      next three =>
        have lead : c.val.toNat / 4096 % 16 = c.val.toNat / 64 / 64 := by omega
        exact .inr (.inr (.inl ⟨by omega, by omega, by rw [lead]⟩))
      next =>
        have lead : c.val.toNat / 262144 % 8 = c.val.toNat / 64 / 64 / 64 := by omega
        have second : c.val.toNat / 4096 = c.val.toNat / 64 / 64 := by omega
        exact .inr (.inr (.inr ⟨by omega, by rw [lead, second]⟩))

/-- Of two characters the lower one has the lower octets, whatever follows them. -/
lemma utf8EncodeChar_append_lt {c d : Char} (lt : c < d) (x y : Bytes) :
    String.utf8EncodeChar c ++ x < String.utf8EncodeChar d ++ y := by
  obtain ⟨n, numbered, -, octets⟩ := utf8EncodeChar_cases c
  obtain ⟨m, numbered', bound, octets'⟩ := utf8EncodeChar_cases d
  have lower : n < m := numbered ▸ numbered' ▸ lt
  -- a longer run has the higher leading octet, and runs of one length differ in a digit
  rcases octets with ⟨_, eq⟩ | ⟨_, _, eq⟩ | ⟨_, _, eq⟩ | ⟨_, eq⟩ <;>
    rcases octets' with ⟨_, eq'⟩ | ⟨_, _, eq'⟩ | ⟨_, _, eq'⟩ | ⟨_, eq'⟩ <;>
    simp only [eq, eq', List.cons_append, List.nil_append, List.cons_lt_cons_iff,
      UInt8.lt_iff_toNat_lt, ← UInt8.toNat_inj, UInt8.toNat_ofNat'] <;>
    omega

/-- Texts keep their order when they are told by their octets. -/
lemma flatMap_utf8EncodeChar_lt {s t : List Char} (lt : s < t) :
    s.flatMap String.utf8EncodeChar < t.flatMap String.utf8EncodeChar := by
  induction lt with
  | @nil d t =>
    obtain ⟨b, bs, octets⟩ : ∃ b bs, String.utf8EncodeChar d = b :: bs :=
      List.exists_cons_of_length_pos (String.length_utf8EncodeChar d ▸ d.utf8Size_pos)
    rw [List.flatMap_nil, List.flatMap_cons, octets]
    exact List.nil_lt_cons _ _
  | cons lt ih =>
    rw [List.flatMap_cons, List.flatMap_cons]
    exact List.append_left_lt ih
  | rel lt =>
    rw [List.flatMap_cons, List.flatMap_cons]
    exact utf8EncodeChar_append_lt lt _ _

/-- The order of texts is that of their octets. -/
lemma encode_lt_encode_iff {a b : String} : encode a < encode b ↔ a < b := by
  constructor
  · intro lt
    rcases lt_trichotomy a b with lower | same | higher
    · exact lower
    · rw [same] at lt
      exact absurd lt (List.lt_irrefl _)
    · exact absurd (flatMap_utf8EncodeChar_lt (String.lt_iff_toList_lt.1 higher)) (List.lt_asymm lt)
  · intro lower
    exact flatMap_utf8EncodeChar_lt (String.lt_iff_toList_lt.1 lower)

end ServiceClient.Text.Utf8
