import Mathlib.Tactic.Lemma
import ServiceClient.Url.Parser

/-!
# Hosts that end in a blank

Reading a host takes its octets, undoes their percent-encoding and reads UTF-8. An ASCII octet at
the end passes through both steps, whatever stands before it: it belongs to no escape that is not
complete, and it never continues a sequence. So a blank or a control character at the end of a host
is still there when the domain name is checked, and spoils it.
-/

namespace ServiceClient

namespace Text.Utf8

variable {x : UInt8}

/-- Reading further octets stops before an ASCII octet. -/
lemma readTails_concat (ascii : x < 0x80) (bits : Nat) {bounds : UInt8 × UInt8}
    (low : 0x80 ≤ bounds.1) (tails : Nat) (bs : Bytes) :
    readTails bits bounds tails (bs ++ [x]) =
      ⟨(readTails bits bounds tails bs).char?, (readTails bits bounds tails bs).rest ++ [x]⟩ := by
  induction tails generalizing bits bounds bs with
  | zero => rfl
  | succ tails ih =>
    cases bs with
    | nil =>
      have outside : ¬bounds.1 ≤ x := fun le =>
        absurd (UInt8.lt_of_lt_of_le ascii (UInt8.le_trans low le)) (UInt8.lt_irrefl x)
      simp [readTails, outside]
    | cons b bs =>
      simp only [readTails, List.cons_append]
      split
      · exact ih _ (UInt8.le_refl _) bs
      · rfl

/-- The bounds of a second octet leave out all ASCII octets. -/
lemma le_secondBounds (lead : UInt8) : 0x80 ≤ (secondBounds lead).1 := by
  unfold secondBounds
  repeat' split
  all_goals decide

/-- An ASCII octet at the end does not change what stands at the front. -/
lemma front_concat (ascii : x < 0x80) (lead : UInt8) (bs : Bytes) :
    front lead (bs ++ [x]) = ⟨(front lead bs).char?, (front lead bs).rest ++ [x]⟩ := by
  unfold front
  cases tailCount? lead with
  | none => rfl
  | some tails => exact readTails_concat ascii _ (le_secondBounds lead) tails bs

/-- An ASCII octet at the end is read as a character of its own. -/
lemma scan_concat (ascii : x < 0x80) (bs : Bytes) :
    scan (bs ++ [x]) = scan bs ++ [some (Char.ofNat x.toNat)] := by
  induction bs using scan.induct with
  | case1 =>
    have alone : front x [] = ⟨some (Char.ofNat x.toNat), []⟩ := by
      have leads : x ≤ 0x7f := by
        rw [UInt8.le_iff_toNat_le]
        rw [UInt8.lt_iff_toNat_lt] at ascii
        exact Nat.le_of_lt_succ ascii
      simp [front, tailCount?, leads, readTails, leadBits]
    rw [List.nil_append, scan.eq_2, alone, scan.eq_1, List.nil_append]
  | case2 b bs ih =>
    rw [List.cons_append, scan, front_concat ascii, ih, scan, List.cons_append]

/-- A run of octets with an ASCII octet at the end is well-formed when it is so without. -/
lemma decode?_concat (ascii : x < 0x80) (bs : Bytes) :
    decode? (bs ++ [x]) = (decode? bs).map (· ++ [Char.ofNat x.toNat]) := by
  rw [decode?, scan_concat ascii, List.mapM_append, decode?]
  cases (scan bs).mapM id <;> rfl

end Text.Utf8

namespace Url

/-- An octet that begins no escape stays as it is. -/
lemma percentDecode_cons {b : UInt8} (plain : b ≠ 0x25) (bs : Bytes) :
    percentDecode (b :: bs) = b :: percentDecode bs := by
  rw [percentDecode.eq_3]
  intro a a' rest escape
  exact absurd escape plain

/-- An octet at the end that is no hexadecimal digit completes no escape. -/
lemma percentDecode_concat {x : UInt8} (digit : Text.hexDigit? (Char.ofNat x.toNat) = none)
    (bs : Bytes) : percentDecode (bs ++ [x]) = percentDecode bs ++ [x] := by
  -- only an escape that is cut short could be completed by the octet, and this needs a digit
  induction bs using percentDecode.induct with
  | case1 => simp [percentDecode]
  | case2 a b rest m n first second ih => simp [percentDecode, first, second, ih]
  | case3 a b rest broken ih =>
    have kept : ∀ bs, percentDecode (0x25 :: a :: b :: bs) = 0x25 :: percentDecode (a :: b :: bs) :=
      fun bs => by
        rw [percentDecode.eq_2]
        split
        · rename_i m n first second
          exact (broken m n first second).elim
        · rfl
    simp only [List.cons_append] at ih ⊢
    rw [kept, ih, kept, List.cons_append]
  | case4 b rest short ih =>
    by_cases escape : b = 0x25
    · match rest, short with
      | [], _ => simp [percentDecode]
      | [a], _ => simp [percentDecode, escape, digit]
      | a :: a' :: rest, short => exact absurd rfl (short a a' rest escape)
    · rw [List.cons_append, percentDecode_cons escape, ih, percentDecode_cons escape,
        List.cons_append]

/-- A domain name with a blank or a control character in it has no ASCII form. -/
lemma Domain.toAscii?_of_mem {c : Char} (blank : c.toNat ≤ 0x20) {name : List Char}
    (mem : c ∈ name) : Domain.toAscii? name = none := by
  have spoiled : name.any (·.toNat ≤ 0x20) = true := List.any_eq_true.2 ⟨c, mem, by simpa⟩
  rw [Domain.toAscii?, if_pos spoiled]
  rfl

/-- Blanks and control characters come before all other ASCII characters. -/
lemma not_le_of_blank {c d : Char} (blank : c.toNat ≤ 0x20) (visible : 0x20 < d.toNat) :
    ¬d ≤ c := by
  intro le
  have : d.toNat ≤ c.toNat := UInt32.le_iff_toNat_le.1 (Char.le_def.1 le)
  omega

/-- Blanks and control characters are no other ASCII characters. -/
lemma ne_of_blank {c d : Char} (blank : c.toNat ≤ 0x20) (visible : 0x20 < d.toNat) : c ≠ d := by
  rintro rfl
  omega

/-- A host of a special scheme that ends in a blank or a control character is refused. -/
lemma Host.ofSpecial_concat {c : Char} (blank : c.toNat ≤ 0x20) (cs : List Char) :
    ∃ e, Host.ofSpecial (cs ++ [c]) = .error e := by
  have octet : String.utf8EncodeChar c = [UInt8.ofNat c.toNat] := by
    have single : c.val.toNat ≤ 127 := Nat.le_trans blank (by decide)
    rw [String.utf8EncodeChar]
    exact if_pos single
  have small : c.toNat < 256 := Nat.lt_of_le_of_lt blank (by decide)
  have number : (UInt8.ofNat c.toNat).toNat = c.toNat := by simp [Nat.mod_eq_of_lt small]
  have char : Char.ofNat (UInt8.ofNat c.toNat).toNat = c := by rw [number, Char.ofNat_toNat]
  have ascii : UInt8.ofNat c.toNat < 0x80 := by
    rw [UInt8.lt_iff_toNat_lt, number]
    exact Nat.lt_of_le_of_lt blank (by decide)
  have digit : Text.hexDigit? (Char.ofNat (UInt8.ofNat c.toNat).toNat) = none := by
    rw [char]
    simp [Text.hexDigit?, not_le_of_blank blank]
  unfold Host.ofSpecial
  split
  next =>
    have last : c ≠ ']' := ne_of_blank blank (by decide)
    exact ⟨.ipv6, by simp [ofBracketed, last]⟩
  next =>
    -- the character is still the last one when the domain name is checked
    have spoiled (name : List Char) : Domain.toAscii? (name ++ [c]) = none :=
      Domain.toAscii?_of_mem blank List.mem_concat_self
    refine ⟨.domainName, ?_⟩
    have refused : (Text.Utf8.decode? (percentDecode ((cs ++ [c]).flatMap
        String.utf8EncodeChar))).bind Domain.toAscii? = none := by
      rw [List.flatMap_append, List.flatMap_singleton, octet, percentDecode_concat digit,
        Text.Utf8.decode?_concat ascii, char, Option.bind_map]
      cases Text.Utf8.decode? (percentDecode (cs.flatMap String.utf8EncodeChar)) with
      | none => rfl
      | some name => exact spoiled name
    simp only [refused]

end Url
end ServiceClient
