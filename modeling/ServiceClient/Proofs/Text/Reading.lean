import ServiceClient.Proofs.Text.Utf8

/-!
# Octets that are read back

The octets of a text are well-formed: each run of octets that a character is written with is read as
this character, whatever follows it, so reading the octets of a text gives the text.
-/

namespace ServiceClient.Text.Utf8

/-- A digit within the bounds is read onto the bits before it. -/
lemma readTails_digit {bounds : UInt8 × UInt8} {d : Nat} (digit : d < 0x40)
    (low : bounds.1.toNat ≤ d + 0x80) (high : d + 0x80 ≤ bounds.2.toNat) (bits tails : Nat)
    (rest : Bytes) :
    readTails bits bounds (tails + 1) (UInt8.ofNat (d + 0x80) :: rest) =
      readTails (bits * 0x40 + d) (0x80, 0xbf) tails rest := by
  have number : (UInt8.ofNat (d + 0x80)).toNat = d + 0x80 := by simp; omega
  have inside : bounds.1 ≤ UInt8.ofNat (d + 0x80) ∧ UInt8.ofNat (d + 0x80) ≤ bounds.2 := by
    rw [UInt8.le_iff_toNat_le, UInt8.le_iff_toNat_le, number]
    exact ⟨low, high⟩
  have bits' : (d + 0x80) % 0x40 = d := by omega
  simp only [readTails, inside, number, bits', decide_true, Bool.and_self, if_true]

/-- What a leading octet says: how many octets follow it, its own bits, and the bounds on the next
octet. -/
def Leads (lead : UInt8) (tails bits : Nat) (bounds : UInt8 × UInt8) : Prop :=
  tailCount? lead = some tails ∧ leadBits lead tails = bits ∧ secondBounds lead = bounds

/-- The octets behind a leading octet are read as it says. -/
lemma Leads.front_eq {lead : UInt8} {tails bits : Nat} {bounds : UInt8 × UInt8}
    (leads : Leads lead tails bits bounds) (rest : Bytes) :
    front lead rest = readTails bits bounds tails rest := by
  obtain ⟨count, rfl, rfl⟩ := leads
  simp only [front, count]

/-- An octet that stands alone. -/
lemma leads_one : ∀ n < 0x80, Leads (UInt8.ofNat n) 0 n (0x80, 0xbf) := by
  unfold Leads
  decide

/-- The first of two octets. -/
lemma leads_two : ∀ d < 0x20, 2 ≤ d → Leads (UInt8.ofNat (d + 0xc0)) 1 d (0x80, 0xbf) := by
  unfold Leads
  decide

/-- The first of three octets. -/
lemma leads_three : ∀ d < 0x10, Leads (UInt8.ofNat (d + 0xe0)) 2 d
    (if d = 0 then (0xa0, 0xbf) else if d = 13 then (0x80, 0x9f) else (0x80, 0xbf)) := by
  unfold Leads
  decide

/-- The first of four octets. -/
lemma leads_four : ∀ d < 5, Leads (UInt8.ofNat (d + 0xf0)) 3 d
    (if d = 0 then (0x90, 0xbf) else if d = 4 then (0x80, 0x8f) else (0x80, 0xbf)) := by
  unfold Leads
  decide

/-- The octets of a character are read as the character, whatever follows them. -/
lemma scan_utf8EncodeChar (c : Char) (rest : Bytes) :
    scan (String.utf8EncodeChar c ++ rest) = some c :: scan rest := by
  obtain ⟨n, numbered, bound, octets⟩ := utf8EncodeChar_cases c
  have char : Char.ofNat n = c := numbered ▸ Char.ofNat_toNat c
  have noSurrogate : n < 0xd800 ∨ 0xdfff < n := by
    rcases c.valid with low | ⟨high, -⟩
    · exact .inl (numbered ▸ low)
    · exact .inr (numbered ▸ high)
  have reading {lead tails} (eq : String.utf8EncodeChar c = lead :: tails)
      (read : front lead (tails ++ rest) = ⟨some (Char.ofNat n), rest⟩) :
      scan (String.utf8EncodeChar c ++ rest) = some c :: scan rest := by
    rw [eq, List.cons_append, scan, read, char]
  -- the digits of the number are gathered again; the bounds on the second octet leave out what
  -- fewer octets can tell, the surrogates, and what is beyond the last character
  rcases octets with ⟨one, eq⟩ | ⟨two, two', eq⟩ | ⟨three, three', eq⟩ | ⟨four, eq⟩
  · refine reading eq ?_
    rw [(leads_one n one).front_eq]
    rfl
  · refine reading eq ?_
    have value : n / 64 * 0x40 + n % 64 = n := by omega
    rw [(leads_two _ (by omega) (by omega)).front_eq, List.cons_append,
      readTails_digit (by omega) (by simp) (by simp; omega), value]
    rfl
  · refine reading eq ?_
    have value : (n / 64 / 64 * 0x40 + n / 64 % 64) * 0x40 + n % 64 = n := by omega
    rw [(leads_three _ (by omega)).front_eq, List.cons_append,
      readTails_digit (by omega) (by split <;> [skip; split] <;> simp; omega)
        (by split <;> [skip; split] <;> simp <;> omega),
      List.cons_append, readTails_digit (by omega) (by simp) (by simp; omega), value]
    rfl
  · refine reading eq ?_
    have value : ((n / 64 / 64 / 64 * 0x40 + n / 64 / 64 % 64) * 0x40 + n / 64 % 64) * 0x40 +
        n % 64 = n := by omega
    rw [(leads_four _ (by omega)).front_eq, List.cons_append,
      readTails_digit (by omega) (by split <;> [skip; split] <;> simp; omega)
        (by split <;> [skip; split] <;> simp <;> omega),
      List.cons_append, readTails_digit (by omega) (by simp) (by simp; omega),
      List.cons_append, readTails_digit (by omega) (by simp) (by simp; omega), value]
    rfl

/-- Reading the octets of a text gives the text. -/
lemma decodeLossy_encode (s : String) : decodeLossy (encode s) = s.toList := by
  have scanned : ∀ cs : List Char, scan (cs.flatMap String.utf8EncodeChar) = cs.map some := by
    intro cs
    induction cs with
    | nil => rw [List.flatMap_nil, scan, List.map_nil]
    | cons c cs ih => rw [List.flatMap_cons, scan_utf8EncodeChar, ih, List.map_cons]
  rw [decodeLossy, encode, scanned, List.map_map]
  exact List.map_id _

end ServiceClient.Text.Utf8
