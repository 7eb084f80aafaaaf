import ServiceClient.Proofs.Text.Reading
import ServiceClient.Proofs.Url.Host
import ServiceClient.Url.Form

/-!
# Pairs that are read back

Form encoding writes no ampersand and no equals sign but those between pairs and inside of them, and
each octet it writes is read back. So the pairs that are put behind a query are found in it, in
their order, behind those that were there: `decode_appendPairs`.
-/

namespace ServiceClient

namespace Text

variable {sep : Char}

/-- There is always a piece. -/
lemma pieces_ne_nil (cs : List Char) : pieces sep cs ≠ [] := by
  cases cs with
  | nil => simp [pieces]
  | cons c cs =>
    unfold pieces
    split
    · simp
    · split <;> simp

/-- The pieces of a text are those before a separator and those behind it. -/
lemma pieces_append_cons (a b : List Char) :
    pieces sep (a ++ sep :: b) = pieces sep a ++ pieces sep b := by
  induction a with
  | nil => simp [pieces]
  | cons c a ih =>
    rw [List.cons_append, pieces, ih, pieces]
    split
    · rfl
    · cases found : pieces sep a with
      | nil => exact absurd found (pieces_ne_nil a)
      | cons p ps => rfl

/-- A text without separators is one piece. -/
lemma pieces_of_not_mem {cs : List Char} (alone : sep ∉ cs) : pieces sep cs = [cs] := by
  induction cs with
  | nil => rfl
  | cons c cs ih =>
    obtain ⟨here, there⟩ := not_or.1 (mt List.mem_cons.2 alone)
    rw [pieces, if_neg (Ne.symm here), ih there]

end Text

namespace Url.Form

/-- The octets of a written text, before escapes are undone. -/
def octets (cs : List Char) : Bytes :=
  cs.flatMap fun c => if c = '+' then [0x20] else String.utf8EncodeChar c

/-- Texts are read one behind the other. -/
lemma octets_append (a b : List Char) : octets (a ++ b) = octets a ++ octets b :=
  List.flatMap_append ..

/-- A hexadecimal digit is an octet that stands for its value. -/
lemma octets_upperHex : ∀ n < 16, ∃ b, octets [upperHex n] = [b] ∧
    Text.hexDigit? (Char.ofNat b.toNat) = some n := by
  have digits : ∀ n < 16, octets [upperHex n] = [UInt8.ofNat (upperHex n).toNat] ∧
      Text.hexDigit? (Char.ofNat (UInt8.ofNat (upperHex n).toNat).toNat) = some n := by
    decide +kernel
  exact fun n small => ⟨_, digits n small⟩

/-- An escaped octet is read back. -/
lemma percentDecode_escapedOctet (b : UInt8) (rest : Bytes) :
    percentDecode (octets (escapedOctet b) ++ rest) = b :: percentDecode rest := by
  have bound : b.toNat < 256 := b.toNat_lt
  obtain ⟨x, high, highValue⟩ := octets_upperHex (b.toNat / 16) (by omega)
  obtain ⟨y, low, lowValue⟩ := octets_upperHex (b.toNat % 16) (by omega)
  have written : octets (escapedOctet b) = [0x25, x, y] := by
    change octets (['%'] ++ [upperHex (b.toNat / 16)] ++ [upperHex (b.toNat % 16)]) = [0x25, x, y]
    rw [octets_append, octets_append, high, low]
    rfl
  have value : b.toNat / 16 * 16 + b.toNat % 16 = b.toNat := by omega
  rw [written, List.cons_append, List.cons_append, List.cons_append, percentDecode.eq_2]
  simp only [highValue, lowValue, value, UInt8.ofNat_toNat, List.nil_append]

/-- An octet that is written as it is is no sign of an escape. -/
lemma octets_plain {b : UInt8} (plain : isPlain b) :
    octets [Char.ofNat b.toNat] = [b] ∧ b ≠ 0x25 := by
  have all : ∀ n < 256, isPlain (UInt8.ofNat n) →
      octets [Char.ofNat n] = [UInt8.ofNat n] ∧ UInt8.ofNat n ≠ 0x25 := by
    decide +kernel
  have here := all b.toNat b.toNat_lt
  rw [UInt8.ofNat_toNat] at here
  exact here plain

/-- Each octet that is written is read back. -/
lemma percentDecode_encodeOctet (b : UInt8) (rest : Bytes) :
    percentDecode (octets (encodeOctet b) ++ rest) = b :: percentDecode rest := by
  unfold encodeOctet
  split
  next blank =>
    rw [eq_of_beq blank]
    exact percentDecode_cons (by decide) rest
  next =>
    split
    next plain =>
      obtain ⟨written, noEscape⟩ := octets_plain plain
      rw [written]
      exact percentDecode_cons noEscape rest
    next => exact percentDecode_escapedOctet b rest

/-- A text that is written is read back. -/
lemma decodeText_encodeText (s : String) : decodeText (encodeText s) = s := by
  have decoded : ∀ bs : Bytes, percentDecode (octets (bs.flatMap encodeOctet)) = bs := by
    intro bs
    induction bs with
    | nil => rfl
    | cons b bs ih => rw [List.flatMap_cons, octets_append, percentDecode_encodeOctet, ih]
  calc decodeText (encodeText s)
      = String.ofList (Text.Utf8.decodeLossy (percentDecode (octets (encodeText s)))) := rfl
    _ = s := by rw [encodeText, decoded, Text.Utf8.decodeLossy_encode, String.ofList_toList]

/-- No ampersand and no equals sign is written within a text. -/
lemma ne_of_mem_encodeText {s : String} {c : Char} (mem : c ∈ encodeText s) :
    c ≠ '&' ∧ c ≠ '=' := by
  have all : ∀ n < 256, (encodeOctet (UInt8.ofNat n)).all (fun c => c != '&' && c != '=') := by
    decide +kernel
  obtain ⟨b, -, written⟩ := List.mem_flatMap.1 mem
  have here := all b.toNat b.toNat_lt
  rw [UInt8.ofNat_toNat] at here
  simpa using List.all_eq_true.1 here c written

/-- A pair that is written is read back. -/
lemma decodePair_encodePair (p : Pair) : decodePair (encodePair p) = p := by
  obtain ⟨name, value⟩ := p
  have noEquals : ∀ c ∈ encodeText name, decide (c ≠ '=') = true := fun c mem =>
    decide_eq_true (ne_of_mem_encodeText mem).2
  have front : (encodePair (name, value)).takeWhile (· ≠ '=') = encodeText name := by
    rw [encodePair, List.takeWhile_append_of_pos noEquals]
    exact List.append_nil _
  have back : (encodePair (name, value)).dropWhile (· ≠ '=') = '=' :: encodeText value := by
    rw [encodePair, List.dropWhile_append_of_pos noEquals]
    rfl
  rw [decodePair, front, back, List.drop_one, List.tail_cons, decodeText_encodeText,
    decodeText_encodeText]

/-- The pairs before an ampersand and those behind it. -/
lemma decode_append_cons (a b : List Char) : decode (a ++ '&' :: b) = decode a ++ decode b := by
  rw [decode, Text.pieces_append_cons, List.filter_append, List.map_append]
  rfl

/-- A pair that is written alone. -/
lemma decode_encodePair (p : Pair) : decode (encodePair p) = [p] := by
  have alone : '&' ∉ encodePair p := by
    intro mem
    rcases List.mem_append.1 mem with name | value
    · exact (ne_of_mem_encodeText name).1 rfl
    · exact (ne_of_mem_encodeText ((List.mem_cons.1 value).resolve_left (by decide))).1 rfl
  have written : (encodePair p).isEmpty = false := by
    simp [encodePair]
  rw [decode, Text.pieces_of_not_mem alone]
  simp [written, decodePair_encodePair]

/-- Pairs that are written are read back. -/
lemma decode_encode (pairs : List Pair) : decode (encode pairs) = pairs := by
  induction pairs with
  | nil => rfl
  | cons p pairs ih =>
    cases pairs with
    | nil =>
      rw [encode, List.map_singleton, List.intercalate_singleton, decode_encodePair]
    | cons q pairs =>
      have written : encode (p :: q :: pairs) = encodePair p ++ '&' :: encode (q :: pairs) := by
        rw [encode, List.map_cons, List.map_cons, List.intercalate_cons_cons, List.append_assoc]
        rfl
      rw [written, decode_append_cons, decode_encodePair, ih, List.singleton_append]

end Url.Form

namespace Url

open Form

/-- Pairs are put behind the query, and nothing else is touched. -/
lemma appendPairs_eq (u : Url) (pairs : List Pair) :
    u.appendPairs pairs = { u with query := (u.appendPairs pairs).query } := by
  unfold appendPairs
  split <;> rfl

/-- Pairs are found behind those of the query. -/
lemma decode_appendPairs (u : Url) (pairs : List Pair) :
    decode ((u.appendPairs pairs).query.getD []) = decode (u.query.getD []) ++ pairs := by
  unfold appendPairs
  split
  next none => rw [List.isEmpty_iff.1 none, List.append_nil]
  next =>
    rcases u.query with _ | _ | ⟨c, cs⟩
    · exact decode_encode pairs
    · exact decode_encode pairs
    · exact (decode_append_cons (c :: cs) (encode pairs)).trans (by rw [decode_encode]; rfl)

end Url

end ServiceClient
