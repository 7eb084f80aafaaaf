/-!
# UTF-8

Octets of a text, the text of octets, and the reading that puts U+FFFD in the place of each maximal
part of an ill-formed sequence.
-/

namespace ServiceClient

/-- A run of octets. -/
abbrev Bytes := List UInt8

namespace Text.Utf8

/-- The octets of a text. -/
def encode (s : String) : Bytes :=
  s.toList.flatMap String.utf8EncodeChar

/-- What stands at the front of a run of octets: a character, or an ill-formed part. -/
structure Front where
  /-- The character read, `none` for an ill-formed part. -/
  char? : Option Char
  /-- The octets after it. -/
  rest : Bytes

/-- The bounds on the second octet after each leading octet of a sequence. -/
def secondBounds (lead : UInt8) : UInt8 × UInt8 :=
  if lead == 0xe0 then (0xa0, 0xbf)
  else if lead == 0xed then (0x80, 0x9f)
  else if lead == 0xf0 then (0x90, 0xbf)
  else if lead == 0xf4 then (0x80, 0x8f)
  else (0x80, 0xbf)

/-- The number of octets that follow a leading octet, if it leads a sequence. -/
def tailCount? (lead : UInt8) : Option Nat :=
  if lead ≤ 0x7f then some 0
  else if 0xc2 ≤ lead && lead ≤ 0xdf then some 1
  else if 0xe0 ≤ lead && lead ≤ 0xef then some 2
  else if 0xf0 ≤ lead && lead ≤ 0xf4 then some 3
  else none

/-- The bits that a leading octet with `tails` octets after it gives to its character. -/
def leadBits (lead : UInt8) (tails : Nat) : Nat :=
  if tails == 0 then lead.toNat
  else if tails == 1 then lead.toNat % 0x20
  else if tails == 2 then lead.toNat % 0x10
  else lead.toNat % 0x08

/-- Reads `tails` further octets onto the bits gathered so far, the first within `bounds`. -/
def readTails (bits : Nat) (bounds : UInt8 × UInt8) : Nat → Bytes → Front
  | 0, rest => ⟨some (Char.ofNat bits), rest⟩
  | _ + 1, [] => ⟨none, []⟩
  | tails + 1, b :: rest =>
    if bounds.1 ≤ b && b ≤ bounds.2 then
      readTails (bits * 0x40 + b.toNat % 0x40) (0x80, 0xbf) tails rest
    else ⟨none, b :: rest⟩

/-- Reads the front of a run of octets that begins with `lead`. -/
def front (lead : UInt8) (rest : Bytes) : Front :=
  match tailCount? lead with
  | none => ⟨none, rest⟩
  | some tails => readTails (leadBits lead tails) (secondBounds lead) tails rest

theorem length_readTails (bits : Nat) (bounds : UInt8 × UInt8) (tails : Nat) (rest : Bytes) :
    (readTails bits bounds tails rest).rest.length ≤ rest.length := by
  induction tails generalizing bits bounds rest with
  | zero => simp [readTails]
  | succ tails ih =>
    cases rest with
    | nil => simp [readTails]
    | cons b rest =>
      simp only [readTails]
      split
      · exact Nat.le_succ_of_le (ih _ _ rest)
      · simp

/-- Reading the front uses up at least the leading octet. -/
theorem length_front (lead : UInt8) (rest : Bytes) :
    (front lead rest).rest.length ≤ rest.length := by
  unfold front
  split
  · simp
  · exact length_readTails _ _ _ rest

/-- The characters of a run of octets, `none` where an ill-formed part stands. -/
def scan : Bytes → List (Option Char)
  | [] => []
  | b :: rest => (front b rest).char? :: scan (front b rest).rest
termination_by bs => bs.length
decreasing_by exact Nat.lt_succ_of_le (length_front b rest)

/-- The characters of a run of octets, with U+FFFD for each ill-formed part. -/
def decodeLossy (bs : Bytes) : List Char :=
  (scan bs).map (·.getD (Char.ofNat 0xfffd))

/-- The characters of a well-formed run of octets. -/
def decode? (bs : Bytes) : Option (List Char) :=
  (scan bs).mapM id

/-- The text of a well-formed run of octets. -/
def text? (bs : Bytes) : Option String :=
  (decode? bs).map String.ofList

end Text.Utf8
end ServiceClient
