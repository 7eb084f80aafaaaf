import ServiceClient.Text.CodeSet
import ServiceClient.Text.Utf8

/-!
# Percent-encoding

An octet is written as `%` and two upper case hexadecimal digits. Which characters are written so
differs between the parts of a URL; characters beyond ASCII always are.
-/

namespace ServiceClient.Url

/-- The upper case hexadecimal digit of a value below sixteen. -/
def upperHex (n : Nat) : Char :=
  Char.ofNat (if n < 10 then '0'.toNat + n else 'A'.toNat + (n - 10))

/-- The written form of an octet. -/
def escapedOctet (b : UInt8) : List Char :=
  ['%', upperHex (b.toNat / 16), upperHex (b.toNat % 16)]

/-- Whether a character is written octet by octet, given the ASCII characters that are. -/
def isEncoded (set : Char → Bool) (c : Char) : Bool :=
  0x80 ≤ c.toNat || set c

/-- Percent-encodes the characters of a set and those beyond ASCII. -/
def percentEncode (set : Char → Bool) (cs : List Char) : List Char :=
  cs.flatMap fun c =>
    if isEncoded set c then (String.utf8EncodeChar c).flatMap escapedOctet else [c]

/-- The control characters. -/
def controlSet (c : Char) : Bool :=
  c.toNat < 0x20 || c.toNat = 0x7f

/-- The characters encoded in a fragment. -/
def fragmentSet (c : Char) : Bool :=
  controlSet c || c = ' ' || c = '"' || c = '<' || c = '>' || c.toNat = 0x60

/-- The characters encoded in a path. -/
def pathSet (c : Char) : Bool :=
  fragmentSet c || c = '#' || c = '?' || c = '\x7b' || c = '\x7d'

/-- The characters encoded in a user name and a password. -/
def userinfoSet (c : Char) : Bool :=
  pathSet c || c = '/' || c = ':' || c = ';' || c = '=' || c = '@' || c = '[' || c = '\\' ||
    c = ']' || c = '^' || c = '|'

/-- The characters encoded in a query. -/
def querySet (c : Char) : Bool :=
  controlSet c || c = ' ' || c = '"' || c = '#' || c = '<' || c = '>'

/-- The characters encoded in the query of a special scheme. -/
def specialQuerySet (c : Char) : Bool :=
  querySet c || c = '\''

/-- Reads percent-encoded octets; a sign without two digits behind it stays. -/
def percentDecode : Bytes → Bytes
  | [] => []
  | 0x25 :: a :: b :: rest =>
    match Text.hexDigit? (Char.ofNat a.toNat), Text.hexDigit? (Char.ofNat b.toNat) with
    | some x, some y => UInt8.ofNat (x * 16 + y) :: percentDecode rest
    | _, _ => 0x25 :: percentDecode (a :: b :: rest)
  | b :: rest => b :: percentDecode rest

end ServiceClient.Url
