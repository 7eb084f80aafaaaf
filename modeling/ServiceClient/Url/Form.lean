import ServiceClient.Url.Basic

/-!
# Form encoding of queries

A query is a run of pairs `name=value` between ampersands; a blank is written as a plus sign, and
every octet but letters, digits and `*`, `-`, `.`, `_` is percent-encoded.
-/

namespace ServiceClient.Url.Form

/-- A name and a value. -/
abbrev Pair := String × String

/-- Whether an octet is written as it is. -/
def isPlain (b : UInt8) : Bool :=
  (0x30 ≤ b && b ≤ 0x39) || (0x41 ≤ b && b ≤ 0x5a) || (0x61 ≤ b && b ≤ 0x7a) ||
    b == 0x2a || b == 0x2d || b == 0x2e || b == 0x5f

/-- The written form of an octet. -/
def encodeOctet (b : UInt8) : List Char :=
  if b == 0x20 then ['+']
  else if isPlain b then [Char.ofNat b.toNat]
  else escapedOctet b

/-- The written form of a name or a value. -/
def encodeText (s : String) : List Char :=
  (Text.Utf8.encode s).flatMap encodeOctet

/-- The written form of a pair. -/
def encodePair (p : Pair) : List Char :=
  encodeText p.1 ++ '=' :: encodeText p.2

/-- The written form of a run of pairs. -/
def encode (pairs : List Pair) : List Char :=
  ['&'].intercalate (pairs.map encodePair)

/-- The text that a name or a value stands for. -/
def decodeText (cs : List Char) : String :=
  let octets := cs.flatMap fun c => if c = '+' then [0x20] else String.utf8EncodeChar c
  String.ofList (Text.Utf8.decodeLossy (percentDecode octets))

/-- The pair that a piece between ampersands stands for. -/
def decodePair (cs : List Char) : Pair :=
  (decodeText (cs.takeWhile (· ≠ '=')), decodeText ((cs.dropWhile (· ≠ '=')).drop 1))

/-- The pairs of a query. -/
def decode (cs : List Char) : List Pair :=
  ((Text.pieces '&' cs).filter (!·.isEmpty)).map decodePair

end Form

/-- The URL with pairs at the end of its query; without pairs it stays as it is. -/
def appendPairs (u : Url) (pairs : List Form.Pair) : Url :=
  if pairs.isEmpty then u
  else
    let query := match u.query with
      | none => Form.encode pairs
      | some [] => Form.encode pairs
      | some q => q ++ '&' :: Form.encode pairs
    { u with query := some query }

end ServiceClient.Url
