import ServiceClient.Text.Utf8
import ServiceClient.Text.Blank

/-!
# Headers

Header lines in the order in which they were added. Names are kept in lower case.
-/

namespace ServiceClient.Http

/-- Header lines: names in lower case, and values. -/
abbrev Headers := List (String × Bytes)

/-- Whether a character may stand in a header name. -/
def isNameChar (c : Char) : Bool :=
  c.isAlphanum || "!#$%&'*+-.^_|~".toList.contains c || c.toNat = 0x60

/-- The greatest length of a header name. -/
def maxNameLength : Nat := 65535

/-- A legal header name, in lower case. -/
def headerName? (s : String) : Option String :=
  if !s.isEmpty && s.length ≤ maxNameLength && s.toList.all isNameChar then
    some (String.ofList (s.toList.map Char.toLower))
  else none

/-- Whether an octet may stand in a header value. -/
def isValueOctet (b : UInt8) : Bool :=
  b == 0x09 || (0x20 ≤ b && b != 0x7f)

/-- The octets of a legal header value. -/
def headerValue? (s : String) : Option Bytes :=
  let octets := Text.Utf8.encode s
  if octets.all isValueOctet then some octets else none

namespace Headers

/-- The values of a name, in order. -/
def valuesOf (h : Headers) (name : String) : List Bytes :=
  (h.filter (·.1 == name)).map (·.2)

/-- The headers without the lines of a name. -/
def drop (h : Headers) (name : String) : Headers :=
  h.filter (·.1 != name)

/-- The headers with the given values as the only ones of a name. -/
def put (h : Headers) (name : String) (values : List Bytes) : Headers :=
  Headers.drop h name ++ values.map (name, ·)

/-- The headers with a line that is added only if there is none of its name. -/
def putIfMissing (h : Headers) (name : String) (value : Bytes) : Headers :=
  if (valuesOf h name).isEmpty then h ++ [(name, value)] else h

/-- The header lines in the order of their names, lines of one name in their own order. -/
def sorted (h : Headers) : Headers :=
  h.mergeSort fun a b => decide (a.1 ≤ b.1)

end Headers

/-- The text of a value of visible ASCII characters, blanks and tabs. -/
def readable? (value : Bytes) : Option (List Char) :=
  if value.all fun b => b == 0x09 || (0x20 ≤ b && b ≤ 0x7e) then
    some (value.map fun b => Char.ofNat b.toNat)
  else none

/-- A number of at most 64 bits, in digits behind at most one plus sign. -/
def unsigned? (cs : List Char) : Option Nat :=
  let digits := match cs with
    | '+' :: ds => ds
    | ds => ds
  let n := digits.foldl (fun n c => n * 10 + (c.toNat - '0'.toNat)) 0
  if !digits.isEmpty && digits.all Char.isDigit && n < Nat.pow 2 64 then some n else none

end ServiceClient.Http
