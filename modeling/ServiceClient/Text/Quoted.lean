import ServiceClient.Text.Printable
import ServiceClient.Text.Utf8

/-!
# Quoted text

The diagnostic forms of a text and of a header value: between quotes, with escapes for what does not
show.
-/

namespace ServiceClient.Text

/-- The lower case hexadecimal digits of a number, without leading zeros. -/
def hexDigits (n : Nat) : List Char :=
  (Nat.toDigits 16 n)

/-- A character inside a quoted text. -/
def quotedChar (c : Char) : List Char :=
  if c = '"' then ['\\', '"']
  else if c = '\\' then ['\\', '\\']
  else if c = '\n' then ['\\', 'n']
  else if c = '\r' then ['\\', 'r']
  else if c = '\t' then ['\\', 't']
  else if c.toNat = 0 then ['\\', '0']
  else if isPrintable c then [c]
  else ['\\', 'u', '\x7b'] ++ hexDigits c.toNat ++ ['\x7d']

/-- The diagnostic form of a text. -/
def quoted (s : String) : String :=
  String.ofList (['"'] ++ s.toList.flatMap quotedChar ++ ['"'])

/-- The diagnostic form of a text that may be missing. -/
def quoted? : Option String → String
  | none => "None"
  | some s => "Some(" ++ quoted s ++ ")"

/-- The diagnostic form of a list of texts. -/
def quotedList (ss : List String) : String :=
  "[" ++ ", ".intercalate (ss.map quoted) ++ "]"

/-- The word for a truth value. -/
def truthWord (b : Bool) : String := if b then "true" else "false"

/-- An octet inside a quoted header value: the tab and visible ASCII show as they are. -/
def quotedByte (b : UInt8) : List Char :=
  if b == 0x22 then ['\\', '"']
  else if b == 0x09 || (0x20 ≤ b && b < 0x7f) then [Char.ofNat b.toNat]
  else ['\\', 'x'] ++ hexDigits b.toNat

/-- The diagnostic form of a header value. -/
def quotedBytes (bs : Bytes) : String :=
  String.ofList (['"'] ++ bs.flatMap quotedByte ++ ['"'])

end ServiceClient.Text
