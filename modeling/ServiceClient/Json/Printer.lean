import ServiceClient.Json.Basic
import ServiceClient.Decimal.Shortest
import ServiceClient.Text.CodeSet

/-!
# Compact JSON text

No blanks, fields in the order of their names, floats with the fewest digits that read back.
-/

namespace ServiceClient.Json

/-- A character inside a string. -/
def escapedChar (c : Char) : List Char :=
  if c = '"' then ['\\', '"']
  else if c = '\\' then ['\\', '\\']
  else if c = '\n' then ['\\', 'n']
  else if c = '\r' then ['\\', 'r']
  else if c = '\t' then ['\\', 't']
  else if c.toNat = 0x08 then ['\\', 'b']
  else if c.toNat = 0x0c then ['\\', 'f']
  else if c.toNat < 0x20 then
    ['\\', 'u', '0', '0', Text.hexChar (c.toNat / 16), Text.hexChar (c.toNat % 16)]
  else [c]

/-- A string between its quotes. -/
def stringText (s : String) : List Char :=
  ['"'] ++ s.toList.flatMap escapedChar ++ ['"']

/-- A decimal, positional when its first digit stands for at least `10 ^ -5` and less than
`10 ^ 16`, with one digit before the point and an exponent otherwise. -/
def decimalText (d : Decimal.Scaled) : List Char :=
  let digits := Nat.toDigits 10 d.digits
  let point := d.exponent + digits.length
  if 0 ≤ d.exponent && point ≤ 16 then
    digits ++ List.replicate d.exponent.toNat '0' ++ ['.', '0']
  else if 0 < point && point ≤ 16 then
    digits.take point.toNat ++ ['.'] ++ digits.drop point.toNat
  else if -5 < point && point ≤ 0 then
    ['0', '.'] ++ List.replicate (-point).toNat '0' ++ digits
  else
    let fraction := if digits.length = 1 then [] else '.' :: digits.drop 1
    let exponent := point - 1
    digits.take 1 ++ fraction ++ ['e', if exponent < 0 then '-' else '+'] ++
      Nat.toDigits 10 exponent.natAbs

/-- A float; a value that is not finite has no number and is written as null. -/
def floatText (x : Float) : List Char :=
  let sign := if x.toBits.toNat < Nat.pow 2 63 then [] else ['-']
  if x.isNaN || x.isInf then ['n', 'u', 'l', 'l']
  else if x == 0.0 then sign ++ ['0', '.', '0']
  else sign ++ decimalText (Decimal.shortest x)

/-- An integer. -/
def intText (n : Int) : List Char :=
  (if n < 0 then ['-'] else []) ++ Nat.toDigits 10 n.natAbs

mutual

/-- The characters of a value, in front of what follows. -/
def write : Json → List Char → List Char
  | .null, k => ['n', 'u', 'l', 'l'] ++ k
  | .bool true, k => ['t', 'r', 'u', 'e'] ++ k
  | .bool false, k => ['f', 'a', 'l', 's', 'e'] ++ k
  | .int n, k => intText n ++ k
  | .float x, k => floatText x ++ k
  | .string s, k => stringText s ++ k
  | .array [], k => '[' :: ']' :: k
  | .array (v :: vs), k => '[' :: write v (writeItems vs k)
  | .object [], k => '\x7b' :: '\x7d' :: k
  | .object ((n, v) :: fs), k => '\x7b' :: (stringText n ++ ':' :: write v (writeFields fs k))

/-- The further items of an array and its end. -/
def writeItems : List Json → List Char → List Char
  | [], k => ']' :: k
  | v :: vs, k => ',' :: write v (writeItems vs k)

/-- The further fields of an object and its end. -/
def writeFields : List (String × Json) → List Char → List Char
  | [], k => '\x7d' :: k
  | (n, v) :: fs, k => ',' :: (stringText n ++ ':' :: write v (writeFields fs k))

end

/-- The compact text of a value. -/
def text (v : Json) : String :=
  String.ofList (write v [])

end ServiceClient.Json
