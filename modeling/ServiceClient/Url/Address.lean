import ServiceClient.Text.CodeSet

/-!
# Internet addresses as hosts

Four-part addresses, whose parts may be decimal, octal or hexadecimal and whose last part may stand
for several, and eight-part addresses with at most one gap.
-/

namespace ServiceClient.Url

open Text

/-- Whether a character is a decimal digit. -/
def isDigit (c : Char) : Bool :=
  '0' ≤ c && c ≤ '9'

/-- The number that a run of digits denotes in a base. -/
def numberIn (base : Nat) (cs : List Char) : Nat :=
  cs.foldl (fun n c => n * base + (hexDigit? c).getD 0) 0

/-- Whether every character is a digit of a base. -/
def areDigits (base : Nat) (cs : List Char) : Bool :=
  cs.all fun c => (hexDigit? c).any (· < base)

/-- Reads a number in a base given by its first characters. -/
def ipv4Number? (cs : List Char) : Option Nat :=
  match cs with
  | [] => none
  | '0' :: 'x' :: ds => if areDigits 16 ds then some (numberIn 16 ds) else none
  | '0' :: 'X' :: ds => if areDigits 16 ds then some (numberIn 16 ds) else none
  | '0' :: d :: ds => if areDigits 8 (d :: ds) then some (numberIn 8 (d :: ds)) else none
  | ds => if areDigits 10 ds then some (numberIn 10 ds) else none

/-- The parts of a host between its dots, without an empty part at the end. -/
def hostParts (cs : List Char) : List (List Char) :=
  let parts := pieces '.' cs
  if parts.getLast? = some [] then parts.dropLast else parts

/-- Whether a host ends in a number, so that it has to be an address. -/
def endsInNumber (cs : List Char) : Bool :=
  match (hostParts cs).getLast? with
  | none => false
  | some part => (!part.isEmpty && part.all isDigit) || (ipv4Number? part).isSome

/-- Reads an address of up to four parts as one number. -/
def ipv4? (cs : List Char) : Option Nat := do
  let parts := hostParts cs
  if 4 < parts.length then none
  let numbers ← parts.mapM ipv4Number?
  let last ← numbers.getLast?
  let lead := numbers.dropLast
  if lead.any (255 < ·) || Nat.pow 256 (4 - lead.length) ≤ last then none
  return lead.foldr (fun n rest => rest / 256 + n * 16777216) 0 + last

/-- The text of a four-part address. -/
def ipv4Text (n : Nat) : List Char :=
  ['.'].intercalate ([n / 16777216, n / 65536 % 256, n / 256 % 256, n % 256].map (Nat.toDigits 10))

/-- Reads the decimal parts at the end of an eight-part address as two of its parts. -/
def ipv4Tail? (cs : List Char) : Option (List Nat) := do
  let parts := pieces '.' cs
  let fits (p : List Char) :=
    !p.isEmpty && p.all isDigit && (p.length = 1 || p.head? ≠ some '0') && p.length ≤ 3 &&
      numberIn 10 p ≤ 255
  if parts.length ≠ 4 || !parts.all fits then none
  match parts.map (numberIn 10) with
  | [a, b, c, d] => return [a * 256 + b, c * 256 + d]
  | _ => none

/-- The parts of an eight-part address, with the place of its gap. -/
structure Ipv6Parts where
  parts : List Nat
  gap : Option Nat

/-- Reads the parts of an eight-part address behind `seen`. -/
def ipv6Parts? : Nat → Ipv6Parts → List Char → Option Ipv6Parts
  | 0, _, _ => none
  | _ + 1, seen, [] => some seen
  | fuel + 1, seen, c :: cs =>
    if 8 ≤ seen.parts.length then none
    else if c = ':' then
      if seen.gap.isSome then none
      else ipv6Parts? fuel ⟨seen.parts ++ [0], some (seen.parts.length + 1)⟩ cs
    else
      let digits := ((c :: cs).take 4).takeWhile fun c => (hexDigit? c).isSome
      let next : Ipv6Parts := ⟨seen.parts ++ [numberIn 16 digits], seen.gap⟩
      match (c :: cs).drop digits.length with
      | [] => some next
      | ':' :: rest => if rest.isEmpty then none else ipv6Parts? fuel next rest
      | '.' :: _ =>
        if digits.isEmpty || 6 < seen.parts.length then none
        else (ipv4Tail? (c :: cs)).map fun tail => ⟨seen.parts ++ tail, seen.gap⟩
      | _ => none

/-- Reads an eight-part address. -/
def ipv6? (cs : List Char) : Option (List Nat) := do
  let seen ← match cs with
    | ':' :: ':' :: rest => ipv6Parts? (rest.length + 1) ⟨[0], some 1⟩ rest
    | ':' :: _ => none
    | _ => ipv6Parts? (cs.length + 1) ⟨[], none⟩ cs
  match seen.gap with
  | none => if seen.parts.length = 8 then some seen.parts else none
  | some gap =>
    return seen.parts.take gap ++ List.replicate (8 - seen.parts.length) 0 ++ seen.parts.drop gap

/-- The length of the run of zeros at the front. -/
def zeroRun (parts : List Nat) : Nat :=
  (parts.takeWhile (· = 0)).length

/-- The first longest run of at least two zeros: its place and its length. -/
def longestZeroRun? (parts : List Nat) : Option (Nat × Nat) :=
  (List.range parts.length).foldl (fun best i =>
    let n := zeroRun (parts.drop i)
    if n < 2 then best
    else match best with
      | none => some (i, n)
      | some (_, m) => if m < n then some (i, n) else best) none

/-- The text of an eight-part address, its longest run of zeros left out. -/
def ipv6Text (parts : List Nat) : List Char :=
  let join (ps : List Nat) := [':'].intercalate (ps.map (Nat.toDigits 16))
  match longestZeroRun? parts with
  | none => join parts
  | some (i, n) => join (parts.take i) ++ [':', ':'] ++ join (parts.drop (i + n))

end ServiceClient.Url
