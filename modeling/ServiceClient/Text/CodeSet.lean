/-!
# Sets of code points

A set of code points is a sorted run of intervals. Tables of character properties are written as
texts: hexadecimal numbers, `-` inside an interval, blanks or line ends between intervals.
-/

namespace ServiceClient.Text

/-- The value of a hexadecimal digit. -/
def hexDigit? (c : Char) : Option Nat :=
  if '0' ≤ c && c ≤ '9' then some (c.toNat - '0'.toNat)
  else if 'a' ≤ c && c ≤ 'f' then some (c.toNat - 'a'.toNat + 10)
  else if 'A' ≤ c && c ≤ 'F' then some (c.toNat - 'A'.toNat + 10)
  else none

/-- The number that a run of hexadecimal digits denotes. -/
def hexValue (cs : List Char) : Nat :=
  cs.foldl (fun n c => n * 16 + (hexDigit? c).getD 0) 0

/-- The digit of a value below sixteen, in lower case. -/
def hexChar (n : Nat) : Char :=
  Char.ofNat (if n < 10 then '0'.toNat + n else 'a'.toNat + (n - 10))

/-- The two lower case digits of an octet. -/
def hexByte (b : UInt8) : List Char :=
  [hexChar (b.toNat / 16), hexChar (b.toNat % 16)]

/-- The pieces of a text between occurrences of a separator. -/
def pieces (sep : Char) : List Char → List (List Char)
  | [] => [[]]
  | c :: cs =>
    if c = sep then [] :: pieces sep cs
    else match pieces sep cs with
      | [] => [[c]]
      | p :: ps => (c :: p) :: ps

/-- The words of a text between blanks and line ends. -/
def words (s : String) : List (List Char) :=
  (pieces ' ' (s.toList.map fun c => if c = '\n' then ' ' else c)).filter (!·.isEmpty)

/-- A set of code points as sorted closed intervals. -/
structure CodeSet where
  /-- The intervals, in rising order. -/
  intervals : Array (Nat × Nat)

namespace CodeSet

/-- Reads one interval, `a-b` or a single number. -/
def readInterval (cs : List Char) : Nat × Nat :=
  match pieces '-' cs with
  | [a] => (hexValue a, hexValue a)
  | a :: b :: _ => (hexValue a, hexValue b)
  | [] => (0, 0)

/-- Reads a set from its written form. -/
def ofText (s : String) : CodeSet :=
  ⟨((words s).map readInterval).toArray⟩

/-- The position of the interval between `lo` and `hi` that holds `n`. -/
def locate? (t : CodeSet) (n lo hi : Nat) : Option Nat :=
  if hi ≤ lo then none
  else
    let mid := lo + (hi - lo) / 2
    match t.intervals[mid]? with
    | none => none
    | some (a, b) =>
      if n < a then locate? t n lo mid
      else if b < n then locate? t n (mid + 1) hi
      else some mid
termination_by hi - lo

/-- Whether a character is in the set. -/
def contains (t : CodeSet) (c : Char) : Bool :=
  (t.locate? c.toNat 0 t.intervals.size).isSome

end CodeSet
end ServiceClient.Text
