/-!
# Blank characters and trimming

The characters with the property White_Space, and the texts that are left when such characters, or
any others, are taken off the ends.
-/

namespace ServiceClient.Text

/-- The characters with the property White_Space. -/
def isBlank (c : Char) : Bool :=
  let n := c.toNat
  (0x09 ≤ n && n ≤ 0x0d) || n == 0x20 || n == 0x85 || n == 0xa0 || n == 0x1680 ||
    (0x2000 ≤ n && n ≤ 0x200a) || n == 0x2028 || n == 0x2029 || n == 0x202f || n == 0x205f ||
    n == 0x3000

/-- Drops characters from the end for as long as they satisfy `p`. -/
def dropEnd (p : Char → Bool) (cs : List Char) : List Char :=
  (cs.reverse.dropWhile p).reverse

/-- Drops characters from both ends for as long as they satisfy `p`. -/
def dropBoth (p : Char → Bool) (cs : List Char) : List Char :=
  dropEnd p (cs.dropWhile p)

/-- A text without the blanks around it. -/
def trim (s : String) : String :=
  String.ofList (dropBoth isBlank s.toList)

/-- A text is blank when nothing but white space is in it. -/
def allBlank (s : String) : Bool :=
  s.toList.all isBlank

/-- A text that is not blank, trimmed. -/
def nonBlank? (s : String) : Option String :=
  if allBlank s then none else some (trim s)

/-- A text without the slashes at its end. -/
def dropEndSlashes (s : String) : String :=
  String.ofList (dropEnd (· == '/') s.toList)

/-- Whether `part` occurs in `cs` as a run of neighbouring characters. -/
def containsRun (part : List Char) : List Char → Bool
  | [] => part.isEmpty
  | c :: cs => part.isPrefixOf (c :: cs) || containsRun part cs

/-- Whether a text begins with another one. -/
def beginsWith (s part : String) : Bool :=
  part.toList.isPrefixOf s.toList

end ServiceClient.Text
