import ServiceClient.Url.Domain.Classes
import ServiceClient.Url.Domain.Composition
import ServiceClient.Url.Domain.Mapping
import ServiceClient.Url.Domain.Punycode

/-!
# Domain names

A domain name is mapped, composed and cut into labels; each label is checked, and labels with
characters beyond ASCII are written in Punycode.
-/

namespace ServiceClient.Url.Domain

open Text

/-- Whether a character lies beyond ASCII. -/
def isForeign (c : Char) : Bool :=
  0x80 ≤ c.toNat

/-- Whether a joiner is in place: behind a virama, or, for the non-joiner, between letters that
would join. `before` is read backwards. -/
def joinerFits (nonJoiner : Bool) (before after : List Char) : Bool :=
  (before.head?.any viramas.contains) ||
    (nonJoiner &&
      ((before.dropWhile joinsThrough.contains).head?.any fun c =>
        joinsLeft.contains c || joinsBoth.contains c) &&
      ((after.dropWhile joinsThrough.contains).head?.any fun c =>
        joinsRight.contains c || joinsBoth.contains c))

/-- Whether every joiner of a label is in place. -/
def joinersFit (before : List Char) : List Char → Bool
  | [] => true
  | c :: cs =>
    (if c.toNat = 0x200c then joinerFits true before cs
      else if c.toNat = 0x200d then joinerFits false before cs
      else true) && joinersFit (c :: before) cs

/-- Whether a label with characters beyond ASCII is well formed. -/
def isWellFormed (label : List Char) : Bool :=
  !(label.head?.any marks.contains) && joinersFit [] label

/-- Whether a character makes its name one of mixed directions. -/
def turnsDirection (c : Char) : Bool :=
  isForeign c && (rightToLeft.contains c || arabicNumbers.contains c)

/-- Whether a character is written from left to right. -/
def isLeftToRight (c : Char) : Bool :=
  !(rightToLeft.contains c || arabicNumbers.contains c || europeanNumbers.contains c ||
    nonSpacing.contains c || neutral.contains c)

/-- The rule for labels of a name of mixed directions. -/
def directionFits (label : List Char) : Bool :=
  match label with
  | [] => true
  | c :: _ =>
    let last? := (label.reverse.dropWhile nonSpacing.contains).head?
    if rightToLeft.contains c then
      label.all (fun c => !isLeftToRight c) &&
        last?.any (fun c => rightToLeft.contains c || europeanNumbers.contains c ||
          arabicNumbers.contains c) &&
        !(label.any europeanNumbers.contains && label.any arabicNumbers.contains)
    else if isLeftToRight c then
      label.all (fun c => !(rightToLeft.contains c || arabicNumbers.contains c)) &&
        last?.any (fun c => isLeftToRight c || europeanNumbers.contains c)
    else false

/-- The characters that no host may hold. -/
def isForbidden (c : Char) : Bool :=
  c.toNat ≤ 0x20 || c.toNat = 0x7f || "%#/:<>?@[\\]^|".toList.contains c

/-- Whether a label is marked as one in Punycode. -/
def isMarked (label : List Char) : Bool :=
  "xn--".toList.isPrefixOf label

/-- The longest text behind the mark of a label. -/
def maxMarked : Nat := 2000

/-- The longest label that is written in Punycode. -/
def maxForeign : Nat := 1000

/-- The label that a label of the mapped name stands for: itself, unless it is a marked one. -/
def readLabel? (label : List Char) : Option (List Char) :=
  if isMarked label then
    let code := label.drop 4
    match if maxMarked < code.length then none else Punycode.decode? code with
    | none => none
    | some plain =>
      if plain.any isForeign && plain.all isSettled && composed plain = plain then some plain
      else none
  else some label

/-- The written form of a label of the mapped name. A marked label already has it; `none` stands for
a label that is too long for one. -/
def writeLabel? (label : List Char) : Option (List Char) :=
  if label.any isForeign then
    if maxForeign < label.length then none else some ("xn--".toList ++ Punycode.encode label)
  else some label

/-- A lower case ASCII letter for an upper case one. -/
def lower (c : Char) : Char :=
  if 'A' ≤ c && c ≤ 'Z' then Char.ofNat (c.toNat + 32) else c

/-- The name after mapping and composition. -/
def mapped? (name : List Char) : Option (List Char) :=
  if name.any isForeign then (name.mapM mapChar?).map fun parts => composed parts.flatten
  else some (name.map lower)

/-- The ASCII form of a domain name, `none` when it has none. Control characters and blanks spoil a
name at once, since they stay as they are. -/
def toAscii? (name : List Char) : Option (List Char) := do
  if name.any (·.toNat ≤ 0x20) then none
  let mapped ← mapped? name
  if mapped.any isForbidden then none
  let written := pieces '.' mapped
  let labels ← written.mapM readLabel?
  if labels.any (fun l => l.any isForeign && !isWellFormed l) then none
  if labels.any (·.any turnsDirection) && !labels.all directionFits then none
  return ['.'].intercalate (← written.mapM writeLabel?)

end ServiceClient.Url.Domain
