import ServiceClient.Text.CodeSet
import ServiceClient.Text.Utf8
import ServiceClient.Yaml.Literal
import ServiceClient.Yaml.Token

/-!
# Anchors, tags and directives

An anchor gives a node a name, an alias takes a named node again, and a tag tells the type of a
node. The directives in front of a document tell its version and the handles of its tags.
-/

namespace ServiceClient.Yaml

/-- Whether the name of an anchor may end here. -/
def endsAnchor (c : Cursor) : Bool :=
  c.endsWord 0 || c.head?.any fun x => "?:,]%@".toList.contains x || x == '\x7d' || x.toNat == 0x60

/-- Reads the name of an anchor or of an alias behind its sign. -/
def readAnchor? (c : Cursor) : Option (List Char × Cursor) :=
  let name := c.run isNameChar
  let c := c.skipWhile isNameChar
  if name.isEmpty || !endsAnchor c then none else some (name, c)

/-- Whether a character may stand in a tag; in angle brackets and in directives there are more. -/
def isTagChar (more : Bool) (c : Char) : Bool :=
  isNameChar c || ";/?:@&=+$.!~*'()".toList.contains c || (more && ",[]".toList.contains c)

/-- The number of octets of a character, given the first one. -/
def octetCount? (b : UInt8) : Option Nat :=
  if b < 0x80 then some 1
  else if 0xc0 ≤ b && b < 0xe0 then some 2
  else if 0xe0 ≤ b && b < 0xf0 then some 3
  else if 0xf0 ≤ b && b < 0xf8 then some 4
  else none

/-- Reads an octet that is written as a percent sign and two digits. -/
def tagOctet? : List Char → Option UInt8
  | '%' :: a :: b :: _ => do
    let high ← Text.hexDigit? a
    let low ← Text.hexDigit? b
    return UInt8.ofNat (high * 16 + low)
  | _ => none

/-- Reads `n` octets that are written so. -/
def tagOctets? : Nat → List Char → Option (List UInt8)
  | 0, _ => some []
  | n + 1, cs => do
    let b ← tagOctet? cs
    let bs ← tagOctets? n (cs.drop 3)
    return b :: bs

/-- Reads a character that is written octet by octet: the character and its length. -/
def tagEscape? (cs : List Char) : Option (Char × Nat) := do
  let count ← octetCount? (← tagOctet? cs)
  match Text.Utf8.decode? (← tagOctets? count cs) with
  | some [c] => some (c, 3 * count)
  | _ => none

/-- Reads the characters of a tag. `text` holds what was read, the last character first. -/
def readTagText? (more : Bool) (text : List Char) (c : Cursor) : Option (List Char × Cursor) :=
  match _rest : c.rest with
  | [] => some (text.reverse, c)
  | x :: xs =>
    if x == '%' then
      match tagEscape? (x :: xs) with
      | none => none
      | some (e, n) => readTagText? more (e :: text) (c.next.skip (n - 1))
    else if isTagChar more x then readTagText? more (x :: text) c.next
    else some (text.reverse, c)
termination_by c.rest.length
decreasing_by
  · exact Nat.lt_of_le_of_lt (Cursor.length_skip_le _ _) (Cursor.length_next_lt _rest)
  · exact Cursor.length_next_lt _rest

/-- Reads the characters of a tag, of which there has to be one. -/
def readTagText1? (more : Bool) (c : Cursor) : Option (List Char × Cursor) := do
  let (text, c) ← readTagText? more [] c
  if text.isEmpty then none else some (text, c)

/-- A handle at the front of a tag: a name between exclamation marks, or a single one. Without a
second mark there is the beginning of a tag. -/
def readHandle? (c : Cursor) : Option (List Char × Cursor) :=
  if c.at? '!' then
    let name := c.next.run isNameChar
    let c := c.next.skipWhile isNameChar
    if c.at? '!' then some ('!' :: name ++ ['!'], c.next) else some ('!' :: name, c)
  else none

/-- Whether a text is a handle between two marks. -/
def isClosedHandle (handle : List Char) : Bool :=
  1 < handle.length && handle.getLast? == some '!'

/-- Reads a tag without what may follow it. -/
def readTagBody? (c : Cursor) : Option (Token × Cursor) := do
  if c.next.at? '<' then
    let (text, c) ← readTagText1? true c.next.next
    if c.at? '>' then return (.tag [] text, c.next) else none
  let (handle, c) ← readHandle? c
  if isClosedHandle handle then
    let (suffix, c) ← readTagText1? false c
    return (.tag handle suffix, c)
  let (text, c) ← readTagText? false [] c
  let suffix := handle.drop 1 ++ text
  return (if suffix.isEmpty then .tag [] ['!'] else .tag ['!'] suffix, c)

/-- Reads a tag. -/
def readTag? (inFlow : Bool) (c : Cursor) : Option (Token × Cursor) := do
  let (tag, c) ← readTagBody? c
  if c.endsWord 0 || (inFlow && c.at? ',') then some (tag, c) else none

/-- Reads a number of at most nine digits. -/
def readVersionNumber? (c : Cursor) : Option (Nat × Cursor) :=
  let digits := c.run Char.isDigit
  if digits.isEmpty || 9 < digits.length then none
  else some (digits.foldl (fun n d => n * 10 + (d.toNat - '0'.toNat)) 0, c.skipWhile Char.isDigit)

/-- Reads a version behind the name of its directive. -/
def readVersion? (c : Cursor) : Option (Token × Cursor) := do
  let (major, c) ← readVersionNumber? (c.skipWhile isGap)
  if !c.at? '.' then none
  let (minor, c) ← readVersionNumber? c.next
  return (.version major minor, c)

/-- Reads a handle and what it stands for behind the name of its directive. -/
def readHandleDirective? (c : Cursor) : Option (Token × Cursor) := do
  let (handle, c) ← readHandle? (c.skipWhile isGap)
  if !(handle == ['!'] || isClosedHandle handle) then none
  if !(c.head?.any isGap) then none
  let (text, c) ← readTagText1? true (c.skipWhile isGap)
  if c.endsWord 0 then some (.handle handle text, c) else none

/-- Reads a directive behind its percent sign, up to the end of its line. -/
def readDirective? (c : Cursor) : Option (Token × Cursor) := do
  let name := c.run isNameChar
  let c := c.skipWhile isNameChar
  if name.isEmpty || !c.endsWord 0 then none
  let (token, c) ←
    if name == "YAML".toList then readVersion? c
    else if name == "TAG".toList then readHandleDirective? c
    else none
  let c ← skipLine? c
  return (token, c)

end ServiceClient.Yaml
