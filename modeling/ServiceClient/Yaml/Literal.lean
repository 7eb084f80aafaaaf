import ServiceClient.Yaml.Cursor

/-!
# Block scalars

A block scalar is the text of the lines that are indented below its sign. In a literal one every
line end stays; in a folded one a line end between two lines that begin with a word becomes a blank.
What becomes of the line ends behind the last line is told behind the sign.
-/

namespace ServiceClient.Yaml

/-- What becomes of the line ends behind the last line of a block scalar. -/
inductive Chomping where
  /-- All of them are left out. -/
  | strip
  /-- One of them stays. -/
  | clip
  /-- All of them stay. -/
  | keep
  deriving DecidableEq, Repr

/-- The chomping that a sign tells. -/
def Chomping.ofSign? : Char → Option Chomping
  | '+' => some .keep
  | '-' => some .strip
  | _ => none

/-- The indentation that a digit tells. -/
def indentOfDigit? (c : Char) : Option Nat :=
  if '1' ≤ c && c ≤ '9' then some (c.toNat - '0'.toNat) else none

/-- Reads the chomping and the indentation behind the sign of a block scalar, in either order. -/
def readHeader (c : Cursor) : Chomping × Option Nat × Cursor :=
  match c.head?.bind Chomping.ofSign?, c.head?.bind indentOfDigit? with
  | some chomping, _ =>
    match c.next.head?.bind indentOfDigit? with
    | some n => (chomping, some n, c.next.next)
    | none => (chomping, none, c.next)
  | none, some n =>
    match c.next.head?.bind Chomping.ofSign? with
    | some chomping => (chomping, some n, c.next.next)
    | none => (.clip, some n, c.next)
  | none, none => (.clip, none, c)

/-- Skips gaps and a comment up to the end of the line, which is skipped too. -/
def skipLine? (c : Cursor) : Option Cursor :=
  let c := c.skipWhile isGap
  let c := if c.at? '#' then c.skipWhile fun _ => true else c
  match c.head? with
  | none => some c
  | some x => if isBreak x then some c.next else none

/-- The line ends of lines without a text, the last one first, and the deepest column that was
reached. Blanks count as indentation up to the column `limit`, all of them when there is none; a tab
cannot stand among them. -/
def readBreaks? (limit : Option Nat) (deepest : Nat) (breaks : List Char) (c : Cursor) :
    Option (Nat × List Char × Cursor) :=
  let inside (c : Cursor) := limit.all (c.column < ·)
  let width := (c.run (· == ' ')).length
  let c' := c.skip (match limit with
    | none => width
    | some n => min width (n - c.column))
  match _rest : c'.rest with
  | [] => some (max deepest c'.column, breaks, c')
  | x :: _ =>
    if inside c' && x == '\t' then none
    else if isBreak x then readBreaks? limit (max deepest c'.column) (x :: breaks) c'.next
    else some (max deepest c'.column, breaks, c')
termination_by c.rest.length
decreasing_by exact Nat.lt_of_lt_of_le (Cursor.length_next_lt _rest) (Cursor.length_skip_le _ c)

/-- The text of a block scalar so far. -/
structure BlockText where
  /-- The text, the last character first. -/
  text : List Char := []
  /-- The line end behind the text. -/
  last : List Char := []
  /-- The line ends of the lines without a text behind it, the last one first. -/
  breaks : List Char := []
  /-- Whether the last line begins with a gap. -/
  indented : Bool := false

/-- The text before a line that begins with a character. -/
def BlockText.joined (literal : Bool) (b : BlockText) (x : Char) : List Char :=
  if !literal && b.last == ['\n'] && !b.indented && !isGap x then
    if b.breaks.isEmpty then ' ' :: b.text else b.breaks ++ b.text
  else b.breaks ++ b.last ++ b.text

/-- Reads the lines of a block scalar. -/
def readLines? (literal : Bool) (indent : Nat) (b : BlockText) (c : Cursor) :
    Option (BlockText × Cursor) :=
  match _rest : c.rest with
  | [] => some (b, c)
  | x :: _ =>
    if c.column = indent then
      let line := x :: c.next.run fun _ => true
      let last := (c.next.skipWhile fun _ => true).head?.toList
      match _breaks : readBreaks? (some indent) 0 [] (c.next.skipWhile fun _ => true).next with
      | none => none
      | some (_, breaks, c') =>
        let text := line.reverseAux (b.joined literal x)
        if _shorter : c'.rest.length < c.rest.length then
          readLines? literal indent ⟨text, last, breaks, isGap x⟩ c'
        else none
    else some (b, c)
termination_by c.rest.length

/-- Reads a block scalar behind its sign; `outer` is the indentation of the block around it. -/
def readBlockScalar? (literal : Bool) (outer : Int) (c : Cursor) :
    Option (List Char × Cursor) := do
  let (chomping, step, c) := readHeader c
  let c ← skipLine? c
  let limit := step.map fun n => (max outer 0).toNat + n
  let (deepest, breaks, c) ← readBreaks? limit 0 [] c
  let indent := limit.getD (max deepest (max (outer + 1) 1).toNat)
  let (b, c) ← readLines? literal indent { breaks } c
  let text := match chomping with
    | .strip => b.text
    | .clip => b.last ++ b.text
    | .keep => b.breaks ++ b.last ++ b.text
  return (text.reverse, c)

end ServiceClient.Yaml
