import ServiceClient.Yaml.Plain
import ServiceClient.Yaml.Quoted
import ServiceClient.Yaml.Tag

/-!
# Layout

The tokens of a text. Blocks begin and end by indentation. Whether a node is a key is known only at
the colon behind it; the tokens that a key needs in front are put in then.
-/

namespace ServiceClient.Yaml

/-- A node that may turn out to be a key. -/
structure KeyPlace where
  /-- The number of tokens in front of it. -/
  position : Nat
  line : Nat
  column : Nat
  /-- Whether nothing but a key can stand there. -/
  required : Bool
  deriving DecidableEq, Repr

/-- The state of reading. -/
structure Layout where
  cursor : Cursor
  tokens : Array Token := #[]
  /-- The column of the innermost block, `-1` outside of all. -/
  indent : Int := -1
  /-- The columns of the blocks around it, the innermost first. -/
  outer : List Int := []
  /-- The possible keys of the flow collections around, the innermost first, and of the block. -/
  keys : List (Option KeyPlace) := [none]
  /-- Whether a key may begin here. -/
  keyAllowed : Bool := true

namespace Layout

/-- The number of flow collections around. -/
def depth (l : Layout) : Nat := l.keys.length - 1

/-- Whether there is a flow collection around. -/
def inFlow (l : Layout) : Bool := l.depth != 0

/-- A layout with one more token. -/
def push (t : Token) (l : Layout) : Layout := { l with tokens := l.tokens.push t }

/-- A layout with a token put in behind a number of tokens. -/
def insert (position : Nat) (t : Token) (l : Layout) : Layout :=
  { l with tokens := l.tokens.extract 0 position ++ #[t] ++
      l.tokens.extract position l.tokens.size }

/-- A layout at another place. -/
def moveTo (c : Cursor) (l : Layout) : Layout := { l with cursor := c }

/-- A layout that tells whether a key may begin here. -/
def allowKey (allowed : Bool) (l : Layout) : Layout := { l with keyAllowed := allowed }

/-- Skips gaps, comments and line ends. Behind a line end in a block a key may begin; where one may
begin, a tab is no gap. -/
def skipSpace (keyAllowed inFlow : Bool) (c : Cursor) : Bool × Cursor :=
  let start := if c.column == 0 && c.at? byteOrderMark then c.next else c
  let gap := start.skipWhile fun x => x == ' ' || ((inFlow || !keyAllowed) && x == '\t')
  let stop := if gap.at? '#' then gap.skipWhile fun _ => true else gap
  match _rest : stop.rest with
  | [] => (keyAllowed, stop)
  | x :: _ => if isBreak x then skipSpace (keyAllowed || !inFlow) inFlow stop.next
    else (keyAllowed, stop)
termination_by c.rest.length
decreasing_by
  have h₁ : start.rest.length ≤ c.rest.length := by
    unfold start; split
    · exact Cursor.length_next_le c
    · exact Nat.le_refl _
  have h₂ : gap.rest.length ≤ start.rest.length := Cursor.length_skipWhile_le _ _
  have h₃ : stop.rest.length ≤ gap.rest.length := by
    unfold stop; split
    · exact Cursor.length_skipWhile_le _ _
    · exact Nat.le_refl _
  exact Nat.lt_of_lt_of_le (Cursor.length_next_lt _rest) (Nat.le_trans h₃ (Nat.le_trans h₂ h₁))

/-- Whether a place is too far away for a node to be a key: in another line, or behind more than
1024 characters. -/
def isStale (c : Cursor) (k : KeyPlace) : Bool := k.line < c.line || k.column + 1024 < c.column

/-- Gives up the possible keys that are too far away; none of them may be a required one. -/
def dropStale? (l : Layout) : Option Layout :=
  let stale (key : Option KeyPlace) := key.any (isStale l.cursor)
  if l.keys.any fun key => stale key && key.any (·.required) then none
  else some { l with keys := l.keys.map fun key => if stale key then none else key }

/-- The possible key of the innermost collection. -/
def key? (l : Layout) : Option KeyPlace := l.keys.head?.join

/-- Gives up the possible key of the innermost collection. -/
def dropKey? (l : Layout) : Option Layout :=
  if l.key?.any (·.required) then none else some { l with keys := none :: l.keys.drop 1 }

/-- Takes note that a node begins here that may turn out to be a key. -/
def saveKey? (l : Layout) : Option Layout :=
  if l.keyAllowed then do
    let l ← l.dropKey?
    let place : KeyPlace :=
      { position := l.tokens.size, line := l.cursor.line, column := l.cursor.column,
        required := !l.inFlow && l.indent == l.cursor.column }
    return { l with keys := some place :: l.keys.drop 1 }
  else some l

/-- Begins a block at a column if it lies deeper than the innermost one; its token is put in behind
`position` tokens. -/
def openBlock (column position : Nat) (t : Token) (l : Layout) : Layout :=
  if !l.inFlow && l.indent < column then
    { l.insert position t with indent := column, outer := l.indent :: l.outer }
  else l

/-- Ends the blocks, innermost first, down to one that is not deeper than a column. -/
def closeBlocksFrom (column : Int) (l : Layout) : List Int → Layout
  | [] => l
  | i :: outer =>
    if column < l.indent then
      closeBlocksFrom column { l.push .blockEnd with indent := i, outer } outer
    else l

/-- Ends the blocks that lie deeper than a column. -/
def closeBlocks (column : Int) (l : Layout) : Layout :=
  if l.inFlow then l else closeBlocksFrom column l l.outer

/-- Begins a flow collection. -/
def openFlow? (t : Token) (l : Layout) : Option Layout := do
  let l ← l.saveKey?
  return ({ l with keys := none :: l.keys }.allowKey true).push t |>.moveTo l.cursor.next

/-- Ends a flow collection. -/
def closeFlow? (t : Token) (l : Layout) : Option Layout := do
  let l ← l.dropKey?
  let keys := if l.inFlow then l.keys.drop 1 else l.keys
  return ({ l with keys }.allowKey false).push t |>.moveTo l.cursor.next

/-- Begins the next item of a flow collection. -/
def flowEntry? (l : Layout) : Option Layout := do
  let l ← l.dropKey?
  return (l.allowKey true).push .flowEntry |>.moveTo l.cursor.next

/-- Begins an item of a list in a block. -/
def blockEntry? (l : Layout) : Option Layout := do
  if !l.inFlow && !l.keyAllowed then none
  let l ← (l.openBlock l.cursor.column l.tokens.size .blockListStart).dropKey?
  return (l.allowKey true).push .blockEntry |>.moveTo l.cursor.next

/-- Begins a key that is told by its sign. -/
def keySign? (l : Layout) : Option Layout := do
  if !l.inFlow && !l.keyAllowed then none
  let l ← (l.openBlock l.cursor.column l.tokens.size .blockTableStart).dropKey?
  return (l.allowKey (!l.inFlow)).push .key |>.moveTo l.cursor.next

/-- Begins a value. What stands in front of it is its key. -/
def value? (l : Layout) : Option Layout :=
  match l.key? with
  | some k =>
    let l := (l.insert k.position .key).openBlock k.column k.position .blockTableStart
    some <| ({ l with keys := none :: l.keys.drop 1 }.allowKey false).push .value
      |>.moveTo l.cursor.next
  | none =>
    if !l.inFlow && !l.keyAllowed then none
    else
      let l := l.openBlock l.cursor.column l.tokens.size .blockTableStart
      some ((l.allowKey (!l.inFlow)).push .value |>.moveTo l.cursor.next)

/-- Adds a token that may be a key or stand in front of one. -/
def node? (read : Cursor → Option (Token × Cursor)) (l : Layout) : Option Layout := do
  let l ← l.saveKey?
  let (t, c) ← read l.cursor
  return (l.allowKey false).push t |>.moveTo c

/-- Adds a plain scalar. -/
def plain? (l : Layout) : Option Layout := do
  let l ← l.saveKey?
  let p ← readPlain? l.inFlow (l.indent + 1).toNat [] {} l.cursor
  return (l.allowKey p.broken).push (.scalar true p.text) |>.moveTo p.cursor

/-- Adds a block scalar. -/
def blockScalar? (literal : Bool) (l : Layout) : Option Layout := do
  let l ← l.dropKey?
  let (text, c) ← readBlockScalar? literal l.indent l.cursor.next
  return (l.allowKey true).push (.scalar false text) |>.moveTo c

/-- Ends all blocks before a mark or a directive. -/
def outside? (l : Layout) : Option Layout :=
  ((l.closeBlocks (-1)).dropKey?).map (·.allowKey false)

/-- Adds a directive. -/
def directive? (l : Layout) : Option Layout := do
  let l ← l.outside?
  let (t, c) ← readDirective? l.cursor.next
  return l.push t |>.moveTo c

/-- Adds the mark at the beginning or the end of a document. -/
def mark? (t : Token) (l : Layout) : Option Layout :=
  l.outside?.map fun l => l.push t |>.moveTo (l.cursor.skip 3)

/-- Whether a plain scalar may begin with a character. -/
def startsPlain (inFlow : Bool) (x : Char) (c : Cursor) : Bool :=
  if x == '-' then !(c.next.head?.any isGap)
  else if x == '?' || x == ':' then !inFlow && !c.endsWord 1
  else !("#&*!|>%@,[]\"'".toList.contains x || x == '\x7b' || x == '\x7d' || x.toNat == 0x60 ||
    isGap x)

/-- Reads a text in quotes. -/
def quoted? (single : Bool) (c : Cursor) : Option (Token × Cursor) :=
  (readQuoted? single [] {} c.next).map fun (text, c) => (.scalar false text, c)

/-- Adds the token that begins with a character. -/
def token? (x : Char) (l : Layout) : Option Layout :=
  let c := l.cursor
  let free := l.inFlow || c.endsWord 1
  if c.column == 0 && x == '%' then l.directive?
  else if c.startsWith '-' then l.mark? .documentStart
  else if c.startsWith '.' then l.mark? .documentEnd
  else if x == '[' then l.openFlow? .flowListStart
  else if x == '\x7b' then l.openFlow? .flowTableStart
  else if x == ']' then l.closeFlow? .flowListEnd
  else if x == '\x7d' then l.closeFlow? .flowTableEnd
  else if x == ',' then l.flowEntry?
  else if x == '-' && c.endsWord 1 then l.blockEntry?
  else if x == '?' && free then l.keySign?
  else if x == ':' && free then l.value?
  else if x == '*' then l.node? fun c => (readAnchor? c.next).map fun (n, c) => (.alias n, c)
  else if x == '&' then l.node? fun c => (readAnchor? c.next).map fun (n, c) => (.anchor n, c)
  else if x == '!' then l.node? (readTag? l.inFlow)
  else if x == '|' && !l.inFlow then l.blockScalar? true
  else if x == '>' && !l.inFlow then l.blockScalar? false
  else if x == '\'' then l.node? (quoted? true)
  else if x == '"' then l.node? (quoted? false)
  else if startsPlain l.inFlow x c then l.plain?
  else none

/-- The tokens from here on. -/
def run? (l : Layout) : Option (List Token) := do
  let (keyAllowed, c) := skipSpace l.keyAllowed l.inFlow l.cursor
  let spaced := (l.moveTo c).allowKey keyAllowed
  let fresh ← spaced.dropStale?
  let ready := fresh.closeBlocks c.column
  match c.head? with
  | none => (ready.closeBlocks (-1)).dropKey?.map (·.tokens.toList)
  | some x =>
    let l' ← ready.token? x
    if _shorter : l'.cursor.rest.length < l.cursor.rest.length then l'.run? else none
termination_by l.cursor.rest.length

end Layout

/-- The tokens of a text; none when it cannot be read. -/
def Token.ofText? (cs : List Char) : Option (List Token) :=
  if cs.all isReadable then ({ cursor := { rest := unifyBreaks cs } : Layout }).run? else none

end ServiceClient.Yaml
