/-!
# Places in a text

A cursor is the rest of a text with the line and the column at which it begins. Before a text is
read, its line ends are written as single characters.
-/

namespace ServiceClient.Yaml

/-- Whether a character is a blank or a tab. -/
def isGap (c : Char) : Bool := c == ' ' || c == '\t'

/-- Whether a character ends a line. -/
def isBreak (c : Char) : Bool := c == '\n' || c == '\u2028' || c == '\u2029'

/-- Whether a character may stand in a name. -/
def isNameChar (c : Char) : Bool := c.isAlphanum || c == '_' || c == '-'

/-- The mark of the byte order. -/
def byteOrderMark : Char := '\ufeff'

/-- Whether a character may stand in a document at all. -/
def isReadable (c : Char) : Bool :=
  let n := c.toNat
  n == 0x09 || n == 0x0a || n == 0x0d || (0x20 ≤ n && n ≤ 0x7e) || n == 0x85 ||
    (0xa0 ≤ n && n ≤ 0xfffd) || 0x10000 ≤ n

/-- A text with every usual line end written as a single character. -/
def unifyBreaks : List Char → List Char
  | [] => []
  | '\r' :: '\n' :: cs => '\n' :: unifyBreaks cs
  | c :: cs => (if c == '\r' || c == '\u0085' then '\n' else c) :: unifyBreaks cs

/-- A place in a text. -/
structure Cursor where
  rest : List Char
  line : Nat := 0
  column : Nat := 0
  deriving DecidableEq, Repr

namespace Cursor

/-- The character at a place. -/
def head? (c : Cursor) : Option Char := c.rest.head?

/-- The place behind the next character. -/
def next (c : Cursor) : Cursor :=
  match c.rest with
  | [] => c
  | x :: xs => if isBreak x then ⟨xs, c.line + 1, 0⟩ else ⟨xs, c.line, c.column + 1⟩

/-- The place `n` characters further on in the same line. -/
def skip (n : Nat) (c : Cursor) : Cursor :=
  ⟨c.rest.drop n, c.line, c.column + n⟩

/-- The characters of this line for as long as they satisfy `p`. -/
def run (p : Char → Bool) (c : Cursor) : List Char :=
  c.rest.takeWhile fun x => p x && !isBreak x

/-- The place behind these characters. -/
def skipWhile (p : Char → Bool) (c : Cursor) : Cursor :=
  ⟨c.rest.dropWhile fun x => p x && !isBreak x, c.line, c.column + (c.run p).length⟩

/-- Whether the text ends `n` characters further on, or goes on with a gap or a line end. -/
def endsWord (n : Nat) (c : Cursor) : Bool :=
  match c.rest[n]? with
  | none => true
  | some x => isGap x || isBreak x

/-- Whether a character stands at a place. -/
def at? (x : Char) (c : Cursor) : Bool := c.head? == some x

/-- Whether a line with nothing but three equal signs begins here. -/
def startsWith (sign : Char) (c : Cursor) : Bool :=
  c.column == 0 && c.rest.take 3 == [sign, sign, sign] && c.endsWord 3

/-- Whether a document begins or ends here. -/
def atDocumentMark (c : Cursor) : Bool := c.startsWith '-' || c.startsWith '.'

/-- Stepping over a character leaves less to read. -/
theorem length_next_lt {c : Cursor} {x : Char} {xs : List Char} (h : c.rest = x :: xs) :
    c.next.rest.length < c.rest.length := by
  unfold next
  simp only [h]
  split <;> simp

/-- A step never leaves more to read. -/
theorem length_next_le (c : Cursor) : c.next.rest.length ≤ c.rest.length := by
  cases h : c.rest with
  | nil => simp [next, h]
  | cons x xs => exact h ▸ Nat.le_of_lt (length_next_lt h)

/-- Stepping over a number of characters never leaves more to read. -/
theorem length_skip_le (n : Nat) (c : Cursor) : (c.skip n).rest.length ≤ c.rest.length :=
  (List.drop_suffix n c.rest).length_le

/-- Stepping over some characters leaves less to read. -/
theorem length_skip_lt {c : Cursor} {x : Char} {xs : List Char} (h : c.rest = x :: xs) (n : Nat) :
    (c.skip (n + 1)).rest.length < c.rest.length := by
  have shorter := (List.drop_suffix n xs).length_le
  unfold skip
  simp only [h, List.drop_succ_cons, List.length_cons]
  exact Nat.lt_succ_of_le shorter

/-- Stepping over characters never leaves more to read. -/
theorem length_skipWhile_le (p : Char → Bool) (c : Cursor) :
    (c.skipWhile p).rest.length ≤ c.rest.length :=
  (List.dropWhile_suffix _).length_le

end Cursor
end ServiceClient.Yaml
