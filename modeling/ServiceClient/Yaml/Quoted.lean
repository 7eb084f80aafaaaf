import ServiceClient.Text.CodeSet
import ServiceClient.Yaml.Folding

/-!
# Scalars in quotes

Inside single quotes a quote is written twice. Inside double quotes a backslash begins an escape; at
the end of a line it takes the line end back.
-/

namespace ServiceClient.Yaml

/-- The character of a short escape. -/
def shortEscape? : Char → Option Char
  | '0' => some '\x00'
  | 'a' => some '\x07'
  | 'b' => some '\x08'
  | 't' | '\t' => some '\t'
  | 'n' => some '\n'
  | 'v' => some '\x0b'
  | 'f' => some '\x0c'
  | 'r' => some '\r'
  | 'e' => some '\x1b'
  | 'N' => some '\u0085'
  | '_' => some '\u00a0'
  | 'L' => some '\u2028'
  | 'P' => some '\u2029'
  | c => if c == ' ' || c == '"' || c == '\\' || c == '/' then some c else none

/-- The number of digits of an escape. -/
def escapeDigits? : Char → Option Nat
  | 'x' => some 2
  | 'u' => some 4
  | 'U' => some 8
  | _ => none

/-- The character of an escape with hexadecimal digits. -/
def longEscape? (count : Nat) (cs : List Char) : Option Char := do
  let digits ← (cs.take count).mapM Text.hexDigit?
  let n := Text.hexValue (cs.take count)
  if digits.length = count ∧ n.isValidChar then some (Char.ofNat n) else none

/-- Reads an escape behind its backslash: its character and its length. -/
def escape? : List Char → Option (Char × Nat)
  | [] => none
  | e :: cs =>
    match escapeDigits? e with
    | some count => (longEscape? count cs).map (·, count + 1)
    | none => (shortEscape? e).map (·, 1)

/-- Reads a scalar behind its opening quote. `text` holds what was read, the last character first,
and `gap` what stands behind it. -/
def readQuoted? (single : Bool) (text : List Char) (gap : Gap) (c : Cursor) :
    Option (List Char × Cursor) :=
  match _rest : c.rest with
  | [] => none
  | x :: xs =>
    let before := gap.text.reverseAux text
    if isGap x || isBreak x then readQuoted? single text (gap.add x) c.next
    else if c.atDocumentMark then none
    else if single && x == '\'' then
      if xs.head? == some '\'' then readQuoted? single ('\'' :: before) {} (c.skip 2)
      else some (before.reverse, c.next)
    else if !single && x == '"' then some (before.reverse, c.next)
    else if !single && x == '\\' then
      if xs.head?.any isBreak then readQuoted? single before { broken := true } c.next.next
      else
        match escape? xs with
        | none => none
        | some (e, n) => readQuoted? single (e :: before) {} (c.skip (n + 1))
    else readQuoted? single (x :: before) {} c.next
termination_by c.rest.length
decreasing_by
  · exact Cursor.length_next_lt _rest
  · exact Cursor.length_skip_lt _rest 1
  · exact Nat.lt_of_le_of_lt (Cursor.length_next_le _) (Cursor.length_next_lt _rest)
  · exact Cursor.length_skip_lt _rest n
  · exact Cursor.length_next_lt _rest

end ServiceClient.Yaml
