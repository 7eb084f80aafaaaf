import ServiceClient.Yaml.Folding

/-!
# Plain scalars

A plain scalar goes on over several lines for as long as they are indented. It ends before a comment
and before a colon with a gap behind it, and inside flow collections before their signs.
-/

namespace ServiceClient.Yaml

/-- Whether a character has a meaning of its own inside a flow collection. -/
def isFlowSign (c : Char) : Bool :=
  c == ',' || c == '[' || c == ']' || c == '\x7b' || c == '\x7d'

/-- What reading a plain scalar gives. -/
structure PlainText where
  text : List Char
  /-- Whether a line ended behind the text. -/
  broken : Bool
  cursor : Cursor
  deriving DecidableEq, Repr

/-- Reads a plain scalar; `indent` is the least column of its further lines. `text` holds what was
read, the last character first, and `gap` what stands behind it. -/
def readPlain? (inFlow : Bool) (indent : Nat) (text : List Char) (gap : Gap) (c : Cursor) :
    Option PlainText :=
  let done : Option PlainText := some ⟨text.reverse, gap.broken, c⟩
  match _rest : c.rest with
  | [] => done
  | x :: _ =>
    if isGap x || isBreak x then
      if gap.broken && c.column < indent && x == '\t' then none
      else readPlain? inFlow indent text (gap.add x) c.next
    else if !gap.isEmpty &&
        ((!inFlow && c.column < indent) || c.atDocumentMark || x == '#') then done
    else if inFlow && x == ':' && (c.next.head?.any fun y => isFlowSign y || y == '?') then none
    else if (x == ':' && c.endsWord 1) || (inFlow && isFlowSign x) then done
    else readPlain? inFlow indent (x :: gap.text.reverseAux text) {} c.next
termination_by c.rest.length
decreasing_by all_goals exact Cursor.length_next_lt _rest

end ServiceClient.Yaml
