import ServiceClient.Yaml.Cursor

/-!
# Folding of lines

Between two words of a scalar stand gaps and line ends. In one line the gap stays as it is. Over
several lines the gaps vanish, a single line end becomes a blank, and of several the first one is
left out.
-/

namespace ServiceClient.Yaml

/-- What stands between two words. -/
structure Gap where
  /-- The gap within the line, the last character first. -/
  blanks : List Char := []
  /-- Whether the line ended. -/
  broken : Bool := false
  /-- The first line end; a line end that was taken back is none. -/
  first : List Char := []
  /-- The other line ends, the last one first. -/
  more : List Char := []
  deriving DecidableEq, Repr

namespace Gap

/-- Whether there is nothing in between. -/
def isEmpty (g : Gap) : Bool := g.blanks.isEmpty && !g.broken

/-- A gap with one more character. -/
def add (g : Gap) (c : Char) : Gap :=
  if isBreak c then
    if g.broken then { g with more := c :: g.more } else { broken := true, first := [c] }
  else if g.broken then g
  else { g with blanks := c :: g.blanks }

/-- What is left of a gap. -/
def text (g : Gap) : List Char :=
  if !g.broken then g.blanks.reverse
  else if g.first == ['\n'] then if g.more.isEmpty then [' '] else g.more.reverse
  else g.first ++ g.more.reverse

end Gap
end ServiceClient.Yaml
