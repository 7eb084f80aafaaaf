import ServiceClient.Text.CodeSet
import ServiceClient.Url.Domain.MappingTable

/-!
# Mapping domain names

Every character of a domain name stays, vanishes, gives way to others, or spoils the name.
-/

namespace ServiceClient.Url.Domain

open Text

/-- A rule of the mapping for the code points `first`, `first + step`, … up to `last`. -/
structure Rule where
  first : Nat
  last : Nat
  step : Nat
  target : List Nat

/-- Reads a rule. -/
def Rule.read (cs : List Char) : Rule :=
  match pieces ':' cs with
  | [source, target] =>
    let target := (pieces ',' target).map hexValue
    match pieces '-' source, pieces '~' source with
    | [a, b], _ => ⟨hexValue a, hexValue b, 1, target⟩
    | _, [a, b] => ⟨hexValue a, hexValue b, 2, target⟩
    | _, _ => ⟨hexValue source, hexValue source, 1, target⟩
  | _ => ⟨0, 0, 1, [0]⟩

/-- What the rule puts in the place of a code point of its interval. -/
def Rule.apply? (r : Rule) (n : Nat) : Option (List Nat) :=
  if (n - r.first) % r.step = 0 then
    match r.target with
    | [t] => some [t + (n - r.first)]
    | ts => some ts
  else none

/-- The rules of the mapping. -/
def rules : Array Rule :=
  ((words mappingText).map Rule.read).toArray

/-- The intervals of the rules. -/
def ruleIntervals : CodeSet :=
  ⟨rules.map fun r => (r.first, r.last)⟩

/-- The characters that vanish. -/
def ignored : CodeSet := .ofText ignoredText

/-- The characters that no domain name may hold. -/
def refused : CodeSet := .ofText refusedText

/-- What the mapping puts in the place of a character, if it replaces it. -/
def replacement? (c : Char) : Option (List Char) := do
  let i ← ruleIntervals.locate? c.toNat 0 rules.size
  let r ← rules[i]?
  let ns ← r.apply? c.toNat
  return ns.map Char.ofNat

/-- What the mapping makes of a character; `none` spoils the name. -/
def mapChar? (c : Char) : Option (List Char) :=
  if ignored.contains c then some []
  else if refused.contains c then none
  else some ((replacement? c).getD [c])

/-- Whether a character may stand in a mapped name. -/
def isSettled (c : Char) : Bool :=
  !ignored.contains c && !refused.contains c && (replacement? c).isNone

end ServiceClient.Url.Domain
