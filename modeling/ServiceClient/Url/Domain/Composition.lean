import Std.Data.HashMap
import ServiceClient.Text.CodeSet
import ServiceClient.Url.Domain.CompositionTable

/-!
# Composed form

Equivalent sequences of a letter and its marks have one composed form: every composite is taken
apart, marks between two letters are ordered by their classes, and what composes is put together.
-/

namespace ServiceClient.Url.Domain

open Text

/-- A pair of characters and their composite. -/
structure Composite where
  first : Nat
  second : Nat
  whole : Nat

/-- Reads a composite. -/
def Composite.read (cs : List Char) : Composite :=
  match pieces ':' cs with
  | [pair, whole] =>
    match pieces '+' pair with
    | [a, b] => ⟨hexValue a, hexValue b, hexValue whole⟩
    | _ => ⟨0, 0, 0⟩
  | _ => ⟨0, 0, 0⟩

/-- The primary composites. -/
def composites : List Composite :=
  (words compositeText).map Composite.read

/-- The composite of each pair. -/
def compositeOf : Std.HashMap (Nat × Nat) Nat :=
  .ofList (composites.map fun c => ((c.first, c.second), c.whole))

/-- The parts of each composite. -/
def partsOf : Std.HashMap Nat (Nat × Nat) :=
  .ofList (composites.map fun c => (c.whole, (c.first, c.second)))

/-- The decimal number that a run of digits denotes. -/
def decimalValue (cs : List Char) : Nat :=
  cs.foldl (fun n c => n * 10 + (c.toNat - '0'.toNat)) 0

/-- The combining classes with the sets of their characters. -/
def combiningClasses : List (Nat × CodeSet) :=
  (words combiningText).map fun cs =>
    match pieces ':' cs with
    | [k, set] => (decimalValue k, ⟨((pieces ',' set).map CodeSet.readInterval).toArray⟩)
    | _ => (0, ⟨#[]⟩)

/-- The combining class of a code point. -/
def combiningClass (n : Nat) : Nat :=
  if n < 0x300 then 0
  else ((combiningClasses.find? fun (_, set) => (set.locate? n 0 set.intervals.size).isSome).map
    (·.1)).getD 0

/-- The parts of a syllable that is put together by rule. -/
def syllableParts (n : Nat) : List Nat :=
  let s := n - 0xac00
  let tail := s % 28
  [0x1100 + s / 588, 0x1161 + s % 588 / 28] ++ if tail = 0 then [] else [0x11a7 + tail]

/-- Takes a code point apart, at most `depth` times. -/
def takeApart : Nat → Nat → List Nat
  | 0, n => [n]
  | depth + 1, n =>
    if 0xac00 ≤ n && n < 0xac00 + 11172 then syllableParts n
    else match partsOf[n]? with
      | some (a, b) => takeApart depth a ++ [b]
      | none => [n]

/-- Puts a mark into its place behind the marks of its class and of lower classes. -/
def insertMark (k n : Nat) : List (Nat × Nat) → List (Nat × Nat)
  | [] => [(k, n)]
  | (k', n') :: marks =>
    if k' ≤ k then (k', n') :: insertMark k n marks else (k, n) :: (k', n') :: marks

/-- Orders the marks between letters; `marks` holds those since the last letter. -/
def orderMarks (marks : List (Nat × Nat)) : List Nat → List Nat
  | [] => marks.map (·.2)
  | n :: ns =>
    match combiningClass n with
    | 0 => marks.map (·.2) ++ n :: orderMarks [] ns
    | k => orderMarks (insertMark k n marks) ns

/-- The composite of two code points. -/
def composite? (a b : Nat) : Option Nat :=
  if 0x1100 ≤ a && a < 0x1113 && 0x1161 ≤ b && b < 0x1176 then
    some (0xac00 + (a - 0x1100) * 588 + (b - 0x1161) * 28)
  else if 0xac00 ≤ a && a < 0xac00 + 11172 && (a - 0xac00) % 28 = 0 &&
      0x11a7 < b && b < 0x11c3 then
    some (a + (b - 0x11a7))
  else compositeOf[(a, b)]?

/-- Puts together what composes. `starter` is the last letter, `marks` what stands behind it, the
last one first, and `top` the class of the last of them. -/
def compose (starter : Option Nat) (marks : List Nat) (top : Nat) : List Nat → List Nat
  | [] => starter.toList ++ marks.reverse
  | n :: ns =>
    let k := combiningClass n
    let joined := match starter with
      | none => none
      | some s => if marks.isEmpty || top < k then composite? s n else none
    match joined with
    | some whole => compose (some whole) marks top ns
    | none =>
      if k = 0 then starter.toList ++ marks.reverse ++ compose (some n) [] 0 ns
      else compose starter (n :: marks) k ns

/-- The composed form of a text. -/
def composed (cs : List Char) : List Char :=
  if cs.all (·.toNat < 0x300) then cs
  else
    let apart := cs.flatMap fun c => takeApart 4 c.toNat
    (compose none [] 0 (orderMarks [] apart)).map Char.ofNat

end ServiceClient.Url.Domain
