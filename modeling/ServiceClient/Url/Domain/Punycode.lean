import ServiceClient.Text.CodeSet

/-!
# Punycode

A label with characters beyond ASCII is written as its ASCII characters, a hyphen, and the positions
of the others as differences in a number system whose base adapts.
-/

namespace ServiceClient.Url.Domain.Punycode

/-- The character of a digit below 36. -/
def digitChar (d : Nat) : Char :=
  Char.ofNat (if d < 26 then 'a'.toNat + d else '0'.toNat + (d - 26))

/-- The value of a digit. -/
def digitValue? (c : Char) : Option Nat :=
  if 'a' ≤ c && c ≤ 'z' then some (c.toNat - 'a'.toNat)
  else if 'A' ≤ c && c ≤ 'Z' then some (c.toNat - 'A'.toNat)
  else if '0' ≤ c && c ≤ '9' then some (c.toNat - '0'.toNat + 26)
  else none

/-- The threshold of the digit with weight index `k`. -/
def threshold (k bias : Nat) : Nat :=
  if k ≤ bias then 1 else if bias + 26 ≤ k then 26 else k - bias

theorem threshold_bounds (k bias : Nat) : 1 ≤ threshold k bias ∧ threshold k bias ≤ 26 := by
  unfold threshold
  split
  · omega
  · split <;> omega

/-- Brings a difference into the range of the bias. -/
def damp (delta k : Nat) : Nat :=
  if 455 < delta then damp (delta / 35) (k + 36) else k + 36 * delta / (delta + 38)
termination_by delta
decreasing_by exact Nat.div_lt_self (by omega) (by omega)

/-- The bias after a difference, `count` characters being placed. -/
def adapt (delta count : Nat) (first : Bool) : Nat :=
  let delta := if first then delta / 700 else delta / 2
  damp (delta + delta / count) 0

/-- The digits of a difference. -/
def digits (bias q k : Nat) : List Char :=
  let t := threshold k bias
  if q < t then [digitChar q]
  else digitChar (t + (q - t) % (36 - t)) :: digits bias ((q - t) / (36 - t)) (k + 36)
termination_by q
decreasing_by
  have h := threshold_bounds k bias
  have := Nat.div_le_self (q - threshold k bias) (36 - threshold k bias)
  omega

/-- The state of the encoder. -/
structure Encoder where
  delta : Nat
  bias : Nat
  /-- The number of characters placed. -/
  placed : Nat
  /-- No difference has been written yet. -/
  first : Bool
  /-- The digits written, the last one first. -/
  out : List Char

/-- Passes a character of the label while the code point `n` is being placed. -/
def Encoder.pass (n : Nat) (e : Encoder) (c : Char) : Encoder :=
  if c.toNat < n then { e with delta := e.delta + 1 }
  else if c.toNat = n then
    { delta := 0
      bias := adapt e.delta (e.placed + 1) e.first
      placed := e.placed + 1
      first := false
      out := (digits e.bias e.delta 36).reverse ++ e.out }
  else e

/-- Places the code points of a label one after the other, in rising order. -/
def Encoder.run (label : List Char) (e : Encoder) : Nat → List Nat → Encoder
  | _, [] => e
  | n, m :: ms =>
    let e := { e with delta := e.delta + (m - n) * (e.placed + 1) }
    let e := label.foldl (Encoder.pass m) e
    Encoder.run label { e with delta := e.delta + 1 } (m + 1) ms

/-- The written form of a label, without the mark in front of it. -/
def encode (label : List Char) : List Char :=
  let ascii := label.filter (·.toNat < 0x80)
  let others := ((label.filter (0x80 ≤ ·.toNat)).map Char.toNat).mergeSort.eraseDups
  let e := Encoder.run label ⟨0, 72, ascii.length, true, []⟩ 0x80 others
  (if ascii.isEmpty then [] else ascii ++ ['-']) ++ e.out.reverse

/-- The bound of differences and of the weights of their digits. -/
def bound : Nat := Nat.pow 2 32

/-- Reads one difference: its value and the text after it. -/
def readDelta (bias i weight k : Nat) : List Char → Option (Nat × List Char)
  | [] => none
  | c :: cs =>
    match digitValue? c with
    | none => none
    | some d =>
      let i := i + d * weight
      let t := threshold k bias
      if bound ≤ i then none
      else if d < t then some (i, cs)
      else if bound ≤ weight * (36 - t) then none
      else readDelta bias i (weight * (36 - t)) (k + 36) cs

theorem length_of_readDelta {bias i weight k : Nat} {cs rest : List Char} {j : Nat}
    (h : readDelta bias i weight k cs = some (j, rest)) : rest.length < cs.length := by
  induction cs generalizing i weight k with
  | nil => simp [readDelta] at h
  | cons c cs ih =>
    simp only [readDelta] at h
    split at h
    · simp at h
    · split at h
      · simp at h
      · split at h
        · simp only [Option.some.injEq, Prod.mk.injEq] at h
          simp [h.2]
        · split at h
          · simp at h
          · exact Nat.lt_succ_of_lt (ih h)

/-- Puts the characters that the differences stand for into their places. -/
def place (n i bias : Nat) (first : Bool) (out : List Char) (cs : List Char) :
    Option (List Char) :=
  match cs with
  | [] => some out
  | c :: cs =>
    match _read : readDelta bias i 1 36 (c :: cs) with
    | none => none
    | some (j, rest) =>
      let count := out.length + 1
      let m := n + j / count
      if m < 0x110000 && (Char.ofNat m).toNat == m then
        place m (j % count + 1) (adapt (j - i) count first) false
          (out.take (j % count) ++ Char.ofNat m :: out.drop (j % count)) rest
      else none
termination_by cs.length
decreasing_by exact length_of_readDelta _read

/-- The label that a written form stands for. A hyphen at its front is no delimiter. -/
def decode? (cs : List Char) : Option (List Char) :=
  match (cs.reverse.dropWhile (· ≠ '-')).reverse with
  | [] => place 0x80 0 72 true [] cs
  | ['-'] => none
  | lead =>
    let ascii := lead.dropLast
    if ascii.all (·.toNat < 0x80) then place 0x80 0 72 true ascii (cs.drop lead.length) else none

end ServiceClient.Url.Domain.Punycode
