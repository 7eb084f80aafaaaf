/-!
# Reading decimals

A decimal text is read as a whole number of at most 64 bits and a power of ten; what does not fit
the 64 bits is dropped. The value is that number, scaled once in binary64 arithmetic.
-/

namespace ServiceClient.Decimal

/-- The digits read so far: `significand · 10 ^ exponent`. -/
structure Reading where
  significand : Nat := 0
  exponent : Int := 0
  /-- A digit did not fit, so that the digits after it are dropped too. -/
  full : Bool := false

/-- The largest significand. -/
def maxSignificand : Nat := Nat.pow 2 64 - 1

namespace Reading

/-- Takes a digit before the point. -/
def wholeDigit (r : Reading) (d : Nat) : Reading :=
  let next := r.significand * 10 + d
  if r.full || maxSignificand < next then { r with exponent := r.exponent + 1, full := true }
  else { r with significand := next }

/-- Takes a digit after the point. -/
def fractionDigit (r : Reading) (d : Nat) : Reading :=
  let next := r.significand * 10 + d
  if r.full || maxSignificand < next then { r with full := true }
  else { r with significand := next, exponent := r.exponent - 1 }

/-- Reads the digits before and after the point. -/
def ofDigits (whole fraction : List Nat) : Reading :=
  let r := whole.foldl wholeDigit {}
  fraction.foldl fractionDigit { r with full := false }

end Reading

/-- Divides by a power of ten, in steps that stay within range. -/
def divPower (x : Float) (k : Nat) : Float :=
  if k ≤ 308 then x / Float.ofScientific 1 false k
  else if x == 0.0 then x
  else divPower (x / Float.ofScientific 1 false 308) (k - 308)
termination_by k

/-- The value of a reading, `none` when it is out of range. -/
def Reading.value? (r : Reading) : Option Float :=
  let x := r.significand.toUInt64.toFloat
  if r.significand = 0 then some x
  else if r.exponent < 0 then some (divPower x (-r.exponent).toNat)
  else if r.exponent ≤ 308 then
    let y := x * Float.ofScientific 1 false r.exponent.toNat
    if y.isInf then none else some y
  else none

end ServiceClient.Decimal
