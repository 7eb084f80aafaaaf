import ServiceClient.Decimal.Shortest

/-!
# Durations

A duration is a whole number of nanoseconds. Its diagnostic text uses the largest unit that leaves a
whole part, and drops the zeros at the end of the fraction.
-/

namespace ServiceClient

/-- A length of time. -/
structure Duration where
  nanos : Nat
  deriving DecidableEq, Repr, Inhabited

namespace Duration

/-- A duration in whole seconds. -/
def ofSeconds (n : Nat) : Duration := ⟨n * 1000000000⟩

/-- A duration in whole milliseconds. -/
def ofMillis (n : Nat) : Duration := ⟨n * 1000000⟩

/-- The whole seconds of a duration. -/
def seconds (d : Duration) : Nat := d.nanos / 1000000000

/-- The nanoseconds beyond the whole seconds. -/
def fraction (d : Duration) : Nat := d.nanos % 1000000000

/-- The whole milliseconds of a duration. -/
def millis (d : Duration) : Nat := d.nanos / 1000000

/-- The milliseconds of a duration, a begun one counted as a whole. -/
def ceilMillis (d : Duration) : Nat := (d.nanos + 999999) / 1000000

/-- The shorter of two durations. -/
def min (a b : Duration) : Duration := if a.nanos ≤ b.nanos then a else b

/-- The milliseconds of a duration, at most the largest number of 64 bits. -/
def clampedMillis (d : Duration) : Nat := Nat.min d.millis (Nat.pow 2 64 - 1)

/-- The fraction `part / 10 ^ places` behind a point, without zeros at its end. -/
def fractionText (part places : Nat) : List Char :=
  let digits := Nat.toDigits 10 part
  let padded := List.replicate (places - digits.length) '0' ++ digits
  let kept := (padded.reverse.dropWhile (· == '0')).reverse
  if part = 0 then [] else '.' :: kept

/-- The diagnostic text of a duration. -/
def text (d : Duration) : String :=
  let shown (places : Nat) (unit : String) :=
    String.ofList (Nat.toDigits 10 (d.nanos / Nat.pow 10 places) ++
      fractionText (d.nanos % Nat.pow 10 places) places) ++ unit
  if 1000000000 ≤ d.nanos then shown 9 "s"
  else if 1000000 ≤ d.nanos then shown 6 "ms"
  else if 1000 ≤ d.nanos then shown 3 "µs"
  else shown 0 "ns"

/-- The number of seconds as a binary64 value. -/
def toFloat (d : Duration) : Float :=
  d.seconds.toUInt64.toFloat + d.fraction.toUInt64.toFloat / 1000000000.0

/-- The quotient rounded to the nearest whole number, a half to the even one. -/
def roundDiv (a b : Nat) : Nat :=
  let q := a / b
  let twice := 2 * (a % b)
  if twice < b || (twice == b && q % 2 == 0) then q else q + 1

/-- A finite number of seconds that is not negative, rounded to nanoseconds. -/
def ofFloat (x : Float) : Duration :=
  let b := Decimal.Binary.ofFloat x
  ⟨roundDiv (b.mantissa * Nat.pow 2 b.power * 1000000000) (Nat.pow 2 1074)⟩

end Duration
end ServiceClient
