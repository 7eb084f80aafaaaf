/-!
# Shortest decimals

A finite binary64 value stands for every real number that rounds to it. Its shortest decimal has the
fewest digits among the decimals in that interval, and of those it is the nearest to the value.
-/

namespace ServiceClient.Decimal

/-- The magnitude of a finite binary64 value: `mantissa · 2 ^ (power - 1074)`. -/
structure Binary where
  mantissa : Nat
  power : Nat
  /-- The next smaller value is only half as far away as the next larger one. -/
  atEdge : Bool

/-- A decimal number `digits · 10 ^ exponent`. -/
structure Scaled where
  digits : Nat
  exponent : Int
  deriving DecidableEq, Repr

/-- Reads the magnitude off the bits of a finite value. -/
def Binary.ofFloat (x : Float) : Binary :=
  let bits := x.toBits.toNat
  let fraction := bits % Nat.pow 2 52
  let exponent := bits / Nat.pow 2 52 % Nat.pow 2 11
  if exponent = 0 then ⟨fraction, 0, false⟩
  else ⟨Nat.pow 2 52 + fraction, exponent - 1, fraction == 0 && exponent != 1⟩

namespace Binary

/-- The interval of a value and a decimal grid, brought to whole numbers of one unit. -/
structure Grid where
  /-- The lower end of the interval. -/
  low : Nat
  /-- The value. -/
  value : Nat
  /-- The upper end of the interval. -/
  high : Nat
  /-- The distance between two points of the grid. -/
  step : Nat
  /-- Whether the ends belong to the interval. -/
  closed : Bool

/-- The grid of the multiples of `10 ^ k`. -/
def grid (b : Binary) (k : Int) : Grid :=
  let unit := Nat.pow 2 b.power * Nat.pow 10 (-k).toNat
  { low := (4 * b.mantissa - if b.atEdge then 1 else 2) * unit
    value := 4 * b.mantissa * unit
    high := (4 * b.mantissa + 2) * unit
    step := Nat.pow 2 1076 * Nat.pow 10 k.toNat
    closed := b.mantissa % 2 == 0 }

/-- Whether a point of the grid lies in the interval. -/
def Grid.holds (g : Grid) (d : Nat) : Bool :=
  let x := d * g.step
  (g.low < x && x < g.high) || (g.closed && (x == g.low || x == g.high))

/-- The point of the grid that lies in the interval: the nearer one of two, the even one of a
tie. -/
def Grid.point? (g : Grid) : Option Nat :=
  let d := g.value / g.step
  match g.holds d, g.holds (d + 1) with
  | true, false => some d
  | false, true => some (d + 1)
  | false, false => none
  | true, true =>
    let twice := 2 * g.value
    let middle := (2 * d + 1) * g.step
    if twice < middle || (twice == middle && d % 2 == 0) then some d else some (d + 1)

/-- The exponent of the first digit of the value. -/
def leading (b : Binary) : Int :=
  let n := b.mantissa * Nat.pow 2 b.power * Nat.pow 10 400 / Nat.pow 2 1074
  (Nat.toDigits 10 n).length - 401

end Binary

/-- Takes the zeros off the end of the digits. -/
def Scaled.normal (s : Scaled) : Scaled :=
  let digits := Nat.toDigits 10 s.digits
  let zeros := (digits.reverse.takeWhile (· == '0')).length
  ⟨s.digits / Nat.pow 10 zeros, s.exponent + zeros⟩

/-- The shortest decimal of a finite value other than zero. -/
def shortest (x : Float) : Scaled :=
  let b := Binary.ofFloat x
  let first := b.leading
  let found := (List.range 17).findSome? fun (i : Nat) =>
    ((b.grid (first - i)).point?).map fun d => Scaled.normal ⟨d, first - i⟩
  found.getD ⟨0, 0⟩

end ServiceClient.Decimal
