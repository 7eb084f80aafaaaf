import ServiceClient.Json.Reader

/-!
# Scalars of YAML

What a scalar stands for. A plain one is null, a truth value, a number, or else the text itself; one
in quotes is always a text. A tag of the language decides the type.
-/

namespace ServiceClient.Yaml

/-- The digits of a number in some base, if there is at least one and nothing else. -/
def digitsIn? (base : Nat) (cs : List Char) : Option (List Nat) :=
  if cs.isEmpty then none
  else cs.mapM fun c => (Text.hexDigit? c).filter (· < base)

/-- The base that is told in front of the digits, and the digits. -/
def splitBase : List Char → Nat × List Char
  | '0' :: 'x' :: cs => (16, cs)
  | '0' :: 'o' :: cs => (8, cs)
  | '0' :: 'b' :: cs => (2, cs)
  | cs => (10, cs)

/-- Whether a zero leads further decimal digits, so that they are no number. -/
def hasLeadingZero : List Char → Bool
  | '0' :: c :: cs => (c :: cs).all Char.isDigit
  | _ => false

/-- The sign of a number, and what follows it. -/
def splitSign : List Char → Bool × List Char
  | '-' :: cs => (true, cs)
  | '+' :: cs => (false, cs)
  | cs => (false, cs)

/-- A whole number of at most 128 bits; beyond 64 bits it counts as one with a point. -/
def integer? (cs : List Char) : Option Json := do
  let (negative, cs) := splitSign cs
  if hasLeadingZero cs then none
  let (base, digits) := splitBase cs
  let digits ← digitsIn? base digits
  let n : Nat := digits.foldl (fun n d => n * base + d) 0
  if negative then
    if n ≤ Nat.pow 2 63 then some (.int (-n))
    else if n ≤ Nat.pow 2 127 then some (.float (-(Float.ofNat n))) else none
  else if n < Nat.pow 2 64 then some (.int n)
  else if n < Nat.pow 2 128 then some (.float (Float.ofNat n)) else none

/-- The exponent of a number, zero when none is told. -/
def exponent? : List Char → Option Int
  | [] => some 0
  | e :: cs =>
    if e == 'e' || e == 'E' then
      let (down, digits) := splitSign cs
      (digitsIn? 10 digits).map fun ds =>
        let n : Nat := ds.foldl (fun n d => n * 10 + d) 0
        if down then -(n : Int) else n
    else none

/-- A number with a point or an exponent. -/
def finite? (cs : List Char) : Option Json := do
  let (negative, cs) := splitSign cs
  let whole := cs.takeWhile Char.isDigit
  let rest := cs.dropWhile Char.isDigit
  let (fraction, rest) := match rest with
    | '.' :: rest => (rest.takeWhile Char.isDigit, rest.dropWhile Char.isDigit)
    | rest => ([], rest)
  if whole.isEmpty && fraction.isEmpty then none
  else
    let power ← exponent? rest
    let digits (cs : List Char) := cs.map fun c => c.toNat - '0'.toNat
    Json.floatValue? negative (digits whole) (digits fraction) power

/-- The number that a word stands for, none of them being finite. -/
def endless? (s : String) : Option Json :=
  if [".inf", ".Inf", ".INF", "+.inf", "+.Inf", "+.INF"].contains s then some (.float (1.0 / 0.0))
  else if ["-.inf", "-.Inf", "-.INF"].contains s then some (.float (-1.0 / 0.0))
  else if [".nan", ".NaN", ".NAN"].contains s then some (.float (0.0 / 0.0))
  else none

/-- A number that need not be whole. -/
def float? (cs : List Char) : Option Json :=
  (endless? (String.ofList cs)).or (finite? cs)

/-- Null. -/
def null? (s : String) : Option Json :=
  if ["~", "null", "Null", "NULL"].contains s then some .null else none

/-- A truth value. -/
def bool? (s : String) : Option Json :=
  if ["true", "True", "TRUE"].contains s then some (.bool true)
  else if ["false", "False", "FALSE"].contains s then some (.bool false)
  else none

/-- The number that a plain scalar stands for. -/
def number? (cs : List Char) : Option Json :=
  if hasLeadingZero (splitSign cs).2 then none else (integer? cs).or (float? cs)

/-- What a plain scalar stands for. -/
def plainValue (cs : List Char) : Json :=
  let s := String.ofList cs
  if s.isEmpty then .null
  else ((null? s).or ((bool? s).or (number? cs))).getD (.string s)

/-- What a scalar without a tag stands for. -/
def scalarValue (plain : Bool) (cs : List Char) : Json :=
  if plain then plainValue cs else .string (String.ofList cs)

/-- What a scalar with one of the tags of the language stands for; with any other tag it is a
text. -/
def taggedValue? (tag : String) (cs : List Char) : Option Json :=
  let s := String.ofList cs
  match tag with
  | "tag:yaml.org,2002:bool" => bool? s
  | "tag:yaml.org,2002:int" => integer? cs
  | "tag:yaml.org,2002:float" => float? cs
  | "tag:yaml.org,2002:null" => null? s
  | _ => some (.string s)

end ServiceClient.Yaml
