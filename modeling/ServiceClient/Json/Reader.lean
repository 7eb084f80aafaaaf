import ServiceClient.Json.Basic
import ServiceClient.Decimal.Reading
import ServiceClient.Text.CodeSet
import ServiceClient.Text.Utf8

/-!
# Reading JSON text

The reader stops at the first flaw and tells only its category: the text ended too early, or it is
no JSON text. At most 127 arrays and objects may be nested.
-/

namespace ServiceClient.Json

/-- Why JSON could not be read. -/
inductive Flaw where
  /-- The text ended too early. -/
  | eof
  /-- The text is no JSON text. -/
  | malformed
  /-- The value is JSON of the wrong shape. -/
  | shape
  deriving DecidableEq, Repr

/-- What a reader gives: a value and the octets after it. -/
abbrev Read (α : Type) := Except Flaw (α × Bytes)

/-- Drops blanks, tabs and line ends. -/
def skipSpace (bs : Bytes) : Bytes :=
  bs.dropWhile fun b => b == 0x20 || b == 0x0a || b == 0x0d || b == 0x09

/-- Whether an octet is a digit. -/
def isDigit (b : UInt8) : Bool :=
  0x30 ≤ b && b ≤ 0x39

/-- The digits at the front, and what follows them. -/
def spanDigits (bs : Bytes) : List Nat × Bytes :=
  ((bs.takeWhile isDigit).map fun b => b.toNat - 0x30, bs.dropWhile isDigit)

/-- The flaw of a text that goes on with `bs` where something else is needed. -/
def flawAt : Bytes → Flaw
  | [] => .eof
  | _ => .malformed

/-- Reads the rest of a word. -/
def readWord (word : Bytes) (value : Json) (bs : Bytes) : Read Json :=
  match word, bs with
  | [], bs => .ok (value, bs)
  | _, [] => .error .eof
  | w :: word, b :: bs => if w = b then readWord word value bs else .error .malformed

/-- The value of a number without fraction and exponent: an integer when it fits. -/
def integerValue? (negative : Bool) (whole : List Nat) : Option Json :=
  let r := Decimal.Reading.ofDigits whole []
  if r.full || r.exponent ≠ 0 then
    r.value?.map fun x => .float (if negative then -x else x)
  else if !negative then some (.int r.significand)
  else if r.significand = 0 || Nat.pow 2 63 < r.significand then
    some (.float (-r.significand.toUInt64.toFloat))
  else some (.int (-r.significand))

/-- The value of a number with a fraction or an exponent. -/
def floatValue? (negative : Bool) (whole fraction : List Nat) (power : Int) : Option Json :=
  let r := Decimal.Reading.ofDigits whole fraction
  { r with exponent := r.exponent + power }.value?.map fun x =>
    .float (if negative then -x else x)

/-- Accepts a number that is in range. -/
def inRange (value : Option Json) (rest : Bytes) : Read Json :=
  match value with
  | some v => .ok (v, rest)
  | none => .error .malformed

/-- Reads the exponent of a number, behind its letter. -/
def readExponent (negative : Bool) (whole fraction : List Nat) (bs : Bytes) : Read Json :=
  let (down, bs) := match bs with
    | 0x2b :: rest => (false, rest)
    | 0x2d :: rest => (true, rest)
    | _ => (false, bs)
  match spanDigits bs with
  | ([], rest) => .error (flawAt rest)
  | (digits, rest) =>
    let power : Nat := digits.foldl (fun n d => n * 10 + d) 0
    inRange (floatValue? negative whole fraction (if down then -power else power)) rest

/-- Reads what may follow the whole part of a number. -/
def readFraction (negative : Bool) (whole : List Nat) : Bytes → Read Json
  | 0x2e :: bs =>
    match spanDigits bs with
    | ([], rest) => .error (flawAt rest)
    | (fraction, 0x65 :: rest) => readExponent negative whole fraction rest
    | (fraction, 0x45 :: rest) => readExponent negative whole fraction rest
    | (fraction, rest) => inRange (floatValue? negative whole fraction 0) rest
  | 0x65 :: bs => readExponent negative whole [] bs
  | 0x45 :: bs => readExponent negative whole [] bs
  | bs => inRange (integerValue? negative whole) bs

/-- Reads a number behind its sign; a zero may not lead further digits. -/
def readNumber (negative : Bool) (bs : Bytes) : Read Json :=
  match spanDigits bs with
  | ([], rest) => .error (flawAt rest)
  | (0 :: _ :: _, _) => .error .malformed
  | (whole, rest) => readFraction negative whole rest

/-- The octet that a short escape stands for. -/
def shortEscape? (b : UInt8) : Option UInt8 :=
  if b == 0x22 || b == 0x5c || b == 0x2f then some b
  else if b == 0x62 then some 0x08
  else if b == 0x66 then some 0x0c
  else if b == 0x6e then some 0x0a
  else if b == 0x72 then some 0x0d
  else if b == 0x74 then some 0x09
  else none

/-- Reads the four digits of a code unit. -/
def readUnit : Bytes → Read Nat
  | a :: b :: c :: d :: rest =>
    match [a, b, c, d].mapM fun x => Text.hexDigit? (Char.ofNat x.toNat) with
    | some digits => .ok (digits.foldl (fun n x => n * 16 + x) 0, rest)
    | none => .error .malformed
  | _ => .error .eof

/-- Reads the second half of a pair of code units. -/
def readLowUnit (high : Nat) : Bytes → Read Nat
  | 0x5c :: 0x75 :: rest =>
    match readUnit rest with
    | .error e => .error e
    | .ok (low, rest) =>
      if 0xdc00 ≤ low && low ≤ 0xdfff then
        .ok (0x10000 + (high - 0xd800) * 0x400 + (low - 0xdc00), rest)
      else .error .malformed
  | [] => .error .eof
  | [0x5c] => .error .eof
  | _ => .error .malformed

/-- Reads a character given by its code units, behind the letter `u`. -/
def readEscape (bs : Bytes) : Read Bytes :=
  match readUnit bs with
  | .error e => .error e
  | .ok (unit, rest) =>
    if 0xdc00 ≤ unit && unit ≤ 0xdfff then .error .malformed
    else if 0xd800 ≤ unit && unit ≤ 0xdbff then
      (readLowUnit unit rest).map fun (code, rest) =>
        (String.utf8EncodeChar (Char.ofNat code), rest)
    else .ok (String.utf8EncodeChar (Char.ofNat unit), rest)

/-- Reads a string behind its first quote; `acc` holds the octets read, the last one first. The fuel
is more than the octets are. -/
def readString : Nat → Bytes → Bytes → Read String
  | 0, _, _ => .error .eof
  | _ + 1, _, [] => .error .eof
  | fuel + 1, acc, b :: rest =>
    if b == 0x22 then
      match Text.Utf8.text? acc.reverse with
      | some s => .ok (s, rest)
      | none => .error .malformed
    else if b == 0x5c then
      match rest with
      | [] => .error .eof
      | 0x75 :: rest =>
        match readEscape rest with
        | .ok (octets, rest) => readString fuel (octets.reverse ++ acc) rest
        | .error e => .error e
      | e :: rest =>
        match shortEscape? e with
        | some octet => readString fuel (octet :: acc) rest
        | none => .error .malformed
    else if b < 0x20 then .error .malformed
    else readString fuel (b :: acc) rest

/-- Reads the name of a field and the colon behind it; the fuel is more than the octets are. -/
def readName (fuel : Nat) (bs : Bytes) : Read String :=
  match skipSpace bs with
  | 0x22 :: rest =>
    match readString fuel [] rest with
    | .error e => .error e
    | .ok (name, rest) =>
      match skipSpace rest with
      | 0x3a :: rest => .ok (name, rest)
      | rest => .error (flawAt rest)
  | rest => .error (flawAt rest)

mutual

/-- Reads a value below `depth` further levels; the fuel bounds the number of steps. -/
def readValue : Nat → Nat → Bytes → Read Json
  | 0, _, _ => .error .malformed
  | fuel + 1, depth, bs =>
    match skipSpace bs with
    | [] => .error .eof
    | 0x6e :: rest => readWord [0x75, 0x6c, 0x6c] .null rest
    | 0x74 :: rest => readWord [0x72, 0x75, 0x65] (.bool true) rest
    | 0x66 :: rest => readWord [0x61, 0x6c, 0x73, 0x65] (.bool false) rest
    | 0x2d :: rest => readNumber true rest
    | 0x22 :: rest => (readString fuel [] rest).map fun (s, rest) => (.string s, rest)
    | 0x5b :: rest =>
      match depth with
      | 0 => .error .malformed
      | depth + 1 =>
        match skipSpace rest with
        | 0x5d :: rest => .ok (.array [], rest)
        | [] => .error .eof
        | rest => readItems fuel depth [] rest
    | 0x7b :: rest =>
      match depth with
      | 0 => .error .malformed
      | depth + 1 =>
        match skipSpace rest with
        | 0x7d :: rest => .ok (.object [], rest)
        | rest => readFields fuel depth [] rest
    | b :: rest => if isDigit b then readNumber false (b :: rest) else .error .malformed

/-- Reads the items of an array from one item on. -/
def readItems : Nat → Nat → List Json → Bytes → Read Json
  | 0, _, _, _ => .error .malformed
  | fuel + 1, depth, items, bs =>
    match readValue fuel depth bs with
    | .error e => .error e
    | .ok (item, rest) =>
      match skipSpace rest with
      | 0x5d :: rest => .ok (.array (item :: items).reverse, rest)
      | 0x2c :: rest => readItems fuel depth (item :: items) rest
      | rest => .error (flawAt rest)

/-- Reads the fields of an object from one name on. -/
def readFields : Nat → Nat → List (String × Json) → Bytes → Read Json
  | 0, _, _, _ => .error .malformed
  | fuel + 1, depth, fields, bs =>
    match readName fuel bs with
    | .error e => .error e
    | .ok (name, rest) =>
      match readValue fuel depth rest with
      | .error e => .error e
      | .ok (value, rest) =>
        match skipSpace rest with
        | 0x7d :: rest => .ok (ofFields ((name, value) :: fields).reverse, rest)
        | 0x2c :: rest => readFields fuel depth ((name, value) :: fields) rest
        | rest => .error (flawAt rest)

end

/-- Reads a whole text. -/
def parse (bs : Bytes) : Except Flaw Json :=
  match readValue (2 * bs.length + 2) 127 bs with
  | .error e => .error e
  | .ok (value, rest) => if (skipSpace rest).isEmpty then .ok value else .error .malformed

end ServiceClient.Json
