import ServiceClient.Json.Basic
import ServiceClient.Settings

/-!
# Codecs of properties

A codec reads a value from JSON and writes it as JSON. Nothing is coerced: a value of another type
is a flaw, and so are a negative number and an unknown word. A flaw is told with the keys that lead
to it.
-/

namespace ServiceClient

/-- What is wrong with a value. -/
inductive PropertyFlaw.Kind where
  | wrongType
  | wrongValue
  | unknownWord
  deriving DecidableEq, Repr

/-- What is wrong with a value, and the keys that lead to it. -/
structure PropertyFlaw where
  kind : PropertyFlaw.Kind
  path : List String := []
  deriving DecidableEq, Repr

/-- The flaw as seen from outside of a key. -/
def PropertyFlaw.under (key : String) (flaw : PropertyFlaw) : PropertyFlaw :=
  { flaw with path := key :: flaw.path }

/-- Reads a value from JSON and writes it as JSON. -/
structure Codec (α : Type) where
  read : Json → Except PropertyFlaw α
  write : α → Json

namespace Codec

variable {α : Type}

/-- Truth values. -/
def bool : Codec Bool where
  read
    | .bool b => .ok b
    | _ => .error ⟨.wrongType, []⟩
  write := .bool

/-- Whole numbers of 64 bits. -/
def unsigned : Codec UInt64 where
  read
    | .int n =>
      if 0 ≤ n ∧ n.toNat < Nat.pow 2 64 then .ok (.ofNat n.toNat) else .error ⟨.wrongValue, []⟩
    | _ => .error ⟨.wrongType, []⟩
  write n := .int n.toNat

/-- Texts. -/
def text : Codec String where
  read
    | .string s => .ok s
    | _ => .error ⟨.wrongType, []⟩
  write := .string

/-- Values that are known by words; a word may also stand as the key of a null. -/
def word (wordOf : α → String) (all : List α) : Codec α where
  read
    | .string s =>
      match ofWord? wordOf all s with
      | some x => .ok x
      | none => .error ⟨.unknownWord, []⟩
    | .object ((s, v) :: _) =>
      match ofWord? wordOf all s, v with
      | some x, .null => .ok x
      | some _, _ => .error ⟨.wrongType, [s]⟩
      | none, _ => .error ⟨.unknownWord, [s]⟩
    | _ => .error ⟨.wrongType, []⟩
  write x := .string (wordOf x)

/-- Values that may be missing. -/
def optional (c : Codec α) : Codec (Option α) where
  read
    | .null => .ok none
    | v => (c.read v).map some
  write
    | none => .null
    | some x => c.write x

/-- Reads the items of an array, counted from a number on. -/
def readItems (c : Codec α) : Nat → List Json → Except PropertyFlaw (List α)
  | _, [] => .ok []
  | i, v :: vs =>
    match c.read v with
    | .error flaw => .error (flaw.under (toString i))
    | .ok x => (readItems c (i + 1) vs).map (x :: ·)

/-- Lists. -/
def list (c : Codec α) : Codec (List α) where
  read
    | .array vs => c.readItems 0 vs
    | _ => .error ⟨.wrongType, []⟩
  write xs := .array (xs.map c.write)

/-- Reads the rows of a table. -/
def readRows (c : Codec α) : List (String × Json) → Except PropertyFlaw (Table α)
  | [] => .ok []
  | (key, v) :: rows =>
    match c.read v with
    | .error flaw => .error (flaw.under key)
    | .ok x => (readRows c rows).map ((key, x) :: ·)

/-- Tables. -/
def table (c : Codec α) : Codec (Table α) where
  read
    | .object rows => c.readRows rows
    | _ => .error ⟨.wrongType, []⟩
  write t := .object (t.map fun (key, x) => (key, c.write x))

/-- A field of a record. -/
structure Field (α : Type) where
  name : String
  /-- Reads a value and puts it into the field. -/
  read : Json → Except PropertyFlaw (α → α)
  write : α → Json

/-- A field with a codec of its own. -/
def field {β : Type} (name : String) (c : Codec β) (get : α → β) (put : β → α → α) : Field α where
  name
  read v := (c.read v).map put
  write a := c.write (get a)

/-- Reads named fields into a record; unknown names do not count. -/
def readFields (fields : List (Field α)) : List (String × Json) → α → Except PropertyFlaw α
  | [], a => .ok a
  | (key, v) :: rows, a =>
    match fields.find? (·.name == key) with
    | none => readFields fields rows a
    | some f =>
      match f.read v with
      | .error flaw => .error (flaw.under key)
      | .ok put => readFields fields rows (put a)

/-- Reads the fields of a record in their order. -/
def readPositions : Nat → List (Field α) → List Json → α → Except PropertyFlaw α
  | i, f :: fields, v :: vs, a =>
    match f.read v with
    | .error flaw => .error (flaw.under (toString i))
    | .ok put => readPositions (i + 1) fields vs (put a)
  | _, _, _, a => .ok a

/-- Records: an object, or an array of the fields in their order. Missing fields keep what they have
in `empty`. -/
def record (fields : List (Field α)) (empty : α) : Codec α where
  read
    | .object rows => readFields fields rows empty
    | .array vs => readPositions 0 fields vs empty
    | _ => .error ⟨.wrongType, []⟩
  write a := Json.ofFields (fields.map fun f => (f.name, f.write a))

end Codec
end ServiceClient
