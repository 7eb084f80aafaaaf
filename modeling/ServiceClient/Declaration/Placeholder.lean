import ServiceClient.Table
import ServiceClient.Text.Blank

/-!
# Placeholders

A placeholder names a key between `$` and braces, and may tell a default behind a colon. Expansion
reads a text once from left to right and never reads again what it has put in.
-/

namespace ServiceClient

/-- A key, and the default behind the colon if there is one. -/
structure Placeholder where
  key : List Char
  fallback : Option (List Char)
  deriving DecidableEq, Repr

namespace Placeholder

/-- The written form of a placeholder. -/
def written (p : Placeholder) : List Char :=
  let fallback := match p.fallback with
    | none => []
    | some d => ':' :: d
  ['$', '\x7b'] ++ p.key ++ fallback ++ ['\x7d']

/-- Whether a character may stand in a key. -/
def isKeyChar (c : Char) : Bool := c != '\x7d' && c != ':'

/-- Whether a character may stand in a default. -/
def isDefaultChar (c : Char) : Bool := c != '\x7d'

/-- Reads what follows the key of a placeholder. -/
def readEnd? (key : List Char) : List Char → Option (Placeholder × List Char)
  | '\x7d' :: rest => some (⟨key, none⟩, rest)
  | ':' :: cs =>
    match cs.dropWhile isDefaultChar with
    | [] => none
    | _ :: rest => some (⟨key, some (cs.takeWhile isDefaultChar)⟩, rest)
  | _ => none

/-- Reads a placeholder behind its opening brace. -/
def readBody? (cs : List Char) : Option (Placeholder × List Char) :=
  if (cs.takeWhile isKeyChar).isEmpty then none
  else readEnd? (cs.takeWhile isKeyChar) (cs.dropWhile isKeyChar)

/-- Reads a placeholder at the beginning of a text. -/
def read? : List Char → Option (Placeholder × List Char)
  | '$' :: '\x7b' :: cs => readBody? cs
  | _ => none

/-- What follows a placeholder is shorter than what follows its key. -/
theorem length_lt_of_readEnd? {key cs rest : List Char} {p : Placeholder}
    (h : readEnd? key cs = some (p, rest)) : rest.length < cs.length := by
  unfold readEnd? at h
  split at h
  · simp only [Option.some.injEq, Prod.mk.injEq] at h
    simp [h.2]
  · rename_i more
    have shorter := (List.dropWhile_suffix (l := more) isDefaultChar).length_le
    split at h
    · simp at h
    · rename_i e
      simp only [Option.some.injEq, Prod.mk.injEq] at h
      rw [e, List.length_cons, h.2] at shorter
      simp only [List.length_cons]
      omega
  · simp at h

/-- What follows a placeholder is shorter than the whole. -/
theorem length_lt_of_read? {cs rest : List Char} {p : Placeholder}
    (h : read? cs = some (p, rest)) : rest.length < cs.length := by
  unfold read? readBody? at h
  split at h
  · rename_i cs
    split at h
    · simp at h
    · have shorter := (List.dropWhile_suffix (l := cs) isKeyChar).length_le
      have := length_lt_of_readEnd? h
      simp only [List.length_cons]
      omega
  · simp at h

end Placeholder

/-- A piece of a text: text that stands for itself, or a placeholder. -/
inductive Segment where
  | literal (text : List Char)
  | placeholder (p : Placeholder)
  deriving DecidableEq, Repr

/-- The written form of a piece. -/
def Segment.written : Segment → List Char
  | literal text => text
  | placeholder p => p.written

/-- The pieces of a text; characters outside of placeholders stand alone. -/
def segments : List Char → List Segment
  | [] => []
  | c :: cs =>
    match _read : Placeholder.read? (c :: cs) with
    | some (p, rest) => .placeholder p :: segments rest
    | none => .literal [c] :: segments cs
termination_by cs => cs.length
decreasing_by
  · exact Placeholder.length_lt_of_read? _read
  · exact Nat.lt_succ_self cs.length

/-- The variables of an environment. Each of them is a line: its name, an equals sign and its
value. -/
abbrev Environment := Table String

/-- The value of a key: what follows the key and an equals sign in the first line that begins with
them. A key may itself hold equals signs, and then reaches into the value of a variable. -/
def Environment.value? (env : Environment) (key : String) : Option String :=
  env.findSome? fun (name, value) =>
    ((key.toList ++ ['=']).isPrefixOf? (name.toList ++ '=' :: value.toList)).map String.ofList

/-- Where the values of keys come from: first a table, then the environment if it is asked. -/
structure Placeholders where
  values : Table String := []
  environment : Option Environment := none

namespace Placeholders

/-- The value of a key. -/
def value? (ps : Placeholders) (key : String) : Option String :=
  (ps.values.get? key).or (ps.environment.bind (Environment.value? · key))

/-- The value of a placeholder: that of its key without the blanks around it, its default, or the
placeholder as it is written. -/
def valueOf (ps : Placeholders) (p : Placeholder) : List Char :=
  match ps.value? (String.ofList (Text.dropBoth Text.isBlank p.key)), p.fallback with
  | some v, _ => v.toList
  | none, some d => d
  | none, none => p.written

/-- The value of a piece of a text. -/
def segmentValue (ps : Placeholders) : Segment → List Char
  | .literal text => text
  | .placeholder p => ps.valueOf p

/-- A text with its placeholders expanded. -/
def expand (ps : Placeholders) (s : String) : String :=
  String.ofList ((segments s.toList).flatMap ps.segmentValue)

end Placeholders
end ServiceClient
