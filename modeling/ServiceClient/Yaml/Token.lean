/-!
# Tokens of YAML

The words of a document. The beginning and the end of a block have tokens of their own, although
only the indentation of the lines tells them.
-/

namespace ServiceClient.Yaml

/-- A token. -/
inductive Token where
  /-- The version of the language. -/
  | version (major minor : Nat)
  /-- What a handle at the front of a tag stands for. -/
  | handle (name text : List Char)
  | documentStart
  | documentEnd
  | blockListStart
  | blockTableStart
  | blockEnd
  | flowListStart
  | flowListEnd
  | flowTableStart
  | flowTableEnd
  | blockEntry
  | flowEntry
  | key
  | value
  | alias (name : List Char)
  | anchor (name : List Char)
  /-- A tag, cut behind its handle. -/
  | tag (handle suffix : List Char)
  | scalar (plain : Bool) (text : List Char)
  deriving DecidableEq, Repr

end ServiceClient.Yaml
