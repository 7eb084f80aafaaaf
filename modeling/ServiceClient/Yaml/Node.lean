import ServiceClient.Yaml.Token

/-!
# Nodes

The tree of a document: scalars, lists and tables, with their anchors and tags, and aliases that
stand for nodes with an anchor.
-/

namespace ServiceClient.Yaml

/-- The anchor and the tag of a node. -/
structure NodeProperties (ν : Type) where
  anchor : Option ν := none
  tag : Option (List Char) := none
  deriving DecidableEq, Repr

/-- A node whose anchors are names of type `ν`. -/
inductive Node (ν : Type) where
  | alias (name : ν)
  | scalar (properties : NodeProperties ν) (plain : Bool) (text : List Char)
  | list (properties : NodeProperties ν) (items : List (Node ν))
  | table (properties : NodeProperties ν) (rows : List (Node ν × Node ν))

/-- A node as it is written. -/
abbrev WrittenNode := Node (List Char)

/-- What the handles of tags stand for. -/
abbrev Handles := List (List Char × List Char)

namespace Node

/-- The node that is not written. -/
def empty : WrittenNode := .scalar {} true []

/-- The text of a tag, given its handle. -/
def tagText? (handles : Handles) (handle suffix : List Char) : Option (List Char) :=
  if handle.isEmpty then some suffix else (handles.lookup handle).map (· ++ suffix)

/-- Reads the anchor and the tag of a node, in either order. -/
def readProperties? (handles : Handles) :
    List Token → Option (NodeProperties (List Char) × List Token)
  | .anchor a :: .tag h s :: ts => (tagText? handles h s).map fun t => (⟨some a, some t⟩, ts)
  | .anchor a :: ts => some (⟨some a, none⟩, ts)
  | .tag h s :: .anchor a :: ts => (tagText? handles h s).map fun t => (⟨some a, some t⟩, ts)
  | .tag h s :: ts => (tagText? handles h s).map fun t => (⟨none, some t⟩, ts)
  | ts => some ({}, ts)

/-- Whether the next token is one of some tokens. -/
def ahead (ends : List Token) (ts : List Token) : Bool := ts.head?.any ends.contains

/-- Drops the sign between two items of a flow collection; in front of the first item is none. -/
def skipFlowEntry? (first : Bool) (ts : List Token) : Option (List Token) :=
  if first then some ts
  else match ts with
    | .flowEntry :: ts => some ts
    | _ => none

mutual

/-- Reads a node. In a block, `block` tells that a block may begin, and `bare` that the items of a
list may stand without a block of their own. -/
def read? (handles : Handles) (fuel : Nat) (block bare : Bool) (ts : List Token) :
    Option (WrittenNode × List Token) :=
  match fuel, ts with
  | 0, _ => none
  | _, .alias name :: ts => some (.alias name, ts)
  | fuel + 1, ts => do
    let (p, ts) ← readProperties? handles ts
    match ts with
    | .scalar plain text :: ts => return (.scalar p plain text, ts)
    | .flowListStart :: ts =>
      let (items, ts) ← readFlowItems? handles fuel true ts
      return (.list p items, ts)
    | .flowTableStart :: ts =>
      let (rows, ts) ← readFlowRows? handles fuel true ts
      return (.table p rows, ts)
    | ts =>
      if bare && ahead [.blockEntry] ts then
        let (items, ts) ← readBareItems? handles fuel ts
        return (.list p items, ts)
      else if block && ahead [.blockListStart] ts then
        let (items, ts) ← readBlockItems? handles fuel (ts.drop 1)
        return (.list p items, ts)
      else if block && ahead [.blockTableStart] ts then
        let (rows, ts) ← readBlockRows? handles fuel (ts.drop 1)
        return (.table p rows, ts)
      else if p.anchor.isSome || p.tag.isSome then return (.scalar p true [], ts)
      else none

/-- Reads a node that may be left out in front of some tokens. -/
def readOr? (handles : Handles) (fuel : Nat) (ends : List Token) (block bare : Bool)
    (ts : List Token) : Option (WrittenNode × List Token) :=
  match fuel with
  | 0 => none
  | fuel + 1 => if ahead ends ts then some (empty, ts) else read? handles fuel block bare ts

/-- Reads the items of a list in a block of its own. -/
def readBlockItems? (handles : Handles) (fuel : Nat) (ts : List Token) :
    Option (List WrittenNode × List Token) :=
  match fuel, ts with
  | fuel + 1, .blockEntry :: ts => do
    let (v, ts) ← readOr? handles fuel [.blockEntry, .blockEnd] true false ts
    let (vs, ts) ← readBlockItems? handles fuel ts
    return (v :: vs, ts)
  | _, .blockEnd :: ts => some ([], ts)
  | _, _ => none

/-- Reads the items of a list without a block of its own. -/
def readBareItems? (handles : Handles) (fuel : Nat) (ts : List Token) :
    Option (List WrittenNode × List Token) :=
  match fuel, ts with
  | 0, _ => none
  | fuel + 1, .blockEntry :: ts => do
    let (v, ts) ← readOr? handles fuel [.blockEntry, .key, .value, .blockEnd] true false ts
    let (vs, ts) ← readBareItems? handles fuel ts
    return (v :: vs, ts)
  | _, ts => some ([], ts)

/-- Reads the rows of a table in a block. -/
def readBlockRows? (handles : Handles) (fuel : Nat) (ts : List Token) :
    Option (List (WrittenNode × WrittenNode) × List Token) :=
  match fuel, ts with
  | fuel + 1, .key :: ts => do
    let (k, ts) ← readOr? handles fuel [.key, .value, .blockEnd] true true ts
    let (v, ts) ← match ts with
      | .value :: ts => readOr? handles fuel [.key, .value, .blockEnd] true true ts
      | ts => some (empty, ts)
    let (rows, ts) ← readBlockRows? handles fuel ts
    return ((k, v) :: rows, ts)
  | _, .blockEnd :: ts => some ([], ts)
  | _, _ => none

/-- Reads a value of a row in a flow table; without its sign there is none. -/
def readFlowValue? (handles : Handles) (fuel : Nat) (ends : List Token) (ts : List Token) :
    Option (WrittenNode × List Token) :=
  match fuel, ts with
  | 0, _ => none
  | fuel + 1, .value :: ts => readOr? handles fuel ends false false ts
  | _, ts => some (empty, ts)

/-- Reads the row that stands as an item of a flow list, behind the sign of its key. The sign in
front of which the key is missing is dropped. -/
def readSingleRow? (handles : Handles) (fuel : Nat) (ts : List Token) :
    Option (WrittenNode × List Token) :=
  match fuel with
  | 0 => none
  | fuel + 1 => do
    let (k, ts) ←
      if ahead [.value, .flowEntry, .flowListEnd] ts then some (empty, ts.drop 1)
      else read? handles fuel false false ts
    let (v, ts) ← readFlowValue? handles fuel [.flowEntry, .flowListEnd] ts
    return (.table {} [(k, v)], ts)

/-- Reads the items of a flow list; `first` tells that there is none yet. -/
def readFlowItems? (handles : Handles) (fuel : Nat) (first : Bool) (ts : List Token) :
    Option (List WrittenNode × List Token) :=
  match fuel, ts with
  | 0, _ => none
  | _, .flowListEnd :: ts => some ([], ts)
  | fuel + 1, ts => do
    match ← skipFlowEntry? first ts with
    | .flowListEnd :: ts => return ([], ts)
    | .key :: ts =>
      let (v, ts) ← readSingleRow? handles fuel ts
      let (vs, ts) ← readFlowItems? handles fuel false ts
      return (v :: vs, ts)
    | ts =>
      let (v, ts) ← read? handles fuel false false ts
      let (vs, ts) ← readFlowItems? handles fuel false ts
      return (v :: vs, ts)

/-- Reads the rows of a flow table; `first` tells that there is none yet. -/
def readFlowRows? (handles : Handles) (fuel : Nat) (first : Bool) (ts : List Token) :
    Option (List (WrittenNode × WrittenNode) × List Token) :=
  match fuel, ts with
  | 0, _ => none
  | _, .flowTableEnd :: ts => some ([], ts)
  | fuel + 1, ts => do
    match ← skipFlowEntry? first ts with
    | .flowTableEnd :: ts => return ([], ts)
    | .key :: ts =>
      let (k, ts) ← readOr? handles fuel [.value, .flowEntry, .flowTableEnd] false false ts
      let (v, ts) ← readFlowValue? handles fuel [.flowEntry, .flowTableEnd] ts
      let (rows, ts) ← readFlowRows? handles fuel false ts
      return ((k, v) :: rows, ts)
    | ts =>
      let (k, ts) ← read? handles fuel false false ts
      let (rows, ts) ← readFlowRows? handles fuel false ts
      return ((k, empty) :: rows, ts)

end

end Node

/-- The directives in front of a document. -/
structure Directives where
  version : Option (Nat × Nat) := none
  handles : Handles := []

namespace Directives

/-- Reads directives. There is at most one version, and one text for a handle. -/
def read? (d : Directives) : List Token → Option (Directives × List Token)
  | .version major minor :: ts =>
    if d.version.isNone && major == 1 && (minor == 1 || minor == 2) then
      read? { d with version := some (major, minor) } ts
    else none
  | .handle name text :: ts =>
    if (d.handles.lookup name).isNone then read? { d with handles := (name, text) :: d.handles } ts
    else none
  | ts => some (d, ts)

/-- The handles, with those that always stand for something. -/
def allHandles (d : Directives) : Handles :=
  d.handles ++ [(['!'], ['!']), (['!', '!'], "tag:yaml.org,2002:".toList)]

end Directives

/-- Whether a token begins or ends a document, or stands in front of one. -/
def Token.isOutside : Token → Bool
  | .version .. | .handle .. | .documentStart | .documentEnd => true
  | _ => false

/-- Reads the root of a document behind its mark. -/
def Node.readRoot? (handles : Handles) (ts : List Token) : Option (WrittenNode × List Token) :=
  match ts with
  | [] => some (.empty, ts)
  | t :: _ =>
    if t.isOutside then some (.empty, ts) else Node.read? handles (3 * ts.length + 3) true false ts

/-- The root of the only document, if there is one. -/
def Node.ofTokens? (ts : List Token) : Option (Option WrittenNode) := do
  if ts.isEmpty then return none
  let (d, rest) ← Directives.read? {} ts
  let (root, rest) ← match rest with
    | .documentStart :: rest => Node.readRoot? d.allHandles rest
    | rest =>
      if rest.length = ts.length then Node.read? d.allHandles (3 * ts.length + 3) true false ts
      else none
  if (rest.dropWhile (· == .documentEnd)).isEmpty then some (some root) else none

end ServiceClient.Yaml
