import ServiceClient.Yaml.Anchors
import ServiceClient.Yaml.Scalar

/-!
# Values of nodes

What a node stands for. A node with a tag of the application's own is a table with that tag as its
only key. Lists and tables lie in each other at most 128 deep, and the number of aliases that are
followed is bounded by the weight of the document.
-/

namespace ServiceClient.Yaml

/-- The name of a tag of the application's own. -/
def ownTag? : Option (List Char) → Option String
  | some ['!'] => some "!"
  | some ('!' :: name) => some (String.ofList name)
  | _ => none

/-- A value under the tag of its node. -/
def underTag (tag : Option (List Char)) (v : Json) : Json :=
  match ownTag? tag with
  | none => v
  | some name => .object [(name, v)]

/-- The value of a scalar. -/
def scalarNode? (tag : Option (List Char)) (plain : Bool) (text : List Char) : Option Json :=
  match tag, ownTag? tag with
  | some t, none => taggedValue? (String.ofList t) text
  | _, _ => some (underTag tag (scalarValue plain text))

/-- Carries a number along a list. -/
def threaded {α β : Type} (f : Nat → α → Option (β × Nat)) : Nat → List α → Option (List β × Nat)
  | n, [] => some ([], n)
  | n, x :: xs => do
    let (y, n) ← f n x
    let (ys, n) ← threaded f n xs
    return (y :: ys, n)

namespace Node

variable (targets : List (Nat × NumberedNode))

/-- The node that a node stands for; `budget` aliases may still be followed. -/
def follow? (budget : Nat) : NumberedNode → Option (NumberedNode × Nat)
  | .alias i => if budget = 0 then none else (targets.lookup i).map (·, budget - 1)
  | v => some (v, budget)

/-- The text of a key. -/
def keyText? (budget : Nat) (k : NumberedNode) : Option (String × Nat) :=
  match follow? targets budget k with
  | some (.scalar _ _ text, budget) => some (String.ofList text, budget)
  | _ => none

/-- The value of a node in which lists and tables may lie `depth` deep. -/
def value? (depth budget : Nat) (v : NumberedNode) : Option (Json × Nat) := do
  let (v, budget) ← follow? targets budget v
  match depth, v with
  | _, .scalar p plain text => (scalarNode? p.tag plain text).map (·, budget)
  | depth + 1, .list p items =>
    let (vs, budget) ← threaded (value? depth) budget items
    return (underTag p.tag (.array vs), budget)
  | depth + 1, .table p rows =>
    let (rows, budget) ← threaded (fun budget (k, v) => do
      let (name, budget) ← keyText? targets budget k
      let (v, budget) ← value? depth budget v
      return ((name, v), budget)) budget rows
    return (underTag p.tag (Json.ofFields rows), budget)
  | _, _ => none

end Node

/-- The depth to which lists and tables may lie in each other. -/
def maxDepth : Nat := 128

/-- The table that a document holds. A document without a text holds an empty one. -/
def Node.rootTable? (root : WrittenNode) : Option Json := do
  let (root, _) ← root.number? []
  match root with
  | .scalar _ true [] => some (.object [])
  | .table p rows =>
    let untagged : NumberedNode := .table { p with tag := none } rows
    (value? root.targets maxDepth (100 * root.weight) untagged).map (·.1)
  | _ => none

end ServiceClient.Yaml
