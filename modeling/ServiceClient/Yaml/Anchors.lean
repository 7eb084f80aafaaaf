import ServiceClient.Yaml.Node

/-!
# Anchors

An alias stands for the node with its anchor in front of it. An anchor gets the number of the
different names of anchors in front of it; of nodes with one number the last one counts.
-/

namespace ServiceClient.Yaml

/-- The numbers of the anchors by their names. -/
abbrev AnchorNumbers := List (List Char × Nat)

/-- A node whose anchors are numbers. -/
abbrev NumberedNode := Node Nat

/-- The numbers with those of a node's own anchor, and its properties with that number. -/
def AnchorNumbers.addOf (ns : AnchorNumbers) (p : NodeProperties (List Char)) :
    AnchorNumbers × NodeProperties Nat :=
  match p.anchor with
  | none => (ns, ⟨none, p.tag⟩)
  | some name => ((name, ns.length) :: ns.filter (·.1 != name), ⟨some ns.length, p.tag⟩)

namespace Node

mutual

/-- A node with numbers in place of the names of its anchors; none when an alias names no anchor. -/
def number? (ns : AnchorNumbers) : WrittenNode → Option (NumberedNode × AnchorNumbers)
  | .alias name => (ns.lookup name).map (.alias ·, ns)
  | .scalar p plain text => some (.scalar (ns.addOf p).2 plain text, (ns.addOf p).1)
  | .list p items =>
    (numberItems? (ns.addOf p).1 items).map fun (items, rest) => (.list (ns.addOf p).2 items, rest)
  | .table p rows =>
    (numberRows? (ns.addOf p).1 rows).map fun (rows, rest) => (.table (ns.addOf p).2 rows, rest)

/-- Numbers the anchors of some nodes, one after the other. -/
def numberItems? (ns : AnchorNumbers) :
    List WrittenNode → Option (List NumberedNode × AnchorNumbers)
  | [] => some ([], ns)
  | v :: vs => do
    let (v, ns) ← number? ns v
    let (vs, ns) ← numberItems? ns vs
    return (v :: vs, ns)

/-- Numbers the anchors of some rows, the key before the value. -/
def numberRows? (ns : AnchorNumbers) :
    List (WrittenNode × WrittenNode) → Option (List (NumberedNode × NumberedNode) × AnchorNumbers)
  | [] => some ([], ns)
  | (k, v) :: rows => do
    let (k, ns) ← number? ns k
    let (v, ns) ← number? ns v
    let (rows, ns) ← numberRows? ns rows
    return ((k, v) :: rows, ns)

end

mutual

/-- A node and the nodes in it, each one before those in it. -/
def nodes {ν : Type} : Node ν → List (Node ν)
  | .alias name => [.alias name]
  | .scalar p plain text => [.scalar p plain text]
  | .list p items => .list p items :: nodesOfItems items
  | .table p rows => .table p rows :: nodesOfRows rows

/-- The nodes in some nodes. -/
def nodesOfItems {ν : Type} : List (Node ν) → List (Node ν)
  | [] => []
  | v :: vs => v.nodes ++ nodesOfItems vs

/-- The nodes in some rows. -/
def nodesOfRows {ν : Type} : List (Node ν × Node ν) → List (Node ν)
  | [] => []
  | (k, v) :: rows => k.nodes ++ v.nodes ++ nodesOfRows rows

end

/-- The anchor of a node. -/
def anchor? {ν : Type} : Node ν → Option ν
  | .alias _ => none
  | .scalar p _ _ | .list p _ | .table p _ => p.anchor

/-- The nodes with anchors in a node, by their numbers, the last one first. -/
def targets (root : NumberedNode) : List (Nat × NumberedNode) :=
  (root.nodes.filterMap fun v => v.anchor?.map (·, v)).reverse

/-- The number of signs that a node is made of: one for a scalar or an alias, and two around the
nodes of a list or a table. -/
def weight {ν : Type} (root : Node ν) : Nat :=
  root.nodes.foldl (fun n v =>
    match v with
    | .alias _ | .scalar .. => n + 1
    | .list .. | .table .. => n + 2) 0

end Node
end ServiceClient.Yaml
