/-
Nodes of YAML documents.

A node may bear a label, and a reference stands for the last node of the document that bears some
label.

* `Node`: scalars, sequences, mappings, and references;
* `Node.labelled`: the nodes that bear labels, in the order in which they start;
* `Node.unfolded`: a document, the references among the members of its mapping being replaced.
-/
import LeasedStore.Yaml.Scalar.Basic

namespace LeasedStore.Yaml

/-- A node of a document. -/
inductive Node where
  | reference (label : Nat)
  | scalar (label : Option Nat) (s : Scalar)
  | sequence (label : Option Nat) (items : List Node)
  | mapping (label : Option Nat) (members : List (Node × Node))
  deriving Inhabited

namespace Node

/-- The node that is not there. -/
def empty : Node := .scalar none .empty

/-- A node, if it bears a label. -/
def ofLabel (n : Node) (label : Option Nat) : List (Nat × Node) :=
  label.toList.map fun l => (l, n)

mutual

/-- The nodes that bear labels. -/
def labelled : Node → List (Nat × Node)
  | .reference _ => []
  | .scalar label s => ofLabel (.scalar label s) label
  | .sequence label items => ofLabel (.sequence label items) label ++ labelledItems items
  | .mapping label members => ofLabel (.mapping label members) label ++ labelledMembers members

/-- Those of some items. -/
def labelledItems : List Node → List (Nat × Node)
  | [] => []
  | n :: rest => labelled n ++ labelledItems rest

/-- Those of some members. -/
def labelledMembers : List (Node × Node) → List (Nat × Node)
  | [] => []
  | (key, value) :: rest => labelled key ++ labelled value ++ labelledMembers rest

end

/-- What a node of a document stands for. -/
def follow (root : Node) : Node → Node
  | .reference label => (root.labelled.reverse.lookup label).getD empty
  | n => n

/-- A document whose members are given by the nodes that they stand for. -/
def unfolded (root : Node) : Node :=
  match root with
  | .mapping label members =>
    .mapping label (members.map fun m => (root.follow m.1, root.follow m.2))
  | n => n

end Node

end LeasedStore.Yaml
