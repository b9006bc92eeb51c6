import TableTalk.Yaml.Token

/-!
# Nodes of a YAML document

A document is a tree of scalars, sequences and mappings. A node may carry a tag,
which says of what kind it is, and an anchor, to which other places refer.
-/

namespace TableTalk.Yaml

/-- What stands before a node. -/
structure Label where
  anchor : Option Nat := none
  tag : Option String := none

/-- A node of a document. -/
inductive Node
  | scalar (label : Label) (style : Style) (text : String)
  | sequence (label : Label) (items : List Node)
  | mapping (label : Label) (entries : List (Node × Node))
  /-- The node with an anchor. -/
  | reference (anchor : Nat)

namespace Node

/-- The node that stands where nothing is written. -/
def empty : Node := scalar {} .plain ""

/-- A node under its anchor, if it has one. -/
def underAnchor (label : Label) (node : Node) : List (Nat × Node) :=
  match label.anchor with
  | some anchor => [(anchor, node)]
  | none => []

mutual

/-- The nodes with anchors in the order in which they begin. -/
def anchored : Node → List (Nat × Node)
  | scalar label style text => underAnchor label (scalar label style text)
  | sequence label items => underAnchor label (sequence label items) ++ itemsAnchored items
  | mapping label entries => underAnchor label (mapping label entries) ++ entriesAnchored entries
  | reference _ => []

/-- The nodes with anchors among items. -/
def itemsAnchored : List Node → List (Nat × Node)
  | [] => []
  | item :: items => anchored item ++ itemsAnchored items

/-- The nodes with anchors among entries. -/
def entriesAnchored : List (Node × Node) → List (Nat × Node)
  | [] => []
  | (key, value) :: entries => anchored key ++ anchored value ++ entriesAnchored entries

end

mutual

/-- The length of a node: one for a scalar or a reference, and one for either end of a
collection. -/
def size : Node → Nat
  | scalar _ _ _ => 1
  | sequence _ items => itemsSize items + 2
  | mapping _ entries => entriesSize entries + 2
  | reference _ => 1

/-- The length of all items. -/
def itemsSize : List Node → Nat
  | [] => 0
  | item :: items => size item + itemsSize items

/-- The length of all entries. -/
def entriesSize : List (Node × Node) → Nat
  | [] => 0
  | (key, value) :: entries => size key + size value + entriesSize entries

end

end Node

end TableTalk.Yaml
