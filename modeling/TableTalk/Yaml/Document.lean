import TableTalk.Document.Record
import TableTalk.Yaml.Grammar
import TableTalk.Yaml.Scalar

/-!
# YAML documents

A node is seen together with the anchors of its document. A plain scalar is read
as what is expected in its place; where nothing is expected, it is what it stands
for by itself. An empty plain scalar may also stand for an empty collection.
Collections are nested at most 128 deep where they are read.
-/

namespace TableTalk

/-- A node of a YAML document. -/
structure Yaml where
  node : Yaml.Node
  /-- The nodes with anchors, the latest first. -/
  anchors : List (Nat × Yaml.Node)
  /-- The number of collections that may still be nested from here on. -/
  depth : Nat
  /-- The number of references that may be followed within one part of the document. -/
  budget : Nat

namespace Yaml

/-- The root of a document. -/
def ofNode (node : Node) : Yaml :=
  { node, anchors := node.anchored.reverse, depth := 128, budget := 100 * node.size }

/-- The node without references. -/
def target (y : Yaml) : Option Node :=
  match y.node with
  | .reference anchor => y.anchors.lookup anchor
  | node => some node

/-- A part of a collection. -/
def part (y : Yaml) (node : Node) : Yaml :=
  { y with node, depth := y.depth - 1 }

/-- The text of a scalar that may be read as a kind: a plain one, or a literal one with the tag of
this kind. -/
def kindText? (y : Yaml) (kind : String) : Option String :=
  match y.target with
  | some (.scalar _ .plain text) => some text
  | some (.scalar label .literal text) =>
    if label.tag == some (coreTag kind) then some text else none
  | _ => none

/-- Whether the node is null. -/
def isNull (y : Yaml) : Bool :=
  (y.kindText? "null").any isNullText

/-- A truth value. -/
def bool? (y : Yaml) : Option Bool :=
  (y.kindText? "bool").bind boolOfText?

/-- A whole number that is not negative. -/
def natural? (y : Yaml) : Option Nat :=
  (y.kindText? "int").bind naturalOfText?

/-- A number. -/
def float? (y : Yaml) : Option Float :=
  (y.kindText? "float").bind floatOfText?

/-- The text of a scalar. -/
def text? (y : Yaml) : Option String :=
  match y.target with
  | some (.scalar _ _ text) => some text
  | _ => none

/-- The text of a scalar as a name. -/
def key? (y : Yaml) : Option Document.Key :=
  y.text?.map .name

/-- The items of a sequence. -/
def items? (y : Yaml) : Option (List Yaml) :=
  match y.target with
  | some (.sequence _ items) => if y.depth = 0 then none else some (items.map y.part)
  | some (.scalar _ .plain "") => some []
  | _ => none

/-- The entries of a mapping whose keys are scalars. -/
def members? (y : Yaml) : Option (List (Document.Key × Yaml)) :=
  match y.target with
  | some (.mapping _ entries) =>
    if y.depth = 0 then none
    else entries.mapM fun (key, value) => ((y.part key).key?).map fun key => (key, y.part value)
  | some (.scalar _ .plain "") => some []
  | _ => none

/-- Whether a tag names a kind that only its own document knows. -/
def isLocalTag (label : Label) : Bool :=
  label.tag.any fun tag => tag.toList.head? == some '!'

/-- What a scalar stands for by itself. -/
def scalarContent? (label : Label) (style : Style) (text : String) : Option Content :=
  if isLocalTag label then none
  else
    match label.tag with
    | some tag => taggedContent? tag text
    | none => if style = .plain then plainContent? text else some (.text text)

/-- The node that a reference leads to, for one of the budget. -/
def follow? (anchors : List (Nat × Node)) (node : Node) : StateT Nat Option Node := do
  match node with
  | .reference anchor =>
    let budget ← get
    if budget = 0 then failure
    set (budget - 1)
    (anchors.lookup anchor).elim failure pure
  | node => pure node

/-- What a node stands for by itself, if its collections are nested at most `depth` deep. -/
def contentWithin? (anchors : List (Nat × Node)) : (depth : Nat) → Node → StateT Nat Option Content
  | 0, node => do
    match ← follow? anchors node with
    | .scalar label style text => (scalarContent? label style text).elim failure pure
    | _ => failure
  | depth + 1, node => do
    match ← follow? anchors node with
    | .scalar label style text => (scalarContent? label style text).elim failure pure
    | .sequence label items =>
      if isLocalTag label then failure
      let items ← items.mapM (contentWithin? anchors depth)
      pure (.sequence items)
    | .mapping label entries =>
      if isLocalTag label then failure
      let entries ← entries.mapM fun (key, value) => do
        pure (← contentWithin? anchors depth key, ← contentWithin? anchors depth value)
      pure (.mapping entries)
    | .reference _ => failure

/-- What the node stands for by itself. -/
def content? (y : Yaml) : Option Content :=
  ((contentWithin? y.anchors y.depth y.node).run y.budget).map Prod.fst

instance : Document Yaml where
  isNull := isNull
  isUnit := isNull
  bool? := bool?
  natural? := natural?
  float? := float?
  text? := text?
  key? := key?
  items? := items?
  members? := members?
  fields? := fun _ => none
  content? := content?

/-- Reads a text with one document. -/
def read? (text : String) : Option Yaml := do
  let tokens ← tokens? text
  let node ← Node.ofTokens? tokens
  pure (ofNode node)

end Yaml

end TableTalk
