import TableTalk.Document.Content

/-!
# Structured documents

What the readers of schemas, options and other records need from a document,
whatever its syntax: a view of every node as each of the kinds that may be
expected of it. A view is missing if the node is not of that kind.
-/

namespace TableTalk

/-- A form of structured data. -/
class Document (δ : Type) where
  isNull : δ → Bool
  /-- Whether the node may stand beside a name that says all. -/
  isUnit : δ → Bool
  bool? : δ → Option Bool
  /-- A whole number that is not negative and fits in 64 bits. -/
  natural? : δ → Option Nat
  float? : δ → Option Float
  text? : δ → Option String
  /-- The node as that which picks a kind. -/
  key? : δ → Option Document.Key
  items? : δ → Option (List δ)
  members? : δ → Option (List (Document.Key × δ))
  /-- The fields of a record that is given as a list. -/
  fields? : δ → Option (List δ)
  /-- The node with all its parts, each as what it is by itself. -/
  content? : δ → Option Content

namespace Document

instance : Document Content where
  isNull := Content.isNull
  isUnit := Content.isUnit
  bool? := Content.bool?
  natural? := Content.natural?
  float? := Content.float?
  text? := Content.text?
  key? := Content.key?
  items? := Content.items?
  members? := Content.members?
  fields? := Content.items?
  content? := some

variable {δ : Type} [Document δ]

/-- Reads a list item by item. -/
def list? (decode : δ → Option α) (node : δ) : Option (List α) :=
  (items? node).bind fun items => items.mapM decode

/-- Reads a node that may be null. -/
def nullable (decode : δ → Option α) (node : δ) : Option (Option α) :=
  if isNull node then some none else (decode node).map some

/-- The name that a node stands for: a text, or the only key of a mapping that says no more. -/
def name? (node : δ) : Option String :=
  match text? node with
  | some name => some name
  | none =>
    match members? node with
    | some [(.name name, rest)] => if isUnit rest then some name else none
    | _ => none

/-- The value of a list of named values that a node names. -/
def named? (values : List (String × α)) (node : δ) : Option α :=
  (name? node).bind fun name => values.lookup name

/-- The value that a key picks from a list of named values. -/
def pick? (values : List (String × α)) : Key → Option α
  | .name name => values.lookup name
  | .position index => values[index]?.map Prod.snd

/-- The node that carries the kind of a value under a tag. A list has it in front. -/
def tag? (tag : String) (node : δ) : Option δ :=
  match members? node with
  | some members =>
    match members.filter fun member => member.1 == .name tag with
    | [(_, kind)] => some kind
    | _ => none
  | none => (fields? node).bind List.head?

/-- The content of a value without its tag. -/
def untagged (tag : String) : Content → Content
  | .mapping entries => .mapping (entries.filter fun entry => entry.1.text? != some tag)
  | .sequence items => .sequence (items.drop 1)
  | content => content

/-- A value that carries one of several kinds in a tag: the kind, and the rest as content, since it
is kept until the kind is known. -/
def tagged? (tag : String) (kinds : List (String × κ)) (node : δ) : Option (κ × Content) := do
  let content ← content? node
  let carrier ← tag? tag node
  let key ← key? carrier
  let kind ← pick? kinds key
  pure (kind, untagged tag content)

end Document

end TableTalk
