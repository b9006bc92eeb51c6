import TableTalk.Document.Record
import TableTalk.Json.Basic

/-!
# JSON values as documents

Every scalar of JSON is of one kind, so reading it as another fails; only whole
numbers may stand where a float is expected. A record may be given as an array of
its fields.
-/

namespace TableTalk.Json

/-- Whether the value is null. -/
def isNull : Json → Bool
  | null => true
  | _ => false

/-- A truth value. -/
def bool? : Json → Option Bool
  | bool b => some b
  | _ => none

/-- A number as a float. -/
def float? : Json → Option Float
  | int n => some (Float.ofInt n)
  | float x => some x
  | _ => none

/-- A whole number that is not negative. -/
def natural? : Json → Option Nat
  | int n => if 0 ≤ n then some n.toNat else none
  | _ => none

/-- A text. -/
def text? : Json → Option String
  | text s => some s
  | _ => none

/-- A text as a name. -/
def key? (json : Json) : Option Document.Key :=
  json.text?.map .name

/-- The items of an array. -/
def items? : Json → Option (List Json)
  | array items => some items
  | _ => none

/-- The members of an object. -/
def members? : Json → Option (List (Document.Key × Json))
  | object members => some (members.map fun member => (.name member.1, member.2))
  | _ => none

/-- A whole number as content. -/
def wholeContent (n : Int) : Content :=
  if 0 ≤ n then .natural n.toNat else .negative n

mutual

/-- The value as content, if all of it is readable. -/
def content? : Json → Option Content
  | null => some .null
  | bool b => some (.bool b)
  | int n => some (wholeContent n)
  | float x => some (.float x)
  | text s => some (.text s)
  | array items => (itemContents? items).map .sequence
  | object members => (memberContents? members).map .mapping
  | unreadable => none

/-- The items of an array as contents. -/
def itemContents? : List Json → Option (List Content)
  | [] => some []
  | item :: items => do
    let first ← content? item
    let rest ← itemContents? items
    pure (first :: rest)

/-- The members of an object as entries. -/
def memberContents? : List (String × Json) → Option (List (Content × Content))
  | [] => some []
  | (name, value) :: members => do
    let first ← content? value
    let rest ← memberContents? members
    pure ((.text name, first) :: rest)

end

instance : Document Json where
  isNull := isNull
  isUnit := isNull
  bool? := bool?
  natural? := natural?
  float? := float?
  text? := text?
  key? := key?
  items? := items?
  members? := members?
  fields? := items?
  content? := content?

/-- A value or null. -/
def ofOption (encode : α → Json) : Option α → Json
  | some a => encode a
  | none => null

/-- An array of encoded items. -/
def ofList (encode : α → Json) (items : List α) : Json :=
  array (items.map encode)

/-- A natural number. -/
def ofNat (n : Nat) : Json :=
  int n

end TableTalk.Json
