/-!
# Content of unknown kind

A part of a document that is kept until it is known what is expected there. All
of it has to be readable, and every scalar has the kind that it has by itself.
-/

namespace TableTalk

/-- A part of a document, whatever the syntax it was written in. -/
inductive Content
  | null
  | bool (value : Bool)
  /-- A whole number that is not negative and fits in 64 bits. -/
  | natural (value : Nat)
  /-- A whole number with a sign that fits in 64 bits. -/
  | negative (value : Int)
  | float (value : Float)
  | text (value : String)
  | sequence (items : List Content)
  | mapping (entries : List (Content × Content))
deriving Inhabited

/-- What picks one of the fields of a record, or one of several kinds: its name, or its place among
them. -/
inductive Document.Key
  | name (name : String)
  | position (index : Nat)
deriving DecidableEq

namespace Content

/-- Whether the content is null. -/
def isNull : Content → Bool
  | null => true
  | _ => false

/-- Whether there is nothing in the content: null, or a mapping without entries. -/
def isUnit : Content → Bool
  | null => true
  | mapping [] => true
  | _ => false

/-- A truth value. -/
def bool? : Content → Option Bool
  | bool b => some b
  | _ => none

/-- A whole number that is not negative. -/
def natural? : Content → Option Nat
  | natural n => some n
  | _ => none

/-- A number as a float. -/
def float? : Content → Option Float
  | natural n => some (Float.ofNat n)
  | negative n => some (Float.ofInt n)
  | float x => some x
  | _ => none

/-- A text. -/
def text? : Content → Option String
  | text s => some s
  | _ => none

/-- A text or a position. -/
def key? : Content → Option Document.Key
  | text s => some (.name s)
  | natural n => some (.position n)
  | _ => none

/-- The items of a sequence. -/
def items? : Content → Option (List Content)
  | sequence items => some items
  | _ => none

/-- The entries of a mapping whose keys pick fields. -/
def members? : Content → Option (List (Document.Key × Content))
  | mapping entries => entries.mapM fun entry => (key? entry.1).map fun key => (key, entry.2)
  | _ => none

end Content

end TableTalk
