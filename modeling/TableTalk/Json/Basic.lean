/-!
# JSON values

A document is a tree of scalars, arrays and objects. Objects keep their members
in order and may repeat a name; what a repeated name means is left to whoever
decodes the object. Numbers written without point or exponent are whole numbers
as long as they fit in 64 bits.
-/

namespace TableTalk

/-- A JSON value. -/
inductive Json
  | null
  | bool (value : Bool)
  /-- A whole number between -2^63 and 2^64 - 1. -/
  | int (value : Int)
  | float (value : Float)
  | text (value : String)
  | array (items : List Json)
  | object (members : List (String × Json))
  /-- What is well formed but has no value, such as a number too large for binary64. -/
  | unreadable
deriving Inhabited, BEq

end TableTalk
