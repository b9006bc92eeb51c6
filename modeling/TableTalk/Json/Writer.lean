import TableTalk.Json.Basic
import TableTalk.Decimal.Notation

/-!
# Writing JSON text

The compact form has no blanks at all; the indented form puts every item and
member on a line of its own, two spaces deeper than its container. Numbers that
are not finite have no spelling and become null.
-/

namespace TableTalk.Json

/-- A hexadecimal digit in lower case. -/
def hexChar (n : Nat) : Char :=
  Nat.digitChar n

/-- A character as it stands in a quoted text. -/
def escaped (c : Char) : List Char :=
  if c == '"' then ['\\', '"']
  else if c == '\\' then ['\\', '\\']
  else if c == '\n' then ['\\', 'n']
  else if c == '\r' then ['\\', 'r']
  else if c == '\t' then ['\\', 't']
  else if c == '\x08' then ['\\', 'b']
  else if c == '\x0c' then ['\\', 'f']
  else if c.toNat < 0x20 then
    ['\\', 'u', '0', '0', hexChar (c.toNat / 16), hexChar (c.toNat % 16)]
  else [c]

/-- A quoted text. -/
def quote (text : String) : String :=
  String.ofList ('"' :: (text.toList.flatMap escaped ++ ['"']))

/-- A number, or null if it is not finite. -/
def floatText (x : Float) : String :=
  if Decimal.isFinite x then Decimal.jsonText x else "null"

mutual

/-- The compact form of a value. -/
def compact : Json → String
  | .null | .unreadable => "null"
  | .bool b => if b then "true" else "false"
  | .int n => toString n
  | .float x => floatText x
  | .text s => quote s
  | .array items => "[" ++ ",".intercalate (compactItems items) ++ "]"
  | .object members => "\x7b" ++ ",".intercalate (compactMembers members) ++ "\x7d"

/-- The compact forms of the items of an array. -/
def compactItems : List Json → List String
  | [] => []
  | item :: items => compact item :: compactItems items

/-- The compact forms of the members of an object. -/
def compactMembers : List (String × Json) → List String
  | [] => []
  | (name, value) :: members => (quote name ++ ":" ++ compact value) :: compactMembers members

end

/-- Lines of a container, each on its own line and indented. -/
def block (indent : String) (opening closing : String) (lines : List String) : String :=
  if lines.isEmpty then opening ++ closing
  else
    opening ++ "\n" ++ ",\n".intercalate (lines.map fun line => indent ++ "  " ++ line) ++ "\n" ++
      indent ++ closing

mutual

/-- The indented form of a value that stands at a given indentation. -/
def indented (indent : String) : Json → String
  | .array items => block indent "[" "]" (indentedItems (indent ++ "  ") items)
  | .object members => block indent "\x7b" "\x7d" (indentedMembers (indent ++ "  ") members)
  | .null | .unreadable => "null"
  | .bool b => if b then "true" else "false"
  | .int n => toString n
  | .float x => floatText x
  | .text s => quote s

/-- The indented forms of the items of an array. -/
def indentedItems (indent : String) : List Json → List String
  | [] => []
  | item :: items => indented indent item :: indentedItems indent items

/-- The indented forms of the members of an object. -/
def indentedMembers (indent : String) : List (String × Json) → List String
  | [] => []
  | (name, value) :: members =>
    (quote name ++ ": " ++ indented indent value) :: indentedMembers indent members

end

/-- The indented form of a document. -/
def pretty (value : Json) : String :=
  indented "" value

end TableTalk.Json
