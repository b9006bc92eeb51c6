import TableTalk.Text.Lowercase
import TableTalk.Text.Words

/-!
# Kinds of columns

The kinds of data that a column can hold, and the kind that a declared database
type stands for.
-/

namespace TableTalk

/-- What the cells of a column have in common. -/
inductive ColumnKind
  | number
  | integer
  | float
  | date
  | boolean
  | id
  | email
  | url
  | text
  | category
  | unknown
  | null
deriving DecidableEq, Repr, Inhabited

namespace ColumnKind

/-- The name of a kind. -/
def name : ColumnKind → String
  | number => "number"
  | integer => "integer"
  | float => "float"
  | date => "date"
  | boolean => "boolean"
  | id => "id"
  | email => "email"
  | url => "url"
  | text => "text"
  | category => "category"
  | unknown => "unknown"
  | null => "null"

/-- All kinds. -/
def all : List ColumnKind :=
  [number, integer, float, date, boolean, id, email, url, text, category, unknown, null]

/-- Whether the cells of such a column are numbers. -/
def isNumeric : ColumnKind → Bool
  | number | integer | float => true
  | _ => false

/-- The type names that declare each kind. -/
def declarations : List (ColumnKind × List String) :=
  [(integer, ["int", "integer", "bigint", "smallint", "tinyint", "int32", "int64", "long",
      "serial"]),
    (float, ["float", "double", "real", "float64"]),
    (number, ["decimal", "numeric", "number", "money"]),
    (date, ["date", "datetime", "timestamp", "timestamptz", "time"]),
    (boolean, ["bool", "boolean", "bit"]),
    (id, ["uuid", "objectid", "guid", "uniqueidentifier"]),
    (text, ["varchar", "char", "text", "string", "nvarchar", "character"])]

/-- The kind nearest to a declared type, whose parameters and qualifiers do not matter. -/
def ofDeclared (declared : String) : ColumnKind :=
  let lowered := (Text.lowerAscii (Text.trim declared)).toList
  let base := String.ofList (lowered.takeWhile fun c => c != '(' && !Text.isBlank c)
  match declarations.find? fun entry => entry.2.contains base with
  | some (kind, _) => kind
  | none => unknown

end ColumnKind

end TableTalk
