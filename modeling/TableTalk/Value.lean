import TableTalk.Calendar.Notation
import TableTalk.Calendar.Read
import TableTalk.Decimal.Notation
import TableTalk.Document.Basic
import TableTalk.Json.Basic

/-!
# Cell values

The scalar values of table cells, the number and date a value stands for, its
display, and the order used for sorting, ties and filters. Values of one kind
are ordered among themselves, finite numbers by size whether whole or not, and
all other pairs by the rank of their kinds.
-/

namespace TableTalk

open Calendar (Timestamp)

/-- The value of a cell. -/
inductive Value
  | null
  | boolean (value : Bool)
  | integer (value : Int64)
  | float (value : Float)
  | text (value : String)
  | date (value : Timestamp)
deriving DecidableEq

namespace Value

instance : Inhabited Value := ⟨null⟩

/-- Whether the value is null. -/
def isNull : Value → Bool
  | null => true
  | _ => false

/-- The finite number that the value is; text that looks like a number is none. -/
def number? : Value → Option Float
  | integer i => some (Float.ofInt i.toInt)
  | float x => if Decimal.isFinite x then some x else none
  | _ => none

/-- Whether the value is a finite number. -/
def isNumeric (value : Value) : Bool :=
  value.number?.isSome

/-- The point in time that the value is or that its text spells. -/
def date? : Value → Option Timestamp
  | date t => some t
  | text s => Calendar.read? s
  | _ => none

/-- The text that the value is. -/
def text? : Value → Option String
  | text s => some s
  | _ => none

/-- A whole number as text. -/
def integerText (n : Int) : String :=
  String.ofList
    (if n < 0 then '-' :: Decimal.digitText n.natAbs else Decimal.digitText n.natAbs)

/-- The value as shown to people. -/
def display : Value → String
  | null => "null"
  | boolean b => if b then "true" else "false"
  | integer i => integerText i.toInt
  | float x => Decimal.tableText x
  | text s => s
  | date t => t.display

/-- The place of the value's kind among the kinds. -/
def rank : Value → Nat
  | null => 0
  | boolean _ => 1
  | integer _ | float _ => 2
  | date _ => 3
  | text _ => 4

/-- Orders two values by number if both are finite numbers, else by kind. -/
def compareMixed (a b : Value) : Ordering :=
  match a.number?, b.number? with
  | some x, some y => Ord.compare (Decimal.totalKey x) (Decimal.totalKey y)
  | _, _ => Ord.compare a.rank b.rank

/-- The order of values. -/
def compare (a b : Value) : Ordering :=
  match a, b with
  | boolean x, boolean y => Ord.compare x.toNat y.toNat
  | text x, text y => Ord.compare x y
  | date x, date y => Ord.compare x y
  | _, _ => compareMixed a b

/-- The value as it stands in a JSON document. Dates are texts without fractions of a second. -/
def toJson : Value → Json
  | null => .null
  | boolean b => .bool b
  | integer i => .int i.toInt
  | float x => .float x
  | text s => .text s
  | date t => .text t.text

/-- A whole number as a value; beyond 64 signed bits it becomes a float. -/
def ofWhole (n : Int) : Value :=
  if Int64.minValue.toInt ≤ n ∧ n ≤ Int64.maxValue.toInt then integer (Int64.ofInt n)
  else float (Float.ofInt n)

/-- The scalar of a document as a value. -/
def ofContent? : Content → Option Value
  | .null => some null
  | .bool b => some (boolean b)
  | .natural n => some (ofWhole n)
  | .negative n => some (ofWhole n)
  | .float x => some (float x)
  | .text s => some (text s)
  | _ => none

/-- Reads a value. -/
def read? {δ : Type} [Document δ] (node : δ) : Option Value :=
  (Document.content? node).bind ofContent?

end Value

end TableTalk
