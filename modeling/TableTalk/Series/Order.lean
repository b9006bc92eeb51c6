import TableTalk.Listing
import TableTalk.Row
import TableTalk.Text.Lowercase

/-!
# Sorting rows

Rows are sorted by the cells of a column. Rows with equal cells keep their
order, in both directions.
-/

namespace TableTalk

/-- A direction of sorting. -/
inductive Direction
  | ascending
  | descending
deriving DecidableEq, Repr, Inhabited

namespace Direction

/-- The name of a direction in documents. -/
def name : Direction → String
  | ascending => "ASC"
  | descending => "DESC"

/-- The word for a direction. -/
def word : Direction → String
  | ascending => "ascending"
  | descending => "descending"

/-- Whether a value comes before another. -/
def precedes (direction : Direction) (a b : Value) : Bool :=
  match direction with
  | ascending => a.compare b == .lt
  | descending => a.compare b == .gt

/-- A text that names no direction, in lower case and without blanks around it. -/
structure Unknown where
  text : String

/-- What is said of an unknown direction. -/
def Unknown.message (unknown : Unknown) : String :=
  "Unknown sort direction '" ++ unknown.text ++ "'"

/-- Reads a direction. -/
def read (text : String) : Except Unknown Direction :=
  let word := Text.lowerAscii (Text.trim text)
  if word == "asc" || word == "ascending" then .ok ascending
  else if word == "desc" || word == "descending" then .ok descending
  else .error ⟨word⟩

end Direction

namespace Series

/-- Sorts rows by a column. -/
def sortRows (column : String) (direction : Direction) (rows : Dataset) : Dataset :=
  Listing.sort (fun a b => direction.precedes (a.value column) (b.value column)) rows

/-- The order in which a series runs over its rows. -/
structure Order where
  column : String
  direction : Direction

/-- The rows in the order of a series, as they stand if there is none. -/
def arrange (order : Option Order) (rows : Dataset) : Dataset :=
  match order with
  | some order => sortRows order.column order.direction rows
  | none => rows

/-- Puts a value into every row, row by row. -/
def attach (column : String) (values : List Value) (rows : Dataset) : Dataset :=
  List.zipWith (fun row value => row.insert column value) rows values

end Series

end TableTalk
