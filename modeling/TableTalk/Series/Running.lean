import TableTalk.Quantity
import TableTalk.Series.Order

/-!
# Neighbours and running figures

Cells of earlier or later rows, running totals and averages, and averages over a
window that trails behind each row. Cells that are no numbers count as zero.
-/

namespace TableTalk.Series

/-- The entry `offset` places before `index`. -/
def before? (values : List α) (offset index : Nat) : Option α :=
  if offset ≤ index then values[index - offset]? else none

/-- The entry `offset` places after `index`. -/
def after? (values : List α) (offset index : Nat) : Option α :=
  values[index + offset]?

/-- Puts a cell of another row into each row, or the default where there is no such row. -/
def neighbour (target : String) (find : List Value → Nat → Nat → Option Value) (column : String)
    (offset : Nat) (default : Value) (order : Option Order) (rows : Dataset) : Dataset :=
  let arranged := arrange order rows
  let source := arranged.map fun row => row.value column
  attach target
    ((List.range arranged.length).map fun i => (find source offset i).getD default) arranged

/-- The cell of an earlier row. -/
def lag : String → Nat → Value → Option Order → Dataset → Dataset :=
  neighbour "lag" before?

/-- The cell of a later row. -/
def lead : String → Nat → Value → Option Order → Dataset → Dataset :=
  neighbour "lead" after?

section Exact

variable {α : Type} [Quantity α]

/-- The totals up to each number, on top of a total so far. -/
def totalsFrom (total : α) : List α → List α
  | [] => []
  | x :: xs => (total + x) :: totalsFrom (total + x) xs

/-- The totals up to each number. -/
def runningTotals (values : List α) : List α :=
  totalsFrom (Quantity.ofNat 0) values

/-- The averages up to each number. -/
def runningAverages (values : List α) : List α :=
  (runningTotals values).zipIdx.map fun (total, i) => total / Quantity.ofNat (i + 1)

/-- The averages of each number and those before it within a window. -/
def rollingAverages (window : Nat) (values : List α) : List α :=
  (List.range values.length).map fun i =>
    let slice := (values.take (i + 1)).drop (i + 1 - max window 1)
    Quantity.sum slice / Quantity.ofNat slice.length

end Exact

/-- The number in a cell, zero if there is none. -/
def numberOrZero (row : Row) (column : String) : Float :=
  ((row.value column).number?).getD 0.0

/-- Puts figures that run over the numbers of a column into the rows. -/
def figures (target : String) (run : List Float → List Float) (column : String) (rows : Dataset) :
    Dataset :=
  attach target ((run (rows.map fun row => numberOrZero row column)).map .float) rows

/-- Running totals of a column. -/
def runningTotal (column : String) (order : Option Order) (rows : Dataset) : Dataset :=
  figures "running_total" runningTotals column (arrange order rows)

/-- Running averages of a column. -/
def runningAverage (column : String) (order : Option Order) (rows : Dataset) : Dataset :=
  figures "running_average" runningAverages column (arrange order rows)

/-- Averages of a column over a trailing window. -/
def rollingAverage (column : String) (window : Nat) (rows : Dataset) : Dataset :=
  figures "rolling_average" (rollingAverages window) column rows

end TableTalk.Series
