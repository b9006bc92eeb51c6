import TableTalk.Grouping.Statistic
import TableTalk.Intent.Basic

/-!
# Insights

Short remarks on a result: how many rows it has, the mean and range of its first
numeric column, outliers in it, and the change from the first to the last row
of a result over time.
-/

namespace TableTalk.Insights

/-- The first column, in the order in which columns are first seen, that holds a number. -/
def numericColumn? (rows : Dataset) : Option String :=
  (rows.flatMap Row.columns).eraseDups.find? fun column =>
    rows.any fun row => (row.value column).isNumeric

/-- The first number of a row. -/
def firstNumber? (row : Row) : Option Float :=
  row.cells.findSome? fun cell => cell.2.number?

/-- The mean and range of a column. -/
def range? (column : String) (values : List Float) : Option String := do
  let mean ← Statistics.mean values
  let least ← Statistics.least values
  let greatest ← Statistics.greatest values
  pure (column ++ ": mean " ++ Decimal.tableText mean ++ ", min " ++ Decimal.tableText least ++
    ", max " ++ Decimal.tableText greatest)

/-- The outliers of a column, if there are any. -/
def outliers? (column : String) (values : List Float) (multiplier : Float) : Option String := do
  let report ← Statistics.outliers values multiplier
  if report.found.isEmpty then none
  pure (toString report.found.length ++ " potential outlier(s) in " ++ column ++ " outside [" ++
    Decimal.tableText report.lower ++ ", " ++ Decimal.tableText report.upper ++ "]")

/-- How a number that has changed by some percent is said to have changed. -/
def changeWord (change : Float) : String :=
  if Decimal.isLess 0.0 change then "increased"
  else if Decimal.isLess change 0.0 then "decreased"
  else "stayed flat"

/-- The change of the first number from the first to the last of at least three rows. -/
def trend? (rows : Dataset) : Option String := do
  if rows.length < 3 then none
  let first ← rows.head?.bind firstNumber?
  let last ← rows.getLast?.bind firstNumber?
  if first == 0.0 then none
  let change := (last - first) / Decimal.abs first * 100.0
  pure ("Trend: " ++ changeWord change ++ " by " ++ Decimal.fixedText 1 (Decimal.abs change) ++
    "% from the first to the last period")

/-- The remarks on a result. -/
def remarks (rows : Dataset) (intent : Intent) (multiplier : Float) : List String :=
  let count := "Returned " ++ toString rows.length ++ " row(s)"
  let numeric :=
    match numericColumn? rows with
    | none => []
    | some column =>
      let values := Grouping.columnNumbers column rows
      (range? column values).toList ++ (outliers? column values multiplier).toList
  let trend := if intent.time.isSome then (trend? rows).toList else []
  count :: numeric ++ trend

end TableTalk.Insights
