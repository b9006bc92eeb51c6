import TableTalk.Grouping.Statistic
import TableTalk.Text.Lowercase

/-!
# Choosing columns by the data

Where neither the question nor the plan names a column, the first rows of the
data decide: a column is taken by a telling name, or because all its cells are
of one kind.
-/

namespace TableTalk.Engine

/-- The number of rows that are looked at. -/
def sampleSize : Nat := 10

/-- The columns of the first rows. -/
def sampleColumns (rows : Dataset) : List String :=
  ((rows.take sampleSize).flatMap Row.columns).eraseDups

/-- The first column whose name contains one of some words. -/
def namedColumn? (keywords : List String) (rows : Dataset) : Option String :=
  (sampleColumns rows).find? fun column =>
    let lowered := Text.lower column
    keywords.any (Text.contains lowered)

/-- Whether the first rows have a cell in the column and all such cells pass a test. -/
def allCells (test : Value → Bool) (rows : Dataset) (column : String) : Bool :=
  let cells := ((rows.take sampleSize).map fun row => row.value column).filter fun v => !v.isNull
  !cells.isEmpty && cells.all test

/-- A column of ratings, by its name. -/
def ratingColumn? (rows : Dataset) : Option String :=
  namedColumn? ["rating", "score", "stars", "rate", "value"] rows

/-- Whether a value is a date. -/
def isDate : Value → Bool
  | .date _ => true
  | _ => false

/-- A column of dates, by its name or by its cells. -/
def dateColumn? (rows : Dataset) : Option String :=
  namedColumn? ["date", "created", "timestamp", "time"] rows
    <|> (sampleColumns rows).find? (allCells isDate rows)

/-- The columns whose cells are numbers. -/
def numericColumns (rows : Dataset) : List String :=
  (sampleColumns rows).filter (allCells Value.isNumeric rows)

/-- The first column whose cells are numbers. -/
def numericColumn? (rows : Dataset) : Option String :=
  (numericColumns rows).head?

end TableTalk.Engine
