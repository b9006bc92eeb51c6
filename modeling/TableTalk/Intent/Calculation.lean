import TableTalk.Json.Document

/-!
# Calculations that a question asks for

Aggregate functions, which turn rows into one figure, and window functions,
which give every row a figure of its own.
-/

namespace TableTalk

/-- A figure calculated from the cells of many rows. -/
inductive AggregateFunction
  | avg
  | sum
  | count
  | max
  | min
  | median
  | mode
  | stdev
  | variance
  | correlation
  | covariance
deriving DecidableEq, Repr, Inhabited

namespace AggregateFunction

/-- All aggregate functions. -/
def all : List AggregateFunction :=
  [avg, sum, count, max, min, median, mode, stdev, variance, correlation, covariance]

/-- The name of a function. -/
def name : AggregateFunction → String
  | avg => "AVG"
  | sum => "SUM"
  | count => "COUNT"
  | max => "MAX"
  | min => "MIN"
  | median => "MEDIAN"
  | mode => "MODE"
  | stdev => "STDEV"
  | variance => "VARIANCE"
  | correlation => "CORRELATION"
  | covariance => "COVARIANCE"

/-- How the names of a function's columns begin. -/
def label : AggregateFunction → String
  | avg => "avg"
  | sum => "sum"
  | count => "count"
  | max => "max"
  | min => "min"
  | median => "median"
  | mode => "mode"
  | stdev => "stdev"
  | variance => "variance"
  | correlation => "correlation"
  | covariance => "covariance"

/-- Whether the function takes two columns. -/
def isPairwise : AggregateFunction → Bool
  | correlation | covariance => true
  | _ => false

/-- Reads a function. -/
def read? {δ : Type} [Document δ] : δ → Option AggregateFunction :=
  Document.named? (all.map fun f => (f.name, f))

end AggregateFunction

/-- An aggregate function and the columns that it is applied to. -/
structure Aggregation where
  function : AggregateFunction
  column : Option String := none
  /-- The second column of a function that takes two. -/
  pairedWith : Option String := none
deriving DecidableEq, Inhabited

namespace Aggregation

/-- The aggregation in words. -/
def describe (a : Aggregation) : String :=
  a.function.name ++
    match a.column, a.pairedWith with
    | some column, some other => "(" ++ column ++ ", " ++ other ++ ")"
    | some column, none => "(" ++ column ++ ")"
    | none, _ => if a.function = .count then "(*)" else "(<numeric column>)"

/-- The aggregation as a JSON object. -/
def toJson (a : Aggregation) : Json :=
  .object
    ([("function", .text a.function.name), ("column", .ofOption .text a.column)] ++
      match a.pairedWith with
      | some other => [("paired_with", .text other)]
      | none => [])

/-- Reads an aggregation. -/
def read? {δ : Type} [Document δ] (node : δ) : Option Aggregation := do
  let record ← Record.read? [["function"], ["column"], ["paired_with"]] node
  let function ← record.required "function" AggregateFunction.read?
  let column ← record.optional "column" Document.text?
  let pairedWith ← record.withDefault "paired_with" none (Document.nullable Document.text?)
  pure { function, column, pairedWith }

end Aggregation

/-- A figure that every row gets from the rows around it. -/
inductive WindowFunction
  | rank
  | denseRank
  | rowNumber
  | runningTotal
  | runningAvg
  | rollingAvg
  | lag
  | lead
  | percentile
  | percentRank
  | ntile
deriving DecidableEq, Repr, Inhabited

namespace WindowFunction

/-- All window functions. -/
def all : List WindowFunction :=
  [rank, denseRank, rowNumber, runningTotal, runningAvg, rollingAvg, lag, lead, percentile,
    percentRank, ntile]

/-- The name of a function. -/
def name : WindowFunction → String
  | rank => "RANK"
  | denseRank => "DENSE_RANK"
  | rowNumber => "ROW_NUMBER"
  | runningTotal => "RUNNING_TOTAL"
  | runningAvg => "RUNNING_AVG"
  | rollingAvg => "ROLLING_AVG"
  | lag => "LAG"
  | lead => "LEAD"
  | percentile => "PERCENTILE"
  | percentRank => "PERCENT_RANK"
  | ntile => "NTILE"

/-- Whether the function orders rows by its own column. -/
def ranksValues : WindowFunction → Bool
  | rank | denseRank | rowNumber | percentile | percentRank | ntile => true
  | _ => false

end WindowFunction

/-- A window function and the column that it is applied to. -/
structure WindowRequest where
  function : WindowFunction
  column : Option String := none
deriving DecidableEq, Inhabited

namespace WindowRequest

/-- The request as a JSON object. -/
def toJson (request : WindowRequest) : Json :=
  .object [("function", .text request.function.name), ("column", .ofOption .text request.column)]

/-- Reads a request. -/
def read? {δ : Type} [Document δ] (node : δ) : Option WindowRequest := do
  let record ← Record.read? [["function"], ["column"]] node
  let function ←
    record.required "function" (Document.named? (WindowFunction.all.map fun f => (f.name, f)))
  let column ← record.optional "column" Document.text?
  pure { function, column }

end WindowRequest

end TableTalk
