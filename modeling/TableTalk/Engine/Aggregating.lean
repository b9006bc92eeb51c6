import TableTalk.Engine.State

/-!
# Aggregating

Each aggregation is first given its columns and the name of its own column, and
then calculated for all rows or for every group. Counting takes all rows; the
other functions take the finite numbers of their columns, and functions of two
columns the rows where both are numbers.
-/

namespace TableTalk.Engine

/-- An aggregation whose columns are settled. -/
structure Metric where
  function : AggregateFunction
  column : Option String
  pairedWith : Option String
  /-- The column that holds the figure. -/
  name : String
deriving DecidableEq

/-- The pairs of numbers of two columns. -/
def numberPairs (x y : String) (rows : Dataset) : List (Float × Float) :=
  rows.filterMap fun row => do
    let a ← (row.value x).number?
    let b ← (row.value y).number?
    pure (a, b)

/-- A figure that may be missing, as a value. -/
def figure : Option Float → Value :=
  Grouping.Statistic.valueOf

/-- A figure of one column's numbers. -/
def single (function : AggregateFunction) (values : List Float) : Value :=
  match function with
  | .sum => .float (Quantity.sum values)
  | .avg => figure (Statistics.mean values)
  | .max => figure (Statistics.greatest values)
  | .min => figure (Statistics.least values)
  | .median => figure (Statistics.median values)
  | .mode => figure (Statistics.mode values)
  | .stdev => if values.isEmpty then .null else .float (Statistics.standardDeviation .sample values)
  | .variance => if values.isEmpty then .null else .float (Statistics.variance .sample values)
  | _ => .null

/-- Calculates a metric. -/
def Metric.compute (metric : Metric) (rows : Dataset) : Value :=
  if metric.function = .count then .integer (Int64.ofNat rows.length)
  else if metric.function.isPairwise then
    match metric.column, metric.pairedWith with
    | some x, some y =>
      let pairs := numberPairs x y rows
      let xs := pairs.map Prod.fst
      let ys := pairs.map Prod.snd
      if metric.function = .correlation then figure (Statistics.correlation xs ys)
      else figure (Statistics.covariance .sample xs ys)
    | _, _ => .null
  else
    single metric.function
      (match metric.column with
      | some column => Grouping.columnNumbers column rows
      | none => [])

/-- No column is suggested. -/
def noSuggestion : Dataset → Option String :=
  fun _ => none

/-- A column of a pair: the one that is named, or a suggestion. -/
def pairColumn (state : State) (sample : Dataset) (named suggested : Option String) :
    Except Fault (Option String) :=
  match named with
  | some column =>
    state.resolve sample (some column) .aggregate noSuggestion (.noNumericColumn .aggregate)
  | none => .ok suggested

/-- Settles the columns of an aggregation of two columns. -/
def resolvePair (state : State) (sample : Dataset) (a : Aggregation) : Except Fault Metric := do
  let numeric := numericColumns sample
  let column ← pairColumn state sample a.column numeric.head?
  let other := numeric.find? fun candidate => some candidate != column
  let pairedWith ← pairColumn state sample a.pairedWith other
  match column, pairedWith with
  | some x, some y =>
    .ok ⟨a.function, some x, some y, a.function.label ++ "_" ++ x ++ "_" ++ y⟩
  | _, _ =>
    if sample.isEmpty then .ok ⟨a.function, none, none, a.function.label⟩
    else .error (.missingPair a.function)

/-- Settles the columns and the name of an aggregation. -/
def resolveAggregation (state : State) (sample : Dataset) (a : Aggregation) :
    Except Fault Metric :=
  if a.function = .count then .ok ⟨.count, none, none, WorkingSet.countColumn⟩
  else if a.function.isPairwise then resolvePair state sample a
  else do
    let column ←
      state.resolve sample a.column .aggregate numericColumn? (.noNumericColumn .aggregate)
    let name :=
      match column with
      | some column => a.function.label ++ "_" ++ column
      | none => a.function.label
    .ok ⟨a.function, column, none, name⟩

/-- A row with the figures of metrics after some cells. -/
def summarize (metrics : List Metric) (key : Row) (rows : Dataset) : Row :=
  key.insertAll (metrics.map fun metric => (metric.name, metric.compute rows))

/-- One row of figures for all rows, or one for every group. -/
def summaries (metrics : List Metric) : WorkingSet → Dataset
  | .rows shown => [summarize metrics .empty shown]
  | .groups found => found.map fun group => summarize metrics group.key group.rows

/-- Calculates figures of all rows, or of every group. -/
def aggregate (state : State) (aggregations : List Aggregation) : Except Fault State := do
  let sample := state.working.sample
  let metrics ← aggregations.mapM (resolveAggregation state sample)
  .ok { state with
    working := .rows (summaries metrics state.working)
    metrics := metrics.map Metric.name }

end TableTalk.Engine
