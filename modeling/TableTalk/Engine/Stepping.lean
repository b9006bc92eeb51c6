import TableTalk.Engine.Aggregating
import TableTalk.Engine.Windowing
import TableTalk.Planning

/-!
# Carrying out steps

One function for every operation, from a state to the next state or a fault.
-/

namespace TableTalk.Engine

/-- Keeps some columns. -/
def select (state : State) (columns : List String) : Except Fault State := do
  let rows := state.working.output
  requireColumns rows columns .select
  .ok (state.withRows (rows.map fun row => row.project columns))

/-- The condition for a comparison of ratings; there is none without rows. -/
def ratingConditions (state : State) (rows : Dataset) (sentiment : Option SentimentFilter) :
    Except Fault (List Condition) :=
  match sentiment with
  | none => .ok []
  | some s => do
    let column ← state.resolve rows s.column .filter ratingColumn? .noRatingColumn
    .ok (column.toList.map fun column => ⟨column, s.operator, .float s.threshold⟩)

/-- Keeps the rows that meet conditions and a comparison of ratings. -/
def filter (state : State) (conditions : List Condition) (sentiment : Option SentimentFilter) :
    Except Fault State := do
  let rows := state.working.output
  requireColumns rows (conditions.map Condition.column) .filter
  let rating ← ratingConditions state rows sentiment
  .ok (state.withRows (rows.filter (Condition.allHold (conditions ++ rating))))

/-- A column of dates and the interval by which it is grouped. -/
abbrev Period := String × Interval

/-- The cells that a row shares with its group. -/
def groupCells (period : Option Period) (columns : List String) (row : Row) :
    List (String × Value) :=
  (period.map fun (column, interval) =>
    (Planning.periodColumn, Value.text (interval.keyOf (row.value column)))).toList ++
    columns.map fun column => (column, row.value column)

/-- The displays of the cells that a row shares with its group. -/
def groupKey (period : Option Period) (columns : List String) (row : Row) : List String :=
  (groupCells period columns row).map fun cell => cell.2.display

/-- A group with the cells that its first row shares with it. -/
def rowGroup (period : Option Period) (columns : List String)
    (group : Grouping.Group (List String) Row) : RowGroup :=
  { key := Row.ofCells ((group.entries.head?.map (groupCells period columns)).getD [])
    rows := group.entries }

/-- Settles the column of dates by which rows are grouped. -/
def settlePeriod (state : State) (rows : Dataset) (time : Option TimeAnalysis) :
    Except Fault (Option Period) :=
  match time with
  | none => .ok none
  | some t => do
    let column ← state.resolve rows t.column .timeGrouping dateColumn? .noDateColumn
    .ok (column.map fun column => (column, t.interval))

/-- Groups rows by columns and by time. -/
def group (state : State) (columns : List String) (time : Option TimeAnalysis) :
    Except Fault State := do
  let rows := state.working.output
  requireColumns rows columns .group
  let period ← settlePeriod state rows time
  let groups := Grouping.groupBy (groupKey period columns) rows
  .ok { state with working := .groups (groups.map (rowGroup period columns)) }

/-- The column to order by if none is named: the latest figures that are there, or a numeric
column. -/
def orderSuggestion (state : State) (rows : Dataset) : Option String :=
  ((state.metrics ++ state.windowColumn.toList).find? fun column =>
      rows.head?.any fun row => row.hasColumn column)
    <|> numericColumn? rows

/-- Orders rows by a column. -/
def order (state : State) (column : Option String) (direction : Direction) :
    Except Fault State := do
  let rows := state.working.output
  match ← state.resolve rows column .order (orderSuggestion state) (.noNumericColumn .order) with
  | none => .ok (state.withRows rows)
  | some column => .ok (state.withRows (Series.sortRows column direction rows))

/-- Keeps the first rows. -/
def limit (state : State) (count : Nat) : State :=
  state.withRows (state.working.output.take count)

/-- Carries out a step. -/
def runStep (options : Options) (state : State) (step : Step) : Except Fault State :=
  match step with
  | .select columns => select state columns
  | .filter conditions sentiment => filter state conditions sentiment
  | .group columns time => group state columns time
  | .aggregate aggregations => aggregate state aggregations
  | .window request orderBy direction => window options state request orderBy direction
  | .statistical s => slice state s
  | .order column direction => order state column direction
  | .limit count => .ok (limit state count)

end TableTalk.Engine
