import TableTalk.Engine.State
import TableTalk.Intent.Basic
import TableTalk.Options
import TableTalk.Series.Ranking
import TableTalk.Series.Running

/-!
# Window functions and slices

Window functions give every row a figure, and slices keep the rows of extreme
figures. Groups that have not been aggregated are the partitions on which they
work, and afterwards their rows stand together again.
-/

namespace TableTalk.Engine

/-- Puts the percent rank times one hundred into each row beside the percent rank itself. -/
def percentileRank (column : String) (rows : Dataset) : Dataset :=
  (Series.percentRank column .ascending rows).map fun row =>
    row.insert "percentile"
      (match (row.value "percent_rank").number? with
      | some rank => .float (rank * 100.0)
      | none => .null)

/-- Applies a window function to the rows of one partition. -/
def applyWindow (options : Options) (function : WindowFunction) (column : String)
    (order : Option Series.Order) (direction : Direction) (rows : Dataset) : Dataset :=
  match function with
  | .rank => Series.rank column direction rows
  | .denseRank => Series.denseRank column direction rows
  | .rowNumber => Series.rowNumber column direction rows
  | .percentRank => Series.percentRank column direction rows
  | .percentile => percentileRank column rows
  | .runningTotal => Series.runningTotal column order rows
  | .runningAvg => Series.runningAverage column order rows
  | .rollingAvg =>
    Series.rollingAverage column options.rollingWindow (Series.arrange order rows)
  | .lag => Series.lag column options.lagOffset .null order rows
  | .lead => Series.lead column options.lagOffset .null order rows
  | .ntile => Series.ntile options.ntileBuckets (Series.sortRows column direction rows)

/-- The order in which a window function runs over its rows. -/
def windowOrder (state : State) (rows : Dataset) (orderBy : Option String) (direction : Direction) :
    Except Fault (Option Series.Order) :=
  match orderBy with
  | none => .ok none
  | some column => do
    let found ← state.resolve rows (some column) .window (fun _ => none) .noDateColumn
    .ok (found.map fun column => ⟨column, direction⟩)

/-- Carries out a window function. -/
def window (options : Options) (state : State) (request : WindowRequest) (orderBy : Option String)
    (direction : Direction) : Except Fault State := do
  let rows := state.working.partitionSample
  match ← state.resolve rows request.column .window numericColumn? (.noNumericColumn .window) with
  | none => .ok (state.withRows rows)
  | some column =>
    let order ← windowOrder state rows orderBy direction
    let apply := applyWindow options request.function column order direction
    .ok { state with
      working := .rows (state.working.mapPartitions apply)
      windowColumn := some column }

/-- Carries out a slice. -/
def slice (state : State) (filter : PercentSlice) : Except Fault State := do
  let rows := state.working.partitionSample
  match ← state.resolve rows filter.column .slice numericColumn? (.noNumericColumn .slice) with
  | none => .ok (state.withRows rows)
  | some column =>
    let keep := Statistics.sliceRows column filter.percent filter.side
    .ok (state.withRows (state.working.mapPartitions keep))

end TableTalk.Engine
