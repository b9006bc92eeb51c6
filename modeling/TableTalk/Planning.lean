import TableTalk.Plan.Basic

/-!
# Planning

The steps that answer an intent, in the order of their operations. Columns are
selected only if the intent leaves no choice of column to the engine, because a
selection would hide the columns from which the engine chooses.
-/

namespace TableTalk.Planning

/-- The column under which groups by time keep their period. -/
def periodColumn : String := "period"

/-- Whether some role has no column yet. -/
def leavesChoice (intent : Intent) : Bool :=
  (intent.aggregations.any fun a =>
      (a.function != .count && a.column.isNone) ||
        (a.function.isPairwise && a.pairedWith.isNone)) ||
    (intent.time.any fun t => t.column.isNone) ||
    (intent.window.any fun w => w.column.isNone) ||
    (intent.slice.any fun s => s.column.isNone) ||
    (intent.sentiment.any fun s => s.column.isNone)

/-- Every column that the intent names. -/
def namedColumns (intent : Intent) : List String :=
  intent.columnNames ++ intent.groupBy ++ intent.timeColumn.toList ++
    intent.filters.map Condition.column ++ (intent.sentiment.bind (·.column)).toList ++
    (intent.aggregations.flatMap fun a => a.column.toList ++ a.pairedWith.toList) ++
    (intent.window.bind (·.column)).toList ++ (intent.slice.bind (·.column)).toList ++
    intent.orderColumn.toList

/-- The columns that the answer needs, if they are all known. -/
def projection? (intent : Intent) : Option (List String) :=
  if intent.references.isEmpty || leavesChoice intent then none
  else some (namedColumns intent).eraseDups

/-- The aggregation that gives each period one value, for figures that run over periods: the sum
for running totals, else the average. -/
def seriesAggregation? (intent : Intent) : Option Aggregation := do
  let request ← intent.window
  if request.function.ranksValues || intent.time.isNone then none
  pure
    { function := if request.function = .runningTotal then .sum else .avg
      column := request.column }

/-- The aggregations of the plan. -/
def plannedAggregations (intent : Intent) : List Aggregation :=
  if intent.aggregations.isEmpty then (seriesAggregation? intent).toList else intent.aggregations

/-- The step for a window function. Figures over periods run in the order of periods. -/
def windowStep (intent : Intent) (request : WindowRequest) : Step :=
  let ranks := request.function.ranksValues
  let orderBy := if !ranks && intent.time.isSome then some periodColumn else none
  .window request orderBy (intent.order.getD (if ranks then .descending else .ascending))

/-- The steps for an intent, in the order of their operations. -/
def steps (intent : Intent) : List Step :=
  let select := (projection? intent).map Step.select
  let filter :=
    if intent.filters.isEmpty && intent.sentiment.isNone then none
    else some (Step.filter intent.filters intent.sentiment)
  let group := if intent.hasGrouping then some (Step.group intent.groupBy intent.time) else none
  let aggregate :=
    match plannedAggregations intent with
    | [] => none
    | aggregations => some (Step.aggregate aggregations)
  let window := intent.window.map (windowStep intent)
  let statistical := intent.slice.map Step.statistical
  let order :=
    if intent.order.isSome || intent.orderColumn.isSome then
      some (Step.order intent.orderColumn (intent.order.getD .descending))
    else none
  let limit := intent.limit.map Step.limit
  [select, filter, group, aggregate, window, statistical, order, limit].filterMap id

/-- How much an intent asks for: windows count twice. -/
def score (intent : Intent) : UInt32 :=
  let point (b : Bool) : UInt32 := if b then 1 else 0
  point (!intent.aggregations.isEmpty) + point (!intent.groupBy.isEmpty) +
    2 * point intent.window.isSome + point intent.time.isSome + point intent.slice.isSome +
    point intent.sentiment.isSome

/-- The plan for an intent. -/
def plan (intent : Intent) (database : String) : Plan :=
  { steps := (steps intent).map PlannedStep.ofStep
    intent
    complexity := .ofScore (score intent).toNat
    score := score intent
    database }

end TableTalk.Planning
