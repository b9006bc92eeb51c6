import TableTalk.Proofs.Engine.Groups
import TableTalk.Proofs.Engine.Metrics
import TableTalk.Proofs.Engine.Shape

/-!
# Steps on nothing

A filter may leave nothing, and what is planned behind it has to go on. Without rows every
column is taken to be there, named or not, so no step has a fault to report. Steps make
nothing of nothing, with one exception: the figures of no rows stand in a row of their own.
-/

namespace TableTalk.Engine

theorem Widens.eq_nil {names : List String} {result : Dataset} (h : Widens names [] result) :
    result = [] := by
  rw [List.eq_nil_iff_forall_not_mem]
  intro row hrow
  obtain ⟨source, hsource, -⟩ := h row hrow
  cases hsource

namespace WorkingSet

variable {working : WorkingSet}

theorem size_eq_zero_iff : working.size = 0 ↔ working = .rows [] ∨ working = .groups [] := by
  cases working <;> simp [size]

theorem output_eq_nil (empty : working.size = 0) : working.output = [] := by
  rcases size_eq_zero_iff.mp empty with rfl | rfl <;> rfl

theorem sample_eq_nil (empty : working.size = 0) : working.sample = [] := by
  rcases size_eq_zero_iff.mp empty with rfl | rfl <;> rfl

theorem partitionSample_eq_nil (empty : working.size = 0) : working.partitionSample = [] := by
  rcases size_eq_zero_iff.mp empty with rfl | rfl <;> rfl

theorem mapPartitions_eq_nil (empty : working.size = 0) {names : List String}
    {apply : Dataset → Dataset} (widens : Widens names [] (apply [])) :
    working.mapPartitions apply = [] := by
  rcases size_eq_zero_iff.mp empty with rfl | rfl
  · exact widens.eq_nil
  · rfl

end WorkingSet

variable {options : Options} {state next : State}

/-- Without rows a step has the column that it names, and none if it names none. -/
theorem resolve_nil (state : State) (named : Option String) (site : Site)
    (suggest : Dataset → Option String) (missing : Fault) :
    state.resolve [] named site suggest missing = .ok named := rfl

theorem requireColumns_nil (columns : List String) (site : Site) :
    requireColumns [] columns site = .ok () := rfl

theorem exists_ratingConditions_nil (state : State) (sentiment : Option SentimentFilter) :
    ∃ rating, ratingConditions state [] sentiment = .ok rating := by
  cases sentiment with
  | none => exact ⟨_, rfl⟩
  | some s => exact ⟨_, bind_eq_ok.mpr ⟨s.column, resolve_nil state _ _ _ _, rfl⟩⟩

theorem exists_settlePeriod_nil (state : State) (time : Option TimeAnalysis) :
    ∃ period, settlePeriod state [] time = .ok period := by
  cases time with
  | none => exact ⟨_, rfl⟩
  | some t => exact ⟨_, bind_eq_ok.mpr ⟨t.column, resolve_nil state _ _ _ _, rfl⟩⟩

theorem exists_windowOrder_nil (state : State) (orderBy : Option String) (direction : Direction) :
    ∃ order, windowOrder state [] orderBy direction = .ok order := by
  cases orderBy with
  | none => exact ⟨_, rfl⟩
  | some column => exact ⟨_, bind_eq_ok.mpr ⟨some column, resolve_nil state _ _ _ _, rfl⟩⟩

/-- A pair that is not named in full is left open. -/
theorem exists_resolvePair_nil (state : State) (a : Aggregation) :
    ∃ metric, resolvePair state [] a = .ok metric := by
  obtain ⟨function, column, pairedWith⟩ := a
  cases column <;> cases pairedWith <;> exact ⟨_, rfl⟩

theorem exists_resolveAggregation_nil (state : State) (a : Aggregation) :
    ∃ metric, resolveAggregation state [] a = .ok metric := by
  unfold resolveAggregation
  by_cases hcount : a.function = .count
  · exact ⟨_, if_pos hcount⟩
  · rw [if_neg hcount]
    cases a.function.isPairwise with
    | true => exact exists_resolvePair_nil state a
    | false => exact ⟨_, bind_eq_ok.mpr ⟨a.column, resolve_nil state _ _ _ _, rfl⟩⟩

/-- The figures of no rows: none are counted, the sum is that of no numbers, and everything else is
missing. -/
def figureOfNothing : AggregateFunction → Value
  | .count => .integer 0
  | .sum => .float Quantity.emptySum
  | _ => .null

theorem compute_nil (metric : Metric) : metric.compute [] = figureOfNothing metric.function := by
  obtain ⟨function, column, pairedWith, name⟩ := metric
  cases function <;> cases column <;> cases pairedWith <;> rfl

/-- The row that aggregations of no rows make. Each aggregation is settled to a metric of its
function, and under the names of the metrics, which are all of its columns, the row has the figures
that their functions have without rows. -/
structure SummarizesNothing (state : State) (aggregations : List Aggregation)
    (metrics : List Metric) (row : Row) : Prop where
  settled : aggregations.mapM (resolveAggregation state []) = .ok metrics
  functions : metrics.map Metric.function = aggregations.map Aggregation.function
  columns : ∀ column, column ∈ row.columns ↔ column ∈ metrics.map Metric.name
  figures : ∀ metric ∈ metrics, row.get? metric.name = some (figureOfNothing metric.function)

/-- Metrics with one name have one function, so that what stands under the name is the figure of all
of them. -/
theorem get?_summarize_nil {metrics : List Metric} (named : ∀ metric ∈ metrics, metric.Named)
    {metric : Metric} (h : metric ∈ metrics) :
    (summarize metrics .empty []).get? metric.name = some (figureOfNothing metric.function) := by
  obtain ⟨before, last, after, hsplit, hname, hlast⟩ :=
    exists_last_of_name (List.mem_map_of_mem (f := Metric.name) h)
  have hmem : last ∈ metrics := hsplit ▸ by simp
  have hshown := shows_summarize metrics .empty [] before last after hsplit (hname ▸ hlast)
  rw [hname, compute_nil, (named last hmem).function_eq (named metric h) hname] at hshown
  exact hshown

theorem summarizesNothing_summarize {aggregations : List Aggregation} {metrics : List Metric}
    (h : aggregations.mapM (resolveAggregation state []) = .ok metrics) :
    SummarizesNothing state aggregations metrics (summarize metrics .empty []) := by
  have hnamed : ∀ metric ∈ metrics, metric.Named := by
    intro metric hmetric
    obtain ⟨a, -, ha⟩ := exists_of_mapM_eq_ok h metric hmetric
    exact (resolveAggregation_names ha).2
  refine ⟨h, map_of_mapM_eq_ok (fun a metric h => (resolveAggregation_names h).1) h, ?_,
    fun metric hmetric => get?_summarize_nil hnamed hmetric⟩
  intro column
  rw [columns_summarize, mem_addColumns]
  exact or_iff_right List.not_mem_nil

theorem aggregate_empty (aggregations : List Aggregation) (empty : state.working.size = 0) :
    ∃ metrics next, aggregations.mapM (resolveAggregation state []) = .ok metrics ∧
      aggregate state aggregations = .ok next ∧
      next.working = .rows (summaries metrics state.working) := by
  obtain ⟨metrics, hmetrics⟩ := exists_mapM_eq_ok fun a (_ : a ∈ aggregations) =>
    exists_resolveAggregation_nil state a
  refine ⟨metrics, _, hmetrics, aggregate_eq_ok.mpr ⟨metrics, ?_, rfl⟩, rfl⟩
  rw [WorkingSet.sample_eq_nil empty]
  exact hmetrics

theorem window_empty (options : Options) (request : WindowRequest) (orderBy : Option String)
    (direction : Direction) (empty : state.working.size = 0) :
    ∃ next, window options state request orderBy direction = .ok next ∧ next.working.size = 0 := by
  have hsample := WorkingSet.partitionSample_eq_nil empty
  cases hcolumn : request.column with
  | none =>
    refine ⟨state.withRows [], window_eq_ok.mpr ⟨none, ?_, ?_⟩, rfl⟩
    · rw [hsample, hcolumn, resolve_nil]
    · rw [hsample]
  | some column =>
    obtain ⟨order, horder⟩ := exists_windowOrder_nil state orderBy direction
    refine ⟨_, window_eq_ok.mpr ⟨some column, ?_, order, ?_, rfl⟩, ?_⟩
    · rw [hsample, hcolumn, resolve_nil]
    · rw [hsample, horder]
    · show List.length (state.working.mapPartitions _) = 0
      rw [WorkingSet.mapPartitions_eq_nil empty (widens_applyWindow _ _ _ _ _ _), List.length_nil]

theorem slice_empty (sought : PercentSlice) (empty : state.working.size = 0) :
    ∃ next, slice state sought = .ok next ∧ next.working.size = 0 := by
  have hsample := WorkingSet.partitionSample_eq_nil empty
  cases hcolumn : sought.column with
  | none =>
    refine ⟨state.withRows [], slice_eq_ok.mpr ⟨none, ?_, ?_⟩, rfl⟩
    · rw [hsample, hcolumn, resolve_nil]
    · rw [hsample]
  | some column =>
    refine ⟨_, slice_eq_ok.mpr ⟨some column, ?_, rfl⟩, ?_⟩
    · rw [hsample, hcolumn, resolve_nil]
    · show List.length (state.working.mapPartitions _) = 0
      rw [WorkingSet.mapPartitions_eq_nil empty (widens_sliceRows _ _ _ _), List.length_nil]

theorem order_empty (column : Option String) (direction : Direction)
    (empty : state.working.size = 0) :
    ∃ next, order state column direction = .ok next ∧ next.working.size = 0 := by
  have houtput := WorkingSet.output_eq_nil empty
  cases column with
  | none =>
    refine ⟨state.withRows [], order_eq_ok.mpr ⟨none, ?_, ?_⟩, rfl⟩
    · rw [houtput, resolve_nil]
    · rw [houtput]
  | some column =>
    refine ⟨state.withRows [], order_eq_ok.mpr ⟨some column, ?_, ?_⟩, rfl⟩
    · rw [houtput, resolve_nil]
    · rw [houtput]
      rfl

/-- Without rows or groups no step fails, whatever it is to do and whether it names its columns or
leaves them to the data. It makes nothing of nothing, except that an aggregation of no rows makes
one row of figures: no row is counted, and apart from sums every other figure is missing. -/
theorem empty_sets_never_fault (options : Options) (state : State) (step : Step)
    (empty : state.working.size = 0) :
    ∃ next, runStep options state step = .ok next ∧
      match step, state.working with
      | .aggregate aggregations, .rows _ =>
        ∃ metrics row, next.working = .rows [row] ∧
          SummarizesNothing state aggregations metrics row
      | _, _ => next.working.size = 0 := by
  have houtput := WorkingSet.output_eq_nil empty
  cases step with
  | select columns =>
    refine ⟨state.withRows [], select_eq_ok.mpr ⟨?_, ?_⟩, rfl⟩
    · rw [houtput, requireColumns_nil]
    · rw [houtput, List.map_nil]
  | filter conditions sentiment =>
    obtain ⟨rating, hrating⟩ := exists_ratingConditions_nil state sentiment
    refine ⟨state.withRows [], filter_eq_ok.mpr ⟨?_, rating, ?_, ?_⟩, rfl⟩
    · rw [houtput, requireColumns_nil]
    · rw [houtput, hrating]
    · rw [houtput, List.filter_nil]
  | group columns time =>
    obtain ⟨period, hperiod⟩ := exists_settlePeriod_nil state time
    refine ⟨{ state with working := .groups [] }, group_eq_ok.mpr ⟨?_, period, ?_, ?_⟩, rfl⟩
    · rw [houtput, requireColumns_nil]
    · rw [houtput, hperiod]
    · rw [houtput]
      rfl
  | aggregate aggregations =>
    obtain ⟨metrics, next, hmetrics, haggregate, hnext⟩ := aggregate_empty aggregations empty
    refine ⟨next, haggregate, ?_⟩
    rw [hnext]
    rcases WorkingSet.size_eq_zero_iff.mp empty with hrows | hgroups
    · rw [hrows]
      exact ⟨metrics, _, rfl, summarizesNothing_summarize hmetrics⟩
    · rw [hgroups]
      rfl
  | window request orderBy direction => exact window_empty options request orderBy direction empty
  | statistical sought => exact slice_empty sought empty
  | order column direction => exact order_empty column direction empty
  | limit count =>
    refine ⟨_, rfl, ?_⟩
    show List.length (state.working.output.take count) = 0
    rw [houtput, List.take_nil, List.length_nil]

/-- No sale is left in Bergen. Counting, adding up and averaging what is left gives one row. -/
theorem sales_of_nowhere_summarized :
    let state : State := { working := .rows [] }
    let aggregations : List Aggregation :=
      [{ function := .count }, { function := .sum, column := some "price" },
        { function := .avg, column := some "price" }, { function := .correlation }]
    state.working.size = 0 ∧
    ∃ next row, runStep {} state (.aggregate aggregations) = .ok next ∧
      next.working = .rows [row] ∧
      row.get? "count" = some (.integer 0) ∧ row.get? "sum_price" = some (.float (-0.0)) ∧
      row.get? "avg_price" = some .null ∧ row.get? "correlation" = some .null := by
  intro state aggregations
  obtain ⟨next, hnext, metrics, row, hrow, hsummary⟩ :=
    empty_sets_never_fault {} state (.aggregate aggregations) rfl
  have hmetrics : metrics =
      [⟨.count, none, none, "count"⟩, ⟨.sum, some "price", none, "sum_price"⟩,
        ⟨.avg, some "price", none, "avg_price"⟩, ⟨.correlation, none, none, "correlation"⟩] :=
    (Except.ok.inj hsummary.settled).symm
  have hfigure {metric : Metric} (h : metric ∈ metrics) := hsummary.figures metric h
  subst hmetrics
  exact ⟨rfl, next, row, hnext, hrow, hfigure (.head _), hfigure (.tail _ (.head _)),
    hfigure (.tail _ (.tail _ (.head _))), hfigure (.tail _ (.tail _ (.tail _ (.head _))))⟩

end TableTalk.Engine
