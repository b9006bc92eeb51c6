import TableTalk.Proofs.Engine.Keys

/-!
# Three ways to group

Rows are grouped by intervals of time, for tables of figures, and by group steps.
Group steps have lists of texts for keys where the others have single texts, and
tables keep numbers where the others keep rows. All of them make the same groups in
the same order, so they show the same figures.
-/

namespace TableTalk.Engine

open Grouping (Group Key Statistic groupBy byInterval columnNumbers figuresOf figuresOfNumbers
  statisticsBy tally)

variable {state : State} {rows : Dataset} {v c d : String} {interval : Interval}

theorem singleton_lt_singleton (a b : String) : [a] < [b] ↔ a < b := by
  rw [List.cons_lt_cons_iff]
  simp

section Steps

/-- Grouping by time alone makes the buckets of the interval; their keys stand under the period
column. -/
theorem group_by_time (shown : state.working = .rows rows)
    (there : ∀ first ∈ rows.head?, d ∈ first.columns) :
    group state [] (some { interval, column := some d }) =
      .ok { state with
        working := .groups ((byInterval d interval rows).map fun bucket =>
          ⟨.ofCells [(Planning.periodColumn, .text bucket.key)], bucket.entries⟩) } := by
  rw [group_eq_ok, shown]
  refine ⟨requireColumns_of_head (by simp), some (d, interval),
    settlePeriod_of_datedBy state ⟨d, rfl, Or.inl ⟨rfl, there⟩⟩, ?_⟩
  have hkey : groupKey (some (d, interval)) [] = fun row => [interval.keyOf (row.value d)] := rfl
  rw [WorkingSet.output, hkey, Grouping.groupBy_embed singleton_lt_singleton, byInterval,
    List.map_map]
  congr 2
  refine List.map_congr_left fun bucket hbucket => ?_
  obtain ⟨first, hfirst, hfirstKey⟩ := Grouping.exists_head_of_mem_groupBy hbucket
  rw [Function.comp_apply, rowGroup]
  dsimp only
  rw [hfirst, ← hfirstKey]
  rfl

/-- Grouping by one column makes a group of every display. -/
theorem group_by_column (shown : state.working = .rows rows)
    (there : ∀ first ∈ rows.head?, c ∈ first.columns) :
    group state [c] none =
      .ok { state with
        working := .groups ((groupBy (Key.column c).ofRow rows).map fun entries =>
          rowGroup none [c] ⟨[entries.key], entries.entries⟩) } := by
  rw [group_eq_ok, shown]
  have hcolumns : ∀ first ∈ rows.head?, ∀ column ∈ [c], column ∈ first.columns := by
    intro first hfirst column hcolumn
    exact List.mem_singleton.mp hcolumn ▸ there first hfirst
  refine ⟨requireColumns_of_head hcolumns, none, rfl, ?_⟩
  have hkey : groupKey none [c] = fun row => [(Key.column c).ofRow row] := rfl
  rw [WorkingSet.output, hkey, Grouping.groupBy_embed singleton_lt_singleton, List.map_map]
  rfl

end Steps

section Figures

/-- Functions of aggregations, and the figures of tables that calculate the same. -/
def figurePairs : List (AggregateFunction × Statistic) :=
  [(.sum, .sum), (.avg, .mean), (.median, .median), (.min, .least), (.max, .greatest)]

/-- The metric of a function for a column that is named. -/
def metricOf (v : String) (function : AggregateFunction) : Metric :=
  ⟨function, some v, none, function.label ++ "_" ++ v⟩

theorem resolveAggregation_named {sample : Dataset} {function : AggregateFunction}
    (there : ∀ first ∈ sample.head?, v ∈ first.columns) (counts : function ≠ .count)
    (single : function.isPairwise = false) :
    resolveAggregation state sample { function, column := some v } = .ok (metricOf v function) := by
  simp only [resolveAggregation, if_neg counts, single, Bool.false_eq_true, ↓reduceIte,
    resolve_named there]
  rfl

/-- The aggregations of a column by these functions. -/
def figuresAsked (v : String) : List Aggregation :=
  figurePairs.map fun pair => { function := pair.1, column := some v }

theorem mapM_resolveAggregation {sample : Dataset}
    (there : ∀ first ∈ sample.head?, v ∈ first.columns) :
    (figuresAsked v).mapM (resolveAggregation state sample) =
      .ok (figurePairs.map fun pair => metricOf v pair.1) := by
  have hplain : ∀ pair ∈ figurePairs, pair.1 ≠ .count ∧ pair.1.isPairwise = false := by decide
  refine mapM_eq_ok_map (g := fun a : Aggregation => metricOf v a.function) fun a ha => ?_
  obtain ⟨pair, hpair, rfl⟩ := List.mem_map.mp ha
  exact resolveAggregation_named there (hplain pair hpair).1 (hplain pair hpair).2

theorem compute_metricOf {pair : AggregateFunction × Statistic} (h : pair ∈ figurePairs)
    (rows : Dataset) :
    (metricOf v pair.1).compute rows = pair.2.compute (columnNumbers v rows) := by
  simp only [figurePairs, List.mem_cons, List.not_mem_nil, or_false] at h
  rcases h with rfl | rfl | rfl | rfl | rfl <;> rfl

theorem nodup_names (v : String) :
    ((figurePairs.map fun pair => metricOf v pair.1).map Metric.name).Nodup := by
  have hfunctions : (figurePairs.map Prod.fst).Nodup := by decide
  rw [List.map_map]
  refine (List.nodup_map_iff_inj_on hfunctions.of_map).mpr ?_
  intro pair hpair other hother hname
  have hlabel : pair.1.label = other.1.label := by
    simpa only [Function.comp_apply, metricOf, String.append_left_inj] using hname
  exact List.inj_on_of_nodup_map hfunctions hpair hother (AggregateFunction.label_inj hlabel)

/-- A row of a table has the figures under their names. -/
theorem get?_figuresOf {pair : AggregateFunction × Statistic} (h : pair ∈ figurePairs)
    (group : Group String Row) :
    (figuresOf v (figurePairs.map Prod.snd) group).get? pair.2.column =
      some (pair.2.compute (columnNumbers v group.entries)) := by
  refine Row.get?_insertAll_of_mem _ ?_ (List.mem_cons_of_mem _ (List.mem_map_of_mem
    (f := fun s : Statistic => (s.column, s.compute _)) (List.mem_map_of_mem h)))
  change ["group", "sum", "mean", "median", "min", "max"].Nodup
  decide

/-- A row of an aggregation has the same figures under the names of metrics. -/
theorem get?_summarize_metricOf {pair : AggregateFunction × Statistic} (h : pair ∈ figurePairs)
    (key : Row) (rows : Dataset) :
    (summarize (figurePairs.map fun pair => metricOf v pair.1) key rows).get?
        (pair.1.label ++ "_" ++ v) =
      some (pair.2.compute (columnNumbers v rows)) := by
  rw [← compute_metricOf h]
  refine Row.get?_insertAll_of_mem _ ?_ (List.mem_map_of_mem
    (f := fun metric : Metric => (metric.name, metric.compute rows)) (List.mem_map_of_mem h))
  rw [List.map_map]
  exact nodup_names v

/-- Grouping by a column and aggregating makes the rows of the table of the column, in the same
order and with the same figures. -/
theorem exists_aggregated_by_column (shown : state.working = .rows rows)
    (hv : ∀ row ∈ rows, v ∈ row.columns) (hc : ∀ row ∈ rows, c ∈ row.columns) :
    ∃ grouped next out,
      group state [c] none = .ok grouped ∧
      aggregate grouped (figuresAsked v) = .ok next ∧ next.working = .rows out ∧
      List.Forall₂ (fun figures row => ∀ pair ∈ figurePairs, ∃ value,
          figures.get? pair.2.column = some value ∧
          row.get? (pair.1.label ++ "_" ++ v) = some value)
        (statisticsBy v (.column c) (figurePairs.map Prod.snd) rows) out := by
  have hhead {sample : Dataset} (hsample : sample ⊆ rows) :
      ∀ first ∈ sample.head?, v ∈ first.columns := fun first hfirst =>
    hv first (hsample (List.mem_of_mem_head? hfirst))
  have hgroup := group_by_column shown fun first hfirst => hc first (List.mem_of_mem_head? hfirst)
  refine ⟨_, _, _, hgroup, aggregate_eq_ok.mpr ⟨_, mapM_resolveAggregation ?_, rfl⟩, rfl, ?_⟩
  · refine hhead fun row hrow => ?_
    rw [WorkingSet.sample, List.flatMap_map] at hrow
    exact (Grouping.flatMap_groupBy_perm (Key.column c).ofRow rows).subset
      (List.mem_of_mem_take hrow)
  · rw [summaries, List.map_map, List.forall₂_map_right_iff]
    refine List.forall₂_map_left_iff.mpr (List.forall₂_same.mpr fun entries _ pair hpair => ?_)
    exact ⟨_, get?_figuresOf hpair entries, get?_summarize_metricOf hpair _ entries.entries⟩

end Figures

/-- The three ways of grouping agree on rows with the same columns. The table of figures by time is
made of the buckets of the interval, and so is every table of the numbers that are collected by key
in one pass. A group step by time makes these buckets, with their keys under the period column. A
group step by a column followed by an aggregation shows, row by row, the figures of the table by
that column. -/
theorem grouping_paths_agree (state : State) (rows : Dataset) (columns : List String)
    (v c d : String) (interval : Interval) (shown : state.working = .rows rows)
    (shared : ∀ row ∈ rows, row.columns = columns) (hv : v ∈ columns) (hc : c ∈ columns)
    (hd : d ∈ columns) :
    let buckets := byInterval d interval rows
    (∀ statistics, statisticsBy v (.time d interval) statistics rows =
      buckets.map (figuresOf v statistics)) ∧
    (∀ key statistics, statisticsBy v key statistics rows =
      (tally v key rows).map (figuresOfNumbers statistics)) ∧
    group state [] (some { interval, column := some d }) =
      .ok { state with
        working := .groups (buckets.map fun bucket =>
          ⟨.ofCells [(Planning.periodColumn, .text bucket.key)], bucket.entries⟩) } ∧
    ∃ grouped next out,
      group state [c] none = .ok grouped ∧
      aggregate grouped (figuresAsked v) = .ok next ∧ next.working = .rows out ∧
      List.Forall₂ (fun figures row => ∀ pair ∈ figurePairs, ∃ value,
          figures.get? pair.2.column = some value ∧
          row.get? (pair.1.label ++ "_" ++ v) = some value)
        (statisticsBy v (.column c) (figurePairs.map Prod.snd) rows) out := by
  have hhas {column : String} (h : column ∈ columns) : ∀ row ∈ rows, column ∈ row.columns :=
    fun row hrow => shared row hrow ▸ h
  refine ⟨fun statistics => rfl,
    fun key statistics => Grouping.statisticsBy_eq_tally v key statistics rows, ?_, ?_⟩
  · exact group_by_time shown fun first hfirst => hhas hd first (List.mem_of_mem_head? hfirst)
  · exact exists_aggregated_by_column shown (hhas hv) (hhas hc)

/-- Sales of a day that is no date, of two cities, and one that is no number. -/
def datedSales : Dataset :=
  let sale (day city : String) (sales : Value) : Row :=
    .ofCells [("day", .text day), ("city", .text city), ("sales", sales)]
  [sale "2024-02-01" "Rome" (.integer 4), sale "soon" "Oslo" (.integer 3),
    sale "2024-01-07" "Oslo" .null]

theorem grouping_paths_agree_on_sales :
    let state : State := { working := .rows datedSales }
    let columns := ["day", "city", "sales"]
    (∀ row ∈ datedSales, row.columns = columns) ∧
    (byInterval "day" .month datedSales).map (fun bucket => bucket.key) =
      ["2024-01", "2024-02", "unknown"] ∧
    (∀ statistics, statisticsBy "sales" (.time "day" .month) statistics datedSales =
      (byInterval "day" .month datedSales).map (figuresOf "sales" statistics)) ∧
    ∃ grouped next out,
      group state ["city"] none = .ok grouped ∧
      aggregate grouped (figuresAsked "sales") = .ok next ∧ next.working = .rows out ∧
      List.Forall₂ (fun figures row => ∀ pair ∈ figurePairs, ∃ value,
          figures.get? pair.2.column = some value ∧
          row.get? (pair.1.label ++ "_" ++ "sales") = some value)
        (statisticsBy "sales" (.column "city") (figurePairs.map Prod.snd) datedSales) out := by
  intro state columns
  have shared : ∀ row ∈ datedSales, row.columns = columns := by decide
  obtain ⟨htime, -, -, hcolumn⟩ := grouping_paths_agree state datedSales columns "sales" "city" "day"
    .month rfl shared (by decide) (by decide) (by decide)
  exact ⟨shared, by decide +kernel, htime, hcolumn⟩

end TableTalk.Engine
