import TableTalk.Proofs.Engine.Keys

/-!
# Rows of figures for groups

The figures of a group are put into a row after the key of the group, under names that
are made from column names. A row is complete if the bucket, the group's own cells and
the figures of all metrics stand side by side in it. What is missing otherwise was
replaced in its place by a cell of the same name: a cell of the group by a figure, the
bucket by a cell of a column with the name of the period column, and the figure of a pair
of columns by that of another pair whose names make the same text.
-/

namespace TableTalk.Engine

/-- A row of figures that has the bucket of its group, the cells that the group takes from its first
row, and one cell more for each of the metrics. -/
structure IsComplete (period : Option Period) (columns : List String) (metrics : List Metric)
    (first : Row) (rows : Dataset) (row : Row) : Prop where
  bucket : ∀ dates interval, period = some (dates, interval) →
    row.get? Planning.periodColumn = some (.text (interval.keyOf (first.value dates)))
  own : ∀ column ∈ columns, row.get? column = some (first.value column)
  figures : ∀ metric ∈ metrics, row.get? metric.name = some (metric.compute rows)
  separate : row.columns.Perm (keyColumns period columns ++ metrics.dedup.map Metric.name)

/-- No metric has the name of a column or of another metric. -/
structure NamesApart (columns : List String) (metrics : List Metric) : Prop where
  ofColumns : ∀ metric ∈ metrics, metric.name ∉ columns
  ofMetrics : ∀ metric ∈ metrics, ∀ other ∈ metrics, metric.name = other.name → metric = other

/-- A column of the grouping with the name of the period column has the bucket in its cell. -/
def ShowsBucket (period : Option Period) (columns : List String) (first : Row) : Prop :=
  ∀ dates interval, period = some (dates, interval) → Planning.periodColumn ∈ columns →
    first.value Planning.periodColumn = .text (interval.keyOf (first.value dates))

/-- A row of figures for the rows of a group. The cells of the group are there unless a metric has
their name, the bucket is there unless a column has its name, and of several metrics with one name
the last one shows. The row is complete exactly if this leaves nothing out. -/
structure IsSummary (period : Option Period) (columns : List String) (metrics : List Metric)
    (rows : Dataset) (first row : Row) : Prop where
  shows : Shows metrics rows row
  own : ∀ column ∈ columns, column ∉ metrics.map Metric.name →
    row.get? column = some (first.value column)
  alike : ∀ member ∈ rows, ∀ column ∈ columns,
    (first.value column).display = (member.value column).display
  bucket : ∀ dates interval, period = some (dates, interval) → Planning.periodColumn ∉ columns →
    row.get? Planning.periodColumn = some (.text (interval.keyOf (first.value dates)))
  complete : IsComplete period columns metrics first rows row ↔
    NamesApart columns metrics ∧ ShowsBucket period columns first

section Rows

variable {period : Option Period} {columns : List String} {metrics : List Metric} {first : Row}
  {rows : Dataset} {column : String}

theorem get?_summarize_of_notMem (key : Row) (absent : column ∉ metrics.map Metric.name) :
    (summarize metrics key rows).get? column = key.get? column := by
  apply Row.get?_insertAll_of_notMem
  rwa [List.map_map]

theorem nodup_keyColumns (period : Option Period) (columns : List String) :
    (keyColumns period columns).Nodup := by
  rw [← columns_keyRow period columns default]
  exact Row.columns_nodup _

theorem get?_summarize_own (hcolumn : column ∈ columns)
    (absent : column ∉ metrics.map Metric.name) :
    (summarize metrics (keyRow period columns first) rows).get? column =
      some (first.value column) := by
  rw [get?_summarize_of_notMem _ absent, get?_keyRow_of_mem hcolumn]

theorem periodColumn_notMem_names (named : ∀ metric ∈ metrics, metric.Named) :
    Planning.periodColumn ∉ metrics.map Metric.name := by
  intro hmem
  obtain ⟨metric, hmetric, hname⟩ := List.mem_map.mp hmem
  exact (named metric hmetric).name_ne_periodColumn hname

theorem get?_summarize_period {dates : String} {interval : Interval}
    (named : ∀ metric ∈ metrics, metric.Named) (absent : Planning.periodColumn ∉ columns) :
    (summarize metrics (keyRow (some (dates, interval)) columns first) rows).get?
      Planning.periodColumn = some (.text (interval.keyOf (first.value dates))) := by
  rw [get?_summarize_of_notMem _ (periodColumn_notMem_names named), get?_keyRow_period absent]

/-- Where names are apart, the names of the metrics are new ones. -/
theorem columns_summarize_perm (named : ∀ metric ∈ metrics, metric.Named)
    (apart : NamesApart columns metrics) :
    (summarize metrics (keyRow period columns first) rows).columns.Perm
      (keyColumns period columns ++ metrics.dedup.map Metric.name) := by
  have hfigures : (metrics.dedup.map Metric.name).Nodup := by
    refine List.Nodup.map_on (fun metric hmetric other hother => ?_) (List.nodup_dedup metrics)
    exact apart.ofMetrics metric (List.mem_dedup.mp hmetric) other (List.mem_dedup.mp hother)
  have hdisjoint : ∀ column ∈ keyColumns period columns,
      ∀ name ∈ metrics.dedup.map Metric.name, column ≠ name := by
    rintro column hkey _ hmem rfl
    obtain ⟨metric, hmetric, rfl⟩ := List.mem_map.mp hmem
    rw [List.mem_dedup] at hmetric
    rcases mem_keyColumns.mp hkey with ⟨-, he⟩ | hcolumn
    · exact (named metric hmetric).name_ne_periodColumn he
    · exact apart.ofColumns metric hmetric hcolumn
  have hnodup := List.nodup_append.mpr ⟨nodup_keyColumns period columns, hfigures, hdisjoint⟩
  refine (List.perm_ext_iff_of_nodup (Row.columns_nodup _) hnodup).mpr fun column => ?_
  rw [columns_summarize, columns_keyRow, mem_addColumns, List.mem_append, List.mem_map,
    List.mem_map]
  simp only [List.mem_dedup]

/-- Where names are apart, figures come after the columns of the key and replace nothing. -/
theorem isComplete_of_namesApart (named : ∀ metric ∈ metrics, metric.Named)
    (apart : NamesApart columns metrics) (shows : ShowsBucket period columns first) :
    IsComplete period columns metrics first rows
      (summarize metrics (keyRow period columns first) rows) := by
  have hown : ∀ column ∈ columns, (summarize metrics (keyRow period columns first) rows).get?
      column = some (first.value column) := by
    refine fun column hcolumn => get?_summarize_own hcolumn fun hmem => ?_
    obtain ⟨metric, hmetric, rfl⟩ := List.mem_map.mp hmem
    exact apart.ofColumns metric hmetric hcolumn
  refine ⟨?_, hown, ?_, columns_summarize_perm named apart⟩
  · rintro dates interval rfl
    by_cases hmem : Planning.periodColumn ∈ columns
    · rw [hown _ hmem, shows dates interval rfl hmem]
    · exact get?_summarize_period named hmem
  · -- the last metric of a name shows, and it is the only one
    intro metric hmetric
    obtain ⟨before, last, after, hsplit, hname, hlast⟩ :=
      exists_last_of_name (List.mem_map_of_mem (f := Metric.name) hmetric)
    have hmem : last ∈ metrics := hsplit ▸ by simp
    obtain rfl := apart.ofMetrics last hmem metric hmetric hname
    exact shows_summarize metrics _ rows before last after hsplit hlast

/-- In a complete row nothing was replaced by a cell of another value. -/
theorem namesApart_of_isComplete {row : Row}
    (complete : IsComplete period columns metrics first rows row) :
    NamesApart columns metrics ∧ ShowsBucket period columns first := by
  have hnodup := complete.separate.nodup_iff.mp row.columns_nodup
  obtain ⟨-, hfigures, hdisjoint⟩ := List.nodup_append.mp hnodup
  refine ⟨⟨?_, ?_⟩, ?_⟩
  · intro metric hmetric hcolumn
    have hname := List.mem_map_of_mem (f := Metric.name) (List.mem_dedup.mpr hmetric)
    exact hdisjoint _ (mem_keyColumns.mpr (Or.inr hcolumn)) _ hname rfl
  · intro metric hmetric other hother
    exact List.inj_on_of_nodup_map hfigures (List.mem_dedup.mpr hmetric) (List.mem_dedup.mpr hother)
  · intro dates interval hperiod hcolumn
    have hown := complete.own _ hcolumn
    rw [complete.bucket dates interval hperiod] at hown
    exact (Option.some.inj hown).symm

theorem isSummary_summarize (named : ∀ metric ∈ metrics, metric.Named)
    (alike : ∀ member ∈ rows, keyTuple period columns first = keyTuple period columns member) :
    IsSummary period columns metrics rows first
      (summarize metrics (keyRow period columns first) rows) where
  shows := shows_summarize metrics _ rows
  own _ hcolumn absent := get?_summarize_own hcolumn absent
  alike member hmember _ hcolumn := display_eq_of_keyTuple hcolumn (alike member hmember)
  bucket := by
    rintro dates interval rfl absent
    exact get?_summarize_period named absent
  complete := ⟨namesApart_of_isComplete, fun h => isComplete_of_namesApart named h.1 h.2⟩

end Rows

/-- Aggregating groups makes one row of figures for each key that occurs. The row has the bucket,
the group's own cells and one cell for each metric exactly if no metric has the name of a column of
the grouping or of another metric, and no column of the grouping stands in for the bucket under the
name of the period column with another value. Metrics share a name only if they are the same or take
pairs of columns whose names make the same text. -/
theorem figures_complete_iff_namesApart {state grouped next : State} {columns : List String}
    {time : Option TimeAnalysis} {aggregations : List Aggregation}
    (hgroup : group state columns time = .ok grouped)
    (haggregate : aggregate grouped aggregations = .ok next) :
    ∃ (period : Option Period) (keys : List (List String)) (metrics : List Metric) (out : Dataset),
      let rows := state.working.output
      let key := keyTuple period columns
      settlePeriod state rows time = .ok period ∧
      (∀ k, k ∈ keys ↔ ∃ row ∈ rows, key row = k) ∧
      aggregations.mapM (resolveAggregation grouped grouped.working.sample) = .ok metrics ∧
      next.working = .rows out ∧
      List.Forall₂ (fun k row => ∃ first, (rowsOf key rows k).head? = some first ∧
        IsSummary period columns metrics (rowsOf key rows k) first row) keys out ∧
      ∀ metric ∈ metrics, ∀ other ∈ metrics, metric.name = other.name →
        metric = other ∨ metric.SharesText other := by
  obtain ⟨period, keys, hperiod, hkeys, -, rfl⟩ := exists_keys_of_group hgroup
  obtain ⟨metrics, hmetrics, rfl⟩ := aggregate_eq_ok.mp haggregate
  have hnamed : ∀ metric ∈ metrics, metric.Named := by
    intro metric hmetric
    obtain ⟨a, -, h⟩ := exists_of_mapM_eq_ok hmetrics metric hmetric
    exact (resolveAggregation_names h).2
  refine ⟨period, keys, metrics, _, hperiod, hkeys, hmetrics, rfl, ?_, ?_⟩
  · rw [summaries, List.map_map, List.forall₂_map_right_iff, List.forall₂_same]
    intro k hk
    obtain ⟨first, hfirst, hkey, hcells⟩ := exists_first_of_key ((hkeys k).mp hk)
    refine ⟨first, hfirst, ?_⟩
    rw [Function.comp_apply, hcells]
    exact isSummary_summarize hnamed fun member hmember =>
      hkey.trans (keyTuple_of_mem_rowsOf hmember).symm
  · intro metric hmetric other hother
    exact (hnamed metric hmetric).eq_or_sharesText (hnamed other hother)

/-- The average sales of a city stand beside its name and the number of its sales. -/
theorem average_sales_complete :
    let sale (city : String) (sales : Int64) : Row :=
      .ofCells [("city", .text city), ("sales", .integer sales)]
    let rows : Dataset := [sale "Oslo" 3, sale "Rome" 4, sale "Oslo" 6]
    let state : State := { working := .rows rows }
    let oslo : RowGroup := ⟨.ofCells [("city", .text "Oslo")], [sale "Oslo" 3, sale "Oslo" 6]⟩
    let rome : RowGroup := ⟨.ofCells [("city", .text "Rome")], [sale "Rome" 4]⟩
    let grouped : State := { working := .groups [oslo, rome] }
    let metrics : List Metric :=
      [⟨.avg, some "sales", none, "avg_sales"⟩, ⟨.count, none, none, "count"⟩]
    ∃ next keys out,
      group state ["city"] none = .ok grouped ∧
      aggregate grouped [{ function := .avg, column := some "sales" }, { function := .count }] =
        .ok next ∧
      next.working = .rows out ∧
      List.Forall₂ (fun k row => ∃ first,
        IsComplete none ["city"] metrics first (rowsOf (keyTuple none ["city"]) rows k) row)
        keys out := by
  intro sale rows state oslo rome grouped metrics
  have hgroup : group state ["city"] none = .ok grouped := by
    rw [group_eq_ok]
    exact ⟨rfl, none, rfl, by decide +kernel⟩
  obtain ⟨next, haggregate⟩ : ∃ next, aggregate grouped
      [{ function := .avg, column := some "sales" }, { function := .count }] = .ok next :=
    ⟨_, aggregate_eq_ok.mpr ⟨metrics, rfl, rfl⟩⟩
  obtain ⟨period, keys, resolved, out, hperiod, -, hresolved, hout, hsummaries, -⟩ :=
    figures_complete_iff_namesApart hgroup haggregate
  obtain rfl : period = none := (Except.ok.inj hperiod).symm
  obtain rfl : resolved = metrics := (Except.ok.inj hresolved).symm
  refine ⟨next, keys, out, hgroup, haggregate, hout, hsummaries.imp fun k row h => ?_⟩
  obtain ⟨first, -, hsummary⟩ := h
  have hapart : NamesApart ["city"] metrics := ⟨by decide, by decide⟩
  exact ⟨first, hsummary.complete.mpr ⟨hapart, fun _ _ h => by cases h⟩⟩

/-- The counts replace the cells of a column that has their name, a column that has the name of the
period column replaces the bucket, and of two correlations that share a name one is left. -/
theorem figures_replace_cells :
    let few : Row := .ofCells [("count", .text "few")]
    let counted : State := { working := .groups [⟨few, [few, few]⟩] }
    let early : Row := .ofCells [("day", .text "2024-01-07"), ("period", .text "early")]
    let dated : State := { working := .groups [⟨.ofCells [("period", .text "early")], [early]⟩] }
    let point (x y : Int64) : Row := .ofCells
      [("set", .text "all"), ("a", .integer x), ("b_c", .integer x), ("a_b", .integer x),
        ("c", .integer y)]
    let points : Dataset := [point 1 2, point 2 1]
    let paired : State := { working := .groups [⟨.ofCells [("set", .text "all")], points⟩] }
    let correlated : Row := .ofCells [("set", .text "all"), ("correlation_a_b_c", .float (-1.0))]
    (group { working := .rows [few, few] } ["count"] none = .ok counted ∧
      aggregate counted [{ function := .count }] =
        .ok { working := .rows [.ofCells [("count", .integer 2)]], metrics := ["count"] }) ∧
    (group { working := .rows [early] } ["period"]
        (some { interval := .month, column := some "day" }) = .ok dated ∧
      ∃ next, aggregate dated [{ function := .count }] = .ok next ∧
        next.working = .rows [.ofCells [("period", .text "early"), ("count", .integer 1)]]) ∧
    (group { working := .rows points } ["set"] none = .ok paired ∧
      ∃ next, aggregate paired
          [{ function := .correlation, column := some "a", pairedWith := some "b_c" },
            { function := .correlation, column := some "a_b", pairedWith := some "c" }] = .ok next ∧
        next.working = .rows [correlated]) := by
  intro few counted early dated point points paired correlated
  refine ⟨⟨?_, ?_⟩, ⟨?_, ?_⟩, ?_, ?_⟩
  · rw [group_eq_ok]
    exact ⟨rfl, none, rfl, by decide +kernel⟩
  · rw [aggregate_eq_ok]
    exact ⟨[⟨.count, none, none, "count"⟩], rfl, by decide +kernel⟩
  · rw [group_eq_ok]
    exact ⟨rfl, some ("day", .month), rfl, by decide +kernel⟩
  · refine ⟨_, aggregate_eq_ok.mpr ⟨[⟨.count, none, none, "count"⟩], rfl, rfl⟩, ?_⟩
    decide +kernel
  · rw [group_eq_ok]
    exact ⟨rfl, none, rfl, by decide +kernel⟩
  · refine ⟨_, aggregate_eq_ok.mpr
      ⟨[⟨.correlation, some "a", some "b_c", "correlation_a_b_c"⟩,
        ⟨.correlation, some "a_b", some "c", "correlation_a_b_c"⟩], rfl, rfl⟩, ?_⟩
    decide +kernel

end TableTalk.Engine
