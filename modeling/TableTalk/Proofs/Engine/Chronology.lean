import TableTalk.Proofs.Engine.LateColumns
import TableTalk.Proofs.Engine.Partitions
import TableTalk.Proofs.Engine.Summaries
import TableTalk.Proofs.Sorting

/-!
# Rows in the order of time

Grouping by time puts the groups into the order of their periods. Figures of the
groups keep this order, and so do windows within the groups, windows that run over the
periods, slices and limits. Sorting does not keep it, and neither do ranks over all
periods. A plan that has none of these ends with its rows in the order of time.
-/

namespace TableTalk.Engine

open Planning (periodColumn)

variable {options : Options} {state next reached : State} {rows others : Dataset}
  {found : List RowGroup} {columns : List String}

/-- The period of a row, as it is displayed. -/
def periodOf (row : Row) : String :=
  (row.value periodColumn).display

/-- Rows that all have a period and stand in the order of their periods. -/
structure Chronological (rows : Dataset) : Prop where
  dated : ∀ row ∈ rows, ∃ period, row.get? periodColumn = some (.text period)
  ordered : rows.Pairwise fun a b => periodOf a ≤ periodOf b

/-- All rows have a period, and it lies from the period of one row to the period of another. -/
structure Spans (rows : Dataset) (first last : Row) : Prop where
  dated : ∀ row ∈ rows, periodColumn ∈ row.columns
  between : ∀ row ∈ rows, periodOf first ≤ periodOf row ∧ periodOf row ≤ periodOf last

theorem value_period {row : Row} {period : String}
    (h : row.get? periodColumn = some (.text period)) : row.value periodColumn = .text period := by
  rw [Row.value, h, Option.getD_some]

theorem periodOf_eq {row : Row} {period : String}
    (h : row.get? periodColumn = some (.text period)) : periodOf row = period := by
  rw [periodOf, value_period h, Value.display]

namespace Chronological

theorem nil : Chronological [] :=
  ⟨fun _ hrow => absurd hrow List.not_mem_nil, .nil⟩

theorem sublist (h : Chronological rows) (kept : others.Sublist rows) : Chronological others :=
  ⟨fun row hrow => h.dated row (kept.subset hrow), h.ordered.sublist kept⟩

/-- Only the cells of the period column matter. -/
theorem of_cells (h : Chronological rows)
    (same : others.map (fun row => row.get? periodColumn) =
      rows.map fun row => row.get? periodColumn) : Chronological others := by
  constructor
  · intro row hrow
    obtain ⟨source, hsource, hcell⟩ := List.mem_map.mp (same ▸ List.mem_map_of_mem hrow)
    obtain ⟨period, hperiod⟩ := h.dated source hsource
    exact ⟨period, hcell ▸ hperiod⟩
  · have hperiods : others.map periodOf = rows.map periodOf := by
      have hcells := congrArg (List.map fun cell => (cell.getD Value.null).display) same
      rwa [List.map_map, List.map_map] at hcells
    have hordered := List.pairwise_map.mpr h.ordered
    rw [← hperiods, List.pairwise_map] at hordered
    exact hordered

theorem of_extends {names : List String} (h : Chronological rows)
    (hextends : List.Forall₂ (Extends names) rows others) (absent : periodColumn ∉ names) :
    Chronological others := by
  refine h.of_cells ?_
  rw [← List.forall₂_eq_eq_eq, List.forall₂_map_left_iff, List.forall₂_map_right_iff]
  exact hextends.flip.imp fun result source hsource => hsource.kept periodColumn absent

/-- Texts are sorted as texts. -/
theorem sortRows (dated : ∀ row ∈ rows, ∃ period, row.get? periodColumn = some (.text period)) :
    Chronological (Series.sortRows periodColumn .ascending rows) := by
  have hsorted : ∀ row ∈ Series.sortRows periodColumn .ascending rows,
      ∃ period, row.get? periodColumn = some (.text period) := fun row hrow =>
    dated row (Listing.mem_sort.mp hrow)
  refine ⟨hsorted, ?_⟩
  have hpairs := @Direction.pairwise_sort .ascending Row (fun row => row.value periodColumn)
    (fun _ _ => True) rows
    (fun row hrow => by
      obtain ⟨period, hperiod⟩ := dated row hrow
      rw [value_period hperiod]
      rfl)
    (List.pairwise_of_forall fun _ _ => trivial)
  refine hpairs.imp_of_mem fun {a b} ha hb hordered => ?_
  obtain ⟨p, hp⟩ := hsorted a ha
  obtain ⟨q, hq⟩ := hsorted b hb
  have hle : (compare q p == .lt) = false := by
    have hprecedes := hordered.1
    rw [value_period hp, value_period hq] at hprecedes
    exact hprecedes
  rw [beq_eq_false_iff_ne, ne_eq, compare_lt_iff_lt, not_lt] at hle
  rwa [periodOf_eq hp, periodOf_eq hq]

/-- The rows of groups are written out group by group, with the periods of their groups. -/
theorem mapPartitions (h : Chronological (found.map RowGroup.key)) (apply : Dataset → Dataset) :
    Chronological ((WorkingSet.groups found).mapPartitions apply) := by
  have hcell : ∀ group ∈ found, ∃ period, group.key.get? periodColumn = some (.text period) ∧
      ∀ row ∈ WorkingSet.partitionRows apply group,
        row.get? periodColumn = some (.text period) := by
    intro group hgroup
    obtain ⟨period, hperiod⟩ := h.dated group.key (List.mem_map_of_mem hgroup)
    refine ⟨period, hperiod, fun row hrow => ?_⟩
    obtain ⟨source, -, rfl⟩ := List.mem_map.mp hrow
    rw [Row.get?_insertAll_cells, hperiod, Option.some_or]
  constructor
  · intro row hrow
    obtain ⟨group, hgroup, hrow⟩ := List.mem_flatMap.mp hrow
    obtain ⟨period, -, hrows⟩ := hcell group hgroup
    exact ⟨period, hrows row hrow⟩
  · have hkeys := List.pairwise_map.mp h.ordered
    refine List.pairwise_flatMap.mpr ⟨fun group hgroup => ?_, ?_⟩
    · obtain ⟨period, -, hrows⟩ := hcell group hgroup
      refine List.pairwise_of_forall_mem_list fun a ha b hb => ?_
      rw [periodOf_eq (hrows a ha), periodOf_eq (hrows b hb)]
    · refine hkeys.imp_of_mem fun {first second} hfirst hsecond hle a ha b hb => ?_
      obtain ⟨p, hp, hfirstRows⟩ := hcell first hfirst
      obtain ⟨q, hq, hsecondRows⟩ := hcell second hsecond
      rw [periodOf_eq hp, periodOf_eq hq] at hle
      rwa [periodOf_eq (hfirstRows a ha), periodOf_eq (hsecondRows b hb)]

/-- The first row has the least period, and the last row has the greatest one. -/
theorem spans (h : Chronological rows) {first last : Row} (hfirst : rows.head? = some first)
    (hlast : rows.getLast? = some last) : Spans rows first last := by
  constructor
  · intro row hrow
    obtain ⟨period, hperiod⟩ := h.dated row hrow
    exact Row.mem_columns_of_get? hperiod
  · intro row hrow
    constructor
    · obtain ⟨rest, rfl⟩ := List.head?_eq_some_iff.mp hfirst
      rcases List.mem_cons.mp hrow with rfl | hrest
      · exact le_refl _
      · exact (List.pairwise_cons.mp h.ordered).1 row hrest
    · obtain ⟨front, rfl⟩ := List.getLast?_eq_some_iff.mp hlast
      rcases List.mem_append.mp hrow with hfront | hrow
      · exact (List.pairwise_append.mp h.ordered).2.2 row hfront last List.mem_cons_self
      · rw [List.mem_singleton.mp hrow]

end Chronological

/-- The rows stand in the order of time, or the groups do by their keys. -/
def WorkingSet.IsChronological : WorkingSet → Prop
  | .rows shown => Chronological shown
  | .groups found => Chronological (found.map RowGroup.key)

theorem WorkingSet.IsChronological.output {working : WorkingSet} (h : working.IsChronological) :
    Chronological working.output := by
  cases working with
  | rows shown => exact h
  | groups found =>
    refine Chronological.of_cells h ?_
    have hother : periodColumn ≠ countColumn := by decide
    rw [WorkingSet.output, List.map_map, List.map_map]
    refine List.map_congr_left fun group _ => ?_
    rw [Function.comp_apply, Function.comp_apply, groupRow, Row.get?_insert, if_neg hother]

section Steps

/-- The keys of groups begin with their periods, so the groups are in the order of time. -/
theorem chronological_keys {dates : String} {interval : Interval}
    (absent : periodColumn ∉ columns) (rows : Dataset) :
    let period := some (dates, interval)
    Chronological (((Grouping.groupBy (groupKey period columns) rows).map
      (rowGroup period columns)).map RowGroup.key) := by
  intro period
  have hkey : ∀ group ∈ Grouping.groupBy (groupKey period columns) rows, ∃ bucket rest,
      group.key = bucket :: rest ∧
      (rowGroup period columns group).key.get? periodColumn = some (.text bucket) := by
    intro group hgroup
    obtain ⟨first, hfirst, hfirstKey⟩ := Grouping.exists_head_of_mem_groupBy hgroup
    refine ⟨interval.keyOf (first.value dates), _, hfirstKey.symm, ?_⟩
    rw [rowGroup, hfirst]
    exact get?_keyRow_period absent
  rw [List.map_map]
  constructor
  · intro key hmem
    obtain ⟨group, hgroup, rfl⟩ := List.mem_map.mp hmem
    obtain ⟨bucket, -, -, hbucket⟩ := hkey group hgroup
    exact ⟨bucket, hbucket⟩
  · rw [List.pairwise_map]
    refine (Grouping.ascending_groupBy (groupKey period columns) rows).imp_of_mem
      fun {a b} ha hb hlt => ?_
    obtain ⟨p, _, hp, hpCell⟩ := hkey a ha
    obtain ⟨q, _, hq, hqCell⟩ := hkey b hb
    rw [hp, hq, List.cons_lt_cons_iff] at hlt
    rw [Function.comp_apply, Function.comp_apply, periodOf_eq hpCell, periodOf_eq hqCell]
    rcases hlt with hlt | ⟨rfl, -⟩
    · exact le_of_lt hlt
    · exact le_refl _

/-- Grouping by time leads to groups in the order of time. -/
theorem chronological_group {time : TimeAnalysis} (absent : periodColumn ∉ columns)
    (h : group state columns (some time) = .ok next) :
    ∃ found, next.working = .groups found ∧ Chronological (found.map RowGroup.key) := by
  obtain ⟨-, period, hperiod, rfl⟩ := group_eq_ok.mp h
  refine ⟨_, rfl, ?_⟩
  obtain ⟨dates, hdates, hperiod⟩ := bind_eq_ok.mp hperiod
  obtain rfl := ok_eq_ok.mp hperiod
  cases dates with
  | none =>
    rw [rows_eq_nil_of_resolve hdates]
    exact .nil
  | some dates => exact chronological_keys absent _

/-- A step leaves rows or groups in the order of time. -/
def KeepsTime (working : WorkingSet) : Step → Prop
  | .aggregate _ => ¬ working.IsPlain
  | .window request orderBy direction =>
    ¬ working.IsPlain ∨ request.function.ranksValues = false ∧ orderBy = some periodColumn ∧
      direction = .ascending
  | .statistical _ => True
  | .limit _ => True
  | _ => False

/-- A figure that runs over the periods sorts the rows by them. -/
theorem chronological_applyWindow {function : WindowFunction} {column : String}
    (runs : function.ranksValues = false) (h : Chronological rows) :
    Chronological
      (applyWindow options function column (some ⟨periodColumn, .ascending⟩) .ascending rows) := by
  refine Chronological.of_extends ?_ (extends_applyWindow _ _ _ _ _ _)
    (periodColumn_notMem_windowColumns function)
  have harranged : windowArrangement column (some ⟨periodColumn, .ascending⟩) .ascending rows
      function = Series.sortRows periodColumn .ascending rows := by
    cases function <;> first | rfl | cases runs
  rw [harranged]
  exact .sortRows h.dated

theorem chronological_sliceRows (h : Chronological rows) (column : String) (percent : Float)
    (side : Side) : Chronological (Statistics.sliceRows column percent side rows) := by
  rw [Statistics.sliceRows, Statistics.slice]
  split
  · exact .nil
  · exact h.sublist List.filter_sublist

theorem chronological_summaries {metrics : List Metric} (named : ∀ metric ∈ metrics, metric.Named)
    (h : Chronological (found.map RowGroup.key)) :
    Chronological (summaries metrics (.groups found)) := by
  refine h.of_cells ?_
  rw [summaries, List.map_map, List.map_map]
  refine List.map_congr_left fun group _ => ?_
  exact get?_summarize_of_notMem group.key (periodColumn_notMem_names named)

theorem chronological_runStep {step : Step} (chronological : state.working.IsChronological)
    (keeps : KeepsTime state.working step) (h : runStep options state step = .ok next) :
    next.working.IsChronological := by
  cases step with
  | select columns => cases keeps
  | filter conditions sentiment => cases keeps
  | group columns time => cases keeps
  | order column direction => cases keeps
  | aggregate aggregations =>
    obtain ⟨metrics, hmetrics, rfl⟩ := aggregate_eq_ok.mp h
    have named : ∀ metric ∈ metrics, metric.Named := fun metric hmetric => by
      obtain ⟨aggregation, -, hresolved⟩ := exists_of_mapM_eq_ok hmetrics metric hmetric
      exact (resolveAggregation_names hresolved).2
    cases hworking : state.working with
    | rows shown => exact absurd (hworking ▸ trivial) keeps
    | groups found =>
      rw [hworking] at chronological
      exact chronological_summaries named chronological
  | window request orderBy direction =>
    obtain ⟨column, hcolumn, h⟩ := window_eq_ok.mp h
    cases column with
    | none =>
      rw [h, rows_eq_nil_of_resolve hcolumn]
      exact .nil
    | some column =>
      obtain ⟨order, horder, rfl⟩ := h
      cases hworking : state.working with
      | groups found =>
        rw [hworking] at chronological
        exact Chronological.mapPartitions chronological _
      | rows shown =>
        rw [hworking] at chronological keeps horder
        obtain ⟨hruns, rfl, rfl⟩ := keeps.resolve_left (not_not.mpr trivial)
        have hthere : ∀ first ∈ shown.head?, periodColumn ∈ first.columns := fun first hfirst => by
          obtain ⟨period, hperiod⟩ := chronological.dated first (List.mem_of_mem_head? hfirst)
          exact Row.mem_columns_of_get? hperiod
        obtain rfl : order = some ⟨periodColumn, .ascending⟩ := by
          rw [windowOrder, WorkingSet.partitionSample, resolve_named hthere] at horder
          exact ok_eq_ok.mp horder
        exact chronological_applyWindow hruns chronological
  | statistical sought =>
    obtain ⟨column, hcolumn, h⟩ := slice_eq_ok.mp h
    cases column with
    | none =>
      rw [h, rows_eq_nil_of_resolve hcolumn]
      exact .nil
    | some column =>
      subst h
      cases hworking : state.working with
      | groups found =>
        rw [hworking] at chronological
        exact Chronological.mapPartitions chronological _
      | rows shown =>
        rw [hworking] at chronological
        exact chronological_sliceRows chronological column sought.percent sought.side
  | limit count =>
    obtain rfl := ok_eq_ok.mp h
    exact chronological.output.sublist (List.take_sublist count _)

theorem chronological_carryOut {steps : List Step} (chronological : state.working.IsChronological)
    (keeps : ∀ step ∈ steps, ∀ working, KeepsTime working step)
    (ok : carryOut options state (steps.map .ofStep) = .ok reached) :
    reached.working.IsChronological := by
  refine carryOut_induction (motive := fun state => state.working.IsChronological) chronological
    (fun planned hplanned before after hbefore hstep => ?_) ok
  obtain ⟨step, hstepMem, rfl⟩ := List.mem_map.mp hplanned
  exact chronological_runStep hbefore (keeps step hstepMem before.working) hstep

end Steps

end TableTalk.Engine
