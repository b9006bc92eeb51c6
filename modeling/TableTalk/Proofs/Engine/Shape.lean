import TableTalk.Proofs.Engine.Runs
import TableTalk.Proofs.Engine.Windows
import TableTalk.Proofs.Grouping
import TableTalk.Proofs.Rows

/-!
# All rows have the same columns

Cleaning gives every row every column, and each step treats all rows alike: what
it does to the columns of a row depends on those columns only. In every state of
a run all rows have therefore the same columns in the same order, over all groups
together, and so have the keys of all groups. This is why it is enough to look
for a column in the first row.
-/

namespace TableTalk.Engine

/-- The rows have the same columns in the same order, and no column twice. -/
def SameColumns (rows : Dataset) : Prop :=
  ∃ columns : List String, columns.Nodup ∧ ∀ row ∈ rows, row.columns = columns

namespace SameColumns

variable {rows : Dataset}

theorem of_forall (columns : List String) (h : ∀ row ∈ rows, row.columns = columns) :
    SameColumns rows := by
  cases rows with
  | nil => exact ⟨[], List.nodup_nil, by simp⟩
  | cons first rest =>
    have hfirst : first.columns = columns := h first (by simp)
    exact ⟨columns, hfirst ▸ first.columns_nodup, h⟩

theorem subset {others : Dataset} (same : SameColumns rows) (h : others ⊆ rows) :
    SameColumns others := by
  obtain ⟨columns, distinct, hcolumns⟩ := same
  exact ⟨columns, distinct, fun row hrow => hcolumns row (h hrow)⟩

end SameColumns

/-- Every row of a result is one of some rows with the same columns added to it. -/
def Widens (names : List String) (rows result : Dataset) : Prop :=
  ∀ row ∈ result, ∃ source ∈ rows, row.columns = addColumns source.columns names

namespace Widens

variable {rows result : Dataset} {names : List String}

theorem of_subset (h : result ⊆ rows) : Widens [] rows result :=
  fun row hrow => ⟨row, h hrow, rfl⟩

theorem trans {further : Dataset} {others : List String} (first : Widens names rows result)
    (second : Widens others result further) : Widens (names ++ others) rows further := by
  intro row hrow
  obtain ⟨middle, hmiddle, hcolumns⟩ := second row hrow
  obtain ⟨source, hsource, hmid⟩ := first middle hmiddle
  exact ⟨source, hsource, by rw [hcolumns, hmid, addColumns_append]⟩

theorem sameColumns (widened : Widens names rows result) (same : SameColumns rows) :
    SameColumns result := by
  obtain ⟨columns, -, hcolumns⟩ := same
  apply SameColumns.of_forall (addColumns columns names)
  intro row hrow
  obtain ⟨source, hsource, hrow⟩ := widened row hrow
  rw [hrow, hcolumns source hsource]

theorem of_extends (h : List.Forall₂ (Extends names) rows result) : Widens names rows result := by
  induction h with
  | nil => exact fun row hrow => by cases hrow
  | @cons source row sources rows hextends _ ih =>
    intro other hother
    rcases List.mem_cons.mp hother with rfl | hother
    · exact ⟨source, List.mem_cons_self, hextends.columns⟩
    · obtain ⟨found, hfound, hcolumns⟩ := ih other hother
      exact ⟨found, List.mem_cons_of_mem source hfound, hcolumns⟩

theorem sortRows (column : String) (direction : Direction) (rows : Dataset) :
    Widens [] rows (Series.sortRows column direction rows) :=
  of_subset (Listing.sort_perm _ rows).subset

end Widens

/-- A window function puts the same columns into all rows, whatever the rows are. -/
theorem widens_applyWindow (column : String) (order : Option Series.Order) (direction : Direction)
    (rows : Dataset) (options : Options) (function : WindowFunction) :
    Widens (windowColumns function) rows
      (applyWindow options function column order direction rows) := by
  have harranged : Widens [] rows (windowArrangement column order direction rows function) :=
    .of_subset (windowArrangement_perm column order direction rows function).subset
  exact harranged.trans
    (.of_extends (extends_applyWindow column order direction rows options function))

theorem widens_sliceRows (column : String) (percent : Float) (side : Side) (rows : Dataset) :
    Widens [] rows (Statistics.sliceRows column percent side rows) := by
  apply Widens.of_subset
  rw [Statistics.sliceRows, Statistics.slice]
  split
  · exact List.nil_subset rows
  · exact List.filter_subset_self _

namespace WorkingSet

/-- The rows of all groups together, or the rows that are not grouped. -/
def allRows : WorkingSet → Dataset
  | .rows shown => shown
  | .groups found => found.flatMap RowGroup.rows

/-- All rows have the same columns, over all groups together, and so have the keys of groups. -/
def Uniform : WorkingSet → Prop
  | .rows shown => SameColumns shown
  | .groups found =>
    SameColumns (found.flatMap RowGroup.rows) ∧ SameColumns (found.map RowGroup.key)

variable {working : WorkingSet}

theorem Uniform.allRows (uniform : working.Uniform) : SameColumns working.allRows := by
  cases working with
  | rows shown => exact uniform
  | groups found => exact uniform.1

theorem Uniform.output (uniform : working.Uniform) : SameColumns working.output := by
  cases working with
  | rows shown => exact uniform
  | groups found =>
    obtain ⟨columns, -, hcolumns⟩ := uniform.2
    apply SameColumns.of_forall (addColumn columns countColumn)
    intro row hrow
    obtain ⟨group, hgroup, rfl⟩ := List.mem_map.mp hrow
    rw [groupRow, Row.columns_insert, hcolumns group.key (List.mem_map_of_mem hgroup)]

theorem sample_prefix (working : WorkingSet) : working.sample <+: working.allRows := by
  cases working with
  | rows shown => exact List.take_prefix _ _
  | groups found => exact List.take_prefix _ _

theorem partitionSample_prefix (working : WorkingSet) :
    working.partitionSample <+: working.allRows := by
  cases working with
  | rows shown => exact List.prefix_rfl
  | groups found => exact List.take_prefix _ _

/-- A calculation that adds the same columns to the rows of every partition keeps rows alike: the
keys that are written onto the rows of groups have the same columns, too. -/
theorem Uniform.mapPartitions {apply : Dataset → Dataset} {names : List String}
    (uniform : working.Uniform) (widens : ∀ rows, Widens names rows (apply rows)) :
    SameColumns (working.mapPartitions apply) := by
  cases working with
  | rows shown => exact (widens shown).sameColumns uniform
  | groups found =>
    obtain ⟨⟨columns, -, hcolumns⟩, ⟨keyColumns, -, hkeys⟩⟩ := uniform
    apply SameColumns.of_forall (addColumns (addColumns columns names) keyColumns)
    intro row hrow
    obtain ⟨group, hgroup, hrow⟩ := List.mem_flatMap.mp hrow
    obtain ⟨calculated, hcalculated, rfl⟩ := List.mem_map.mp hrow
    obtain ⟨source, hsource, hadded⟩ := widens group.rows calculated hcalculated
    have hkey : group.key.cells.map Prod.fst = keyColumns :=
      hkeys group.key (List.mem_map_of_mem hgroup)
    have hshape : source.columns = columns :=
      hcolumns source (List.mem_flatMap.mpr ⟨group, hgroup, hsource⟩)
    rw [Row.columns_insertAll, hadded, hshape, hkey]

end WorkingSet

/-- The columns of the key of a group. -/
def keyColumns (period : Option Period) (columns : List String) : List String :=
  addColumns [] ((period.map fun _ => Planning.periodColumn).toList ++ columns)

theorem columns_groupCells (period : Option Period) (columns : List String) (row : Row) :
    (groupCells period columns row).map Prod.fst =
      (period.map fun _ => Planning.periodColumn).toList ++ columns := by
  rw [groupCells, List.map_append, List.map_map]
  congr 1
  · cases period with
    | none => rfl
    | some period => rfl
  · exact List.map_id' columns

theorem columns_rowGroup_key {period : Option Period} {columns : List String}
    {group : Grouping.Group (List String) Row} (filled : group.entries ≠ []) :
    (rowGroup period columns group).key.columns = keyColumns period columns := by
  obtain ⟨first, rest, hentries⟩ := List.exists_cons_of_ne_nil filled
  simp only [rowGroup, hentries, List.head?_cons, Option.map_some, Option.getD_some]
  rw [Row.columns_ofCells, columns_groupCells, keyColumns]

theorem uniform_group {rows : Dataset} (same : SameColumns rows) (period : Option Period)
    (columns : List String) :
    (WorkingSet.groups
      ((Grouping.groupBy (groupKey period columns) rows).map
        (rowGroup period columns))).Uniform := by
  constructor
  · apply same.subset
    intro row hrow
    obtain ⟨group, hgroup, hrow⟩ := List.mem_flatMap.mp hrow
    obtain ⟨entries, hentries, rfl⟩ := List.mem_map.mp hgroup
    exact Grouping.mem_of_mem_groupBy hentries hrow
  · apply SameColumns.of_forall (keyColumns period columns)
    intro key hkey
    obtain ⟨group, hgroup, rfl⟩ := List.mem_map.mp hkey
    obtain ⟨entries, hentries, rfl⟩ := List.mem_map.mp hgroup
    exact columns_rowGroup_key (Grouping.ne_nil_of_mem_groupBy entries hentries)

theorem columns_summarize (metrics : List Metric) (key : Row) (rows : Dataset) :
    (summarize metrics key rows).columns = addColumns key.columns (metrics.map Metric.name) := by
  rw [summarize, Row.columns_insertAll, List.map_map]
  rfl

theorem sameColumns_summaries (metrics : List Metric) {working : WorkingSet}
    (uniform : working.Uniform) : SameColumns (summaries metrics working) := by
  cases working with
  | rows shown =>
    apply SameColumns.of_forall (addColumns [] (metrics.map Metric.name))
    intro row hrow
    obtain rfl := List.mem_singleton.mp hrow
    exact columns_summarize metrics .empty shown
  | groups found =>
    obtain ⟨columns, -, hcolumns⟩ := uniform.2
    apply SameColumns.of_forall (addColumns columns (metrics.map Metric.name))
    intro row hrow
    obtain ⟨group, hgroup, rfl⟩ := List.mem_map.mp hrow
    rw [columns_summarize, hcolumns group.key (List.mem_map_of_mem hgroup)]

variable {options : Options} {state next : State}

/-- No step makes rows differ in their columns. -/
theorem uniform_runStep {step : Step} (uniform : state.working.Uniform)
    (h : runStep options state step = .ok next) : next.working.Uniform := by
  have hsample : SameColumns state.working.partitionSample :=
    uniform.allRows.subset (WorkingSet.partitionSample_prefix _).subset
  cases step with
  | select columns =>
    obtain ⟨-, rfl⟩ := select_eq_ok.mp h
    apply SameColumns.of_forall (addColumns [] columns)
    intro row hrow
    obtain ⟨source, -, rfl⟩ := List.mem_map.mp hrow
    exact Row.columns_project source columns
  | filter conditions sentiment =>
    obtain ⟨-, rating, -, rfl⟩ := filter_eq_ok.mp h
    exact uniform.output.subset (List.filter_subset_self _)
  | group columns time =>
    obtain ⟨-, period, -, rfl⟩ := group_eq_ok.mp h
    exact uniform_group uniform.output period columns
  | aggregate aggregations =>
    obtain ⟨metrics, -, rfl⟩ := aggregate_eq_ok.mp h
    exact sameColumns_summaries metrics uniform
  | window request orderBy direction =>
    obtain ⟨found, -, h⟩ := window_eq_ok.mp h
    cases found with
    | none => exact h ▸ hsample
    | some column =>
      obtain ⟨order, -, rfl⟩ := h
      exact uniform.mapPartitions fun rows =>
        widens_applyWindow column order direction rows options request.function
  | statistical sought =>
    obtain ⟨found, -, h⟩ := slice_eq_ok.mp h
    cases found with
    | none => exact h ▸ hsample
    | some column =>
      subst h
      exact uniform.mapPartitions fun rows =>
        widens_sliceRows column sought.percent sought.side rows
  | order column direction =>
    obtain ⟨found, -, h⟩ := order_eq_ok.mp h
    cases found with
    | none => exact h ▸ uniform.output
    | some column =>
      subst h
      exact (Widens.sortRows column direction _).sameColumns uniform.output
  | limit count =>
    obtain rfl := ok_eq_ok.mp h
    exact uniform.output.subset (List.take_subset _ _)

theorem uniform_carryOut {steps : List PlannedStep} {reached : State}
    (uniform : state.working.Uniform) (ok : carryOut options state steps = .ok reached) :
    reached.working.Uniform :=
  carryOut_induction uniform (fun _ _ _ _ huniform hstep => uniform_runStep huniform hstep) ok

theorem uniform_start (options : Options) (dataset : Dataset) :
    (Run.start options dataset).state.working.Uniform := by
  let profiles := (Cleaning.columnsOf dataset).map (Cleaning.profile options.clean dataset)
  apply SameColumns.of_forall (addColumns [] (profiles.map Cleaning.Profile.column))
  intro row hrow
  obtain ⟨cells, hcells, rfl⟩ := List.mem_map.mp hrow
  obtain ⟨source, -, rfl⟩ := List.mem_map.mp hcells
  rw [Row.columns_ofCells, List.map_map, Cleaning.cleanRow, List.map_map]
  rfl

/-- Looking for columns in the first of some seen rows finds out about all rows of a whole. -/
structure FirstRowDecides (state : State) (seen whole : Dataset) : Prop where
  required : ∀ columns site, requireColumns seen columns site = .ok () ↔
    ∀ row ∈ whole, ∀ column ∈ columns, row.hasColumn column = true
  located : whole ≠ [] → ∀ column, state.locate seen column =
    if whole.all fun row => row.hasColumn column then some column
    else
      state.metrics.find? fun metric =>
        Text.endsWith metric ("_" ++ column) && whole.all fun row => row.hasColumn metric

theorem SameColumns.hasColumn_all {first : Row} {rest : Dataset}
    (same : SameColumns (first :: rest)) (column : String) :
    ((first :: rest).all fun row => row.hasColumn column) = first.hasColumn column := by
  obtain ⟨columns, -, hcolumns⟩ := same
  have hfirst : first.columns = columns := hcolumns first (by simp)
  rw [Bool.eq_iff_iff, List.all_eq_true]
  constructor
  · intro hall
    exact hall first (by simp)
  · intro hhas row hrow
    rw [Row.hasColumn_iff, hfirst] at hhas
    rw [Row.hasColumn_iff, hcolumns row hrow]
    exact hhas

theorem firstRowDecides_of_prefix {seen whole : Dataset} (state : State) (same : SameColumns whole)
    (hstart : seen <+: whole) (hseen : whole ≠ [] → seen ≠ []) :
    FirstRowDecides state seen whole := by
  cases whole with
  | nil =>
    obtain rfl := List.prefix_nil.mp hstart
    exact ⟨fun columns site => by simp [requireColumns], fun h => absurd rfl h⟩
  | cons first rest =>
    obtain ⟨head, tail, rfl⟩ := List.exists_cons_of_ne_nil (hseen (by simp))
    obtain ⟨rfl, -⟩ := List.cons_prefix_cons.mp hstart
    constructor
    · intro columns site
      rw [requireColumns_cons]
      constructor
      · intro hfirst row hrow column hcolumn
        have hall := same.hasColumn_all column
        rw [hfirst column hcolumn, List.all_eq_true] at hall
        exact hall row hrow
      · intro hall column hcolumn
        exact hall head (by simp) column hcolumn
    · intro _ column
      simp only [State.locate, same.hasColumn_all]

theorem firstRowDecides_sample (state : State) (uniform : state.working.Uniform) :
    FirstRowDecides state state.working.sample state.working.allRows := by
  apply firstRowDecides_of_prefix state uniform.allRows (WorkingSet.sample_prefix _)
  have hsize : sampleSize ≠ 0 := by decide
  cases state.working with
  | rows shown => simp [WorkingSet.sample, WorkingSet.allRows, List.take_eq_nil_iff, hsize]
  | groups found => simp [WorkingSet.sample, WorkingSet.allRows, List.take_eq_nil_iff, hsize]

theorem firstRowDecides_partitionSample (state : State) (uniform : state.working.Uniform) :
    FirstRowDecides state state.working.partitionSample state.working.allRows := by
  have hsample := firstRowDecides_sample state uniform
  obtain ⟨working, metrics, windowColumn⟩ := state
  cases working with
  | rows shown => exact firstRowDecides_of_prefix _ uniform.allRows List.prefix_rfl id
  | groups found => exact hsample

/-- In every state that the first steps of a plan lead to, all rows have the same columns in the
same order, over all groups together, and so have all keys of groups. The rows in which steps look
for columns are the shown rows, a sample of all rows, or all rows that are not grouped; in each of
them the first row decides for all rows. -/
theorem reached_rows_share_columns (options : Options) (dataset : Dataset) (plan : Plan) :
    SameColumns (execute options dataset plan).rows ∧
    ∀ before reached, before <+: plan.steps →
      carryOut options (Run.start options dataset).state before = .ok reached →
        reached.working.Uniform ∧ SameColumns reached.working.output ∧
        FirstRowDecides reached reached.working.output reached.working.output ∧
        FirstRowDecides reached reached.working.sample reached.working.allRows ∧
        FirstRowDecides reached reached.working.partitionSample reached.working.allRows := by
  have hreached {before : List PlannedStep} {reached : State}
      (ok : carryOut options (Run.start options dataset).state before = .ok reached) :
      reached.working.Uniform :=
    uniform_carryOut (uniform_start options dataset) ok
  constructor
  · by_cases nonempty : dataset = []
    · subst nonempty
      exact .of_forall [] (by simp [execute, failed])
    · obtain ⟨before, -, ok⟩ :=
        exists_prefix_carryOut options (.start options dataset) plan.steps
      rw [rows_execute options plan nonempty]
      exact (hreached ok).output
  · intro before reached _ ok
    have uniform := hreached ok
    exact ⟨uniform, uniform.output,
      firstRowDecides_of_prefix reached uniform.output List.prefix_rfl id,
      firstRowDecides_sample reached uniform, firstRowDecides_partitionSample reached uniform⟩

/-- Sales with a column that one of the rows lacks, grouped by city. -/
theorem grouped_sales_share_columns :
    let dataset : Dataset :=
      [.ofCells [("city", .text "Oslo")], .ofCells [("sales", .text "3"), ("city", .text "Rome")]]
    let steps : List PlannedStep := [.ofStep (.group ["city"] none)]
    ∃ reached, carryOut {} (Run.start {} dataset).state steps = .ok reached ∧
      (reached.working.allRows.map Row.columns = [["city", "sales"], ["city", "sales"]]) ∧
      reached.working.Uniform ∧
      FirstRowDecides reached reached.working.sample reached.working.allRows := by
  intro dataset steps
  obtain ⟨-, hreached⟩ := reached_rows_share_columns {} dataset
    { steps, intent := {}, complexity := .simple, score := 0, database := "memory" }
  obtain ⟨reached, ok, hcolumns⟩ :
      ∃ reached, carryOut {} (Run.start {} dataset).state steps = .ok reached ∧
        (reached.working.allRows.map Row.columns = [["city", "sales"], ["city", "sales"]]) :=
    ⟨_, rfl, by decide +kernel⟩
  obtain ⟨uniform, -, -, hsample, -⟩ := hreached steps reached List.prefix_rfl ok
  exact ⟨reached, ok, hcolumns, uniform, hsample⟩

end TableTalk.Engine
