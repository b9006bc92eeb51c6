import TableTalk.Proofs.Engine.Columns
import TableTalk.Proofs.Reading

/-!
# Columns after grouping and aggregation

Figures of groups take the place of rows, and with the rows go their columns: what
is left are the cells of the keys and the figures. A window function, a slice or
an order that names a column finds it in the rows that are left, or finds a figure
calculated from it. Otherwise it misses the column, and that it misses columns for
no other reason is what follows from the invariant here: what rows answer to after
they are aggregated, they answer to until the plan ends.
-/

namespace TableTalk.Engine

open Planning (IsPlanned)

variable {options : Options} {state next reached : State} {intent : Intent} {step : Step}
  {steps : List Step} {dataset : Dataset} {column : String} {metrics : List String} {row : Row}

section Answers

/-- A row has a column of this name, or a figure that is calculated from it. -/
def Answers (metrics : List String) (column : String) (row : Row) : Prop :=
  column ∈ row.columns ∨
    ∃ metric ∈ metrics, Text.endsWith metric ("_" ++ column) = true ∧ metric ∈ row.columns

theorem locate_eq_none_iff {first : Row} {rest : Dataset} :
    state.locate (first :: rest) column = none ↔ ¬ Answers state.metrics column first := by
  rw [State.locate]
  split
  case isTrue h => simp [Answers, Row.hasColumn_iff.mp h]
  case isFalse h =>
    rw [Row.hasColumn_iff] at h
    simp [Answers, h, Row.hasColumn_iff]

theorem Answers.mono {wider : Row} (answers : Answers metrics column row)
    (h : row.columns ⊆ wider.columns) : Answers metrics column wider := by
  rcases answers with hmem | ⟨metric, hmetric, hends, hmem⟩
  · exact Or.inl (h hmem)
  · exact Or.inr ⟨metric, hmetric, hends, h hmem⟩

/-- The columns that a step looks up when it comes after the aggregation. -/
def lateColumns : Step → List String
  | .window request orderBy _ => request.column.toList ++ orderBy.toList
  | .statistical sought => sought.column.toList
  | .order column _ => column.toList
  | _ => []

/-- The rows in which a step looks for columns when it comes after the aggregation. -/
def lateRows (working : WorkingSet) : Step → Dataset
  | .order _ _ => working.output
  | _ => working.partitionSample

theorem exists_of_resolve_missing {rows : Dataset} {named : Option String} {site other : Site}
    {suggest : Dataset → Option String} {missing : Fault}
    (hmissing : ∀ column site, missing ≠ .missingColumn column site)
    (h : state.resolve rows named site suggest missing = .error (.missingColumn column other)) :
    named = some column ∧ ∃ first ∈ rows.head?, ¬ Answers state.metrics column first := by
  obtain ⟨hne, hnamed, hlocate, -⟩ := (resolve_eq_missing hmissing).mp h
  obtain ⟨first, rest, rfl⟩ := List.exists_cons_of_ne_nil hne
  exact ⟨hnamed, first, rfl, locate_eq_none_iff.mp hlocate⟩

/-- A late step misses a column only if it names it and the first of the rows does not answer. -/
theorem exists_of_late_missing {site : Site}
    (late : Operation.priority .aggregate < step.operation.priority)
    (stuck : runStep options state step = .error (.missingColumn column site)) :
    column ∈ lateColumns step ∧
      ∃ first ∈ (lateRows state.working step).head?, ¬ Answers state.metrics column first := by
  cases step with
  | window request orderBy direction =>
    rcases bind_eq_error.mp stuck with herror | ⟨found, -, herror⟩
    · obtain ⟨hnamed, hfirst⟩ := exists_of_resolve_missing (by nofun) herror
      exact ⟨by simp [lateColumns, hnamed], hfirst⟩
    · split at herror
      · cases herror
      · rcases bind_eq_error.mp herror with herror | ⟨_, -, herror⟩
        · cases orderBy with
          | none => cases herror
          | some name =>
            rcases bind_eq_error.mp herror with herror | ⟨_, -, herror⟩
            · obtain ⟨hnamed, hfirst⟩ := exists_of_resolve_missing (by nofun) herror
              exact ⟨by simp [lateColumns, hnamed], hfirst⟩
            · cases herror
        · cases herror
  | statistical sought =>
    rcases bind_eq_error.mp stuck with herror | ⟨found, -, herror⟩
    · obtain ⟨hnamed, hfirst⟩ := exists_of_resolve_missing (by nofun) herror
      exact ⟨by simp [lateColumns, hnamed], hfirst⟩
    · split at herror <;> cases herror
  | order named direction =>
    rcases bind_eq_error.mp stuck with herror | ⟨found, -, herror⟩
    · obtain ⟨hnamed, hfirst⟩ := exists_of_resolve_missing (by nofun) herror
      exact ⟨by simp [lateColumns, hnamed], hfirst⟩
    · split at herror <;> cases herror
  | limit count => cases stuck
  | _ => exact absurd late (by simp [Step.operation, Operation.priority])

end Answers

section Lasting

/-- The rows are not grouped, and all of them answer to a name. -/
structure AllAnswer (column : String) (state : State) : Prop where
  plain : state.working.IsPlain
  answer : ∀ row ∈ state.working.allRows, Answers state.metrics column row

theorem lateRows_of_plain {working : WorkingSet} (plain : working.IsPlain) (step : Step) :
    lateRows working step = working.output := by
  cases working with
  | rows shown => cases step <;> rfl
  | groups found => cases plain

theorem AllAnswer.lateRows (all : AllAnswer column state) (step : Step) :
    ∀ first ∈ (lateRows state.working step).head?, Answers state.metrics column first := by
  intro first hfirst
  rw [lateRows_of_plain all.plain, all.plain.output_eq] at hfirst
  exact all.answer first (List.mem_of_mem_head? hfirst)

/-- Window functions and slices: the steps between an aggregation and an order. -/
def IsBetween (step : Step) : Prop :=
  step.operation = .window ∨ step.operation = .statistical

/-- The columns that a step puts into rows. -/
def addedColumns : Step → List String
  | .window request _ _ => windowColumns request.function
  | _ => []

theorem widens_runStep (plain : state.working.IsPlain) (between : IsBetween step)
    (h : runStep options state step = .ok next) :
    next.metrics = state.metrics ∧
      Widens (addedColumns step) state.working.allRows next.working.allRows := by
  obtain ⟨working, metrics, windowColumn⟩ := state
  cases working with
  | groups found => cases plain
  | rows shown =>
    cases step with
    | window request orderBy direction =>
      obtain ⟨found, hfound, h⟩ := window_eq_ok.mp h
      cases found with
      | none =>
        have hnil : shown = [] := rows_eq_nil_of_resolve hfound
        subst h hnil
        exact ⟨rfl, fun row hrow => by cases hrow⟩
      | some column =>
        obtain ⟨order, -, rfl⟩ := h
        exact ⟨rfl, widens_applyWindow column order direction shown options request.function⟩
    | statistical sought =>
      obtain ⟨found, -, h⟩ := slice_eq_ok.mp h
      cases found with
      | none =>
        subst h
        exact ⟨rfl, .of_subset (List.Subset.refl shown)⟩
      | some column =>
        subst h
        exact ⟨rfl, widens_sliceRows column sought.percent sought.side shown⟩
    | _ => rcases between with h | h <;> cases h

theorem IsBetween.operation_ne_group (between : IsBetween step) : step.operation ≠ .group := by
  rcases between with h | h <;> simp [h]

namespace AllAnswer

theorem runStep (all : AllAnswer column state) (between : IsBetween step)
    (h : runStep options state step = .ok next) : AllAnswer column next := by
  obtain ⟨hmetrics, hwidens⟩ := widens_runStep all.plain between h
  refine ⟨plain_runStep h between.operation_ne_group, fun row hrow => ?_⟩
  obtain ⟨source, hsource, hcolumns⟩ := hwidens row hrow
  rw [hmetrics]
  refine (all.answer source hsource).mono fun name hname => ?_
  rw [hcolumns, mem_addColumns]
  exact Or.inl hname

/-- The columns that a window function puts into rows are there afterwards. -/
theorem of_added (plain : state.working.IsPlain) (between : IsBetween step)
    (added : column ∈ addedColumns step) (h : Engine.runStep options state step = .ok next) :
    AllAnswer column next := by
  obtain ⟨-, hwidens⟩ := widens_runStep plain between h
  refine ⟨plain_runStep h between.operation_ne_group, fun row hrow => Or.inl ?_⟩
  obtain ⟨source, -, hcolumns⟩ := hwidens row hrow
  rw [hcolumns, mem_addColumns]
  exact Or.inr added

theorem carryOut (all : AllAnswer column state) (between : ∀ step ∈ steps, IsBetween step)
    (ok : carryOut options state (steps.map .ofStep) = .ok reached) : AllAnswer column reached := by
  refine carryOut_induction all ?_ ok
  intro planned hplanned before after hall hstep
  obtain ⟨step, hmem, rfl⟩ := List.mem_map.mp hplanned
  exact hall.runStep (between step hmem) hstep

/-- Whichever of some steps adds a column, the column is there after all of them. -/
theorem of_added_carryOut (plain : state.working.IsPlain)
    (between : ∀ step ∈ steps, IsBetween step) (added : ∃ step ∈ steps, column ∈ addedColumns step)
    (ok : Engine.carryOut options state (steps.map .ofStep) = .ok reached) :
    AllAnswer column reached := by
  obtain ⟨step, hstep, hadded⟩ := added
  obtain ⟨before, after, rfl⟩ := List.append_of_mem hstep
  rw [List.map_append, carryOut_append_eq_ok] at ok
  obtain ⟨middle, hbefore, ok⟩ := ok
  obtain ⟨next, hnext, ok⟩ := carryOut_cons_eq_ok.mp ok
  have hplain : middle.working.IsPlain := by
    refine plain_carryOut plain (fun last hlast => ?_) hbefore
    exact (between last (List.mem_append_left _ (List.mem_of_getLast? hlast))).operation_ne_group
  refine (of_added hplain (between step hstep) hadded hnext).carryOut (fun s hs => ?_) ok
  exact between s (List.mem_append_right _ (List.mem_cons_of_mem _ hs))

end AllAnswer

end Lasting

section Figures

variable {aggregations : List Aggregation}

/-- Every row of figures has all of them. -/
theorem mem_columns_of_aggregate {metric : String} (h : aggregate state aggregations = .ok next)
    (hmetric : metric ∈ next.metrics) : ∀ row ∈ next.working.allRows, metric ∈ row.columns := by
  obtain ⟨metrics, -, rfl⟩ := aggregate_eq_ok.mp h
  obtain ⟨working, _, _⟩ := state
  intro row hrow
  cases working with
  | rows shown =>
    obtain rfl := List.mem_singleton.mp hrow
    rw [columns_summarize, mem_addColumns]
    exact Or.inr hmetric
  | groups found =>
    obtain ⟨group, -, rfl⟩ := List.mem_map.mp hrow
    rw [columns_summarize, mem_addColumns]
    exact Or.inr hmetric

theorem AllAnswer.of_metric {metric : String} (h : aggregate state aggregations = .ok next)
    (hmetric : metric ∈ next.metrics)
    (stands : column = metric ∨ Text.endsWith metric ("_" ++ column) = true) :
    AllAnswer column next := by
  have hin := mem_columns_of_aggregate h hmetric
  obtain ⟨metrics, -, rfl⟩ := aggregate_eq_ok.mp h
  refine ⟨trivial, fun row hrow => ?_⟩
  rcases stands with rfl | hends
  · exact Or.inl (hin row hrow)
  · exact Or.inr ⟨metric, hmetric, hends, hin row hrow⟩

/-- Every row of figures has the cells of the key of its group. -/
theorem AllAnswer.of_key {found : List RowGroup} (h : aggregate state aggregations = .ok next)
    (hgroups : state.working = .groups found)
    (hkeys : ∀ group ∈ found, column ∈ group.key.columns) : AllAnswer column next := by
  obtain ⟨metrics, -, rfl⟩ := aggregate_eq_ok.mp h
  rw [hgroups]
  refine ⟨trivial, fun row hrow => Or.inl ?_⟩
  obtain ⟨group, hgroup, rfl⟩ := List.mem_map.mp hrow
  rw [columns_summarize, mem_addColumns]
  exact Or.inl (hkeys group hgroup)

/-- The columns of the key are the columns that rows are grouped by, and the period if they are
grouped by time. -/
theorem exists_groups_of_group {columns : List String} {time : Option TimeAnalysis}
    (h : group state columns time = .ok next) :
    next.metrics = state.metrics ∧ ∃ found, next.working = .groups found ∧
      ∀ group ∈ found, (∀ column ∈ columns, column ∈ group.key.columns) ∧
        (time.isSome = true → Planning.periodColumn ∈ group.key.columns) := by
  obtain ⟨-, period, hperiod, rfl⟩ := group_eq_ok.mp h
  refine ⟨rfl, _, rfl, fun group hgroup => ?_⟩
  obtain ⟨entries, hentries, rfl⟩ := List.mem_map.mp hgroup
  have hfilled := Grouping.ne_nil_of_mem_groupBy entries hentries
  rw [columns_rowGroup_key hfilled, keyColumns]
  simp only [mem_addColumns, List.mem_append, List.not_mem_nil, false_or]
  refine ⟨fun column hcolumn => Or.inr hcolumn, fun htime => Or.inl ?_⟩
  obtain ⟨t, rfl⟩ := Option.isSome_iff_exists.mp htime
  obtain ⟨settled, hsettled, hok⟩ := bind_eq_ok.mp hperiod
  obtain rfl := ok_eq_ok.mp hok
  cases settled with
  | some name => exact List.mem_singleton_self _
  | none =>
    -- without a period there are no rows, and no groups
    obtain ⟨entry, rest, hcons⟩ := List.exists_cons_of_ne_nil hfilled
    have hmem := Grouping.mem_of_mem_groupBy hentries (hcons ▸ List.mem_cons_self)
    rw [rows_eq_nil_of_resolve hsettled] at hmem
    cases hmem

/-- The column of the figure of an aggregation that names its columns. -/
def figureColumn? (a : Aggregation) : Option String :=
  if a.function = .count then some WorkingSet.countColumn
  else if a.function.isPairwise then do
    let x ← a.column
    let y ← a.pairedWith
    pure (a.function.label ++ "_" ++ x ++ "_" ++ y)
  else a.column.map fun x => a.function.label ++ "_" ++ x

/-- Where the columns that an aggregation names are there, it calculates its figure from them. -/
theorem name_of_resolveAggregation {sample : Dataset} {aggregation : Aggregation} {metric : Metric}
    {name : String}
    (there : ∀ column, aggregation.column = some column ∨ aggregation.pairedWith = some column →
      ∀ first ∈ sample.head?, column ∈ first.columns)
    (named : figureColumn? aggregation = some name)
    (h : resolveAggregation state sample aggregation = .ok metric) : metric.name = name := by
  unfold figureColumn? at named
  unfold resolveAggregation at h
  split at named
  case isTrue hcount =>
    rw [if_pos hcount] at h
    obtain rfl := ok_eq_ok.mp h
    exact Option.some.inj named
  case isFalse hcount =>
    rw [if_neg hcount] at h
    split at named
    case isTrue hpairwise =>
      simp only [Option.bind_eq_bind, Option.bind_eq_some_iff, Option.pure_def,
        Option.some.injEq] at named
      obtain ⟨x, hx, y, hy, rfl⟩ := named
      simp only [hpairwise, ↓reduceIte, resolvePair, pairColumn, hx, hy,
        resolve_named (there x (Or.inl hx)), resolve_named (there y (Or.inr hy))] at h
      exact congrArg Metric.name (ok_eq_ok.mp h)
    case isFalse hpairwise =>
      obtain ⟨x, hx, rfl⟩ := Option.map_eq_some_iff.mp named
      simp only [if_neg hpairwise, hx, resolve_named (there x (Or.inl hx))] at h
      exact congrArg Metric.name (ok_eq_ok.mp h)

/-- The figures of a plan are there under their names. -/
theorem mem_metrics_of_figureColumn {aggregation : Aggregation} {name : String}
    (carries : Carries intent.Names state.working)
    (h : aggregate state (Planning.plannedAggregations intent) = .ok next)
    (hmem : aggregation ∈ Planning.plannedAggregations intent)
    (named : figureColumn? aggregation = some name) : name ∈ next.metrics := by
  obtain ⟨metrics, hmetrics, rfl⟩ := aggregate_eq_ok.mp h
  obtain ⟨metric, hmetric, hresolved⟩ := exists_mem_of_mapM_eq_ok hmetrics aggregation hmem
  refine List.mem_map.mpr ⟨metric, hmetric, name_of_resolveAggregation ?_ named hresolved⟩
  intro column hcolumn first hfirst
  exact carries first ((WorkingSet.sample_prefix _).subset (List.mem_of_mem_head? hfirst)) column
    (Planning.names_of_mem_plannedAggregations hmem hcolumn)

end Figures

/-- What grouping and aggregation leave of the columns of an intent for a place that comes later:
the cells of keys, the counts of groups that are shown, figures under their names and under the
names of the columns that end them, and what a window function has put in. -/
inductive Leaves (intent : Intent) (site : Site) : String → Prop
  | key {column : String} (h : column ∈ intent.groupBy) : Leaves intent site column
  | period (h : intent.time.isSome = true) : Leaves intent site Planning.periodColumn
  | groupCount (h : Planning.plannedAggregations intent = []) :
    Leaves intent site WorkingSet.countColumn
  | figure {aggregation : Aggregation} {column name : String}
    (h : aggregation ∈ Planning.plannedAggregations intent)
    (named : figureColumn? aggregation = some name)
    (stands : column = name ∨ Text.endsWith name ("_" ++ column) = true) :
    Leaves intent site column
  | window {request : WindowRequest} {column : String} (later : site ≠ .window)
    (h : intent.window = some request) (added : column ∈ windowColumns request.function) :
    Leaves intent site column

section Places

variable {before later : List Step} {failing : Step}

theorem getLast?_eq_group (hsteps : Planning.steps intent = before ++ failing :: later)
    (aggregates : failing.operation = .aggregate) (grouping : intent.hasGrouping = true) :
    before.getLast? = some (.group intent.groupBy intent.time) := by
  have hplanned : IsPlanned intent (.group intent.groupBy intent.time) := ⟨grouping, rfl, rfl⟩
  have hmem := Planning.mem_before_of_isPlanned hsteps hplanned
    (by rw [aggregates]; exact Nat.lt_succ_self _)
  obtain ⟨front, rest, rfl⟩ := List.append_of_mem hmem
  rw [List.append_assoc, List.cons_append] at hsteps
  have hrest : rest = [] := by
    refine List.eq_nil_iff_forall_not_mem.mpr fun step hstep => ?_
    have hgt := (Planning.isPlanned_of_mem_after hsteps (List.mem_append_left _ hstep)).2
    rw [← List.cons_append, ← List.append_assoc] at hsteps
    have hlt := (Planning.isPlanned_of_mem_before hsteps
      (List.mem_append_right _ (List.mem_cons_of_mem _ hstep))).2
    rw [aggregates] at hlt
    exact absurd (Nat.lt_of_lt_of_le hgt (Nat.le_of_lt_succ hlt)) (Nat.lt_irrefl _)
  rw [hrest, List.getLast?_concat]

/-- Grouping leads to the state that it is the last step to. -/
theorem exists_group_of_getLast? {columns : List String} {time : Option TimeAnalysis}
    (hlast : before.getLast? = some (.group columns time))
    (ok : carryOut options state (before.map .ofStep) = .ok reached) :
    ∃ ungrouped, group ungrouped columns time = .ok reached := by
  obtain ⟨front, rfl⟩ := List.getLast?_eq_some_iff.mp hlast
  rw [List.map_append, carryOut_append_eq_ok] at ok
  obtain ⟨ungrouped, -, ok⟩ := ok
  exact ⟨ungrouped, carryOut_singleton_eq_ok.mp ok⟩

/-- A late step of a plan that aggregates has the state before the aggregation, the state after it,
and windows and slices behind it. -/
theorem exists_aggregated (hsteps : Planning.steps intent = before ++ failing :: later)
    (late : Operation.priority .aggregate < failing.operation.priority)
    (upTo : failing.operation.priority ≤ Operation.priority .order)
    (aggregates : Planning.plannedAggregations intent ≠ [])
    (ok : carryOut options (Run.start options dataset).state (before.map .ofStep) = .ok reached) :
    ∃ early between ungrouped figures,
      before = early ++ .aggregate (Planning.plannedAggregations intent) :: between ∧
      carryOut options (Run.start options dataset).state (early.map .ofStep) = .ok ungrouped ∧
      aggregate ungrouped (Planning.plannedAggregations intent) = .ok figures ∧
      carryOut options figures (between.map .ofStep) = .ok reached ∧
      ∀ step ∈ between, IsBetween step := by
  have hplanned : IsPlanned intent (.aggregate (Planning.plannedAggregations intent)) :=
    ⟨aggregates, rfl⟩
  obtain ⟨early, between, rfl⟩ :=
    List.append_of_mem (Planning.mem_before_of_isPlanned hsteps hplanned late)
  rw [List.map_append, carryOut_append_eq_ok] at ok
  obtain ⟨ungrouped, hearly, ok⟩ := ok
  obtain ⟨figures, hfigures, ok⟩ := carryOut_cons_eq_ok.mp ok
  refine ⟨early, between, ungrouped, figures, rfl, hearly, hfigures, ok, fun step hstep => ?_⟩
  have hlt := (Planning.isPlanned_of_mem_before hsteps
    (List.mem_append_right _ (List.mem_cons_of_mem _ hstep))).2
  rw [List.append_assoc, List.cons_append] at hsteps
  have hgt := (Planning.isPlanned_of_mem_after hsteps (List.mem_append_left _ hstep)).2
  have hbound := Nat.lt_of_lt_of_le hlt upTo
  cases step with
  | window request orderBy direction => exact Or.inl rfl
  | statistical sought => exact Or.inr rfl
  | order column direction => exact absurd hbound (Nat.lt_irrefl _)
  | limit count => exact absurd hbound (by simp [Step.operation, Operation.priority])
  | _ => exact absurd hgt (by simp [Step.operation, Operation.priority])

theorem window_lt_of_site {site : Site} (hsite : site ∈ sitesOf failing) (hlater : site ≠ .window)
    (late : Operation.priority .aggregate < failing.operation.priority) :
    Operation.priority .window < failing.operation.priority := by
  cases failing with
  | window request orderBy direction => exact absurd (List.mem_singleton.mp hsite) hlater
  | statistical sought => simp [Step.operation, Operation.priority]
  | order named direction => simp [Step.operation, Operation.priority]
  | limit count => cases hsite
  | _ => exact absurd late (by simp [Step.operation, Operation.priority])

/-- An aggregation of a plan that groups comes upon groups, whose keys have the columns and the
period that the intent groups by. -/
theorem exists_groups_of_hasGrouping
    (hsteps : Planning.steps intent = before ++ failing :: later)
    (aggregates : failing.operation = .aggregate) (grouping : intent.hasGrouping = true)
    (ok : carryOut options (Run.start options dataset).state (before.map .ofStep) = .ok reached) :
    ∃ found, reached.working = .groups found ∧
      ∀ group ∈ found, (∀ column ∈ intent.groupBy, column ∈ group.key.columns) ∧
        (intent.time.isSome = true → Planning.periodColumn ∈ group.key.columns) := by
  obtain ⟨rows, hgroup⟩ :=
    exists_group_of_getLast? (getLast?_eq_group hsteps aggregates grouping) ok
  exact (exists_groups_of_group hgroup).2

/-- At the aggregation of a plan, the columns that the intent names are still in all rows. -/
theorem carries_aggregated (occurs : ∀ column, intent.Names column →
      ∃ row ∈ dataset, column ∈ row.columns)
    (hsteps : Planning.steps intent = before ++ failing :: later)
    (aggregates : failing.operation = .aggregate)
    (ok : carryOut options (Run.start options dataset).state (before.map .ofStep) = .ok reached) :
    Carries intent.Names reached.working := by
  refine carries_reached occurs hsteps (by rw [aggregates]; decide) (fun step hstep hop => ?_) ok
  have hlt := (Planning.isPlanned_of_mem_before hsteps hstep).2
  rw [hop, aggregates] at hlt
  exact absurd hlt (Nat.lt_irrefl _)

/-- What grouping and aggregation leave, the rows of figures answer to until a late step. -/
theorem allAnswer_of_leaves (occurs : ∀ column, intent.Names column →
      ∃ row ∈ dataset, column ∈ row.columns)
    (hsteps : Planning.steps intent = before ++ failing :: later)
    (late : Operation.priority .aggregate < failing.operation.priority)
    (upTo : failing.operation.priority ≤ Operation.priority .order)
    (aggregates : Planning.plannedAggregations intent ≠ []) {site : Site}
    (hsite : site ∈ sitesOf failing) (leaves : Leaves intent site column)
    (ok : carryOut options (Run.start options dataset).state (before.map .ofStep) = .ok reached) :
    AllAnswer column reached := by
  obtain ⟨early, between, ungrouped, figures, rfl, hearly, hfigures, ok, hbetween⟩ :=
    exists_aggregated hsteps late upTo aggregates ok
  have hsplit := hsteps
  rw [List.append_assoc, List.cons_append] at hsplit
  cases leaves with
  | key hkey =>
    have grouping : intent.hasGrouping = true := by
      simp [Intent.hasGrouping, List.ne_nil_of_mem hkey]
    obtain ⟨found, hfound, hkeys⟩ := exists_groups_of_hasGrouping hsplit rfl grouping hearly
    exact (AllAnswer.of_key hfigures hfound fun g hg => (hkeys g hg).1 _ hkey).carryOut hbetween ok
  | period htime =>
    have grouping : intent.hasGrouping = true := by simp [Intent.hasGrouping, htime]
    obtain ⟨found, hfound, hkeys⟩ := exists_groups_of_hasGrouping hsplit rfl grouping hearly
    exact (AllAnswer.of_key hfigures hfound fun g hg => (hkeys g hg).2 htime).carryOut hbetween ok
  | groupCount h => exact absurd h aggregates
  | figure hmem named stands =>
    have hmetric := mem_metrics_of_figureColumn (carries_aggregated occurs hsplit rfl hearly)
      hfigures hmem named
    exact (AllAnswer.of_metric hfigures hmetric stands).carryOut hbetween ok
  | window hlater hwindow hadded =>
    have haggregate : runStep options ungrouped
        (.aggregate (Planning.plannedAggregations intent)) = .ok figures := hfigures
    refine .of_added_carryOut (plain_runStep haggregate (by simp [Step.operation])) hbetween ?_ ok
    refine ⟨Planning.windowStep intent _, ?_, hadded⟩
    have hplanned : IsPlanned intent (Planning.windowStep intent _) := ⟨hwindow, rfl⟩
    have hmem := Planning.mem_before_of_isPlanned hsteps hplanned
      (window_lt_of_site hsite hlater late)
    rcases List.mem_append.mp hmem with hmem | hmem
    · have hlt := (Planning.isPlanned_of_mem_before hsplit hmem).2
      exact absurd hlt (by simp [Planning.windowStep, Step.operation, Operation.priority])
    · exact (List.mem_cons.mp hmem).resolve_left (by simp [Planning.windowStep])

/-- The role of a column for a window function, a slice or the order of the answer. -/
def LateRole (intent : Intent) (column : String) : Site → Prop
  | .window => ∃ request, intent.window = some request ∧ request.column = some column
  | .slice => ∃ slice, intent.slice = some slice ∧ slice.column = some column
  | .order => intent.orderColumn = some column
  | _ => False

theorem LateRole.names {site : Site} (role : LateRole intent column site) :
    intent.Names column := by
  cases site with
  | window =>
    obtain ⟨request, hwindow, named⟩ := role
    exact .window hwindow named
  | slice =>
    obtain ⟨slice, hslice, named⟩ := role
    exact .slice hslice named
  | order => exact .order role
  | _ => cases role

/-- A late step looks up the column that has its role in the intent, and a figure over periods
looks up the period besides. -/
theorem lateRole_of_mem {site : Site} (planned : IsPlanned intent failing)
    (hsite : site ∈ sitesOf failing) (h : column ∈ lateColumns failing) :
    LateRole intent column site ∨
      column = Planning.periodColumn ∧ intent.time.isSome = true ∧
        Planning.plannedAggregations intent ≠ [] := by
  cases failing with
  | window request orderBy direction =>
    obtain rfl := List.mem_singleton.mp hsite
    obtain ⟨hwindow, hstep⟩ := planned
    rcases List.mem_append.mp h with h | h
    · exact Or.inl ⟨request, hwindow, Option.mem_toList.mp h⟩
    · have horder := (Step.window.inj hstep).2.1
      rw [Option.mem_toList.mp h] at horder
      split at horder
      case isTrue hseries =>
        simp only [Bool.and_eq_true, Bool.not_eq_true'] at hseries
        exact Or.inr ⟨(Option.some.inj horder).symm, hseries.2,
          Planning.plannedAggregations_ne_nil hwindow hseries.1 hseries.2⟩
      case isFalse => cases horder
  | statistical sought =>
    obtain rfl := List.mem_singleton.mp hsite
    exact Or.inl ⟨sought, planned, Option.mem_toList.mp h⟩
  | order named direction =>
    obtain rfl := List.mem_singleton.mp hsite
    obtain ⟨-, hcolumn, -⟩ := planned
    exact Or.inl (hcolumn.trans (Option.mem_toList.mp h))
  | _ => cases h

/-- Groups that are still groups at a step of a plan: the step comes right after they were made. -/
theorem le_group_of_grouped (hsteps : Planning.steps intent = before ++ failing :: later)
    (ok : carryOut options (Run.start options dataset).state (before.map .ofStep) = .ok reached)
    (grouped : ¬ reached.working.IsPlain) :
    before.getLast? = some (.group intent.groupBy intent.time) ∧ intent.hasGrouping = true ∧
      ∀ step, IsPlanned intent step → step.operation.priority < failing.operation.priority →
        step.operation.priority ≤ Operation.priority .group := by
  rcases List.eq_nil_or_concat before with rfl | ⟨front, last, rfl⟩
  · obtain rfl := Except.ok.inj ok
    exact absurd (plain_start options dataset) grouped
  rw [List.concat_eq_append] at hsteps ok ⊢
  have hop : last.operation = .group := by
    by_contra hne
    exact grouped (plain_carryOut (plain_start options dataset) (by simpa using hne) ok)
  have hlast := (Planning.isPlanned_of_mem_before hsteps
    (List.mem_append_right _ (List.mem_singleton_self last))).1
  cases last with
  | group columns time =>
    obtain ⟨grouping, rfl, rfl⟩ := hlast
    refine ⟨List.getLast?_concat, grouping, fun step planned earlier => ?_⟩
    have hmem := Planning.mem_before_of_isPlanned hsteps planned earlier
    rw [List.append_assoc, List.singleton_append] at hsteps
    rcases List.mem_append.mp hmem with hmem | hmem
    · exact Nat.le_of_lt (Planning.isPlanned_of_mem_before hsteps hmem).2
    · rw [List.mem_singleton.mp hmem]
      exact Nat.le_refl _
  | _ => cases hop

/-- An order of groups that are shown as they are has neither a window function nor a slice in front
of it. -/
theorem unwindowed_of_grouped (hsteps : Planning.steps intent = before ++ failing :: later)
    (ok : carryOut options (Run.start options dataset).state (before.map .ofStep) = .ok reached)
    (grouped : ¬ reached.working.IsPlain) (orders : failing.operation = .order) :
    intent.window = none ∧ intent.slice = none := by
  obtain ⟨-, -, hnothing⟩ := le_group_of_grouped hsteps ok grouped
  rw [orders] at hnothing
  constructor
  · refine Option.eq_none_iff_forall_ne_some.mpr fun request h => ?_
    exact absurd (hnothing (Planning.windowStep intent request) ⟨h, rfl⟩)
      (by simp [Planning.windowStep, Step.operation, Operation.priority])
  · refine Option.eq_none_iff_forall_ne_some.mpr fun slice h => ?_
    exact absurd (hnothing (.statistical slice) h) (by simp [Step.operation, Operation.priority])

/-- The rows that groups show as have the columns of their keys, and a count. -/
theorem answers_of_shown_group {columns : List String} {time : Option TimeAnalysis}
    (h : group state columns time = .ok next) {row : Row} (hrow : row ∈ next.working.output)
    (hcolumn : column ∈ columns ∨ time.isSome = true ∧ column = Planning.periodColumn ∨
      column = WorkingSet.countColumn) : Answers next.metrics column row := by
  obtain ⟨-, found, hfound, hkeys⟩ := exists_groups_of_group h
  rw [hfound] at hrow
  obtain ⟨group, hgroup, rfl⟩ := List.mem_map.mp hrow
  refine Or.inl ?_
  rw [WorkingSet.groupRow, Row.columns_insert, mem_addColumn]
  rcases hcolumn with hcolumn | ⟨htime, rfl⟩ | rfl
  · exact Or.inl ((hkeys group hgroup).1 column hcolumn)
  · exact Or.inl ((hkeys group hgroup).2 htime)
  · exact Or.inr rfl

/-- Without an aggregation, only an order of groups that are shown as they are can miss a column that
the intent names. -/
theorem orders_groups_of_unaggregated (occurs : ∀ column, intent.Names column →
      ∃ row ∈ dataset, column ∈ row.columns)
    (hsteps : Planning.steps intent = before ++ failing :: later)
    (ok : carryOut options (Run.start options dataset).state (before.map .ofStep) = .ok reached)
    (upTo : failing.operation.priority ≤ Operation.priority .order)
    (unaggregated : Planning.plannedAggregations intent = []) (named : intent.Names column)
    {first : Row} (hfirst : first ∈ (lateRows reached.working failing).head?)
    (unanswered : ¬ Answers reached.metrics column first) :
    ¬ reached.working.IsPlain ∧ failing.operation = .order := by
  have carries : Carries intent.Names reached.working :=
    carries_reached occurs hsteps upTo (fun step hstep => Planning.operation_ne_aggregate
      unaggregated (Planning.isPlanned_of_mem_before hsteps hstep).1) ok
  have hanswer : ∀ row ∈ reached.working.allRows, Answers reached.metrics column row :=
    fun row hrow => Or.inl (carries row hrow column named)
  constructor
  · intro plain
    exact unanswered (AllAnswer.lateRows ⟨plain, hanswer⟩ failing first hfirst)
  · cases failing with
    | order name direction => rfl
    | _ => exact absurd (hanswer first ((WorkingSet.partitionSample_prefix _).subset
        (List.mem_of_mem_head? hfirst))) unanswered

/-- What a late step of a plan misses: a column of its own that grouping and aggregation have not
left in the rows. -/
theorem late_missing (occurs : ∀ column, intent.Names column →
      ∃ row ∈ dataset, column ∈ row.columns)
    (hsteps : Planning.steps intent = before ++ failing :: later)
    (ok : carryOut options (Run.start options dataset).state (before.map .ofStep) = .ok reached)
    {site : Site} (stuck : runStep options reached failing = .error (.missingColumn column site)) :
    LateRole intent column site ∧
      (Planning.plannedAggregations intent ≠ [] ∨
        site = .order ∧ intent.hasGrouping = true ∧ intent.window = none ∧ intent.slice = none) ∧
      ¬ Leaves intent site column ∧
      ∃ first ∈ reached.working.output.head?, ¬ Answers reached.metrics column first := by
  have hplanned : IsPlanned intent failing := Planning.mem_steps_iff.mp (hsteps ▸ by simp)
  have late : Operation.priority .aggregate < failing.operation.priority := by
    by_contra hearly
    exact absurd (early_failing_misses_nothing occurs hsteps (Nat.le_of_not_lt hearly) ok
      column site stuck) (by simp)
  have upTo : failing.operation.priority ≤ Operation.priority .order := by
    cases failing with
    | limit count => cases stuck
    | _ => simp [Step.operation, Operation.priority]
  have hsite := missesOnlyAt_runStep options reached failing column site stuck
  obtain ⟨hlook, first, hfirst, hunanswered⟩ := exists_of_late_missing late stuck
  have hrole := lateRole_of_mem hplanned hsite hlook
  by_cases aggregates : Planning.plannedAggregations intent = []
  case pos =>
    have role := hrole.resolve_right fun h => h.2.2 aggregates
    obtain ⟨grouped, hop⟩ := orders_groups_of_unaggregated occurs hsteps ok upTo aggregates
      role.names hfirst hunanswered
    obtain ⟨hlast, grouping, -⟩ := le_group_of_grouped hsteps ok grouped
    obtain ⟨hwindow, hslice⟩ := unwindowed_of_grouped hsteps ok grouped hop
    obtain ⟨ungrouped, hgroup⟩ := exists_group_of_getLast? hlast ok
    cases failing with
    | order named direction =>
      obtain rfl := List.mem_singleton.mp hsite
      refine ⟨role, Or.inr ⟨rfl, grouping, hwindow, hslice⟩, fun leaves => ?_, first, hfirst,
        hunanswered⟩
      refine hunanswered (answers_of_shown_group hgroup (List.mem_of_mem_head? hfirst) ?_)
      cases leaves with
      | key h => exact Or.inl h
      | period h => exact Or.inr (Or.inl ⟨h, rfl⟩)
      | groupCount h => exact Or.inr (Or.inr rfl)
      | figure h => simp [aggregates] at h
      | window _ h => simp [hwindow] at h
    | _ => cases hop
  case neg =>
    have hleft (leaves : Leaves intent site column) : False :=
      hunanswered ((allAnswer_of_leaves occurs hsteps late upTo aggregates hsite leaves ok).lateRows
        failing first hfirst)
    have plain : reached.working.IsPlain := by
      by_contra grouped
      have haggregate : IsPlanned intent (.aggregate (Planning.plannedAggregations intent)) :=
        ⟨aggregates, rfl⟩
      exact absurd ((le_group_of_grouped hsteps ok grouped).2.2 _ haggregate late)
        (by simp [Step.operation, Operation.priority])
    rw [lateRows_of_plain plain] at hfirst
    refine ⟨hrole.resolve_right ?_, Or.inl aggregates, hleft, first, hfirst, hunanswered⟩
    rintro ⟨rfl, htime, -⟩
    exact hleft (.period htime)

end Places

theorem Answers.of_columns_eq {other : Row} (h : row.columns = other.columns) :
    Answers metrics column row ↔ Answers metrics column other := by
  rw [Answers, Answers, h]

/-- A fault of a plan over a missing column, for an intent that names columns of the dataset only. -/
theorem missing_of_plan (options : Options) (database : String) (nonempty : dataset ≠ [])
    (occurs : ∀ column, intent.Names column → ∃ row ∈ dataset, column ∈ row.columns) {site : Site}
    (hfault : (runSteps options (.start options dataset)
      (Planning.plan intent database).steps).fault = some (.missingColumn column site)) :
    LateRole intent column site ∧
      (Planning.plannedAggregations intent ≠ [] ∨
        site = .order ∧ intent.hasGrouping = true ∧ intent.window = none ∧ intent.slice = none) ∧
      ¬ Leaves intent site column ∧
      (execute options dataset (Planning.plan intent database)).rows ≠ [] ∧
      ∀ row ∈ (execute options dataset (Planning.plan intent database)).rows,
        ¬ Answers (runSteps options (.start options dataset)
          (Planning.plan intent database).steps).run.state.metrics column row := by
  obtain ⟨before, failing, later, hsteps, ok, stuck⟩ := exists_failing_of_fault hfault
  obtain ⟨front, step, back, hplan, rfl, rfl, rfl⟩ := exists_of_map_ofStep_eq hsteps
  obtain ⟨role, gathered, lost, first, hfirst, unanswered⟩ := late_missing occurs hplan ok stuck
  obtain ⟨columns, -, hcolumns⟩ := (uniform_carryOut (uniform_start options dataset) ok).output
  have hmem := List.mem_of_mem_head? hfirst
  rw [rows_execute options _ nonempty]
  refine ⟨role, gathered, lost, List.ne_nil_of_mem hmem, fun row hrow answers => ?_⟩
  have hsame : row.columns = first.columns := (hcolumns row hrow).trans (hcolumns first hmem).symm
  exact unanswered ((Answers.of_columns_eq hsame).mp answers)

/-- What the plan of a question misses after its aggregation: if a window function, a slice or the
order ends in a fault over a missing column, the column has its role at that place. The plan has
aggregated rows, or it orders groups that are shown as they are; and grouping and aggregation have
not left the column: it is no cell of a key, no period and no count, no figure ends in its name,
and no window function has put it in. The rows that the failed result shows have neither the column
nor a figure calculated from it. -/
theorem late_steps_miss_lost_columns (question name : String) (threshold : Float)
    (options : Options) (database : String) (dataset : Dataset) (nonempty : dataset ≠ []) :
    let intent := Question.read question (Schema.ofRows name dataset) threshold
    let plan := Planning.plan intent database
    let ending := runSteps options (.start options dataset) plan.steps
    let result := execute options dataset plan
    result.failure = ending.fault.map Fault.message ∧
    ∀ column site, ending.fault = some (.missingColumn column site) →
      LateRole intent column site ∧
      (Planning.plannedAggregations intent ≠ [] ∨
        site = .order ∧ intent.hasGrouping = true ∧ intent.window = none ∧ intent.slice = none) ∧
      ¬ Leaves intent site column ∧
      result.rows ≠ [] ∧ ∀ row ∈ result.rows, ¬ Answers ending.run.state.metrics column row := by
  have only := Question.namesOnly_read question (Schema.ofRows name dataset) threshold
  generalize Question.read question (Schema.ofRows name dataset) threshold = intent at only ⊢
  intro _ plan ending result
  refine ⟨failure_execute options plan nonempty, fun column site hfault => ?_⟩
  exact missing_of_plan options database nonempty
    (fun _ h => Schema.mem_columnNames_ofRows.mp (only.mem h)) hfault

/-- Two products with a rating and a price. -/
def products : Dataset :=
  [.ofCells [("kind", .text "book"), ("rating", .integer 3), ("price", .integer 10)],
    .ofCells [("kind", .text "game"), ("rating", .integer 5), ("price", .integer 7)]]

/-- What asks for the average rating of each kind of product, in the order of the price. -/
def ratingsByKind : Intent :=
  Question.read "average rating by kind sorted by price" (Schema.ofRows "products" products)
    Matching.defaultThreshold

/-- The average ratings of kinds are ordered by a price that kinds do not have. -/
theorem ratingsByKind_misses_price :
    let plan := Planning.plan ratingsByKind "memory"
    plan.operations = [.select, .group, .aggregate, .order] ∧
    (runSteps {} (.start {} products) plan.steps).fault = some (.missingColumn "price" .order) := by
  decide +kernel

theorem not_all_late_steps_find_columns :
    ¬ ∀ (question name : String) (threshold : Float) (dataset : Dataset), dataset ≠ [] →
      let intent := Question.read question (Schema.ofRows name dataset) threshold
      let plan := Planning.plan intent "memory"
      ∀ column, ∀ site ∈ [Site.window, .slice, .order],
        (runSteps {} (.start {} dataset) plan.steps).fault ≠ some (.missingColumn column site) := by
  intro claim
  exact claim "average rating by kind sorted by price" "products" Matching.defaultThreshold products
    (by decide) "price" .order (by decide) ratingsByKind_misses_price.2

/-- Neither the key nor the figure of a kind stands for its price, and the rows of the failed result
are the averages that could not be ordered. -/
theorem ratingsByKind_loses_price :
    products ≠ [] ∧
    (execute {} products (Planning.plan ratingsByKind "memory")).failure =
      some "Column 'price' not found for order" ∧
    ¬ Leaves ratingsByKind .order "price" ∧
    (execute {} products (Planning.plan ratingsByKind "memory")).rows ≠ [] ∧
    ∀ row ∈ (execute {} products (Planning.plan ratingsByKind "memory")).rows,
      "price" ∉ row.columns := by
  have nonempty : products ≠ [] := by decide
  have hfault := ratingsByKind_misses_price.2
  obtain ⟨hfailure, hlost⟩ := late_steps_miss_lost_columns "average rating by kind sorted by price"
    "products" Matching.defaultThreshold {} "memory" products nonempty
  obtain ⟨-, -, lost, filled, lacking⟩ := hlost "price" .order hfault
  refine ⟨nonempty, ?_, lost, filled, fun row hrow hmem => lacking row hrow (Or.inl hmem)⟩
  exact hfailure.trans (congrArg (Option.map Fault.message) hfault)

end TableTalk.Engine
