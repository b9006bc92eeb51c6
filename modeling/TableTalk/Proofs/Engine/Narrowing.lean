import TableTalk.Proofs.Engine.Columns

/-!
# Selecting columns early or late

A step that names all its columns sees no others. Filters and groups can therefore
be made before or after rows are narrowed to some columns, as long as these are
among them, and an aggregation makes the same figures of the rows and of the
narrowed rows: nothing is left of the other columns behind it.
-/

namespace TableTalk.Engine

variable {options : Options} {state next reached : State} {columns : List String} {column : String}
  {step : Step} {steps : List Step} {rows : Dataset}

/-- The working set with only some columns in its rows. The keys of groups stay as they are. -/
def WorkingSet.narrow (columns : List String) : WorkingSet → WorkingSet
  | .rows shown => .rows (shown.map fun row => row.project columns)
  | .groups found =>
    .groups (found.map fun group =>
      { group with rows := group.rows.map fun row => row.project columns })

/-- The state with only some columns in its rows. -/
def State.narrow (columns : List String) (state : State) : State :=
  { state with working := state.working.narrow columns }

/-- A step that names all its columns, and only columns of some. -/
def Within (columns : List String) : Step → Prop
  | .filter conditions sentiment =>
    (∀ condition ∈ conditions, condition.column ∈ columns) ∧
      ∀ s, sentiment = some s → ∃ column ∈ columns, s.column = some column
  | .group names time =>
    (∀ name ∈ names, name ∈ columns) ∧
      ∀ t, time = some t → ∃ column ∈ columns, t.column = some column
  | .aggregate aggregations =>
    ∀ a ∈ aggregations, a.function = .count ∨
      (∃ column ∈ columns, a.column = some column) ∧
        (a.function.isPairwise = true → ∃ other ∈ columns, a.pairedWith = some other)
  | _ => False

theorem Within.keeps {needed : String → Prop} (within : Within columns step)
    (unaggregating : step.operation ≠ .aggregate) : Keeps needed step := by
  cases step with
  | filter conditions sentiment => trivial
  | group names time => trivial
  | aggregate aggregations => exact absurd rfl unaggregating
  | _ => cases within

/-- Some rows have columns, as far as the first of them tells. -/
def HeadHas (rows : Dataset) (columns : List String) : Prop :=
  ∀ first ∈ rows.head?, ∀ column ∈ columns, column ∈ first.columns

theorem headHas_map_project (rows : Dataset) (columns : List String) :
    HeadHas (rows.map fun row => row.project columns) columns := by
  intro first hfirst column hcolumn
  obtain ⟨source, -, rfl⟩ := List.mem_map.mp (List.mem_of_mem_head? hfirst)
  rw [Row.columns_project, mem_addColumns]
  exact Or.inr hcolumn

theorem Carries.headHas {working : WorkingSet} (carries : Carries (· ∈ columns) working)
    (hrows : rows ⊆ working.allRows) : HeadHas rows columns :=
  fun first hfirst => carries first (hrows (List.mem_of_mem_head? hfirst))

/-- A named column that is there is found, whatever the state. -/
theorem HeadHas.resolve (has : HeadHas rows columns) (h : column ∈ columns) (state : State)
    (site : Site) (suggest : Dataset → Option String) (missing : Fault) :
    state.resolve rows (some column) site suggest missing = .ok (some column) :=
  resolve_named fun first hfirst => has first hfirst column h

section Filter

variable {conditions : List Condition} {sentiment : Option SentimentFilter}

/-- The condition for ratings that names its column. -/
def namedRating (sentiment : Option SentimentFilter) : List Condition :=
  match sentiment with
  | none => []
  | some s =>
    s.column.toList.map fun column => ⟨column, s.operator, .float s.threshold⟩

theorem HeadHas.ratingConditions (has : HeadHas rows columns)
    (within : Within columns (.filter conditions sentiment)) (state : State) :
    ratingConditions state rows sentiment = .ok (namedRating sentiment) := by
  cases sentiment with
  | none => rfl
  | some s =>
    obtain ⟨column, hcolumn, hnamed⟩ := within.2 s rfl
    rw [Engine.ratingConditions, hnamed, has.resolve hcolumn, namedRating, hnamed]
    rfl

theorem HeadHas.filter {state : State} (has : HeadHas state.working.output columns)
    (within : Within columns (.filter conditions sentiment)) :
    filter state conditions sentiment = .ok (state.withRows
      (state.working.output.filter (Condition.allHold (conditions ++ namedRating sentiment)))) := by
  refine filter_eq_ok.mpr ⟨requireColumns_of_head fun first hfirst column hcolumn => ?_,
    _, has.ratingConditions within state, rfl⟩
  obtain ⟨condition, hcondition, rfl⟩ := List.mem_map.mp hcolumn
  exact has first hfirst _ (within.1 condition hcondition)

theorem allHold_project (within : Within columns (.filter conditions sentiment)) (row : Row) :
    Condition.allHold (conditions ++ namedRating sentiment) (row.project columns) =
      Condition.allHold (conditions ++ namedRating sentiment) row := by
  have hcolumn : ∀ condition ∈ conditions ++ namedRating sentiment,
      condition.column ∈ columns := by
    intro condition hcondition
    rcases List.mem_append.mp hcondition with h | h
    · exact within.1 condition h
    · cases sentiment with
      | none => cases h
      | some s =>
        obtain ⟨column, hin, hnamed⟩ := within.2 s rfl
        rw [namedRating, hnamed] at h
        obtain rfl := List.mem_singleton.mp h
        exact hin
  rw [Condition.allHold, Condition.allHold, Bool.eq_iff_iff, List.all_eq_true, List.all_eq_true]
  refine forall₂_congr fun condition hcondition => ?_
  rw [Condition.holds, Condition.holds, Row.value_project row (hcolumn condition hcondition)]

end Filter

section Group

variable {names : List String} {time : Option TimeAnalysis}

/-- The period of a time analysis that names its column. -/
def namedPeriod (time : Option TimeAnalysis) : Option Period :=
  time.bind fun t => t.column.map fun column => (column, t.interval)

theorem HeadHas.group {state : State} (has : HeadHas state.working.output columns)
    (within : Within columns (.group names time)) :
    group state names time = .ok { state with
      working := .groups
        ((Grouping.groupBy (groupKey (namedPeriod time) names) state.working.output).map
          (rowGroup (namedPeriod time) names)) } := by
  refine group_eq_ok.mpr ⟨requireColumns_of_head fun first hfirst name hname => ?_, _, ?_, rfl⟩
  · exact has first hfirst name (within.1 name hname)
  · cases time with
    | none => rfl
    | some t =>
      obtain ⟨column, hcolumn, hnamed⟩ := within.2 t rfl
      rw [settlePeriod, hnamed, has.resolve hcolumn, namedPeriod, Option.bind_some, hnamed]
      rfl

theorem groupCells_project (within : Within columns (.group names time)) (row : Row) :
    groupCells (namedPeriod time) names (row.project columns) =
      groupCells (namedPeriod time) names row := by
  rw [groupCells, groupCells]
  congr 1
  · cases time with
    | none => rfl
    | some t =>
      obtain ⟨column, hcolumn, hnamed⟩ := within.2 t rfl
      simp only [namedPeriod, hnamed, Option.bind_some, Option.map_some,
        Row.value_project row hcolumn]
  · refine List.map_congr_left fun name hname => ?_
    rw [Row.value_project row (within.1 name hname)]

theorem groupBy_map_project (within : Within columns (.group names time)) (rows : Dataset) :
    (Grouping.groupBy (groupKey (namedPeriod time) names)
        (rows.map fun row => row.project columns)).map (rowGroup (namedPeriod time) names) =
      ((Grouping.groupBy (groupKey (namedPeriod time) names) rows).map
        (rowGroup (namedPeriod time) names)).map fun group =>
          { group with rows := group.rows.map fun row => row.project columns } := by
  have hkey (row : Row) : groupKey (namedPeriod time) names (row.project columns) =
      groupKey (namedPeriod time) names row := by
    rw [groupKey, groupKey, groupCells_project within]
  rw [Grouping.groupBy_map]
  simp only [hkey]
  rw [List.map_map, List.map_map]
  refine List.map_congr_left fun found _ => ?_
  simp only [Function.comp_apply, rowGroup, List.head?_map, Option.map_map, Function.comp_def,
    groupCells_project within]

end Group

section Aggregate

variable {aggregations : List Aggregation} {aggregation : Aggregation} {sample : Dataset}

/-- A metric of columns among some. -/
def Metric.Within (columns : List String) (metric : Metric) : Prop :=
  metric.function = .count ∨
    (∃ column ∈ columns, metric.column = some column) ∧
      (metric.function.isPairwise = true → ∃ other ∈ columns, metric.pairedWith = some other)

/-- What an aggregation that names its columns is settled to. -/
def namedMetric (a : Aggregation) : Metric :=
  if a.function = .count then ⟨.count, none, none, WorkingSet.countColumn⟩
  else if a.function.isPairwise then
    ⟨a.function, a.column, a.pairedWith,
      a.function.label ++ "_" ++ a.column.getD "" ++ "_" ++ a.pairedWith.getD ""⟩
  else ⟨a.function, a.column, none, a.function.label ++ "_" ++ a.column.getD ""⟩

theorem HeadHas.resolveAggregation (has : HeadHas sample columns)
    (within : Within columns (.aggregate [aggregation])) (state : State) :
    resolveAggregation state sample aggregation = .ok (namedMetric aggregation) := by
  rw [Engine.resolveAggregation, namedMetric]
  split
  case isTrue => rfl
  case isFalse hcount =>
    obtain ⟨⟨column, hcolumn, hnamed⟩, hpair⟩ :=
      (within aggregation (List.mem_singleton_self _)).resolve_left hcount
    split
    case isTrue hpairwise =>
      obtain ⟨other, hother, hpaired⟩ := hpair hpairwise
      simp only [resolvePair, pairColumn, hnamed, hpaired, has.resolve hcolumn, has.resolve hother]
      rfl
    case isFalse =>
      simp only [hnamed, has.resolve hcolumn]
      rfl

theorem within_namedMetric (within : Within columns (.aggregate [aggregation])) :
    (namedMetric aggregation).Within columns := by
  rw [namedMetric]
  split
  case isTrue => exact Or.inl rfl
  case isFalse hcount =>
    have hcolumns := (within aggregation (List.mem_singleton_self _)).resolve_left hcount
    split
    case isTrue => exact Or.inr hcolumns
    case isFalse hpairwise => exact Or.inr ⟨hcolumns.1, fun h => absurd h hpairwise⟩

theorem HeadHas.aggregate {state : State} (has : HeadHas state.working.sample columns)
    (within : Within columns (.aggregate aggregations)) :
    aggregate state aggregations = .ok { state with
      working := .rows (summaries (aggregations.map namedMetric) state.working)
      metrics := (aggregations.map namedMetric).map Metric.name } := by
  refine aggregate_eq_ok.mpr ⟨aggregations.map namedMetric, ?_, rfl⟩
  induction aggregations with
  | nil => rfl
  | cons first rest ih =>
    have hfirst : Within columns (.aggregate [first]) := by
      intro a ha
      obtain rfl := List.mem_singleton.mp ha
      exact within a List.mem_cons_self
    rw [List.mapM_cons, has.resolveAggregation hfirst,
      ih fun a ha => within a (List.mem_cons_of_mem _ ha)]
    rfl

theorem Metric.Within.compute {metric : Metric} (within : metric.Within columns) (rows : Dataset) :
    metric.compute (rows.map fun row => row.project columns) = metric.compute rows := by
  rw [Metric.compute, Metric.compute]
  split
  case isTrue => rw [List.length_map]
  case isFalse hcount =>
    obtain ⟨⟨column, hcolumn, hnamed⟩, hpair⟩ := within.resolve_left hcount
    split
    case isTrue hpairwise =>
      obtain ⟨other, hother, hpaired⟩ := hpair hpairwise
      have hpairs : numberPairs column other (rows.map fun row => row.project columns) =
          numberPairs column other rows := by
        simp only [numberPairs, List.filterMap_map, Function.comp_def,
          Row.value_project _ hcolumn, Row.value_project _ hother]
      simp only [hnamed, hpaired, hpairs]
    case isFalse =>
      have hnumbers : Grouping.columnNumbers column (rows.map fun row => row.project columns) =
          Grouping.columnNumbers column rows := by
        simp only [Grouping.columnNumbers, List.filterMap_map, Function.comp_def,
          Row.value_project _ hcolumn]
      simp only [hnamed, hnumbers]

theorem summaries_narrow {metrics : List Metric} (within : ∀ metric ∈ metrics, metric.Within columns)
    (working : WorkingSet) : summaries metrics (working.narrow columns) = summaries metrics working := by
  have hsummary (key : Row) (rows : Dataset) :
      summarize metrics key (rows.map fun row => row.project columns) =
        summarize metrics key rows := by
    rw [summarize, summarize]
    congr 1
    exact List.map_congr_left fun metric hmetric => by rw [(within metric hmetric).compute]
  cases working with
  | rows shown => rw [WorkingSet.narrow, summaries, summaries, hsummary]
  | groups found =>
    rw [WorkingSet.narrow, summaries, summaries, List.map_map]
    exact List.map_congr_left fun group _ => hsummary group.key group.rows

end Aggregate

section Steps

theorem WorkingSet.IsPlain.output_narrow {working : WorkingSet} (plain : working.IsPlain) :
    (working.narrow columns).output = working.output.map fun row => row.project columns := by
  cases working with
  | rows shown => rfl
  | groups found => cases plain

/-- Groups are shown as they were: by their keys and the numbers of their rows. -/
theorem output_narrow_groups {working : WorkingSet} (grouped : ¬ working.IsPlain) :
    (working.narrow columns).output = working.output := by
  cases working with
  | rows shown => exact absurd trivial grouped
  | groups found =>
    rw [WorkingSet.narrow, WorkingSet.output, WorkingSet.output, List.map_map]
    refine List.map_congr_left fun group _ => ?_
    rw [Function.comp_apply, WorkingSet.groupRow, WorkingSet.groupRow, List.length_map]

theorem sample_narrow (working : WorkingSet) :
    (working.narrow columns).sample = working.sample.map fun row => row.project columns := by
  cases working with
  | rows shown => exact List.map_take.symm
  | groups found =>
    rw [WorkingSet.narrow, WorkingSet.sample, WorkingSet.sample, List.map_take, List.map_flatMap,
      List.flatMap_map]

/-- Selecting columns that all rows have narrows the rows. -/
theorem select_of_carries (plain : state.working.IsPlain)
    (carries : Carries (· ∈ columns) state.working) :
    select state columns = .ok (state.narrow columns) := by
  have hrows : state.working.output ⊆ state.working.allRows := by
    rw [plain.output_eq]
    exact List.Subset.refl _
  refine select_eq_ok.mpr ⟨requireColumns_of_head (carries.headHas hrows), ?_⟩
  obtain ⟨working, metrics, windowColumn⟩ := state
  cases working with
  | rows shown => rfl
  | groups found => cases plain

theorem runStep_narrow (within : Within columns step) (unaggregating : step.operation ≠ .aggregate)
    (plain : state.working.IsPlain) (carries : Carries (· ∈ columns) state.working)
    (h : runStep options state step = .ok next) :
    runStep options (state.narrow columns) step = .ok (next.narrow columns) := by
  have hrows : state.working.output ⊆ state.working.allRows := by
    rw [plain.output_eq]
    exact List.Subset.refl _
  have has := carries.headHas hrows
  have hnarrow : (state.narrow columns).working.output =
      state.working.output.map fun row => row.project columns := plain.output_narrow
  have hasNarrow : HeadHas (state.narrow columns).working.output columns :=
    hnarrow ▸ headHas_map_project _ columns
  cases step with
  | filter conditions sentiment =>
    have hnext : next = _ := (Except.ok.inj ((has.filter within).symm.trans h)).symm
    refine (hasNarrow.filter within).trans ?_
    rw [hnext, hnarrow, List.filter_map]
    simp only [Function.comp_def, allHold_project within]
    rfl
  | group names time =>
    have hnext : next = _ := (Except.ok.inj ((has.group within).symm.trans h)).symm
    refine (hasNarrow.group within).trans ?_
    rw [hnext, hnarrow, groupBy_map_project within]
    rfl
  | aggregate aggregations => exact absurd rfl unaggregating
  | _ => cases within

/-- Figures of narrowed rows are the figures of the rows, and nothing else is left of them. -/
theorem aggregate_narrow {aggregations : List Aggregation}
    (within : Within columns (.aggregate aggregations))
    (carries : Carries (· ∈ columns) state.working) :
    aggregate (state.narrow columns) aggregations = aggregate state aggregations := by
  have hsample : (state.narrow columns).working.sample =
      state.working.sample.map fun row => row.project columns := sample_narrow state.working
  have has : HeadHas state.working.sample columns :=
    carries.headHas (WorkingSet.sample_prefix _).subset
  have hasNarrow : HeadHas (state.narrow columns).working.sample columns :=
    hsample ▸ headHas_map_project _ columns
  have hmetrics : ∀ metric ∈ aggregations.map namedMetric, metric.Within columns := by
    intro metric hmetric
    obtain ⟨a, ha, rfl⟩ := List.mem_map.mp hmetric
    refine within_namedMetric fun b hb => ?_
    obtain rfl := List.mem_singleton.mp hb
    exact within b ha
  rw [hasNarrow.aggregate within, has.aggregate within, State.narrow]
  simp only [summaries_narrow hmetrics]

/-- Filters and groups come to narrowed rows where they would have come to the rows. -/
theorem carryOut_narrow
    (ascending : steps.Pairwise fun a b => a.operation.priority < b.operation.priority)
    (within : ∀ step ∈ steps, Within columns step ∧ step.operation ≠ .aggregate)
    (plain : state.working.IsPlain) (carries : Carries (· ∈ columns) state.working)
    (ok : carryOut options state (steps.map .ofStep) = .ok reached) :
    carryOut options (state.narrow columns) (steps.map .ofStep) = .ok (reached.narrow columns) := by
  have hplain : ∀ step ∈ steps, state.working.IsPlain := fun _ _ => plain
  clear plain
  induction steps generalizing state with
  | nil =>
    obtain rfl := Except.ok.inj ok
    rfl
  | cons step steps ih =>
    obtain ⟨next, hstep, ok⟩ := carryOut_cons_eq_ok.mp ok
    obtain ⟨hfirst, ascending⟩ := List.pairwise_cons.mp ascending
    obtain ⟨hwithin, hop⟩ := within step List.mem_cons_self
    have hstate := hplain step List.mem_cons_self
    refine carryOut_cons_eq_ok.mpr ⟨_, runStep_narrow hwithin hop hstate carries hstep, ?_⟩
    have hnext : Carries (· ∈ columns) next.working :=
      carries.runStep (hwithin.keeps hop) (fun _ => hstate) hstep
    refine ih ascending (fun s hs => within s (List.mem_cons_of_mem _ hs)) hnext ok fun s hs => ?_
    -- behind grouping there is neither a filter nor another grouping
    refine plain_runStep hstep fun hgroup => ?_
    have hlater := hfirst s hs
    rw [PlannedStep.ofStep] at hgroup
    rw [hgroup] at hlater
    obtain ⟨hs, hne⟩ := within s (List.mem_cons_of_mem _ hs)
    cases s with
    | filter conditions sentiment => exact absurd hlater (by simp [Step.operation, Operation.priority])
    | group names time => exact absurd hlater (Nat.lt_irrefl _)
    | aggregate aggregations => exact hne rfl
    | _ => cases hs

end Steps

end TableTalk.Engine
