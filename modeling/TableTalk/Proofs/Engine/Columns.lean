import TableTalk.Proofs.Cleaning.Columns
import TableTalk.Proofs.Engine.Faults
import TableTalk.Proofs.Engine.Shape
import TableTalk.Proofs.Planning

/-!
# Early steps find their columns

The columns that an intent names are in all rows from the start, and they stay
there until rows are aggregated: a selection keeps them all, filters and groups
only choose among rows, and windows only add to them. The steps of a plan up to
its aggregation therefore miss no column. The invariant is that all rows carry
the columns, and that rows are not grouped before the step that groups them.
-/

namespace TableTalk.Engine

open Planning (IsPlanned)

variable {options : Options} {state next reached : State} {needed : String → Prop}
  {intent : Intent} {step : Step} {steps : List Step} {dataset : Dataset}

/-- The rows are not grouped. -/
def WorkingSet.IsPlain : WorkingSet → Prop
  | .rows _ => True
  | .groups _ => False

/-- All rows, of all groups together, have the columns that are needed. -/
def Carries (needed : String → Prop) (working : WorkingSet) : Prop :=
  ∀ row ∈ working.allRows, ∀ column, needed column → column ∈ row.columns

theorem WorkingSet.IsPlain.output_eq {working : WorkingSet} (plain : working.IsPlain) :
    working.output = working.allRows := by
  cases working with
  | rows shown => rfl
  | groups found => cases plain

theorem plain_start (options : Options) (dataset : Dataset) :
    (Run.start options dataset).state.working.IsPlain := trivial

/-- Only grouping leaves groups. -/
theorem plain_runStep (h : runStep options state step = .ok next)
    (ungrouping : step.operation ≠ .group) : next.working.IsPlain := by
  cases step with
  | select columns =>
    obtain ⟨-, rfl⟩ := select_eq_ok.mp h
    trivial
  | filter conditions sentiment =>
    obtain ⟨-, rating, -, rfl⟩ := filter_eq_ok.mp h
    trivial
  | group columns time => exact absurd rfl ungrouping
  | aggregate aggregations =>
    obtain ⟨metrics, -, rfl⟩ := aggregate_eq_ok.mp h
    trivial
  | window request orderBy direction =>
    obtain ⟨found, -, h⟩ := window_eq_ok.mp h
    cases found with
    | none => exact h ▸ trivial
    | some column =>
      obtain ⟨order, -, rfl⟩ := h
      trivial
  | statistical sought =>
    obtain ⟨found, -, h⟩ := slice_eq_ok.mp h
    cases found with
    | none => exact h ▸ trivial
    | some column => exact h ▸ trivial
  | order column direction =>
    obtain ⟨found, -, h⟩ := order_eq_ok.mp h
    cases found with
    | none => exact h ▸ trivial
    | some column => exact h ▸ trivial
  | limit count =>
    obtain rfl := ok_eq_ok.mp h
    trivial

/-- The last step decides whether rows are grouped. -/
theorem plain_carryOut (plain : state.working.IsPlain)
    (ungrouping : ∀ last ∈ steps.getLast?, last.operation ≠ .group)
    (ok : carryOut options state (steps.map .ofStep) = .ok reached) : reached.working.IsPlain := by
  rcases List.eq_nil_or_concat steps with rfl | ⟨before, last, rfl⟩
  · obtain rfl := Except.ok.inj ok
    exact plain
  · rw [List.concat_eq_append, List.map_append, carryOut_append_eq_ok] at ok
    obtain ⟨middle, -, ok⟩ := ok
    exact plain_runStep (carryOut_singleton_eq_ok.mp ok) (ungrouping last (by simp))

/-- A step after which all rows still have the columns that are needed. Aggregations are none, and
neither are steps that take a group for one row. -/
def Keeps (needed : String → Prop) : Step → Prop
  | .select columns => ∀ column, needed column → column ∈ columns
  | .filter _ _ | .group _ _ | .window _ _ _ | .statistical _ => True
  | .aggregate _ | .order _ _ | .limit _ => False

namespace Carries

theorem of_subset {working : WorkingSet} {rows : Dataset} (carries : Carries needed working)
    (h : rows ⊆ working.allRows) : Carries needed (.rows rows) :=
  fun row hrow => carries row (h hrow)

/-- What a calculation adds to the rows of every partition leaves their columns there. -/
theorem mapPartitions {working : WorkingSet} {apply : Dataset → Dataset} {names : List String}
    (carries : Carries needed working) (widens : ∀ rows, Widens names rows (apply rows)) :
    Carries needed (.rows (working.mapPartitions apply)) := by
  intro row hrow column hcolumn
  cases working with
  | rows shown =>
    obtain ⟨source, hsource, hadded⟩ := widens shown row hrow
    rw [hadded, mem_addColumns]
    exact Or.inl (carries source hsource column hcolumn)
  | groups found =>
    obtain ⟨group, hgroup, hrow⟩ := List.mem_flatMap.mp hrow
    obtain ⟨calculated, hcalculated, rfl⟩ := List.mem_map.mp hrow
    obtain ⟨source, hsource, hadded⟩ := widens group.rows calculated hcalculated
    have hin : column ∈ source.columns :=
      carries source (List.mem_flatMap.mpr ⟨group, hgroup, hsource⟩) column hcolumn
    rw [Row.columns_insertAll, hadded, mem_addColumns, mem_addColumns]
    exact Or.inl (Or.inl hin)

theorem start (options : Options) (occurs : ∀ column, needed column →
      ∃ row ∈ dataset, column ∈ row.columns) :
    Carries needed (Run.start options dataset).state.working := by
  refine Cleaning.forall_mem_rows_clean.mpr fun row _ column hcolumn => ?_
  rw [Cleaning.columns_cleanedRow, Cleaning.columnsOf, List.mem_eraseDups, List.mem_flatMap]
  exact occurs column hcolumn

theorem runStep (carries : Carries needed state.working) (keeps : Keeps needed step)
    (plain : step.operation.priority ≤ Operation.priority .group → state.working.IsPlain)
    (h : runStep options state step = .ok next) : Carries needed next.working := by
  cases step with
  | select columns =>
    obtain ⟨-, rfl⟩ := select_eq_ok.mp h
    intro row hrow column hcolumn
    obtain ⟨source, -, rfl⟩ := List.mem_map.mp hrow
    rw [Row.columns_project, mem_addColumns]
    exact Or.inr (keeps column hcolumn)
  | filter conditions sentiment =>
    obtain ⟨-, rating, -, rfl⟩ := filter_eq_ok.mp h
    refine carries.of_subset ?_
    rw [(plain (by simp [Step.operation, Operation.priority])).output_eq]
    exact List.filter_subset_self _
  | group columns time =>
    obtain ⟨-, period, -, rfl⟩ := group_eq_ok.mp h
    intro row hrow
    obtain ⟨group, hgroup, hrow⟩ := List.mem_flatMap.mp hrow
    obtain ⟨entries, hentries, rfl⟩ := List.mem_map.mp hgroup
    have hmem := Grouping.mem_of_mem_groupBy hentries hrow
    rw [(plain (by simp [Step.operation, Operation.priority])).output_eq] at hmem
    exact carries row hmem
  | window request orderBy direction =>
    obtain ⟨found, -, h⟩ := window_eq_ok.mp h
    cases found with
    | none => exact h ▸ carries.of_subset (WorkingSet.partitionSample_prefix _).subset
    | some column =>
      obtain ⟨order, -, rfl⟩ := h
      exact carries.mapPartitions fun rows =>
        widens_applyWindow column order direction rows options request.function
  | statistical sought =>
    obtain ⟨found, -, h⟩ := slice_eq_ok.mp h
    cases found with
    | none => exact h ▸ carries.of_subset (WorkingSet.partitionSample_prefix _).subset
    | some column =>
      subst h
      exact carries.mapPartitions fun rows =>
        widens_sliceRows column sought.percent sought.side rows
  | aggregate aggregations => cases keeps
  | order column direction => cases keeps
  | limit count => cases keeps

/-- Steps in the order of their operations keep the columns: after grouping there is no step that
needs rows that are not grouped. -/
theorem carryOut (carries : Carries needed state.working)
    (ascending : steps.Pairwise fun a b => a.operation.priority < b.operation.priority)
    (keeps : ∀ step ∈ steps, Keeps needed step) (plain : state.working.IsPlain)
    (ok : carryOut options state (steps.map .ofStep) = .ok reached) :
    Carries needed reached.working := by
  have hplain : ∀ step ∈ steps, step.operation.priority ≤ Operation.priority .group →
      state.working.IsPlain := fun _ _ _ => plain
  clear plain
  induction steps generalizing state with
  | nil =>
    obtain rfl := Except.ok.inj ok
    exact carries
  | cons step steps ih =>
    obtain ⟨next, hstep, ok⟩ := carryOut_cons_eq_ok.mp ok
    obtain ⟨hfirst, ascending⟩ := List.pairwise_cons.mp ascending
    have hnext := carries.runStep (keeps step List.mem_cons_self) (hplain step List.mem_cons_self)
      hstep
    refine ih hnext ascending (fun s hs => keeps s (List.mem_cons_of_mem _ hs)) ok ?_
    intro s hs hearly
    refine plain_runStep hstep fun hgroup => ?_
    have hlater := hfirst s hs
    rw [PlannedStep.ofStep] at hgroup
    rw [hgroup] at hlater
    exact absurd hearly (Nat.not_le_of_gt hlater)

end Carries

/-- A step of the plan of an intent, up to the aggregation, misses none of the columns that the
intent names, wherever all rows have them. -/
theorem early_step_misses_nothing (options : Options) (planned : IsPlanned intent step)
    (early : step.operation.priority ≤ Operation.priority .aggregate)
    (carries : Carries intent.Names state.working)
    (plain : step.operation ≠ .aggregate → state.working.IsPlain) :
    MissesOnlyAt [] (runStep options state step) := by
  have shown (h : step.operation ≠ .aggregate) (column : String) (hnamed : intent.Names column) :
      ∀ first ∈ state.working.output.head?, column ∈ first.columns := by
    intro first hfirst
    rw [(plain h).output_eq] at hfirst
    exact carries first (List.mem_of_mem_head? hfirst) column hnamed
  cases step with
  | select columns =>
    have hcolumns : requireColumns state.working.output columns .select = .ok () :=
      requireColumns_of_head fun first hfirst column hcolumn =>
        shown nofun column ((Planning.mem_projection_iff planned).mp hcolumn) first hfirst
    exact .bind (hcolumns ▸ .ok ()) fun _ _ => .ok _
  | filter conditions sentiment =>
    obtain ⟨-, rfl, rfl⟩ := planned
    have hconditions : requireColumns state.working.output (intent.filters.map Condition.column)
        .filter = .ok () := by
      refine requireColumns_of_head fun first hfirst column hcolumn => ?_
      obtain ⟨condition, hcondition, rfl⟩ := List.mem_map.mp hcolumn
      exact shown nofun _ (.condition hcondition) first hfirst
    refine .bind (hconditions ▸ .ok ()) fun _ _ => .bind ?_ fun rating _ => .ok _
    cases hsentiment : intent.sentiment with
    | none => exact .ok []
    | some s =>
      exact .bind (resolve_misses_nothing _ _ _ (by nofun) fun column hcolumn =>
        shown nofun column (.sentiment hsentiment hcolumn)) fun column _ => .ok _
  | group columns time =>
    obtain ⟨-, rfl, rfl⟩ := planned
    have hcolumns : requireColumns state.working.output intent.groupBy .group = .ok () :=
      requireColumns_of_head fun first hfirst column hcolumn =>
        shown nofun column (.group hcolumn) first hfirst
    refine .bind (hcolumns ▸ .ok ()) fun _ _ => .bind ?_ fun period _ => .ok _
    cases htime : intent.time with
    | none => exact .ok none
    | some time =>
      refine .bind (resolve_misses_nothing _ _ _ (by nofun) fun column hcolumn =>
        shown nofun column (.time ?_)) fun column _ => .ok _
      rw [Intent.timeColumn, htime]
      exact hcolumn
  | aggregate aggregations =>
    obtain ⟨-, rfl⟩ := planned
    refine .bind (.mapM fun a ha => .resolveAggregation fun named suggest missing hnamed hmissing =>
      resolve_misses_nothing _ _ _ hmissing ?_) fun _ _ => .ok _
    intro column hcolumn first hfirst
    refine carries first ((WorkingSet.sample_prefix _).subset (List.mem_of_mem_head? hfirst)) column
      (Planning.names_of_mem_plannedAggregations ha ?_)
    rwa [hcolumn, eq_comm, @eq_comm _ _ a.pairedWith] at hnamed
  | _ => exact absurd early (by simp [Step.operation, Operation.priority])

section Plan

variable {before later : List Step} {failing : Step}

/-- Up to the order, the columns that an intent names are still in all rows that its plan comes to,
unless it has aggregated them. -/
theorem carries_reached (occurs : ∀ column, intent.Names column →
      ∃ row ∈ dataset, column ∈ row.columns)
    (hsteps : Planning.steps intent = before ++ failing :: later)
    (upTo : failing.operation.priority ≤ Operation.priority .order)
    (unaggregated : ∀ step ∈ before, step.operation ≠ .aggregate)
    (ok : carryOut options (Run.start options dataset).state (before.map .ofStep) = .ok reached) :
    Carries intent.Names reached.working := by
  have ascending := Planning.steps_pairwise intent
  rw [hsteps, List.pairwise_append] at ascending
  refine (Carries.start options occurs).carryOut ascending.1 (fun step hstep => ?_)
    (plain_start options dataset) ok
  obtain ⟨planned, earlier⟩ := Planning.isPlanned_of_mem_before hsteps hstep
  have hlt := Nat.lt_of_lt_of_le earlier upTo
  cases step with
  | select columns => exact fun column => (Planning.mem_projection_iff planned).mpr
  | aggregate aggregations => exact absurd rfl (unaggregated _ hstep)
  | order column direction => exact absurd hlt (Nat.lt_irrefl _)
  | limit count => exact absurd hlt (by simp [Step.operation, Operation.priority])
  | _ => trivial

theorem early_failing_misses_nothing (occurs : ∀ column, intent.Names column →
      ∃ row ∈ dataset, column ∈ row.columns)
    (hsteps : Planning.steps intent = before ++ failing :: later)
    (early : failing.operation.priority ≤ Operation.priority .aggregate)
    (ok : carryOut options (Run.start options dataset).state (before.map .ofStep) = .ok reached) :
    MissesOnlyAt [] (runStep options reached failing) := by
  have hplanned : IsPlanned intent failing := Planning.mem_steps_iff.mp (hsteps ▸ by simp)
  have hbefore step (hstep : step ∈ before) :=
    (Planning.isPlanned_of_mem_before hsteps hstep).2
  refine early_step_misses_nothing options hplanned early ?_ fun hne => ?_
  · refine carries_reached occurs hsteps (Nat.le_trans early (by decide)) ?_ ok
    intro step hstep haggregate
    have hlt := Nat.lt_of_lt_of_le (hbefore step hstep) early
    rw [haggregate] at hlt
    exact absurd hlt (Nat.lt_irrefl _)
  · refine plain_carryOut (plain_start options dataset) ?_ ok
    intro last hlast hgroup
    have hlt := hbefore last (List.mem_of_getLast? hlast)
    rw [hgroup] at hlt
    -- between grouping and aggregating there is no operation
    cases hop : failing.operation <;> simp_all [Operation.priority]

end Plan

/-- A plan for an intent, executed over a dataset that has every column that the intent names,
never fails over a missing column before its window functions: no step that selects, filters,
groups or aggregates does, where the steps in front of it have led to its state, and a missing
column is one for a window function, a slice or the order. -/
theorem early_steps_find_columns (options : Options) (database : String) (intent : Intent)
    (dataset : Dataset) (nonempty : dataset ≠ [])
    (occurs : ∀ column, intent.Names column → ∃ row ∈ dataset, column ∈ row.columns) :
    let plan := Planning.plan intent database
    let start := Run.start options dataset
    let ending := runSteps options start plan.steps
    (∀ before planned later reached, plan.steps = before ++ planned :: later →
      carryOut options start.state before = .ok reached →
      planned.step.operation ∈ [.select, .filter, .group, .aggregate] →
      ∀ column site, runStep options reached planned.step ≠ .error (.missingColumn column site)) ∧
    (∀ column site, ending.fault = some (.missingColumn column site) →
      site ∈ [.window, .slice, .order]) ∧
    (execute options dataset plan).failure = ending.fault.map Fault.message := by
  intro plan start ending
  refine ⟨?_, ?_, failure_execute options plan nonempty⟩
  · intro before planned later reached hsteps ok hearly column site herror
    obtain ⟨front, step, back, hplan, rfl, rfl, rfl⟩ := exists_of_map_ofStep_eq hsteps
    refine absurd (early_failing_misses_nothing occurs hplan ?_ ok column site herror) (by simp)
    have hpriority : ∀ operation ∈ [Operation.select, .filter, .group, .aggregate],
        operation.priority ≤ Operation.priority .aggregate := by decide
    exact hpriority _ hearly
  · intro column site hfault
    obtain ⟨before, failing, later, hsteps, ok, stuck⟩ := exists_failing_of_fault hfault
    obtain ⟨front, step, back, hplan, rfl, rfl, rfl⟩ := exists_of_map_ofStep_eq hsteps
    by_cases hearly : step.operation.priority ≤ Operation.priority .aggregate
    · exact absurd (early_failing_misses_nothing occurs hplan hearly ok column site stuck) (by simp)
    · exact sitesOf_of_late (Nat.lt_of_not_le hearly)
        (missesOnlyAt_runStep options _ step column site stuck)

/-- Sales by city in the order of a price, which the figures of cities do not have: the steps up to
the figures find their columns, and the order misses its own. -/
theorem sales_by_city_miss_price :
    let dataset : Dataset :=
      [.ofCells [("city", .text "Oslo"), ("sales", .integer 3), ("price", .integer 7)],
        .ofCells [("city", .text "Rome"), ("sales", .integer 4), ("price", .integer 5)]]
    let intent : Intent :=
      { aggregations := [{ function := .avg, column := some "sales" }]
        filters := [⟨"price", .gt, .integer 1⟩]
        groupBy := ["city"]
        orderColumn := some "price" }
    let plan := Planning.plan intent "memory"
    dataset ≠ [] ∧ (∀ column, intent.Names column → ∃ row ∈ dataset, column ∈ row.columns) ∧
    plan.operations = [.filter, .group, .aggregate, .order] ∧
    (∀ column site, (runSteps {} (.start {} dataset) plan.steps).fault =
      some (.missingColumn column site) → site ∈ [.window, .slice, .order]) ∧
    (execute {} dataset plan).failure = some "Column 'price' not found for order" := by
  intro dataset intent plan
  have nonempty : dataset ≠ [] := by decide
  have hnamed : ∀ column ∈ Planning.namedColumns intent,
      ∃ row ∈ dataset, column ∈ row.columns := by decide +kernel
  have occurs : ∀ column, intent.Names column → ∃ row ∈ dataset, column ∈ row.columns :=
    fun column h => hnamed column (Planning.mem_namedColumns_iff.mpr h)
  obtain ⟨-, hlate, -⟩ := early_steps_find_columns {} "memory" intent dataset nonempty occurs
  exact ⟨nonempty, occurs, by decide +kernel, hlate, by decide +kernel⟩

end TableTalk.Engine
