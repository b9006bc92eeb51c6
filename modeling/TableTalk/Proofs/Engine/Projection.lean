import TableTalk.Proofs.Engine.LateColumns
import TableTalk.Proofs.Engine.Narrowing

/-!
# Plans without their selection

A selection keeps the columns that the plan names, and it is planned only if the
intent has a column for every role that is left to the engine otherwise. One role is
forgotten: an order without a column. It falls back on figures, and without figures
on the first numeric column, which a selection may have hidden. A plan that succeeds
without its selection succeeds with it, except for this.
-/

namespace TableTalk.Engine

open Planning (IsPlanned Settled)

variable {options : Options} {state next reached : State} {intent : Intent} {step : Step}
  {steps before later : List Step} {failing : Step} {dataset : Dataset} {columns : List String}
  {column : String} {fault : Fault}

/-- The plan without its selection. -/
def unselected (plan : Plan) : Plan :=
  { plan with steps := plan.steps.filter fun planned => planned.step.operation != .select }

/-- The steps of a plan behind its selection. -/
def afterSelection (intent : Intent) : List Step :=
  Planning.gathering intent ++ ((Planning.aggregateStep? intent).toList ++ Planning.finishing intent)

theorem operation_of_mem_afterSelection (h : step ∈ afterSelection intent) :
    step.operation ≠ .select := by
  rcases List.mem_append.mp h with h | h
  · rcases Planning.operation_of_mem_gathering h with h | h <;> simp [h]
  · rcases List.mem_append.mp h with h | h
    · rw [Option.mem_toList, Planning.aggregateStep?] at h
      split at h
      · cases h
      · rw [← Option.some.inj h]
        simp [Step.operation]
    · intro hselect
      have hlt := Planning.lt_of_mem_finishing h
      rw [hselect] at hlt
      exact absurd hlt (by decide)

theorem steps_unselected (intent : Intent) (database : String) :
    (unselected (Planning.plan intent database)).steps = (afterSelection intent).map .ofStep := by
  have hselecting : (Planning.selecting intent).filter
      (fun step => (PlannedStep.ofStep step).step.operation != .select) = [] := by
    rw [Planning.selecting]
    cases Planning.projection? intent <;> rfl
  have hothers : (afterSelection intent).filter
      (fun step => (PlannedStep.ofStep step).step.operation != .select) = afterSelection intent :=
    List.filter_eq_self.mpr fun step hstep =>
      bne_iff_ne.mpr (operation_of_mem_afterSelection hstep)
  have hsteps : Planning.steps intent = Planning.selecting intent ++ afterSelection intent :=
    Planning.steps_eq_parts intent
  rw [unselected]
  dsimp only [Planning.plan]
  rw [List.filter_map, hsteps, List.filter_append]
  exact congrArg (List.map PlannedStep.ofStep) ((congrArg (· ++ _) hselecting).trans hothers)

/-- The order of the answer is left to the engine, and it has nothing but rows to choose from:
neither figures, nor a window function, nor groups, which have their counts. -/
structure LeavesOrder (intent : Intent) : Prop where
  ordered : intent.order ≠ none
  unnamed : intent.orderColumn = none
  unaggregated : Planning.plannedAggregations intent = []
  unwindowed : intent.window = none
  ungrouped : intent.hasGrouping = true → intent.slice ≠ none

section Selected

theorem within_of_settled (settled : Settled intent) (planned : IsPlanned intent step)
    (hcolumns : ∀ column, intent.Names column → column ∈ columns)
    (early : step.operation = .filter ∨ step.operation = .group ∨ step.operation = .aggregate) :
    Within columns step := by
  cases step with
  | filter conditions sentiment =>
    obtain ⟨-, rfl, rfl⟩ := planned
    refine ⟨fun condition h => hcolumns _ (.condition h), fun s hs => ?_⟩
    obtain ⟨column, named⟩ := Option.ne_none_iff_exists'.mp (settled.sentiment s hs)
    exact ⟨column, hcolumns column (.sentiment hs named), named⟩
  | group names time =>
    obtain ⟨-, rfl, rfl⟩ := planned
    refine ⟨fun name h => hcolumns name (.group h), fun t ht => ?_⟩
    obtain ⟨column, named⟩ := Option.ne_none_iff_exists'.mp (settled.time t ht)
    exact ⟨column, hcolumns column (.time (by rw [Intent.timeColumn, ht]; exact named)), named⟩
  | aggregate aggregations =>
    obtain ⟨-, rfl⟩ := planned
    intro a ha
    obtain ⟨hcolumn, hpair⟩ := settled.plannedAggregation ha
    by_cases hcount : a.function = .count
    · exact Or.inl hcount
    · obtain ⟨column, named⟩ := Option.ne_none_iff_exists'.mp (hcolumn hcount)
      refine Or.inr ⟨⟨column, hcolumns column
        (Planning.names_of_mem_plannedAggregations ha (Or.inl named)), named⟩, fun hpairwise => ?_⟩
      obtain ⟨other, paired⟩ := Option.ne_none_iff_exists'.mp (hpair hpairwise)
      exact ⟨other, hcolumns other (Planning.names_of_mem_plannedAggregations ha (Or.inr paired)),
        paired⟩
  | _ => rcases early with h | h | h <;> cases h

/-- What groups show does not depend on the columns of their rows, and neither does what an order or
a limit makes of it. -/
theorem runStep_narrow_groups (grouped : ¬ state.working.IsPlain)
    (shown : step.operation = .order ∨ step.operation = .limit) :
    runStep options (state.narrow columns) step = runStep options state step := by
  have houtput : (state.narrow columns).working.output = state.working.output :=
    output_narrow_groups grouped
  cases step with
  | order named direction =>
    rw [runStep, runStep, order, order, houtput]
    rfl
  | limit count =>
    rw [runStep, runStep, limit, limit, houtput]
    rfl
  | _ => rcases shown with h | h <;> cases h

theorem operation_of_mem_finishing (hwindow : intent.window = none) (hslice : intent.slice = none)
    (h : step ∈ Planning.finishing intent) :
    step.operation = .order ∨ step.operation = .limit := by
  have hplanned := Planning.isPlanned_of_mem_finishing h
  have hlt := Planning.lt_of_mem_finishing h
  cases step with
  | window request orderBy direction => simp [IsPlanned, hwindow] at hplanned
  | statistical slice => simp [IsPlanned, hslice] at hplanned
  | order named direction => exact Or.inl rfl
  | limit count => exact Or.inr rfl
  | _ => exact absurd hlt (by simp [Step.operation, Operation.priority])

/-- With its selection, a plan comes through its filters and groups with narrowed rows. -/
theorem carryOut_gathering (hselected : Planning.projection? intent = some columns)
    (occurs : ∀ column, intent.Names column → ∃ row ∈ dataset, column ∈ row.columns)
    (ok : carryOut options (Run.start options dataset).state
      ((Planning.gathering intent).map .ofStep) = .ok reached) :
    carryOut options (Run.start options dataset).state
        ((Planning.selecting intent ++ Planning.gathering intent).map .ofStep) =
      .ok (reached.narrow columns) ∧ Carries (· ∈ columns) reached.working := by
  have settled := Planning.settled_of_projection hselected
  have hplain := plain_start options dataset
  have hstart : Carries (· ∈ columns) (Run.start options dataset).state.working :=
    .start options fun column h => occurs column ((Planning.mem_projection_iff hselected).mp h)
  have hwithin : ∀ step ∈ Planning.gathering intent,
      Within columns step ∧ step.operation ≠ .aggregate := by
    intro step hstep
    have within := within_of_settled settled (Planning.isPlanned_of_mem_gathering hstep)
      fun column => (Planning.mem_projection_iff hselected).mpr
    rcases Planning.operation_of_mem_gathering hstep with h | h
    · exact ⟨within (Or.inl h), by simp [h]⟩
    · exact ⟨within (Or.inr (Or.inl h)), by simp [h]⟩
  have ascending := Planning.steps_pairwise intent
  rw [Planning.steps_eq_parts, List.pairwise_append, List.pairwise_append] at ascending
  constructor
  · rw [List.map_append, carryOut_append_eq_ok]
    refine ⟨(Run.start options dataset).state.narrow columns, ?_,
      carryOut_narrow ascending.2.1.1 hwithin hplain hstart ok⟩
    rw [Planning.selecting, hselected]
    exact carryOut_singleton_eq_ok.mpr (select_of_carries hplain hstart)
  · exact hstart.carryOut ascending.2.1.1
      (fun step hstep => (hwithin step hstep).1.keeps (hwithin step hstep).2) hplain ok

/-- What comes behind an aggregation goes on from narrowed rows as it goes on from the rows. -/
theorem carryOut_figures (hselected : Planning.projection? intent = some columns)
    (aggregates : Planning.plannedAggregations intent ≠ [])
    (carries : Carries (· ∈ columns) state.working)
    (ok : carryOut options state (((Planning.aggregateStep? intent).toList ++
      Planning.finishing intent).map .ofStep) = .ok reached) :
    carryOut options (state.narrow columns) (((Planning.aggregateStep? intent).toList ++
      Planning.finishing intent).map .ofStep) = .ok reached := by
  have within : Within columns (.aggregate (Planning.plannedAggregations intent)) :=
    within_of_settled (Planning.settled_of_projection hselected) ⟨aggregates, rfl⟩
      (fun column => (Planning.mem_projection_iff hselected).mpr) (Or.inr (Or.inr rfl))
  rw [Planning.aggregateStep?, if_neg aggregates] at ok ⊢
  obtain ⟨figures, haggregate, ok⟩ := carryOut_cons_eq_ok.mp ok
  exact carryOut_cons_eq_ok.mpr ⟨figures, (aggregate_narrow within carries).trans haggregate, ok⟩

/-- Groups that are shown go on, in whatever order, where the groups of all columns went on. -/
theorem exists_carryOut_of_shown (grouped : ¬ state.working.IsPlain)
    (unaggregated : Planning.plannedAggregations intent = []) (hwindow : intent.window = none)
    (hslice : intent.slice = none)
    (ok : carryOut options state (((Planning.aggregateStep? intent).toList ++
      Planning.finishing intent).map .ofStep) = .ok reached) :
    ∃ last, carryOut options (state.narrow columns) (((Planning.aggregateStep? intent).toList ++
      Planning.finishing intent).map .ofStep) = .ok last := by
  rw [Planning.aggregateStep?, if_pos unaggregated, Option.toList_none, List.nil_append] at ok ⊢
  cases hfinishing : Planning.finishing intent with
  | nil => exact ⟨_, carryOut_nil _⟩
  | cons first rest =>
    rw [hfinishing] at ok
    obtain ⟨next, hfirst, ok⟩ := carryOut_cons_eq_ok.mp ok
    have hshown := operation_of_mem_finishing hwindow hslice (hfinishing ▸ List.mem_cons_self)
    exact ⟨reached, carryOut_cons_eq_ok.mpr
      ⟨next, (runStep_narrow_groups grouped hshown).trans hfirst, ok⟩⟩

/-- Behind an aggregation, or where groups are shown, a plan goes on with its selection where it goes
on without it. -/
theorem exists_carryOut_of_unselected (hselected : Planning.projection? intent = some columns)
    (occurs : ∀ column, intent.Names column → ∃ row ∈ dataset, column ∈ row.columns)
    (gathered : Planning.plannedAggregations intent ≠ [] ∨
      intent.hasGrouping = true ∧ intent.window = none ∧ intent.slice = none)
    (ok : carryOut options (Run.start options dataset).state
      ((afterSelection intent).map .ofStep) = .ok reached) :
    ∃ last, carryOut options (Run.start options dataset).state
      ((Planning.steps intent).map .ofStep) = .ok last := by
  rw [afterSelection, List.map_append, carryOut_append_eq_ok] at ok
  obtain ⟨middle, hgathering, ok⟩ := ok
  obtain ⟨hnarrow, carries⟩ := carryOut_gathering hselected occurs hgathering
  suffices h : ∃ last, carryOut options (middle.narrow columns)
      (((Planning.aggregateStep? intent).toList ++ Planning.finishing intent).map .ofStep) =
        .ok last by
    obtain ⟨last, h⟩ := h
    refine ⟨last, ?_⟩
    rw [Planning.steps_eq_parts, ← List.append_assoc, List.map_append, carryOut_append_eq_ok]
    exact ⟨_, hnarrow, h⟩
  by_cases aggregates : Planning.plannedAggregations intent = []
  case neg => exact ⟨reached, carryOut_figures hselected aggregates carries ok⟩
  case pos =>
    obtain ⟨grouping, hwindow, hslice⟩ := gathered.resolve_left (not_not_intro aggregates)
    obtain ⟨rows, hgroup⟩ :=
      exists_group_of_getLast? (Planning.getLast?_gathering grouping) hgathering
    obtain ⟨-, found, hfound, -⟩ := exists_groups_of_group hgroup
    have grouped : ¬ middle.working.IsPlain := by
      rw [hfound]
      exact id
    exact exists_carryOut_of_shown grouped aggregates hwindow hslice ok

end Selected

section Unordered

/-- Only window functions change the column over which the latest of them ran. -/
theorem windowColumn_runStep (h : runStep options state step = .ok next)
    (unwindowing : step.operation ≠ .window) : next.windowColumn = state.windowColumn := by
  cases step with
  | select names =>
    obtain ⟨-, rfl⟩ := select_eq_ok.mp h
    rfl
  | filter conditions sentiment =>
    obtain ⟨-, rating, -, rfl⟩ := filter_eq_ok.mp h
    rfl
  | group names time =>
    obtain ⟨-, period, -, rfl⟩ := group_eq_ok.mp h
    rfl
  | aggregate aggregations =>
    obtain ⟨metrics, -, rfl⟩ := aggregate_eq_ok.mp h
    rfl
  | window request orderBy direction => exact absurd rfl unwindowing
  | statistical sought =>
    obtain ⟨found, -, h⟩ := slice_eq_ok.mp h
    cases found <;> exact h ▸ rfl
  | order named direction =>
    obtain ⟨found, -, h⟩ := order_eq_ok.mp h
    cases found <;> exact h ▸ rfl
  | limit count =>
    obtain rfl := ok_eq_ok.mp h
    rfl

theorem windowColumn_carryOut (unwindowing : ∀ step ∈ steps, step.operation ≠ .window)
    (ok : carryOut options state (steps.map .ofStep) = .ok reached) :
    reached.windowColumn = state.windowColumn := by
  refine carryOut_induction
    (motive := fun later => later.windowColumn = state.windowColumn) rfl ?_ ok
  intro planned hplanned before after hbefore hstep
  obtain ⟨step, hmem, rfl⟩ := List.mem_map.mp hplanned
  exact (windowColumn_runStep hstep (unwindowing step hmem)).trans hbefore

/-- Behind the window function of a plan that has not aggregated, the latest column over which one
ran is the column that the intent names for it. -/
theorem windowColumn_reached (settled : Settled intent) (occurs : ∀ column, intent.Names column →
      ∃ row ∈ dataset, column ∈ row.columns)
    (hsteps : Planning.steps intent = before ++ failing :: later)
    (behind : Operation.priority .window < failing.operation.priority)
    (unaggregated : Planning.plannedAggregations intent = [])
    (ok : carryOut options (Run.start options dataset).state (before.map .ofStep) = .ok reached) :
    reached.windowColumn = intent.window.bind WindowRequest.column := by
  cases hwindow : intent.window with
  | none =>
    refine windowColumn_carryOut (fun step hstep hop => ?_) ok
    have hplanned := (Planning.isPlanned_of_mem_before hsteps hstep).1
    cases step with
    | window request orderBy direction => simp [IsPlanned, hwindow] at hplanned
    | _ => cases hop
  | some request =>
    obtain ⟨column, named⟩ := Option.ne_none_iff_exists'.mp (settled.window request hwindow)
    have hplanned : IsPlanned intent (Planning.windowStep intent request) := ⟨hwindow, rfl⟩
    obtain ⟨front, rest, rfl⟩ :=
      List.append_of_mem (Planning.mem_before_of_isPlanned hsteps hplanned behind)
    rw [List.append_assoc, List.cons_append] at hsteps
    rw [List.map_append, carryOut_append_eq_ok] at ok
    obtain ⟨middle, hfront, ok⟩ := ok
    obtain ⟨next, hstep, ok⟩ := carryOut_cons_eq_ok.mp ok
    have hrest : ∀ step ∈ rest, step.operation ≠ .window := by
      intro step hmem hop
      have hlt := (Planning.isPlanned_of_mem_after hsteps (List.mem_append_left _ hmem)).2
      rw [hop] at hlt
      exact absurd hlt (Nat.lt_irrefl _)
    have carries : Carries intent.Names middle.working :=
      carries_reached occurs hsteps
        (by simp [Planning.windowStep, Step.operation, Operation.priority])
        (fun step hmem => Planning.operation_ne_aggregate unaggregated
          (Planning.isPlanned_of_mem_before hsteps hmem).1) hfront
    obtain ⟨found, hfound, hnext⟩ := window_eq_ok.mp hstep
    rw [named, resolve_named fun first hfirst => carries first
      ((WorkingSet.partitionSample_prefix _).subset (List.mem_of_mem_head? hfirst)) column
      (.window hwindow named)] at hfound
    obtain rfl := Except.ok.inj hfound
    obtain ⟨order, -, rfl⟩ := hnext
    rw [Option.bind_some, named]
    exact windowColumn_carryOut hrest ok

/-- An order without a column fails where the rows lack a numeric one, and where no window function
has run over a column that they have. -/
theorem fault_of_order (plain : reached.working.IsPlain) {direction : Direction}
    (windowed : ∀ column, reached.windowColumn = some column →
      ∀ row ∈ reached.working.allRows, column ∈ row.columns)
    (stuck : order reached none direction = .error fault) :
    fault = .noNumericColumn .order ∧ reached.windowColumn = none ∧
      reached.working.output ≠ [] ∧ numericColumn? reached.working.output = none := by
  rcases bind_eq_error.mp stuck with herror | ⟨found, -, herror⟩
  case inr => cases found <;> cases herror
  cases hrows : reached.working.output with
  | nil =>
    rw [hrows] at herror
    cases herror
  | cons first rest =>
    rw [hrows] at herror
    simp only [State.resolve, List.isEmpty_cons, Bool.false_eq_true, ↓reduceIte] at herror
    split at herror
    case h_1 => cases herror
    case h_2 hnothing =>
      obtain ⟨hfigures, hnumeric⟩ := (Option.orElse_eq_none _ _).mp hnothing
      refine ⟨(Except.error.inj herror).symm, ?_, List.cons_ne_nil _ _, hnumeric⟩
      refine Option.eq_none_iff_forall_ne_some.mpr fun column hcolumn => ?_
      have hfirst : first ∈ reached.working.allRows := by
        rw [← plain.output_eq, hrows]
        exact List.mem_cons_self
      have hhas := Row.hasColumn_iff.mpr (windowed column hcolumn first hfirst)
      have hmem : column ∈ reached.metrics ++ reached.windowColumn.toList := by simp [hcolumn]
      have hnone := List.find?_eq_none.mp hfigures column hmem
      simp [hhas] at hnone

/-- With all roles settled, steps up to grouping find their columns in rows that have them. -/
theorem exists_runStep_of_early (options : Options)
    (hselected : Planning.projection? intent = some columns)
    (planned : IsPlanned intent step) (early : step.operation.priority ≤ Operation.priority .group)
    (plain : state.working.IsPlain) (carries : Carries intent.Names state.working) :
    ∃ next, runStep options state step = .ok next := by
  have hcarries : Carries (· ∈ columns) state.working := fun row hrow column hcolumn =>
    carries row hrow column ((Planning.mem_projection_iff hselected).mp hcolumn)
  have has : HeadHas state.working.output columns := by
    rw [plain.output_eq]
    exact hcarries.headHas (List.Subset.refl _)
  have within := within_of_settled (Planning.settled_of_projection hselected) planned
    fun column => (Planning.mem_projection_iff hselected).mpr
  cases step with
  | select names =>
    obtain rfl : names = columns := Option.some.inj (planned.symm.trans hselected)
    exact ⟨_, select_of_carries plain hcarries⟩
  | filter conditions sentiment => exact ⟨_, has.filter (within (Or.inl rfl))⟩
  | group names time => exact ⟨_, has.group (within (Or.inr (Or.inl rfl)))⟩
  | _ => exact absurd early (by simp [Step.operation, Operation.priority])

/-- With all roles settled, windows and slices find their columns in rows that have them. -/
theorem exists_runStep_of_between (options : Options) (settled : Settled intent)
    (unaggregated : Planning.plannedAggregations intent = []) (planned : IsPlanned intent step)
    (between : IsBetween step) (carries : Carries intent.Names state.working) :
    ∃ next, runStep options state step = .ok next := by
  have there {column : String} (hnamed : intent.Names column) :
      ∀ first ∈ state.working.partitionSample.head?, column ∈ first.columns := fun first hfirst =>
    carries first ((WorkingSet.partitionSample_prefix _).subset (List.mem_of_mem_head? hfirst))
      column hnamed
  cases step with
  | window request orderBy direction =>
    obtain ⟨hwindow, hstep⟩ := planned
    obtain ⟨column, named⟩ := Option.ne_none_iff_exists'.mp (settled.window request hwindow)
    have horder : orderBy = none := by
      rw [← (Step.window.inj hstep).2.1]
      refine if_neg fun hseries => ?_
      simp only [Bool.and_eq_true, Bool.not_eq_true'] at hseries
      exact Planning.plannedAggregations_ne_nil hwindow hseries.1 hseries.2 unaggregated
    subst horder
    refine ⟨_, window_eq_ok.mpr ⟨some column, ?_, none, rfl, rfl⟩⟩
    rw [named]
    exact resolve_named (there (.window hwindow named))
  | statistical sought =>
    obtain ⟨column, named⟩ := Option.ne_none_iff_exists'.mp (settled.slice sought planned)
    refine ⟨_, slice_eq_ok.mpr ⟨some column, ?_, rfl⟩⟩
    rw [named]
    exact resolve_named (there (.slice planned named))
  | _ => rcases between with h | h <;> cases h

/-- An order of rows that have the columns of the intent fails only if it is left to the engine. -/
theorem leavesOrder_of_fault (settled : Settled intent)
    (unaggregated : Planning.plannedAggregations intent = [])
    (unshown : ¬ (intent.hasGrouping = true ∧ intent.window = none ∧ intent.slice = none))
    (plain : reached.working.IsPlain) (carries : Carries intent.Names reached.working)
    (windowed : reached.windowColumn = intent.window.bind WindowRequest.column)
    {named : Option String} {direction : Direction}
    (planned : IsPlanned intent (.order named direction))
    (stuck : order reached named direction = .error fault) :
    LeavesOrder intent ∧ fault = .noNumericColumn .order ∧
      reached.working.output ≠ [] ∧ numericColumn? reached.working.output = none := by
  obtain ⟨ordered, rfl, -⟩ := planned
  cases hcolumn : intent.orderColumn with
  | some column =>
    have hthere : ∀ first ∈ reached.working.output.head?, column ∈ first.columns := by
      intro first hfirst
      rw [plain.output_eq] at hfirst
      exact carries first (List.mem_of_mem_head? hfirst) column (.order hcolumn)
    have hok : order reached (some column) direction = .ok _ :=
      order_eq_ok.mpr ⟨some column, resolve_named hthere, rfl⟩
    rw [hcolumn, hok] at stuck
    cases stuck
  | none =>
    rw [hcolumn] at stuck
    have hwindowed : ∀ column, reached.windowColumn = some column →
        ∀ row ∈ reached.working.allRows, column ∈ row.columns := by
      intro column h row hrow
      rw [windowed, Option.bind_eq_some_iff] at h
      obtain ⟨request, hwindow, hnamed⟩ := h
      exact carries row hrow column (.window hwindow hnamed)
    obtain ⟨hfault, hnone, hfilled, hnumeric⟩ := fault_of_order plain hwindowed stuck
    have unwindowed : intent.window = none := by
      refine Option.eq_none_iff_forall_ne_some.mpr fun request hwindow => ?_
      rw [windowed, hwindow, Option.bind_some] at hnone
      exact settled.window request hwindow hnone
    refine ⟨⟨fun h => ordered ⟨h, hcolumn⟩, hcolumn, unaggregated, unwindowed, ?_⟩, hfault, hfilled,
      hnumeric⟩
    exact fun grouping hslice => unshown ⟨grouping, unwindowed, hslice⟩

/-- With all roles settled and nothing aggregated, only an order without a column can fail. -/
theorem fault_of_settled (hselected : Planning.projection? intent = some columns)
    (occurs : ∀ column, intent.Names column → ∃ row ∈ dataset, column ∈ row.columns)
    (unaggregated : Planning.plannedAggregations intent = [])
    (unshown : ¬ (intent.hasGrouping = true ∧ intent.window = none ∧ intent.slice = none))
    (hsteps : Planning.steps intent = before ++ failing :: later)
    (ok : carryOut options (Run.start options dataset).state (before.map .ofStep) = .ok reached)
    (stuck : runStep options reached failing = .error fault) :
    LeavesOrder intent ∧ fault = .noNumericColumn .order ∧
      reached.working.output ≠ [] ∧ numericColumn? reached.working.output = none := by
  have settled := Planning.settled_of_projection hselected
  have hplanned : IsPlanned intent failing := Planning.mem_steps_iff.mp (hsteps ▸ by simp)
  have unfailing (h : ∃ next, runStep options reached failing = .ok next) : False := by
    obtain ⟨next, h⟩ := h
    rw [h] at stuck
    cases stuck
  have upTo : failing.operation.priority ≤ Operation.priority .order := by
    cases failing with
    | limit count => cases stuck
    | _ => simp [Step.operation, Operation.priority]
  have carries : Carries intent.Names reached.working :=
    carries_reached occurs hsteps upTo (fun step hstep => Planning.operation_ne_aggregate
      unaggregated (Planning.isPlanned_of_mem_before hsteps hstep).1) ok
  by_cases early : failing.operation.priority ≤ Operation.priority .group
  case pos =>
    refine (unfailing (exists_runStep_of_early options hselected hplanned early ?_ carries)).elim
    by_contra grouped
    obtain ⟨hlast, -⟩ := le_group_of_grouped hsteps ok grouped
    have hlt := (Planning.isPlanned_of_mem_before hsteps (List.mem_of_getLast? hlast)).2
    exact absurd (Nat.lt_of_lt_of_le hlt early) (Nat.lt_irrefl _)
  case neg =>
    cases failing with
    | window request orderBy direction =>
      exact (unfailing (exists_runStep_of_between options settled unaggregated hplanned
        (Or.inl rfl) carries)).elim
    | statistical sought =>
      exact (unfailing (exists_runStep_of_between options settled unaggregated hplanned
        (Or.inr rfl) carries)).elim
    | order named direction =>
      have plain : reached.working.IsPlain := by
        by_contra grouped
        exact unshown ⟨(le_group_of_grouped hsteps ok grouped).2.1,
          unwindowed_of_grouped hsteps ok grouped rfl⟩
      exact leavesOrder_of_fault settled unaggregated unshown plain carries
        (windowColumn_reached settled occurs hsteps
          (by simp [Step.operation, Operation.priority]) unaggregated ok) hplanned stuck
    | aggregate aggregations => exact absurd unaggregated hplanned.1
    | limit count => cases stuck
    | _ => exact absurd (by simp [Step.operation, Operation.priority]) early

end Unordered

theorem unselected_eq_self (hselected : Planning.projection? intent = none) (database : String) :
    unselected (Planning.plan intent database) = Planning.plan intent database := by
  have hsteps : (unselected (Planning.plan intent database)).steps =
      (Planning.plan intent database).steps := by
    rw [steps_unselected, Planning.plan, Planning.steps_eq_parts, Planning.selecting, hselected]
    rfl
  exact congrArg (fun steps => { Planning.plan intent database with steps }) hsteps

/-- A plan for an intent that names columns of the dataset only, without its selection and with it. -/
theorem success_or_leavesOrder (options : Options) (database : String) (nonempty : dataset ≠ [])
    (occurs : ∀ column, intent.Names column → ∃ row ∈ dataset, column ∈ row.columns)
    (succeeds : (execute options dataset
      (unselected (Planning.plan intent database))).success = true) :
    (execute options dataset (Planning.plan intent database)).success = true ∨
      LeavesOrder intent ∧
      (execute options dataset (Planning.plan intent database)).failure =
        some (Fault.message (.noNumericColumn .order)) ∧
      (execute options dataset (Planning.plan intent database)).rows ≠ [] ∧
      numericColumn? (execute options dataset (Planning.plan intent database)).rows = none := by
  cases hselected : Planning.projection? intent with
  | none =>
    rw [unselected_eq_self hselected] at succeeds
    exact Or.inl succeeds
  | some columns =>
    have hsuccess {last : State} (ok : carryOut options (Run.start options dataset).state
        (Planning.plan intent database).steps = .ok last) :
        (execute options dataset (Planning.plan intent database)).success = true := by
      obtain ⟨entries, -, hexecute⟩ := execute_of_carryOut _ nonempty ok
      exact congrArg Result.success hexecute
    by_cases gathered : Planning.plannedAggregations intent ≠ [] ∨
        intent.hasGrouping = true ∧ intent.window = none ∧ intent.slice = none
    case pos =>
      obtain ⟨reached, ok⟩ := exists_carryOut_of_success nonempty succeeds
      rw [steps_unselected] at ok
      obtain ⟨last, ok⟩ := exists_carryOut_of_unselected hselected occurs gathered ok
      exact Or.inl (hsuccess ok)
    case neg =>
      rw [not_or, not_not] at gathered
      cases hfault : (runSteps options (.start options dataset)
          (Planning.plan intent database).steps).fault with
      | none =>
        obtain ⟨last, ok⟩ := exists_carryOut_of_fault_none hfault
        exact Or.inl (hsuccess ok)
      | some fault =>
        obtain ⟨before, failing, later, hsteps, ok, stuck⟩ := exists_failing_of_fault hfault
        obtain ⟨front, step, back, hplan, rfl, rfl, rfl⟩ := exists_of_map_ofStep_eq hsteps
        obtain ⟨leaves, rfl, filled, unnumbered⟩ :=
          fault_of_settled hselected occurs gathered.1 gathered.2 hplan ok stuck
        rw [failure_execute options _ nonempty, hfault, rows_execute options _ nonempty]
        exact Or.inr ⟨leaves, rfl, filled, unnumbered⟩

/-- The plan of a question succeeds with its selection if it succeeds without, unless it leaves the
order to the engine: no column is named for the order, nothing is aggregated, and no window function
has run. Then the selection can hide all numeric columns, and the plan fails in front of its order
over rows without one. -/
theorem selection_hides_only_orders (question name : String) (threshold : Float) (options : Options)
    (database : String) (dataset : Dataset) (nonempty : dataset ≠ []) :
    let intent := Question.read question (Schema.ofRows name dataset) threshold
    let plan := Planning.plan intent database
    let result := execute options dataset plan
    (execute options dataset (unselected plan)).success = true →
      result.success = true ∨
        LeavesOrder intent ∧ result.failure = some "No numeric column available for ordering" ∧
        result.rows ≠ [] ∧ numericColumn? result.rows = none := by
  have only := Question.namesOnly_read question (Schema.ofRows name dataset) threshold
  generalize Question.read question (Schema.ofRows name dataset) threshold = intent at only ⊢
  intro _ plan result succeeds
  exact success_or_leavesOrder options database nonempty
    (fun _ h => Schema.mem_columnNames_ofRows.mp (only.mem h)) succeeds

/-- Two kinds of things with a rating. -/
def ratedKinds : Dataset :=
  [.ofCells [("kind", .text "book"), ("rating", .integer 3)],
    .ofCells [("kind", .text "game"), ("rating", .integer 5)]]

/-- What asks for the best kind without saying by what. -/
def topKind : Intent :=
  Question.read "top 1 kind" (Schema.ofRows "kinds" ratedKinds) Matching.defaultThreshold

/-- Without its selection the plan orders kinds by their rating, and its selection hides it. -/
theorem topKind_needs_rating :
    (execute {} ratedKinds (unselected (Planning.plan topKind "memory"))).success = true ∧
    (execute {} ratedKinds (Planning.plan topKind "memory")).success = false := by
  decide +kernel

theorem selection_hides_columns :
    ¬ ∀ (question name : String) (threshold : Float) (dataset : Dataset), dataset ≠ [] →
      let intent := Question.read question (Schema.ofRows name dataset) threshold
      let plan := Planning.plan intent "memory"
      (execute {} dataset (unselected plan)).success = true →
        (execute {} dataset plan).success = true := by
  intro claim
  have succeeds := claim "top 1 kind" "kinds" Matching.defaultThreshold ratedKinds (by decide)
    topKind_needs_rating.1
  exact Bool.false_ne_true (topKind_needs_rating.2.symm.trans succeeds)

theorem topKind_leaves_order :
    ratedKinds ≠ [] ∧
    (execute {} ratedKinds (unselected (Planning.plan topKind "memory"))).success = true ∧
    LeavesOrder topKind ∧
    (execute {} ratedKinds (Planning.plan topKind "memory")).failure =
      some "No numeric column available for ordering" ∧
    numericColumn? (execute {} ratedKinds (Planning.plan topKind "memory")).rows = none := by
  have nonempty : ratedKinds ≠ [] := by decide
  obtain ⟨succeeds, fails⟩ := topKind_needs_rating
  rcases selection_hides_only_orders "top 1 kind" "kinds" Matching.defaultThreshold {} "memory"
    ratedKinds nonempty succeeds with h | ⟨leaves, failure, -, unnumbered⟩
  · exact absurd (fails.symm.trans h) Bool.false_ne_true
  · exact ⟨nonempty, succeeds, leaves, failure, unnumbered⟩

end TableTalk.Engine
