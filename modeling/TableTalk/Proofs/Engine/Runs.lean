import TableTalk.Engine.Execution
import TableTalk.Proofs.Engine.Steps

/-!
# Runs of a plan

A run goes through the states that its steps lead to and logs each of them. The
fold of the steps, which knows nothing of logs, says how far a plan can be
carried out: a run ends without a fault exactly where the fold has a state, and a
fault leaves the run as the steps in front of it have left it.
-/

namespace TableTalk.Engine

variable {options : Options} {run : Run} {reached : State} {fault : Fault}
variable {steps before : List PlannedStep} {failing : PlannedStep}

/-- The state that steps lead to, or the first fault among them. -/
def carryOut (options : Options) (state : State) (steps : List PlannedStep) : Except Fault State :=
  steps.foldlM (fun state planned => runStep options state planned.step) state

theorem output_length (working : WorkingSet) : working.output.length = working.size := by
  cases working with
  | rows shown => rfl
  | groups found => exact List.length_map _

theorem carryOut_nil (state : State) : carryOut options state [] = .ok state := rfl

theorem carryOut_cons_eq_ok {state : State} {planned : PlannedStep} :
    carryOut options state (planned :: steps) = .ok reached ↔
      ∃ next, runStep options state planned.step = .ok next ∧
        carryOut options next steps = .ok reached :=
  bind_eq_ok

/-- What each of the steps preserves holds of the state that they lead to. -/
theorem carryOut_induction {motive : State → Prop} {state : State} (start : motive state)
    (keeps : ∀ planned ∈ steps, ∀ before after, motive before →
      runStep options before planned.step = .ok after → motive after)
    (ok : carryOut options state steps = .ok reached) : motive reached := by
  induction steps generalizing state with
  | nil =>
    rw [carryOut_nil] at ok
    exact Except.ok.inj ok ▸ start
  | cons planned steps ih =>
    obtain ⟨next, hstep, ok⟩ := carryOut_cons_eq_ok.mp ok
    refine ih (keeps planned List.mem_cons_self state next start hstep) ?_ ok
    exact fun other hother => keeps other (List.mem_cons_of_mem _ hother)

/-- Steps that all succeed lead to their state and are logged with their descriptions. -/
theorem runSteps_of_carryOut (run : Run)
    (ok : carryOut options run.state steps = .ok reached) :
    ∃ entries, runSteps options run steps = ⟨⟨reached, run.log ++ entries⟩, none⟩ ∧
      entries.map LogEntry.description = steps.map PlannedStep.description := by
  induction steps generalizing run with
  | nil =>
    rw [carryOut_nil] at ok
    obtain rfl := Except.ok.inj ok
    exact ⟨[], by simp [runSteps], rfl⟩
  | cons planned steps ih =>
    obtain ⟨next, hstep, ok⟩ := carryOut_cons_eq_ok.mp ok
    obtain ⟨entries, hrun, hdescribed⟩ := ih (run.advance planned next) ok
    refine ⟨⟨planned.description, next.working.size⟩ :: entries, ?_, ?_⟩
    · simp only [runSteps, hstep]
      rw [hrun]
      simp only [Run.advance, List.append_assoc, List.cons_append, List.nil_append]
    · rw [List.map_cons, List.map_cons, hdescribed]

theorem runSteps_append_of_carryOut (run : Run) (later : List PlannedStep)
    (ok : carryOut options run.state before = .ok reached) :
    runSteps options run (before ++ later) =
      runSteps options (runSteps options run before).run later := by
  induction before generalizing run with
  | nil => rfl
  | cons planned before ih =>
    obtain ⟨next, hstep, ok⟩ := carryOut_cons_eq_ok.mp ok
    simp only [List.cons_append, runSteps, hstep]
    exact ih (run.advance planned next) ok

/-- The first fault ends the run where the steps in front of it have come; no step after it
matters. -/
theorem runSteps_of_fault (run : Run) (ok : carryOut options run.state before = .ok reached)
    (stuck : runStep options reached failing.step = .error fault) (later : List PlannedStep) :
    runSteps options run (before ++ failing :: later) =
      ⟨(runSteps options run before).run, some fault⟩ := by
  obtain ⟨entries, hrun, -⟩ := runSteps_of_carryOut run ok
  rw [runSteps_append_of_carryOut run _ ok, hrun]
  simp only [runSteps, stuck]

theorem exists_carryOut_of_fault_none (ended : (runSteps options run steps).fault = none) :
    ∃ reached, carryOut options run.state steps = .ok reached := by
  induction steps generalizing run with
  | nil => exact ⟨run.state, rfl⟩
  | cons planned steps ih =>
    cases hstep : runStep options run.state planned.step with
    | error fault => simp only [runSteps, hstep] at ended; cases ended
    | ok next =>
      simp only [runSteps, hstep] at ended
      obtain ⟨reached, ok⟩ := ih ended
      exact ⟨reached, carryOut_cons_eq_ok.mpr ⟨next, hstep, ok⟩⟩

/-- A run stays in the last state that its steps have led to. -/
theorem exists_prefix_carryOut (options : Options) (run : Run) (steps : List PlannedStep) :
    ∃ before, before <+: steps ∧
      carryOut options run.state before = .ok (runSteps options run steps).run.state := by
  induction steps generalizing run with
  | nil => exact ⟨[], List.prefix_rfl, rfl⟩
  | cons planned steps ih =>
    cases hstep : runStep options run.state planned.step with
    | error fault =>
      simp only [runSteps, hstep]
      exact ⟨[], List.nil_prefix, rfl⟩
    | ok next =>
      simp only [runSteps, hstep]
      obtain ⟨before, hstart, ok⟩ := ih (run.advance planned next)
      exact ⟨planned :: before, List.cons_prefix_cons.mpr ⟨rfl, hstart⟩,
        carryOut_cons_eq_ok.mpr ⟨next, hstep, ok⟩⟩

/-- The last entry of the log counts the rows that the run has come to. -/
def Run.Counted (run : Run) : Prop :=
  run.log.getLast?.map LogEntry.rowCount = some run.state.working.size

theorem counted_start (options : Options) (dataset : Dataset) :
    (Run.start options dataset).Counted := rfl

theorem counted_advance (run : Run) (planned : PlannedStep) (state : State) :
    (run.advance planned state).Counted := by
  simp [Run.Counted, Run.advance]

theorem counted_runSteps (options : Options) (steps : List PlannedStep) (counted : run.Counted) :
    (runSteps options run steps).run.Counted := by
  induction steps generalizing run with
  | nil => exact counted
  | cons planned steps ih =>
    simp only [runSteps]
    cases runStep options run.state planned.step with
    | error fault => exact counted
    | ok next => exact ih (counted_advance run planned next)

section Whole

variable {dataset : Dataset} {plan : Plan}

theorem execute_of_ending (plan : Plan) (nonempty : dataset ≠ []) :
    execute options dataset plan =
      let ending := runSteps options (.start options dataset) plan.steps
      let rows := ending.run.state.working.output
      match ending.fault with
      | some fault => failed fault rows ending.run.log
      | none =>
        { success := true
          rows
          rowCount := rows.length
          log := ending.run.log
          insights := Insights.remarks rows plan.intent options.outlierMultiplier
          complexity := some plan.complexity } := by
  have hne : dataset.isEmpty = false := by simpa using nonempty
  exact if_neg (by rw [hne]; exact Bool.false_ne_true)

/-- The result of a plan without faults: every step has an entry of its own, after the one on how
the dataset was cleaned. -/
theorem execute_of_carryOut (plan : Plan) (nonempty : dataset ≠ [])
    (ok : carryOut options (Run.start options dataset).state plan.steps = .ok reached) :
    ∃ entries, entries.map LogEntry.description = plan.steps.map PlannedStep.description ∧
      execute options dataset plan =
        { success := true
          rows := reached.working.output
          rowCount := reached.working.output.length
          log := (Run.start options dataset).log ++ entries
          insights :=
            Insights.remarks reached.working.output plan.intent options.outlierMultiplier
          complexity := some plan.complexity } := by
  obtain ⟨entries, hrun, hdescribed⟩ := runSteps_of_carryOut (.start options dataset) ok
  refine ⟨entries, hdescribed, ?_⟩
  rw [execute_of_ending plan nonempty, hrun]

/-- The result of a plan with a fault, in terms of the result of the steps in front of it. -/
theorem execute_of_first_fault (plan : Plan) (nonempty : dataset ≠ [])
    (ok : carryOut options (Run.start options dataset).state before = .ok reached)
    (stuck : runStep options reached failing.step = .error fault) (later : List PlannedStep) :
    execute options dataset { plan with steps := before ++ failing :: later } =
      let cut := execute options dataset { plan with steps := before }
      failed fault cut.rows cut.log := by
  obtain ⟨entries, hrun, -⟩ := runSteps_of_carryOut (.start options dataset) ok
  rw [execute_of_ending _ nonempty, execute_of_ending _ nonempty]
  simp only [runSteps_of_fault (.start options dataset) ok stuck, hrun]

theorem exists_carryOut_of_success (nonempty : dataset ≠ [])
    (succeeded : (execute options dataset plan).success = true) :
    ∃ reached, carryOut options (Run.start options dataset).state plan.steps = .ok reached := by
  rw [execute_of_ending plan nonempty] at succeeded
  cases hfault : (runSteps options (.start options dataset) plan.steps).fault with
  | none => exact exists_carryOut_of_fault_none hfault
  | some fault => simp only [hfault, failed, Bool.false_eq_true] at succeeded

theorem rows_execute (options : Options) (plan : Plan) (nonempty : dataset ≠ []) :
    (execute options dataset plan).rows =
      (runSteps options (.start options dataset) plan.steps).run.state.working.output := by
  rw [execute_of_ending plan nonempty]
  cases hfault : (runSteps options (.start options dataset) plan.steps).fault with
  | none => simp only [hfault]
  | some fault => simp only [hfault, failed]

theorem counted_execute (options : Options) (plan : Plan) (nonempty : dataset ≠ []) :
    let result := execute options dataset plan
    result.rowCount = result.rows.length ∧
      result.log.getLast?.map LogEntry.rowCount = some result.rowCount := by
  have counted := counted_runSteps options plan.steps (counted_start options dataset)
  rw [Run.Counted, ← output_length] at counted
  simp only [execute_of_ending plan nonempty]
  cases hfault : (runSteps options (.start options dataset) plan.steps).fault with
  | none => exact ⟨rfl, counted⟩
  | some fault => exact ⟨rfl, counted⟩

end Whole

/-- An execution comes as far as its plan can be carried out. A plan that is cut in front of its
first fault succeeds, and the whole plan ends with the rows and the log of the cut one and with the
text of the fault, whatever was planned afterwards. Without a fault every step is logged. -/
theorem execute_up_to_first_fault (options : Options) (dataset : Dataset) (plan : Plan)
    (nonempty : dataset ≠ []) :
    let cleaned := Cleaning.clean options.clean dataset
    let start := (Run.start options dataset).state
    let result := execute options dataset plan
    (∀ before failing later reached fault,
      plan.steps = before ++ failing :: later →
      carryOut options start before = .ok reached →
      runStep options reached failing.step = .error fault →
        let cut := execute options dataset { plan with steps := before }
        cut.success = true ∧ result.success = false ∧
        result.rows = cut.rows ∧ result.log = cut.log ∧
        result.insights = [] ∧ result.complexity = none ∧
        result.failure = some fault.message ∧
        ∀ others, execute options dataset { plan with steps := before ++ failing :: others } =
          result) ∧
    (∀ reached, carryOut options start plan.steps = .ok reached →
      result.success = true ∧ result.failure = none ∧ result.rows = reached.working.output ∧
      ∃ entries, result.log = ⟨cleaned.report.describe, cleaned.rows.length⟩ :: entries ∧
        entries.map LogEntry.description = plan.steps.map PlannedStep.description) ∧
    (result.success = true → ∃ reached, carryOut options start plan.steps = .ok reached) ∧
    result.rowCount = result.rows.length ∧
    result.log.getLast?.map LogEntry.rowCount = some result.rowCount := by
  intro cleaned start result
  refine ⟨?_, ?_, exists_carryOut_of_success nonempty,
    counted_execute options plan nonempty⟩
  · intro before failing later reached fault hsteps ok stuck cut
    have hstop := execute_of_first_fault plan nonempty ok stuck
    have hresult : result = failed fault cut.rows cut.log := by
      have h := hstop later
      rw [← hsteps] at h
      exact h
    obtain ⟨entries, -, hcut⟩ :=
      execute_of_carryOut { plan with steps := before } nonempty ok
    have hsucceeded : cut.success = true := congrArg Result.success hcut
    rw [hresult]
    exact ⟨hsucceeded, rfl, rfl, rfl, rfl, rfl, rfl, hstop⟩
  · intro reached ok
    obtain ⟨entries, hdescribed, hexecute⟩ := execute_of_carryOut plan nonempty ok
    have hresult : result = _ := hexecute
    rw [hresult]
    exact ⟨rfl, rfl, rfl, entries, rfl, hdescribed⟩

/-- Two sales as they stand in a file. -/
def citySales : Dataset :=
  [.ofCells [("city", .text "Oslo"), ("sales", .text "3")],
    .ofCells [("city", .text "Rome"), ("sales", .text "4.5")]]

/-- Grouping the sales by city and ordering the groups by a column that is not there; the limit
that follows is never carried out. -/
def brokenPlan : Plan :=
  { steps :=
      [.ofStep (.group ["city"] none), .ofStep (.order (some "price") .ascending),
        .ofStep (.limit 1)]
    intent := {}
    complexity := .simple
    score := 0
    database := "memory" }

theorem execute_broken_plan :
    let result := execute {} citySales brokenPlan
    let cut := execute {} citySales { brokenPlan with steps := [.ofStep (.group ["city"] none)] }
    citySales ≠ [] ∧ cut.success = true ∧ result.success = false ∧
    result.rows = cut.rows ∧ result.log = cut.log ∧ result.rowCount = 2 ∧
    result.failure = some "Column 'price' not found for order" := by
  intro result cut
  have nonempty : citySales ≠ [] := by decide
  obtain ⟨hfault, -, -, hcount, -⟩ := execute_up_to_first_fault {} citySales brokenPlan nonempty
  have ok : ∃ reached, carryOut {} (Run.start {} citySales).state
        [.ofStep (.group ["city"] none)] = .ok reached ∧
      runStep {} reached (.order (some "price") .ascending) =
        .error (.missingColumn "price" .order) :=
    ⟨_, rfl, rfl⟩
  obtain ⟨reached, ok, stuck⟩ := ok
  obtain ⟨hcut, hfailed, hrows, hlog, -, -, hmessage, -⟩ := hfault _ _ _ _ _ rfl ok stuck
  refine ⟨nonempty, hcut, hfailed, hrows, hlog, ?_, hmessage⟩
  rw [hcount]
  decide +kernel

end TableTalk.Engine
