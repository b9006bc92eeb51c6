import TableTalk.Cleaning.Dataset
import TableTalk.Engine.Result
import TableTalk.Engine.Stepping
import TableTalk.Insights

/-!
# Executing a plan

The dataset is cleaned, and then the steps are carried out in the order of the
plan. The first fault ends the run: the result has the rows and the log from
before the step that failed.
-/

namespace TableTalk.Engine

/-- How far a run has come. -/
structure Run where
  state : State
  log : List LogEntry
deriving DecidableEq

/-- What a run ends with: the last state reached, and the fault that ended it, if there was one. -/
structure Ending where
  run : Run
  fault : Option Fault
deriving DecidableEq

/-- The run after a step that has led to a state. -/
def Run.advance (run : Run) (planned : PlannedStep) (state : State) : Run :=
  ⟨state, run.log ++ [⟨planned.description, state.working.size⟩]⟩

/-- Carries out steps until one fails. -/
def runSteps (options : Options) (run : Run) : List PlannedStep → Ending
  | [] => ⟨run, none⟩
  | planned :: steps =>
    match runStep options run.state planned.step with
    | .ok state => runSteps options (run.advance planned state) steps
    | .error fault => ⟨run, some fault⟩

/-- The run before the first step: the cleaned rows, and an entry on how they were cleaned. -/
def Run.start (options : Options) (dataset : Dataset) : Run :=
  let cleaned := Cleaning.clean options.clean dataset
  ⟨{ working := .rows cleaned.rows }, [⟨cleaned.report.describe, cleaned.rows.length⟩]⟩

/-- The result of a run that failed. -/
def failed (fault : Fault) (rows : Dataset) (log : List LogEntry) : Result :=
  { success := false, rows, rowCount := rows.length, log, failure := some fault.message }

/-- Executes a plan. -/
def execute (options : Options) (dataset : Dataset) (plan : Plan) : Result :=
  if dataset.isEmpty then failed .emptyDataset [] []
  else
    let ending := runSteps options (.start options dataset) plan.steps
    let rows := ending.run.state.working.output
    match ending.fault with
    | some fault => failed fault rows ending.run.log
    | none =>
      { success := true
        rows
        rowCount := rows.length
        log := ending.run.log
        insights := Insights.remarks rows plan.intent options.outlierMultiplier
        complexity := some plan.complexity }

end TableTalk.Engine
