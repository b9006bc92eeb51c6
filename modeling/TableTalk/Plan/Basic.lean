import TableTalk.Plan.Step

/-!
# Plans

A plan is a list of described steps for an intent, with an estimate of how much
work it is.
-/

namespace TableTalk

/-- A step and its description. -/
structure PlannedStep where
  step : Step
  description : String
deriving DecidableEq

namespace PlannedStep

/-- A step with the description that it gives of itself. -/
def ofStep (step : Step) : PlannedStep := ⟨step, step.describe⟩

/-- The step as a JSON object. -/
def toJson (planned : PlannedStep) : Json :=
  .object [("config", planned.step.toJson), ("description", .text planned.description)]

/-- Reads a step. -/
def read? {δ : Type} [Document δ] (node : δ) : Option PlannedStep := do
  let record ← Record.read? [["config"], ["description"]] node
  let step ← record.required "config" Step.read?
  let description ← record.required "description" Document.text?
  pure ⟨step, description⟩

end PlannedStep

/-- How much work a plan is. -/
inductive Complexity
  | simple
  | moderate
  | complex
deriving DecidableEq, Repr, Inhabited

namespace Complexity

/-- The name of a complexity. -/
def name : Complexity → String
  | simple => "simple"
  | moderate => "moderate"
  | complex => "complex"

/-- The complexity of a score. -/
def ofScore (score : Nat) : Complexity :=
  if score ≤ 1 then simple else if score ≤ 3 then moderate else complex

/-- Reads a complexity. -/
def read? {δ : Type} [Document δ] : δ → Option Complexity :=
  Document.named? ([simple, moderate, complex].map fun c => (c.name, c))

end Complexity

/-- The steps that answer an intent. -/
structure Plan where
  steps : List PlannedStep
  intent : Intent
  complexity : Complexity
  score : UInt32
  /-- The kind of database that the plan is made for. -/
  database : String
deriving DecidableEq

namespace Plan

/-- The operations of the steps in order. -/
def operations (plan : Plan) : List Operation :=
  plan.steps.map fun planned => planned.step.operation

/-- The plan as a JSON object. -/
def toJson (plan : Plan) : Json :=
  .object
    [("steps", .ofList PlannedStep.toJson plan.steps), ("intent", plan.intent.toJson),
      ("complexity", .text plan.complexity.name), ("complexity_score", .ofNat plan.score.toNat),
      ("db_type", .text plan.database)]

/-- Reads a score of 32 bits. -/
def score? {δ : Type} [Document δ] (node : δ) : Option UInt32 :=
  (Document.natural? node).bind fun n => if n < Nat.pow 2 32 then some (UInt32.ofNat n) else none

/-- Reads a plan. -/
def read? {δ : Type} [Document δ] (node : δ) : Option Plan := do
  let record ←
    Record.read? [["steps"], ["intent"], ["complexity"], ["complexity_score"], ["db_type"]] node
  let steps ← record.required "steps" (Document.list? PlannedStep.read?)
  let intent ← record.required "intent" Intent.read?
  let complexity ← record.required "complexity" Complexity.read?
  let score ← record.required "complexity_score" score?
  let database ← record.required "db_type" Document.text?
  pure { steps, intent, complexity, score, database }

end Plan

end TableTalk
