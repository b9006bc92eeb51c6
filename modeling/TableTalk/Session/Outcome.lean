import TableTalk.Engine.Execution
import TableTalk.Question.Reading
import TableTalk.Session.Basic

/-!
# Asking in a session

A question is read, completed from the turn before, and then planned and
executed, unless it has to be clarified first. Either way the session remembers
the turn.
-/

namespace TableTalk

/-- How a question is answered. -/
inductive Outcome
  /-- The question back to the one who asks. -/
  | clarification (intent : Intent) (question : String)
  | executed (plan : Plan) (result : Result)
deriving DecidableEq

namespace Outcome

/-- The outcome as a JSON object that is tagged with its status. -/
def toJson : Outcome → Json
  | clarification intent question =>
    .object
      [("status", .text "clarification"), ("intent", intent.toJson), ("question", .text question)]
  | executed plan result =>
    .object [("status", .text "executed"), ("plan", plan.toJson), ("result", result.toJson)]

/-- The names of the ways to answer, for its tag. -/
def statusNames : List (String × Bool) :=
  [("clarification", false), ("executed", true)]

/-- Reads an outcome. -/
def read? {δ : Type} [Document δ] (node : δ) : Option Outcome := do
  let (isExecuted, fields) ← Document.tagged? "status" statusNames node
  if isExecuted then
    let record ← Record.read? [["plan"], ["result"]] fields
    let plan ← record.required "plan" Plan.read?
    let result ← record.required "result" Result.read?
    pure (executed plan result)
  else
    let record ← Record.read? [["intent"], ["question"]] fields
    let intent ← record.required "intent" Intent.read?
    let question ← record.required "question" Document.text?
    pure (clarification intent question)

end Outcome

/-- What questions are asked about, and how they are answered. -/
structure Setting where
  options : Options := {}
  schema : Schema
  dataset : Dataset
  /-- The kind of database that plans are made for. -/
  database : String

namespace Setting

/-- The intent of a question after a turn with an intent of its own. -/
def read (setting : Setting) (question : String) (previous : Option Intent) : Intent :=
  Question.merge (Question.read question setting.schema setting.options.matchThreshold) previous

/-- Answers an intent. -/
def respond (setting : Setting) (intent : Intent) : Outcome :=
  if intent.clarificationNeeded then
    .clarification intent (intent.clarificationQuestion.getD Question.clarification)
  else
    let plan := Planning.plan intent setting.database
    .executed plan (Engine.execute setting.options setting.dataset plan)

/-- The turn that is remembered of an outcome. -/
def turn (question : String) (intent : Intent) : Outcome → Turn
  | .clarification _ _ => { question, intent, success := false, rowCount := 0 }
  | .executed _ result =>
    { question, intent, success := result.success, rowCount := result.rowCount }

/-- Answers a question in a session. -/
def ask (setting : Setting) (session : Session) (question : String) : Session × Outcome :=
  let intent := setting.read question session.previous
  let outcome := setting.respond intent
  (session.record (turn question intent outcome) setting.options.historyLimit, outcome)

/-- Answers questions one after the other. -/
def askAll (setting : Setting) (session : Session) : List String → Session × List Outcome
  | [] => (session, [])
  | question :: questions =>
    let (next, outcome) := setting.ask session question
    let (final, outcomes) := setting.askAll next questions
    (final, outcome :: outcomes)

end Setting

end TableTalk
