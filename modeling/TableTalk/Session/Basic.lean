import TableTalk.Intent.Basic

/-!
# Sessions

A session keeps its latest turns and the intent of the latest turn that was
carried out, which is the context of the next question. The context stays when
its turn has been dropped.
-/

namespace TableTalk

/-- A question and how it was answered. -/
structure Turn where
  question : String
  intent : Intent
  success : Bool
  rowCount : Nat
deriving DecidableEq

namespace Turn

/-- The turn as a JSON object. -/
def toJson (turn : Turn) : Json :=
  .object
    [("question", .text turn.question), ("intent", turn.intent.toJson),
      ("success", .bool turn.success), ("row_count", .ofNat turn.rowCount)]

/-- Reads a turn. -/
def read? {δ : Type} [Document δ] (node : δ) : Option Turn := do
  let record ← Record.read? [["question"], ["intent"], ["success"], ["row_count"]] node
  let question ← record.required "question" Document.text?
  let intent ← record.required "intent" Intent.read?
  let success ← record.required "success" Document.bool?
  let rowCount ← record.required "row_count" Document.natural?
  pure { question, intent, success, rowCount }

end Turn

/-- What is remembered of a conversation. -/
structure Session where
  /-- The latest turns, oldest first. -/
  history : List Turn := []
  previous : Option Intent := none
deriving DecidableEq, Inhabited

namespace Session

/-- The last items of a list. -/
def lastTurns (count : Nat) (turns : List Turn) : List Turn :=
  turns.drop (turns.length - count)

/-- Remembers a turn and drops the oldest ones beyond a limit, but never this turn. A turn that has
to be clarified does not become the context. -/
def record (session : Session) (turn : Turn) (limit : Nat) : Session :=
  { history := lastTurns (max limit 1) (session.history ++ [turn])
    previous :=
      if turn.intent.clarificationNeeded then session.previous else some turn.intent }

/-- Remembers turns one after the other. -/
def recordAll (session : Session) (turns : List Turn) (limit : Nat) : Session :=
  turns.foldl (fun session turn => session.record turn limit) session

/-- The session as a JSON object. -/
def toJson (session : Session) : Json :=
  .object
    [("history", .ofList Turn.toJson session.history),
      ("previous_intent", .ofOption Intent.toJson session.previous)]

/-- Reads a session. -/
def read? {δ : Type} [Document δ] (node : δ) : Option Session := do
  let record ← Record.read? [["history"], ["previous_intent"]] node
  let history ← record.required "history" (Document.list? Turn.read?)
  let previous ← record.optional "previous_intent" Intent.read?
  pure { history, previous }

end Session

end TableTalk
