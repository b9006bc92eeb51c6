import TableTalk.Plan.Basic

/-!
# Results of executions

The rows that an execution ends with, and a log with an entry for every step
that has been carried out. A failed execution keeps what was there before the
step that failed, and says why it failed.
-/

namespace TableTalk

/-- What has been done, and how many rows were there afterwards. -/
structure LogEntry where
  description : String
  rowCount : Nat
deriving DecidableEq

namespace LogEntry

/-- The entry as a JSON object. -/
def toJson (entry : LogEntry) : Json :=
  .object [("description", .text entry.description), ("row_count", .ofNat entry.rowCount)]

/-- Reads an entry. -/
def read? {δ : Type} [Document δ] (node : δ) : Option LogEntry := do
  let record ← Record.read? [["description"], ["row_count"]] node
  let description ← record.required "description" Document.text?
  let rowCount ← record.required "row_count" Document.natural?
  pure { description, rowCount }

end LogEntry

/-- What an execution ends with. -/
structure Result where
  success : Bool
  rows : Dataset
  rowCount : Nat
  log : List LogEntry
  insights : List String := []
  complexity : Option Complexity := none
  failure : Option String := none
deriving DecidableEq

namespace Result

/-- The names of the fields. -/
def fieldNames : List FieldNames :=
  [["success"], ["data"], ["row_count"], ["execution_log"], ["insights"], ["complexity"], ["error"]]

/-- The result as a JSON object; insights, complexity and failure are left out if there are none. -/
def toJson (result : Result) : Json :=
  .object
    ([("success", .bool result.success), ("data", .ofList Row.toJson result.rows),
        ("row_count", .ofNat result.rowCount),
        ("execution_log", .ofList LogEntry.toJson result.log)] ++
      (if result.insights.isEmpty then []
        else [("insights", .ofList .text result.insights)]) ++
      (result.complexity.map fun c => ("complexity", Json.text c.name)).toList ++
      (result.failure.map fun message => ("error", Json.text message)).toList)

/-- Reads a result. -/
def read? {δ : Type} [Document δ] (node : δ) : Option Result := do
  let record ← Record.read? fieldNames node
  let success ← record.required "success" Document.bool?
  let rows ← record.required "data" (Document.list? Row.read?)
  let rowCount ← record.required "row_count" Document.natural?
  let log ← record.required "execution_log" (Document.list? LogEntry.read?)
  let insights ← record.withDefault "insights" [] (Document.list? Document.text?)
  let complexity ← record.withDefault "complexity" none (Document.nullable Complexity.read?)
  let failure ← record.withDefault "error" none (Document.nullable Document.text?)
  pure { success, rows, rowCount, log, insights, complexity, failure }

end Result

end TableTalk
