import TableTalk.Question.Reading

/-!
# Prompts

What another assistant is told about a question: how it has been read, hints on
the columns it refers to, its topics, and an approach in plain sentences.
-/

namespace TableTalk

open Matching (Topic)

/-- A suggested approach to an intent, sentence by sentence. -/
def Intent.approach (intent : Intent) (topics : List Topic) : List String :=
  if intent.clarificationNeeded then ["Ask which columns or metrics should be analyzed"]
  else
    let sentiment := intent.sentiment.map fun s => "Filter on sentiment: " ++ s.describe
    let filters :=
      if intent.filters.isEmpty then none
      else some ("Filter rows where " ++
        " and ".intercalate (intent.filters.map Condition.describe))
    let time := intent.time.map fun t =>
      "Bucket " ++ t.column.getD "the date column" ++ " by " ++ t.interval.name ++
        " to show the trend"
    let groups :=
      if intent.groupBy.isEmpty then none
      else some ("Group results by " ++ ", ".intercalate intent.groupBy)
    let aggregations :=
      if intent.aggregations.isEmpty then none
      else some ("Aggregate with " ++
        ", ".intercalate (intent.aggregations.map Aggregation.describe))
    let window := intent.window.map fun w =>
      "Apply the " ++ w.function.name ++ " window function over " ++
        w.column.getD "the primary numeric column"
    let slice := intent.slice.map fun s =>
      "Keep the " ++ s.side.name ++ " " ++ Decimal.tableText s.percent ++ "% of " ++
        s.column.getD "the primary numeric column"
    let comparison :=
      if topics.contains .comparison then some "Compare the resulting groups side by side"
      else none
    let ending :=
      match intent.limit, intent.order with
      | some limit, some direction =>
        some ("Return the first " ++ toString limit ++ " row(s) in " ++ direction.word ++ " order")
      | some limit, none => some ("Return the first " ++ toString limit ++ " row(s)")
      | none, some direction => some ("Sort results in " ++ direction.word ++ " order")
      | none, none => none
    let sentences :=
      [sentiment, filters, time, groups, aggregations, window, slice, comparison,
        ending].filterMap id
    if sentences.isEmpty then
      ["Return the referenced columns: " ++ ", ".intercalate intent.columnNames]
    else sentences

/-- What is told about a question. -/
structure Prompt where
  question : String
  columns : List String
  intent : Intent
  hints : List Matching.Hint
  topics : List Topic
  approach : List String

namespace Prompt

/-- The prompt for a question about the columns of a schema. -/
def ofQuestion (question : String) (schema : Schema) (threshold : Float) : Prompt :=
  let columns := schema.columnNames
  let intent := Question.read question schema threshold
  let topics := Matching.topics question
  { question, columns, intent
    hints := Matching.hints question columns
    topics
    approach := intent.approach topics }

/-- The prompt as a JSON object. -/
def toJson (prompt : Prompt) : Json :=
  .object
    [("question", .text prompt.question), ("columns", .ofList .text prompt.columns),
      ("intent", prompt.intent.toJson),
      ("semantic_hints", .ofList Matching.Hint.toJson prompt.hints),
      ("analytics_intents", .ofList (fun t => .text t.name) prompt.topics),
      ("suggested_approach", .ofList .text prompt.approach)]

end Prompt

end TableTalk
