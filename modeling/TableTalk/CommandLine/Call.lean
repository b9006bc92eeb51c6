import TableTalk.CommandLine.Files
import TableTalk.Json.Writer
import TableTalk.Prompt
import TableTalk.Rendering
import TableTalk.Session.Outcome
import TableTalk.Statistics.Report

/-!
# Answering a call

Every command prints tables or JSON. A call that fails says why, after what it
has printed before.
-/

namespace TableTalk.CommandLine

/-- What a call prints, and why it failed if it did. -/
structure Reply where
  output : String
  fault : Option Fault := none

namespace Reply

/-- The reply of a call that prints at its end or fails before. -/
def ofExcept : Except Fault String → Reply
  | .ok output => { output }
  | .error fault => { output := "", fault := some fault }

/-- Puts what was printed before in front. -/
def after (reply : Reply) (output : String) : Reply :=
  { reply with output := output ++ reply.output }

end Reply

/-- A line of output. -/
def line (text : String) : String := text ++ "\n"

/-- JSON as it is printed. -/
def jsonLine (json : Json) : String := line json.pretty

/-- A text in a cell. -/
def textCell (column text : String) : String × Value := (column, .text text)

/-- A count in a cell. -/
def countCell (column : String) (count : Nat) : String × Value :=
  (column, .integer (Int64.ofNat count))

/-- A figure in a cell, blank if it is missing. -/
def figureCell (column : String) (figure : Option Float) : String × Value :=
  (column, (figure.map Value.float).getD .null)

/-! ## Plans -/

/-- The row that shows a step. -/
def stepRow (planned : PlannedStep) (index : Nat) : Row :=
  .ofCells
    [countCell "#" (index + 1), textCell "operation" planned.step.operation.name,
      textCell "description" planned.description]

/-- A plan as a table with its complexity. -/
def showPlan (plan : Plan) : String :=
  Rendering.render (plan.steps.mapIdx fun index planned => stepRow planned index) ++
    line ("complexity: " ++ plan.complexity.name ++ " (score " ++
      toString plan.score.toNat ++ ")")

/-- The question back to the one who asks. -/
def showClarification (question : String) : String :=
  line ("clarification: " ++ question)

/-- Plans a question. -/
def runPlan (around : Surroundings) (request : PlanRequest) : Except Fault String := do
  let options ← loadOptions around request.config
  let schema ← loadSource around request.source
  let intent := Question.read request.question schema options.matchThreshold
  if intent.clarificationNeeded && !request.asJson then
    pure (showClarification (intent.clarificationQuestion.getD ""))
  else
    let plan := Planning.plan intent request.database
    pure (if request.asJson then jsonLine plan.toJson else showPlan plan)

/-! ## Answers -/

/-- An outcome for readers: the operations of the plan, the rows and the remarks on them. -/
def showOutcome (question : String) (outcome : Outcome) : String :=
  line ("> " ++ question) ++
    match outcome with
    | .clarification _ back => showClarification back
    | .executed plan result =>
      line ("plan: " ++ " -> ".intercalate (plan.operations.map Operation.name) ++ " (" ++
          plan.complexity.name ++ ")") ++
        (if result.rows.isEmpty then "" else Rendering.render result.rows) ++
        String.join (result.insights.map fun remark => line ("* " ++ remark))

/-- Why an outcome ends the call. -/
def outcomeFault? (question : String) : Outcome → Option Fault
  | .executed _ result =>
    if result.success then none
    else some (.analysisFailed question (result.failure.getD "unknown error"))
  | .clarification _ _ => none

/-- Answers questions until one fails. -/
def answerAll (setting : Setting) (asJson : Bool) (session : Session) : List String → Reply
  | [] => { output := "" }
  | question :: questions =>
    let (next, outcome) := setting.ask session question
    let shown := if asJson then jsonLine outcome.toJson else showOutcome question outcome
    match outcomeFault? question outcome with
    | some fault => { output := shown, fault := some fault }
    | none => (answerAll setting asJson next questions).after shown

/-- The options with cleaning left out. -/
def rawOptions (options : Options) : Options :=
  { options with clean := { options.clean with inferTypes := false, normalizeText := false } }

/-- What the questions of a request are asked about. -/
def settingOf (around : Surroundings) (request : AnalyzeRequest) : Except Fault Setting := do
  let options ← loadOptions around request.config
  let dataset ← loadDataset around request.input request.delimiter
  let schema ←
    match request.schema with
    | some path => loadSchema around path
    | none => schemaOfDataset request.input dataset
  pure
    { options := if request.raw then rawOptions options else options
      schema, dataset
      database := request.database }

/-- Answers the questions of a request. -/
def runAnalyze (around : Surroundings) (request : AnalyzeRequest) : Reply :=
  match settingOf around request with
  | .ok setting => answerAll setting request.asJson {} request.questions
  | .error fault => { output := "", fault := some fault }

/-! ## Cleaning and matching -/

/-- The row that shows a profile. -/
def profileRow (profile : Cleaning.Profile) : Row :=
  .ofCells
    [textCell "column" profile.column, textCell "type" profile.type.kind.name,
      textCell "confidence" (Decimal.fixedText 2 profile.type.confidence)]

/-- Cleans a dataset. -/
def runClean (around : Surroundings) (request : CleanRequest) : Except Fault String := do
  let options ← loadOptions around request.config
  let dataset ← loadDataset around request.input request.delimiter
  let cleaned := Cleaning.clean options.clean dataset
  if request.asJson then pure (jsonLine cleaned.toJson)
  else
    pure (Rendering.render (cleaned.profiles.map profileRow) ++
      line cleaned.report.describe ++
      (if request.showsRows then Rendering.render cleaned.rows else ""))

/-- A match for readers. -/
def showMatch (term : String) : Option (Matching.ColumnMatch Float) → String
  | some found =>
    line (term ++ " -> " ++ found.column ++ " (" ++ found.kind.name ++ " match, score " ++
      Decimal.fixedText 2 found.score ++ ")")
  | none => line (term ++ " -> no match")

/-- The row that shows a reference. -/
def referenceRow (reference : Matching.Reference) : Row :=
  .ofCells
    [textCell "term" reference.term, textCell "column" reference.column,
      textCell "kind" reference.kind.name,
      textCell "score" (Decimal.fixedText 2 reference.score)]

/-- Matches a term or the words of a question. -/
def runMatch (request : MatchRequest) : Except Fault String :=
  let threshold := request.threshold.getD Matching.defaultThreshold
  let columns := (request.columns.map Text.trim).filter fun column => column != ""
  match request.subject with
  | .term term =>
    let found := Matching.bestMatch term columns threshold
    .ok (if request.asJson then jsonLine (Matching.matchJson found) else showMatch term found)
  | .question question =>
    let references := Matching.references question columns threshold
    .ok (if request.asJson then jsonLine (.ofList Matching.Reference.toJson references)
      else Rendering.render (references.map referenceRow))
  | .nothing => .error .noSubject

/-- Prints the prompt for a question. -/
def runPrompt (around : Surroundings) (request : PromptRequest) : Except Fault String := do
  let options ← loadOptions around request.config
  let schema ← loadSource around request.source
  pure (jsonLine (Prompt.ofQuestion request.question schema options.matchThreshold).toJson)

/-! ## Statistics -/

/-- The row that shows the summary of a column. -/
def summaryRow (column : String) (summary : Statistics.Summary Float) : Row :=
  .ofCells
    [textCell "column" column, countCell "count" summary.count,
      figureCell "mean" summary.mean, figureCell "median" summary.median,
      figureCell "std_dev" (some summary.deviation), figureCell "min" summary.least,
      figureCell "max" summary.greatest, figureCell "q1" (summary.quartiles.map (·.q1)),
      figureCell "q3" (summary.quartiles.map (·.q3))]

/-- The row that shows how often a value occurs. -/
def frequencyRow (column : String) (frequency : Statistics.Frequency) : Row :=
  let share := frequency.percentage.map fun p => Value.text (Decimal.fixedText 1 p ++ "%")
  .ofCells
    [textCell "column" column, ("value", frequency.value), countCell "count" frequency.count,
      ("percent", share.getD .null)]

/-- A list of columns, each with a figure of its own, as JSON. -/
def columnsJson (encode : α → Json) (figures : List (String × α)) : Json :=
  .ofList (fun figure => .array [.text figure.1, encode figure.2]) figures

/-- Prints how often the values of columns occur. -/
def showFrequencies (request : StatsRequest) (rows : Dataset) (columns : List String) : String :=
  let tables := columns.map fun column =>
    let frequencies := Statistics.frequencies (rows.map fun row => row.value column) true
    (column, if request.top = 0 then frequencies else frequencies.take request.top)
  if request.asJson then
    jsonLine (columnsJson (Json.ofList Statistics.Frequency.toJson) tables)
  else Rendering.render (tables.flatMap fun table => table.2.map (frequencyRow table.1))

/-- Prints the summaries of columns. -/
def showSummaries (request : StatsRequest) (rows : Dataset) (columns : List String) : String :=
  let summaries := columns.map fun column =>
    (column, Statistics.summarize (Grouping.columnNumbers column rows))
  if request.asJson then jsonLine (columnsJson Statistics.Summary.toJson summaries)
  else Rendering.render (summaries.map fun summary => summaryRow summary.1 summary.2)

/-- Prints statistics of the columns that are named, or of the numeric columns. -/
def runStats (around : Surroundings) (request : StatsRequest) : Except Fault String := do
  let dataset ← loadDataset around request.input request.delimiter
  let rows := (Cleaning.clean {} dataset).rows
  let columns := if request.columns.isEmpty then Engine.numericColumns rows else request.columns
  match columns.find? fun column => !(rows.any fun row => row.hasColumn column) with
  | some column => .error (.missingColumn column request.input)
  | none =>
    if columns.isEmpty then .error (.noNumericColumns request.input)
    else if request.frequency then .ok (showFrequencies request rows columns)
    else .ok (showSummaries request rows columns)

/-! ## Calls -/

/-- Carries out a command. -/
def Command.run (around : Surroundings) : Command → Reply
  | .plan request => .ofExcept (runPlan around request)
  | .analyze request => runAnalyze around request
  | .clean request => .ofExcept (runClean around request)
  | .columnMatch request => .ofExcept (runMatch request)
  | .prompt request => .ofExcept (runPrompt around request)
  | .stats request => .ofExcept (runStats around request)

/-- The files that a command may read. -/
def Command.paths : Command → List Path
  | .plan r => [r.source.input, r.source.schema, r.config].filterMap id
  | .analyze r => r.input :: [r.schema, r.config].filterMap id
  | .clean r => r.input :: r.config.toList
  | .columnMatch _ => []
  | .prompt r => [r.source.input, r.source.schema, r.config].filterMap id
  | .stats r => [r.input]

/-- How a call ends. -/
structure Exit where
  code : UInt8
  output : String
  errors : String
deriving DecidableEq

/-- What the program says of itself. -/
def versionText : String := "nl-analytics 0.3.0"

/-- How the program is called. -/
def usage : String :=
  "Usage: nl-analytics <" ++ "|".intercalate commandNames ++ "> [OPTIONS]"

/-- The end of a call with a reply. -/
def Exit.ofReply (reply : Reply) : Exit :=
  match reply.fault with
  | none => ⟨0, reply.output, ""⟩
  | some fault => ⟨1, reply.output, line ("error: " ++ fault.message)⟩

/-- Answers a call whose arguments have been read. -/
def exitOf (around : Surroundings) : Reading Command → Exit
  | .request command => .ofReply (command.run around)
  | .version => ⟨0, line versionText, ""⟩
  | .help => ⟨0, line usage, ""⟩
  | .refused => ⟨2, "", line usage⟩

/-- Answers a call. -/
def call (around : Surroundings) (arguments : List String) : Exit :=
  exitOf around (Command.read arguments)

end TableTalk.CommandLine
