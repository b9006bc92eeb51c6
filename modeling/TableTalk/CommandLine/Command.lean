import TableTalk.CommandLine.Arguments
import TableTalk.Decimal.Read
import TableTalk.Path

/-!
# Commands

What the program can be asked to do, and how each request is read from its
arguments.
-/

namespace TableTalk.CommandLine

/-- Where column names come from: a schema, or the columns of a dataset. -/
structure Source where
  input : Option Path
  schema : Option Path
  delimiter : Option Char

/-- A question to plan without answering it. -/
structure PlanRequest where
  question : String
  source : Source
  config : Option Path
  database : String
  asJson : Bool

/-- Questions to answer in one session. -/
structure AnalyzeRequest where
  input : Path
  questions : List String
  schema : Option Path
  config : Option Path
  database : String
  /-- Whether the dataset is taken as it is. -/
  raw : Bool
  delimiter : Option Char
  asJson : Bool

/-- A dataset to clean. -/
structure CleanRequest where
  input : Path
  config : Option Path
  delimiter : Option Char
  showsRows : Bool
  asJson : Bool

/-- What is matched against columns. -/
inductive MatchSubject
  | term (term : String)
  | question (question : String)
  | nothing

/-- Words to match against columns. -/
structure MatchRequest where
  columns : List String
  subject : MatchSubject
  threshold : Option Float
  asJson : Bool

/-- A question to make a prompt of. -/
structure PromptRequest where
  question : String
  source : Source
  config : Option Path

/-- Columns to summarize. -/
structure StatsRequest where
  input : Path
  columns : List String
  /-- Whether frequencies are shown in place of summaries. -/
  frequency : Bool
  /-- The number of values shown of each column; zero shows all. -/
  top : Nat
  delimiter : Option Char
  asJson : Bool

/-- What the program can be asked to do. -/
inductive Command
  | plan (request : PlanRequest)
  | analyze (request : AnalyzeRequest)
  | clean (request : CleanRequest)
  | columnMatch (request : MatchRequest)
  | prompt (request : PromptRequest)
  | stats (request : StatsRequest)

/-! ## Values of options -/

/-- Takes every text. -/
def anyText (_ : String) : Bool := true

/-- Takes every path; the empty text is none. -/
def isPath (text : String) : Bool := text != ""

/-- Reads the delimiter that a text names. -/
def delimiter? (text : String) : Option Char :=
  (readDelimiter text).toOption

/-- Reads a count that fits in 64 bits. -/
def count? (text : String) : Option Nat :=
  (Decimal.readNat? text).filter (· < Nat.pow 2 64)

/-! ## Parameters -/

namespace Parameter

def input : Parameter := ⟨"input", some 'i', some isPath, false⟩

def question : Parameter := ⟨"question", some 'q', some anyText, false⟩

def questions : Parameter := { question with repeatable := true }

def schema : Parameter := ⟨"schema", some 's', some isPath, false⟩

def config : Parameter := ⟨"config", some 'c', some isPath, false⟩

def delimiter : Parameter := ⟨"delimiter", none, some fun text => (delimiter? text).isSome, false⟩

def database : Parameter := ⟨"db-type", none, some anyText, false⟩

def columns : Parameter := ⟨"columns", some 'C', some anyText, true⟩

def term : Parameter := ⟨"term", some 't', some anyText, false⟩

def threshold : Parameter :=
  ⟨"threshold", none, some fun text => (Decimal.read? text).isSome, false⟩

def top : Parameter := ⟨"top", none, some fun text => (count? text).isSome, false⟩

/-- An option without a value. -/
def switch (name : String) : Parameter := ⟨name, none, none, false⟩

end Parameter

/-! ## Reading requests -/

namespace Arguments

/-- The path that an option gives. -/
def path? (arguments : Arguments) (name : String) : Option Path :=
  (arguments.text? name).map Path.ofText

/-- The delimiter, if one is given. -/
def delimiter? (arguments : Arguments) : Option Char :=
  (arguments.text? "delimiter").bind CommandLine.delimiter?

/-- The kind of database, in memory unless another is given. -/
def database (arguments : Arguments) : String :=
  (arguments.text? "db-type").getD "memory"

/-- Where column names come from. -/
def source (arguments : Arguments) : Source :=
  { input := arguments.path? "input"
    schema := arguments.path? "schema"
    delimiter := arguments.delimiter? }

/-- The columns, which are set apart by commas. -/
def columns (arguments : Arguments) : List String :=
  (arguments.texts "columns").flatMap (Text.splitOn ',')

end Arguments

/-- Reads a request for a plan. -/
def PlanRequest.read : List String → Reading PlanRequest :=
  readArguments
    [.question, .input, .schema, .delimiter, .config, .database, .switch "json"]
    fun arguments => do
      let question ← arguments.text? "question"
      pure
        { question
          source := arguments.source
          config := arguments.path? "config"
          database := arguments.database
          asJson := arguments.has "json" }

/-- Reads a request for answers. -/
def AnalyzeRequest.read : List String → Reading AnalyzeRequest :=
  readArguments
    [.input, .questions, .schema, .config, .database, .switch "raw", .delimiter, .switch "json"]
    fun arguments => do
      let input ← arguments.path? "input"
      let questions := arguments.texts "question"
      if questions.isEmpty then none
      pure
        { input, questions
          schema := arguments.path? "schema"
          config := arguments.path? "config"
          database := arguments.database
          raw := arguments.has "raw"
          delimiter := arguments.delimiter?
          asJson := arguments.has "json" }

/-- Reads a request for cleaning. -/
def CleanRequest.read : List String → Reading CleanRequest :=
  readArguments [.input, .config, .delimiter, .switch "rows", .switch "json"]
    fun arguments => do
      let input ← arguments.path? "input"
      pure
        { input
          config := arguments.path? "config"
          delimiter := arguments.delimiter?
          showsRows := arguments.has "rows"
          asJson := arguments.has "json" }

/-- Reads a request for matches; a term and a question exclude each other. -/
def MatchRequest.read : List String → Reading MatchRequest :=
  readArguments [.columns, .term, .question, .threshold, .switch "json"]
    fun arguments => do
      if !arguments.has "columns" then none
      let subject : MatchSubject ←
        match arguments.text? "term", arguments.text? "question" with
        | some _, some _ => none
        | some term, none => some (.term term)
        | none, some question => some (.question question)
        | none, none => some .nothing
      pure
        { columns := arguments.columns
          subject
          threshold := (arguments.text? "threshold").bind Decimal.read?
          asJson := arguments.has "json" }

/-- Reads a request for a prompt. -/
def PromptRequest.read : List String → Reading PromptRequest :=
  readArguments [.question, .input, .schema, .delimiter, .config]
    fun arguments => do
      let question ← arguments.text? "question"
      pure { question, source := arguments.source, config := arguments.path? "config" }

/-- Reads a request for statistics. -/
def StatsRequest.read : List String → Reading StatsRequest :=
  readArguments
    [.input, .columns, .switch "frequency", .top, .delimiter, .switch "json"]
    fun arguments => do
      let input ← arguments.path? "input"
      pure
        { input
          columns := arguments.columns
          frequency := arguments.has "frequency"
          top := ((arguments.text? "top").bind count?).getD 10
          delimiter := arguments.delimiter?
          asJson := arguments.has "json" }

namespace Reading

/-- Changes the request. -/
def map (f : α → β) : Reading α → Reading β
  | request value => request (f value)
  | help => help
  | version => version
  | refused => refused

end Reading

/-- The names of the commands. -/
def commandNames : List String := ["plan", "analyze", "clean", "match", "prompt", "stats"]

/-- Reads what stands in place of a command: a question for the version or for help. -/
def readAside (argument : String) (arguments : List String) : Reading Command :=
  match Token.ofText argument with
  | .option (.long "version") none => .version
  | .option (.long "help") none => .help
  | .option (.short 'V') _ => .version
  | .option (.short 'h') _ => .help
  | _ =>
    if argument == "help" && arguments.all ("help" :: commandNames).contains &&
        arguments.length ≤ 1 then .help
    else .refused

/-- Reads a command with its arguments. -/
def Command.read : List String → Reading Command
  | [] => .refused
  | "plan" :: arguments => (PlanRequest.read arguments).map .plan
  | "analyze" :: arguments => (AnalyzeRequest.read arguments).map .analyze
  | "clean" :: arguments => (CleanRequest.read arguments).map .clean
  | "match" :: arguments => (MatchRequest.read arguments).map .columnMatch
  | "prompt" :: arguments => (PromptRequest.read arguments).map .prompt
  | "stats" :: arguments => (StatsRequest.read arguments).map .stats
  | argument :: arguments => readAside argument arguments

end TableTalk.CommandLine
