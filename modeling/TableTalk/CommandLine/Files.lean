import TableTalk.CommandLine.Command
import TableTalk.Delimited
import TableTalk.Json.Reader
import TableTalk.Options
import TableTalk.Schema
import TableTalk.Text.Quoted

/-!
# Files of a call

Datasets, schemas and options are read from files, or datasets from standard
input. Each file that cannot be opened, read or understood is a fault of its own.
-/

namespace TableTalk.CommandLine

/-- What is found at a path. -/
inductive FileContent
  | missing
  /-- Something that can be opened but not read as a text. -/
  | unreadable
  | text (text : String)

/-- The text, if there is one. -/
def FileContent.text? : FileContent → Option String
  | .text found => some found
  | _ => none

/-- What a call finds around it. -/
structure Surroundings where
  file : Path → FileContent
  standardInput : FileContent

/-- Why a call fails. -/
inductive Fault
  | readDataset (path : Path)
  | parseDataset (path : Path)
  | readStandardInput
  | openInput (path : Path)
  | readDelimited (path : Path)
  | readSchema (path : Path)
  | parseYamlSchema (path : Path)
  | parseJsonSchema (path : Path)
  | readConfig (path : Path)
  | parseConfig (path : Path)
  | invalidOption (fault : Options.Fault)
  | noSource
  | noColumns (path : Path)
  | noSubject
  | missingColumn (column : String) (path : Path)
  | noNumericColumns (path : Path)
  | analysisFailed (question failure : String)

/-- What is said of a fault. -/
def Fault.message : Fault → String
  | readDataset path => "Reading dataset " ++ Text.quoted path.source
  | parseDataset path => "Parsing JSON dataset " ++ Text.quoted path.source
  | readStandardInput => "Reading CSV from stdin"
  | openInput path => "Opening input file " ++ Text.quoted path.source
  | readDelimited path => "Reading CSV dataset " ++ Text.quoted path.source
  | readSchema path => "Reading schema " ++ Text.quoted path.source
  | parseYamlSchema path => "Parsing YAML schema " ++ Text.quoted path.source
  | parseJsonSchema path => "Parsing JSON schema " ++ Text.quoted path.source
  | readConfig path => "Reading config " ++ Text.quoted path.source
  | parseConfig path => "Parsing config " ++ Text.quoted path.source
  | invalidOption fault => fault.message
  | noSource => "Either --schema or --input is required"
  | noColumns path => "No columns found in " ++ Text.quoted path.source
  | noSubject => "Either --term or --question is required"
  | missingColumn column path =>
    "Column '" ++ column ++ "' not found in " ++ Text.quoted path.source
  | noNumericColumns path => "No numeric columns found in " ++ Text.quoted path.source
  | analysisFailed question failure => "Analysis of '" ++ question ++ "' failed: " ++ failure

/-- A value that has to be there. -/
def orFault (fault : Fault) : Option α → Except Fault α
  | some value => .ok value
  | none => .error fault

/-- Reads a table of delimited text. -/
def readTable (delimiter : Char) (fault : Fault) (content : FileContent) :
    Except Fault Dataset := do
  let text ← orFault fault content.text?
  orFault fault (Delimited.read delimiter text).toOption

/-- Loads a dataset: JSON, delimited text from standard input, or delimited text from a file. -/
def loadDataset (around : Surroundings) (path : Path) (delimiter : Option Char) :
    Except Fault Dataset :=
  if path.hasExtension "json" then do
    let text ← orFault (.readDataset path) (around.file path).text?
    orFault (.parseDataset path) ((Json.read? text).bind (Document.list? Row.read?))
  else if path.isDash then
    readTable (path.delimiter delimiter) .readStandardInput around.standardInput
  else
    match around.file path with
    | .missing => .error (.openInput path)
    | content => readTable (path.delimiter delimiter) (.readDelimited path) content

/-- Loads a schema, from YAML or JSON by the extension of the file. -/
def loadSchema (around : Surroundings) (path : Path) : Except Fault Schema := do
  let text ← orFault (.readSchema path) (around.file path).text?
  if path.isYaml then orFault (.parseYamlSchema path) ((Yaml.read? text).bind Schema.read?)
  else orFault (.parseJsonSchema path) ((Json.read? text).bind Schema.read?)

/-- Loads the options, which have to be valid; without a file they are the usual ones. -/
def loadOptions (around : Surroundings) (path : Option Path) : Except Fault Options := do
  let options ←
    match path with
    | none => .ok {}
    | some path => do
      let text ← orFault (.readConfig path) (around.file path).text?
      orFault (.parseConfig path) (Options.ofYamlText? text)
  match options.fault? with
  | some fault => .error (.invalidOption fault)
  | none => .ok options

/-- The schema of a dataset, which has to have columns. -/
def schemaOfDataset (path : Path) (rows : Dataset) : Except Fault Schema :=
  let schema := Schema.ofRows path.tableName rows
  if schema.isEmpty then .error (.noColumns path) else .ok schema

/-- The schema of a source. A schema of its own comes before that of its dataset. -/
def loadSource (around : Surroundings) (source : Source) : Except Fault Schema :=
  match source.schema, source.input with
  | some path, _ => loadSchema around path
  | none, some path => do schemaOfDataset path (← loadDataset around path source.delimiter)
  | none, none => .error .noSource

end TableTalk.CommandLine
