/-!
# Arguments

The arguments of a command are options with or without values, in any order. A
value stands in the argument after its option or is attached to it, and no value
in an argument of its own begins with a dash, except the dash alone.
-/

namespace TableTalk.CommandLine

/-- An option that a command knows. -/
structure Parameter where
  long : String
  short : Option Char := none
  /-- Which values the option takes; a switch takes none. -/
  accepts : Option (String → Bool) := none
  /-- Whether the option may occur more than once. -/
  repeatable : Bool := false

/-- The spelling under which an option is given. -/
inductive Key
  | long (name : String)
  | short (letter : Char)
deriving DecidableEq, Repr

/-- An argument taken apart. -/
inductive Token
  | option (key : Key) (attached : Option String)
  /-- The two dashes after which no options follow. -/
  | separator
  | plain
deriving DecidableEq, Repr

/-- What is attached to a long name after an equals sign. -/
def attachment (cs : List Char) : Option String :=
  match cs.dropWhile (· != '=') with
  | [] => none
  | _ :: value => some (String.ofList value)

/-- Takes an argument apart. -/
def Token.ofText (text : String) : Token :=
  match text.toList with
  | '-' :: '-' :: [] => .separator
  | '-' :: '-' :: cs =>
    .option (.long (String.ofList (cs.takeWhile (· != '=')))) (attachment cs)
  | '-' :: letter :: [] => .option (.short letter) none
  | '-' :: letter :: '=' :: value => .option (.short letter) (some (String.ofList value))
  | '-' :: letter :: value => .option (.short letter) (some (String.ofList value))
  | _ => .plain

/-- Whether a key is that of a parameter. -/
def Parameter.hasKey (parameter : Parameter) : Key → Bool
  | .long name => parameter.long == name
  | .short letter => parameter.short == some letter

/-- Whether an option asks for help. A letter does so with anything attached to it. -/
def asksForHelp (key : Key) (attached : Option String) : Bool :=
  match key with
  | .long name => name == "help" && attached.isNone
  | .short letter => letter == 'h'

/-- An option as it was given. -/
structure Occurrence where
  parameter : Parameter
  value : Option String

/-- How the reading of arguments ends. -/
inductive Ending
  | complete
  | help
  | fault
deriving DecidableEq, Repr

/-- The options in order, up to the end or to the argument that ends the reading. -/
structure Scan where
  occurrences : List Occurrence
  ending : Ending

/-- Puts an option before the others. -/
def Scan.after (scan : Scan) (occurrence : Occurrence) : Scan :=
  { scan with occurrences := occurrence :: scan.occurrences }

/-- Reads the arguments of a command with these parameters. -/
def scan (parameters : List Parameter) : List String → Scan
  | [] => ⟨[], .complete⟩
  | argument :: arguments =>
    match Token.ofText argument with
    | .plain => ⟨[], .fault⟩
    | .separator => ⟨[], if arguments.isEmpty then .complete else .fault⟩
    | .option key attached =>
      if asksForHelp key attached then ⟨[], .help⟩
      else
        match parameters.find? fun parameter => parameter.hasKey key with
        | none => ⟨[], .fault⟩
        | some parameter =>
          match parameter.accepts, attached with
          | none, none => (scan parameters arguments).after ⟨parameter, none⟩
          | none, some _ => ⟨[], .fault⟩
          | some _, some value => (scan parameters arguments).after ⟨parameter, some value⟩
          | some _, none =>
            match arguments with
            | [] => ⟨[], .fault⟩
            | value :: rest =>
              if Token.ofText value = .plain then
                (scan parameters rest).after ⟨parameter, some value⟩
              else ⟨[], .fault⟩

/-- Whether the option takes the value that it is given. -/
def Occurrence.isAccepted (occurrence : Occurrence) : Bool :=
  match occurrence.parameter.accepts, occurrence.value with
  | some accepts, some value => accepts value
  | _, _ => true

/-- Whether no option occurs again that may not. -/
def areDistinct : List Occurrence → Bool
  | [] => true
  | occurrence :: occurrences =>
    (occurrence.parameter.repeatable ||
      !(occurrences.any fun other => other.parameter.long == occurrence.parameter.long)) &&
      areDistinct occurrences

/-- The values of the options that were given, under their long names. -/
abbrev Arguments := List (String × Option String)

namespace Arguments

/-- Whether an option was given. -/
def has (arguments : Arguments) (name : String) : Bool :=
  arguments.any fun argument => argument.1 == name

/-- All values of an option. -/
def texts (arguments : Arguments) (name : String) : List String :=
  arguments.filterMap fun argument => if argument.1 == name then argument.2 else none

/-- The value of an option. -/
def text? (arguments : Arguments) (name : String) : Option String :=
  (arguments.texts name).head?

end Arguments

/-- What arguments amount to. -/
inductive Reading (α : Type)
  | request (value : α)
  | help
  | version
  | refused

/-- Reads the arguments of a command and makes a request of them. -/
def readArguments (parameters : List Parameter) (make : Arguments → Option α)
    (arguments : List String) : Reading α :=
  let found := scan parameters arguments
  if !(found.occurrences.all Occurrence.isAccepted && areDistinct found.occurrences) then .refused
  else
    match found.ending with
    | .help => .help
    | .fault => .refused
    | .complete =>
      match make (found.occurrences.map fun o => (o.parameter.long, o.value)) with
      | some value => .request value
      | none => .refused

end TableTalk.CommandLine
