import TableTalk.Text.Words

/-!
# Paths of input files

The name and extension of a file, and what they say about its format. A single
dash stands for standard input.
-/

namespace TableTalk

/-- A path as its components. -/
structure Path where
  source : String
  isAbsolute : Bool
  components : List String

namespace Path

/-- Splits a path at slashes. A dot is a component only at the start of a relative path. -/
def ofText (source : String) : Path :=
  let isAbsolute := source.toList.head? == some '/'
  let pieces := Text.splitOn '/' source
  let kept := pieces.tail.filter fun piece => piece != "" && piece != "."
  let first := (pieces.take 1).filter fun piece => piece != ""
  { source, isAbsolute, components := first ++ kept }

/-- The last component, unless it only points to another directory. -/
def fileName? (path : Path) : Option String :=
  match path.components.getLast? with
  | some name => if name == ".." || name == "." then none else some name
  | none => none

/-- The parts of a file name before and after its last dot. A dot in front of the name does not
count. -/
def splitName (name : String) : String × Option String :=
  let cs := name.toList
  let extension := cs.reverse.takeWhile (· != '.')
  let stem := cs.take (cs.length - extension.length - 1)
  if extension.length = cs.length || stem.isEmpty then (name, none)
  else (String.ofList stem, some (String.ofList extension.reverse))

/-- The file name without its extension. -/
def stem? (path : Path) : Option String :=
  path.fileName?.map fun name => (splitName name).1

/-- Whether the file has an extension, in any case. -/
def hasExtension (path : Path) (extension : String) : Bool :=
  (path.fileName?.bind fun name => (splitName name).2).any fun found =>
    found.toList.map Char.toLower == extension.toList

/-- Whether the path stands for standard input. -/
def isDash (path : Path) : Bool :=
  !path.isAbsolute && path.components == ["-"]

/-- Whether the file is a YAML document. -/
def isYaml (path : Path) : Bool :=
  path.hasExtension "yaml" || path.hasExtension "yml"

/-- The delimiter of the file's fields, unless one is given. -/
def delimiter (path : Path) (given : Option Char) : Char :=
  given.getD (if path.hasExtension "tsv" then '\t' else ',')

/-- The name of the table that is read from the file. -/
def tableName (path : Path) : String :=
  if path.isDash then "stdin" else path.stem?.getD "data"

end Path

/-- Why a text is no delimiter. -/
inductive DelimiterFault
  | empty
  | tooLong
  | notAscii
deriving DecidableEq, Repr

/-- What is said of a fault. -/
def DelimiterFault.message : DelimiterFault → String
  | empty => "Delimiter cannot be empty"
  | tooLong => "Delimiter must be a single character"
  | notAscii => "Delimiter must be ASCII"

/-- Reads a delimiter: the name of one, or a single character. -/
def readDelimiter (text : String) : Except DelimiterFault Char :=
  match text with
  | "tab" => .ok '\t'
  | "comma" => .ok ','
  | "pipe" => .ok '|'
  | "semicolon" => .ok ';'
  | _ =>
    match text.toList with
    | [] => .error .empty
    | [c] => if c.toNat < 0x80 then .ok c else .error .notAscii
    | _ => .error .tooLong

end TableTalk
