import TableTalk.CommandLine.Call

/-!
# The program

Reads the files that a command names, and standard input if it is named, and
prints how the call ends.
-/

namespace TableTalk.CommandLine

/-- The text that bytes encode. -/
def FileContent.ofBytes (bytes : ByteArray) : FileContent :=
  match String.fromUTF8? bytes with
  | some found => .text found
  | none => .unreadable

/-- Reads an open file. -/
def readHandle (handle : IO.FS.Handle) : IO FileContent := do
  try
    pure (.ofBytes (← handle.readBinToEnd))
  catch _ => pure .unreadable

/-- Reads a file. -/
def readFile (path : Path) : IO FileContent := do
  try
    readHandle (← IO.FS.Handle.mk path.source .read)
  catch _ => pure .missing

/-- Reads standard input to its end. -/
def readInput : IO FileContent := do
  pure (.ofBytes (← (← IO.getStdin).readBinToEnd))

/-- Reads what a command needs. -/
def gather (paths : List Path) : IO Surroundings := do
  let files ← paths.mapM fun path => do
    pure (path.source, ← if path.isDash then pure .missing else readFile path)
  let standardInput ← if paths.any Path.isDash then readInput else pure .missing
  pure
    { file := fun path => (files.lookup path.source).getD .missing
      standardInput }

end TableTalk.CommandLine

open TableTalk.CommandLine

def main (arguments : List String) : IO UInt32 := do
  let reading := Command.read arguments
  let paths :=
    match reading with
    | .request command => command.paths
    | _ => []
  let exit := exitOf (← gather paths) reading
  (← IO.getStdout).putStr exit.output
  (← IO.getStderr).putStr exit.errors
  pure exit.code.toUInt32
