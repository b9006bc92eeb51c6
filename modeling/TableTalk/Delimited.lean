import TableTalk.Row

/-!
# Delimited text

Tables as text: records end at line breaks, fields at a delimiter. A field that
begins with a quote runs to the closing quote, and a quote inside it is written
twice; whatever follows the closing quote is taken as it stands. Blank lines are
no records. The first record names the columns, and every other record has to
have as many fields.
-/

namespace TableTalk.Delimited

/-- Where the reader stands within a record. -/
inductive State
  | recordStart
  | fieldStart
  | plain
  | quoted
  /-- After a quote inside a quoted field, which closes it unless another quote follows. -/
  | quoteSeen
deriving DecidableEq, Repr

/-- Whether a character ends a record. -/
def isBreak (c : Char) : Bool :=
  c == '\n' || c == '\r'

/-- What has been read so far, with the latest first. -/
structure Progress where
  state : State
  field : List Char
  record : List String
  records : List (List String)

namespace Progress

/-- Nothing read yet. -/
def start : Progress := ⟨.recordStart, [], [], []⟩

/-- Closes the field at hand. -/
def endField (p : Progress) : Progress :=
  { p with state := .fieldStart, field := [], record := String.ofList p.field.reverse :: p.record }

/-- Closes the record at hand. -/
def endRecord (p : Progress) : Progress :=
  let closed := p.endField
  { closed with state := .recordStart, record := [], records := closed.record.reverse :: p.records }

/-- Adds a character to the field at hand. -/
def keep (p : Progress) (state : State) (c : Char) : Progress :=
  { p with state, field := c :: p.field }

/-- Reads a character of a field that is not quoted, or not any more. -/
def stepOpen (delimiter : Char) (p : Progress) (c : Char) : Progress :=
  if c == delimiter then p.endField
  else if isBreak c then p.endRecord
  else p.keep .plain c

/-- Reads one character. -/
def step (delimiter : Char) (p : Progress) (c : Char) : Progress :=
  match p.state with
  | .recordStart =>
    if isBreak c then p
    else if c == '"' then { p with state := .quoted }
    else p.stepOpen delimiter c
  | .fieldStart => if c == '"' then { p with state := .quoted } else p.stepOpen delimiter c
  | .plain => p.stepOpen delimiter c
  | .quoted => if c == '"' then { p with state := .quoteSeen } else p.keep .quoted c
  | .quoteSeen => if c == '"' then p.keep .quoted c else p.stepOpen delimiter c

/-- The records read when the text ends; an open record is closed. -/
def finish (p : Progress) : List (List String) :=
  (if p.state = .recordStart then p else p.endRecord).records.reverse

end Progress

/-- The records of a text; a byte order mark in front is passed over. -/
def records (delimiter : Char) (text : String) : List (List String) :=
  let cs :=
    match text.toList with
    | '\ufeff' :: rest => rest
    | cs => cs
  (cs.foldl (Progress.step delimiter) .start).finish

/-- Why a text is not a table: a record, counted from one after the header, has another number of
fields than the header. -/
inductive Fault
  | ragged (record : Nat)
deriving DecidableEq, Repr

/-- What is said of a fault. -/
def Fault.message : Fault → String
  | ragged record => "Reading CSV record " ++ toString record

/-- The rows of the records after `count` others. -/
def rowsOf (header : List String) (count : Nat) : List (List String) → Except Fault Dataset
  | [] => .ok []
  | record :: records =>
    if record.length = header.length then do
      let row := Row.ofCells (header.zip (record.map .text))
      let rows ← rowsOf header (count + 1) records
      pure (row :: rows)
    else .error (.ragged (count + 1))

/-- Reads a table whose cells are all texts. -/
def read (delimiter : Char) (text : String) : Except Fault Dataset :=
  match records delimiter text with
  | [] => .ok []
  | header :: records => rowsOf header 0 records

end TableTalk.Delimited
