import TableTalk.Row
import TableTalk.Text.Words

/-!
# Tables as text

Rows are printed under one header with the columns of all rows, a line of dashes
below it, and one line for each row. Numbers stand flush right and everything
else flush left; missing cells are blank.
-/

namespace TableTalk.Rendering

/-- A cell as it is printed. -/
structure Cell where
  text : String
  flushRight : Bool

/-- A character as it is printed in a cell: line breaks and tabs are spaces. -/
def onOneLine (c : Char) : Char :=
  if c == '\n' || c == '\r' || c == '\t' then ' ' else c

/-- The cell that shows a value. -/
def Cell.ofValue (value : Value) : Cell :=
  { text :=
      if value.isNull then ""
      else String.ofList (value.display.toList.map onOneLine)
    flushRight := value.isNumeric }

/-- A text of spaces. -/
def spaces (n : Nat) : String :=
  String.ofList (List.replicate n ' ')

/-- A cell filled up to a width. -/
def Cell.padded (cell : Cell) (width : Nat) : String :=
  let fill := spaces (width - Text.charCount cell.text)
  if cell.flushRight then fill ++ cell.text else cell.text ++ fill

/-- A line of cells with a gap between columns and no blanks at its end. -/
def line (cells : List Cell) (widths : List Nat) : String :=
  Text.trimEnd ("  ".intercalate (List.zipWith Cell.padded cells widths)) ++ "\n"

/-- The width of a column: that of its widest cell, the header included. -/
def width (header : String) (cells : List Cell) : Nat :=
  (cells.map fun cell => Text.charCount cell.text).foldl max (Text.charCount header)

/-- Prints rows as a table. -/
def render (rows : Dataset) : String :=
  let headers := (rows.flatMap Row.columns).eraseDups
  let cells := rows.map fun row => headers.map fun header => Cell.ofValue (row.value header)
  let widths := headers.map fun header =>
    width header (rows.map fun row => Cell.ofValue (row.value header))
  let dashes := widths.map fun w => (⟨String.ofList (List.replicate w '-'), false⟩ : Cell)
  let lines :=
    line (headers.map fun header => ⟨header, false⟩) widths :: line dashes widths ::
      cells.map fun row => line row widths
  String.join lines

end TableTalk.Rendering
