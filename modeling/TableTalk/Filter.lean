import TableTalk.Json.Document
import TableTalk.Row
import TableTalk.Text.Lowercase

/-!
# Filter conditions

A condition compares the cell of a column with a value. Values are comparable if
both are finite numbers or both are of one kind; of all other pairs only "not
equal" holds, and of two nulls what holds of equal values. The operators on
texts look at displays and never hold of a missing cell.
-/

namespace TableTalk

/-- How a cell is compared with a value. -/
inductive Operator
  | eq
  | notEq
  | gt
  | ge
  | lt
  | le
  | contains
  | startsWith
  | endsWith
deriving DecidableEq, Repr, Inhabited

namespace Operator

/-- All operators. -/
def all : List Operator := [eq, notEq, gt, ge, lt, le, contains, startsWith, endsWith]

/-- The name of an operator in documents. -/
def name : Operator → String
  | eq => "eq"
  | notEq => "not_eq"
  | gt => "gt"
  | ge => "ge"
  | lt => "lt"
  | le => "le"
  | contains => "contains"
  | startsWith => "starts_with"
  | endsWith => "ends_with"

/-- The symbol of an operator in descriptions. -/
def symbol : Operator → String
  | eq => "="
  | notEq => "!="
  | gt => ">"
  | ge => ">="
  | lt => "<"
  | le => "<="
  | contains => "contains"
  | startsWith => "startswith"
  | endsWith => "endswith"

/-- The phrases that mean each operator. -/
def phrases : List (Operator × List String) :=
  [(eq, ["=", "==", "is", "equals", "equal to", "is equal to"]),
    (notEq, ["!=", "<>", "is not", "not"]),
    (gt, [">", "above", "over", "greater than", "is greater than", "more than", "higher than"]),
    (ge, [">=", "at least"]),
    (lt, ["<", "below", "under", "less than", "is less than", "fewer than", "lower than"]),
    (le, ["<=", "at most"]),
    (contains, ["contains"]),
    (startsWith, ["startswith", "starts with"]),
    (endsWith, ["endswith", "ends with"])]

/-- The operator that a phrase means, whatever its case and the blanks between its words. -/
def ofPhrase? (phrase : String) : Option Operator :=
  let words := Text.lowerAscii (" ".intercalate (Text.words phrase))
  (phrases.find? fun entry => entry.2.contains words).map Prod.fst

/-- What an order says about the operators that compare by order. -/
def holdsOf : Operator → Ordering → Bool
  | eq, o => o == .eq
  | notEq, o => o != .eq
  | gt, o => o == .gt
  | ge, o => o != .lt
  | lt, o => o == .lt
  | le, o => o != .gt
  | _, _ => false

/-- Whether the operator looks at displays. -/
def isTextual : Operator → Bool
  | contains | startsWith | endsWith => true
  | _ => false

/-- Whether a display stands in a textual relation to another. -/
def relates : Operator → String → String → Bool
  | contains, whole, part => Text.contains whole part
  | startsWith, whole, part => Text.startsWith whole part
  | endsWith, whole, part => Text.endsWith whole part
  | _, _, _ => false

end Operator

/-- Whether two values are of one kind. -/
def Value.sameKind : Value → Value → Bool
  | .null, .null | .boolean _, .boolean _ | .integer _, .integer _ | .float _, .float _
  | .text _, .text _ | .date _, .date _ => true
  | _, _ => false

/-- Whether the order of two values says anything. -/
def Value.comparable (a b : Value) : Bool :=
  (a.isNumeric && b.isNumeric) || a.sameKind b

/-- The order of two values, if they have one. -/
def Value.relation? (a b : Value) : Option Ordering :=
  if a.isNull && b.isNull then some .eq
  else if a.isNull || b.isNull then none
  else if a.comparable b then some (a.compare b)
  else none

/-- Whether an operator holds of a cell and a value. -/
def Operator.holds (op : Operator) (cell operand : Value) : Bool :=
  if op.isTextual then !cell.isNull && op.relates cell.display operand.display
  else
    match cell.relation? operand with
    | some order => op.holdsOf order
    | none => op == .notEq

/-- A condition on the cell of a column. -/
structure Condition where
  column : String
  operator : Operator
  value : Value
deriving DecidableEq

namespace Condition

/-- The condition in words. -/
def describe (c : Condition) : String :=
  c.column ++ " " ++ c.operator.symbol ++ " " ++ c.value.display

/-- Whether a row meets the condition. -/
def holds (c : Condition) (row : Row) : Bool :=
  c.operator.holds (row.value c.column) c.value

/-- Whether a row meets all conditions. -/
def allHold (conditions : List Condition) (row : Row) : Bool :=
  conditions.all fun c => c.holds row

/-- The condition as a JSON object. -/
def toJson (c : Condition) : Json :=
  .object
    [("column", .text c.column), ("operator", .text c.operator.name), ("value", c.value.toJson)]

/-- Reads an operator. -/
def operator? {δ : Type} [Document δ] : δ → Option Operator :=
  Document.named? (Operator.all.map fun op => (op.name, op))

/-- Reads a condition. -/
def read? {δ : Type} [Document δ] (node : δ) : Option Condition := do
  let record ← Record.read? [["column"], ["operator"], ["value"]] node
  let column ← record.required "column" Document.text?
  let operator ← record.required "operator" operator?
  let value ← record.required "value" Value.read?
  pure ⟨column, operator, value⟩

end Condition

end TableTalk
