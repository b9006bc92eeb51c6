import TableTalk.Cleaning.Detection
import TableTalk.Cleaning.Normalization
import TableTalk.Cleaning.Options
import TableTalk.Row

/-!
# Cleaning a dataset

The kind of every column is detected from a sample, and then every cell is
cleaned on its own: missing values become null, texts become values of the
column's kind, and free text is normalized. Values that are not texts stay as
they are. Every row of the result has every column of the dataset.
-/

namespace TableTalk.Cleaning

/-- What was done to a cell. -/
inductive Change
  | kept
  | nulled
  | converted
  | normalized
deriving DecidableEq, Repr

/-- A cleaned cell. -/
structure Outcome where
  value : Value
  change : Change
deriving DecidableEq

/-- The truth value that a word stands for. -/
def boolean? (text : String) : Option Bool :=
  let word := Text.lowerAscii (Text.trim text)
  if ["true", "yes", "y", "1"].contains word then some true
  else if ["false", "no", "n", "0"].contains word then some false
  else none

/-- The value that a numeral has in a column of whole numbers. -/
def Numeral.integerValue (numeral : Numeral) : Value :=
  if numeral.integral then .integer (Decimal.toInt64 numeral.value) else .float numeral.value

/-- The value of a column's kind that a text spells, if the kind has values of its own. -/
def typed? (kind : ColumnKind) (raw : String) : Option Value :=
  let trimmed := Text.trim raw
  match kind with
  | .integer => (numeral? trimmed).map Numeral.integerValue
  | .number | .float => (numeral? trimmed).map fun numeral => .float numeral.value
  | .date => (Calendar.read? trimmed).map .date
  | .boolean => (boolean? trimmed).map .boolean
  | _ => none

/-- The tidy form of a text in a column without values of its own. -/
def tidied (options : CleanOptions) (kind : ColumnKind) (raw : String) : String :=
  match kind with
  | .email | .url | .id => Text.trim raw
  | .text | .category | .unknown => if options.normalizeText then normalizeText raw else raw
  | _ => raw

/-- Cleans a text that is not missing. -/
def cleanText (options : CleanOptions) (kind : ColumnKind) (raw : String) : Outcome :=
  match typed? kind raw with
  | some value => ⟨value, .converted⟩
  | none =>
    let tidy := tidied options kind raw
    if tidy = raw then ⟨.text raw, .kept⟩ else ⟨.text tidy, .normalized⟩

/-- Cleans a cell. -/
def cleanCell (options : CleanOptions) (kind : ColumnKind) (value : Value) : Outcome :=
  if options.isNullLike value then ⟨.null, .nulled⟩
  else
    match value with
    | .text raw => cleanText options kind raw
    | _ => ⟨value, .kept⟩

/-- A column and what was detected of it. -/
structure Profile where
  column : String
  type : ColumnType
deriving DecidableEq

/-- The columns of all rows, in the order in which they are first seen. -/
def columnsOf (rows : Dataset) : List String :=
  (rows.flatMap Row.columns).eraseDups

/-- The first cells of a column that are not missing. -/
def sample (options : CleanOptions) (rows : Dataset) (column : String) : List Value :=
  ((rows.filterMap fun row => row.get? column).filter fun value =>
    !options.isNullLike value).take (max options.sampleSize 1)

/-- The profile of a column. -/
def profile (options : CleanOptions) (rows : Dataset) (column : String) : Profile :=
  ⟨column, if options.inferTypes then detect (sample options rows column) else ⟨.unknown, 0.0⟩⟩

/-- How much was found and changed. -/
structure Report where
  totalRows : Nat := 0
  totalColumns : Nat := 0
  nullsFound : Nat := 0
  typeConversions : Nat := 0
  textNormalized : Nat := 0
deriving DecidableEq, Repr, Inhabited

/-- The report in a sentence. -/
def Report.describe (report : Report) : String :=
  "Cleaned " ++ toString report.totalRows ++ " row(s) across " ++ toString report.totalColumns ++
    " column(s): " ++ toString report.nullsFound ++ " null(s), " ++
    toString report.typeConversions ++ " type conversion(s)"

/-- A cleaned dataset. -/
structure Cleaned where
  rows : Dataset
  profiles : List Profile
  report : Report

/-- What was detected of a column. -/
def Cleaned.type? (cleaned : Cleaned) (column : String) : Option ColumnType :=
  (cleaned.profiles.find? fun profile => profile.column == column).map Profile.type

/-- The cleaned cells of a row, with what was done to each. -/
def cleanRow (options : CleanOptions) (profiles : List Profile) (row : Row) :
    List (String × Outcome) :=
  profiles.map fun profile =>
    (profile.column, cleanCell options profile.type.kind (row.value profile.column))

/-- Cleans a dataset. -/
def clean (options : CleanOptions) (rows : Dataset) : Cleaned :=
  let columns := columnsOf rows
  let profiles := columns.map (profile options rows)
  let outcomes := rows.map (cleanRow options profiles)
  let changes := outcomes.flatMap fun cells => cells.map fun cell => cell.2.change
  { rows := outcomes.map fun cells => Row.ofCells (cells.map fun cell => (cell.1, cell.2.value))
    profiles
    report :=
      { totalRows := rows.length
        totalColumns := columns.length
        nullsFound := changes.count .nulled
        typeConversions := changes.count .converted
        textNormalized := changes.count .normalized } }

namespace Report

/-- The names of the fields. -/
def fieldNames : List FieldNames :=
  [["total_rows"], ["total_columns"], ["nulls_found"], ["type_conversions"], ["text_normalized"]]

/-- The report as a JSON object. -/
def toJson (report : Report) : Json :=
  .object
    [("total_rows", .ofNat report.totalRows),
      ("total_columns", .ofNat report.totalColumns),
      ("nulls_found", .ofNat report.nullsFound),
      ("type_conversions", .ofNat report.typeConversions),
      ("text_normalized", .ofNat report.textNormalized)]

/-- Reads a report. -/
def read? {δ : Type} [Document δ] (node : δ) : Option Report := do
  let record ← Record.read? fieldNames node
  let totalRows ← record.required "total_rows" Document.natural?
  let totalColumns ← record.required "total_columns" Document.natural?
  let nullsFound ← record.required "nulls_found" Document.natural?
  let typeConversions ← record.required "type_conversions" Document.natural?
  let textNormalized ← record.required "text_normalized" Document.natural?
  pure { totalRows, totalColumns, nullsFound, typeConversions, textNormalized }

end Report

/-- The profile as a JSON object. -/
def Profile.toJson (profile : Profile) : Json :=
  .object
    [("column", .text profile.column), ("type", .text profile.type.kind.name),
      ("confidence", .float profile.type.confidence)]

/-- The cleaned dataset as a JSON object. -/
def Cleaned.toJson (cleaned : Cleaned) : Json :=
  .object
    [("rows", .ofList Row.toJson cleaned.rows),
      ("column_types", .ofList Profile.toJson cleaned.profiles),
      ("report", cleaned.report.toJson)]

end TableTalk.Cleaning
