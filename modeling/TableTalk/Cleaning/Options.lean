import TableTalk.Value
import TableTalk.Json.Document
import TableTalk.Text.Lowercase

/-!
# Options of cleaning

Which steps cleaning takes, how many cells it samples, and which words count as
missing values.
-/

namespace TableTalk

/-- How a dataset is cleaned. -/
structure CleanOptions where
  inferTypes : Bool := true
  normalizeText : Bool := true
  sampleSize : Nat := 100
  nullTokens : List String :=
    ["", "null", "nil", "none", "n/a", "na", "nan", "-", "--", "#n/a", "undefined", "missing"]
deriving DecidableEq, Inhabited

namespace CleanOptions

/-- Whether a value counts as missing. -/
def isNullLike (options : CleanOptions) : Value → Bool
  | .null => true
  | .float x => Decimal.isNaN x
  | .text raw =>
    let lowered := Text.lower (Text.trim raw)
    options.nullTokens.any fun token => Text.lowerAscii token == lowered
  | _ => false

/-- The names of the fields. -/
def fieldNames : List FieldNames :=
  [["infer_types"], ["normalize_text"], ["sample_size"], ["null_tokens"]]

/-- Reads the options; whatever is missing keeps its default. -/
def read? {δ : Type} [Document δ] (node : δ) : Option CleanOptions := do
  let record ← Record.read? fieldNames node
  let standard : CleanOptions := {}
  let inferTypes ← record.withDefault "infer_types" standard.inferTypes Document.bool?
  let normalizeText ← record.withDefault "normalize_text" standard.normalizeText Document.bool?
  let sampleSize ← record.withDefault "sample_size" standard.sampleSize Document.natural?
  let nullTokens ←
    record.withDefault "null_tokens" standard.nullTokens (Document.list? Document.text?)
  pure { inferTypes, normalizeText, sampleSize, nullTokens }

/-- The options as a JSON object. -/
def toJson (options : CleanOptions) : Json :=
  .object
    [("infer_types", .bool options.inferTypes),
      ("normalize_text", .bool options.normalizeText),
      ("sample_size", .ofNat options.sampleSize),
      ("null_tokens", .ofList .text options.nullTokens)]

end CleanOptions

end TableTalk
