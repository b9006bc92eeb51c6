import TableTalk.Cleaning.Kind
import TableTalk.Cleaning.Numeral
import TableTalk.Text.Scanner
import TableTalk.Value
import TableTalk.Json.Document

/-!
# Detecting the kind of a column

A sample of a column's cells is tallied: each recognizer counts the cells it
accepts, and the first kind whose share of the sample exceeds its threshold
wins. Columns with few distinct values are categories, the others are text.
-/

namespace TableTalk.Cleaning

open TableTalk.Text (Scanner isBlank isWordDigit)

/-- Whether a character matches a lower case ASCII letter when case is ignored; the long s and the
Kelvin sign are capital forms of s and k in this sense. -/
def matchesLetter (expected c : Char) : Bool :=
  c.toLower == expected || (expected == 's' && c == 'ſ') || (expected == 'k' && c == '\u212a')

/-- Reads a word of lower case ASCII letters in any case. -/
def anyCase : List Char → Scanner Unit
  | [] => Scanner.done ()
  | expected :: rest => do
    let _ ← Scanner.one (matchesLetter expected)
    anyCase rest

/-- Reads exactly `count` digits. -/
def digits (count : Nat) : Scanner Unit := do
  let _ ← Scanner.between count count isWordDigit
  pure ()

/-- Reads one of some characters. -/
def anyOf (chars : List Char) : Scanner Unit := do
  let _ ← Scanner.one chars.contains
  pure ()

/-- A year, a month and a day with dashes. -/
def dashedDate : Scanner Unit := do
  digits 4
  anyOf ['-']
  digits 2
  anyOf ['-']
  digits 2

/-- A time of day with optional seconds, fraction and offset. -/
def clockTime : Scanner Unit := do
  digits 2
  anyOf [':']
  digits 2
  Scanner.optional do
    anyOf [':']
    digits 2
    Scanner.optional do
      anyOf ['.']
      let _ ← Scanner.digits
      pure ()
  Scanner.optional (Scanner.either (anyOf ['Z']) do
    anyOf ['+', '-']
    digits 2
    Scanner.optional (anyOf [':'])
    digits 2)

/-- One or two digits, twice, and a year, with a separator between them. -/
def shortDate (separator : Char) : Scanner Unit := do
  let _ ← Scanner.between 1 2 isWordDigit
  anyOf [separator]
  let _ ← Scanner.between 1 2 isWordDigit
  anyOf [separator]
  digits 4

/-- A month's name, a day and a year. -/
def namedDate : Scanner Unit := do
  let _ ← Scanner.between 3 9 fun c => c.isAlpha || c == 'ſ' || c == '\u212a'
  Scanner.optional (anyOf ['.'])
  let _ ← Scanner.some isBlank
  let _ ← Scanner.between 1 2 isWordDigit
  anyOf [',']
  let _ ← Scanner.many isBlank
  digits 4

/-- The shapes that dates have, whether or not the day exists. -/
def datePatterns : List (Scanner Unit) :=
  [do dashedDate; anyOf ['T', ' ']; clockTime,
    dashedDate,
    shortDate '/',
    shortDate '-',
    namedDate]

/-- Whether a text has the shape of a date or is one. -/
def looksLikeDate (text : String) : Bool :=
  datePatterns.any (·.fits text) || (Calendar.read? text).isSome

/-- Whether a text is a word for a truth value. -/
def looksBoolean (text : String) : Bool :=
  (Scanner.oneOf
    (["true", "false", "yes", "no", "1", "0", "y", "n"].map fun w => anyCase w.toList)).fits text

/-- Whether a text has the shape of a mail address. -/
def looksLikeEmail (text : String) : Bool :=
  let part := Scanner.some fun c => !isBlank c && c != '@'
  let address : Scanner Unit := do
    let _ ← part
    anyOf ['@']
    let _ ← part
    anyOf ['.']
    let _ ← part
    pure ()
  address.fits text

/-- Whether a text has the shape of a web address. -/
def looksLikeUrl (text : String) : Bool :=
  let solid (c : Char) : Bool := !isBlank c
  let withScheme : Scanner Unit := do
    Scanner.oneOf [anyCase "https".toList, anyCase "http".toList, anyCase "ftp".toList]
    let _ ← Scanner.text "://"
    let _ ← Scanner.one fun c => solid c && !(['/', '$', '.', '?', '#'].contains c)
    let _ ← Scanner.many solid
    pure ()
  let withHost : Scanner Unit := do
    anyCase "www".toList
    anyOf ['.']
    let _ ← Scanner.some solid
    anyOf ['.']
    let _ ← Scanner.some solid
    pure ()
  (Scanner.either withScheme withHost).fits text

/-- Whether a character is a hexadecimal digit. -/
def isHex (c : Char) : Bool :=
  c.isDigit || ('a' ≤ c && c ≤ 'f') || ('A' ≤ c && c ≤ 'F')

/-- Whether a text is an object key of 24 hexadecimal digits or a UUID. -/
def looksLikeId (text : String) : Bool :=
  let groups := (Text.splitOn '-' text).map String.toList
  groups.all (·.all isHex) &&
    (groups.map List.length == [24] || groups.map List.length == [8, 4, 4, 4, 12])

/-- What is known of the kind of a column. -/
structure ColumnType where
  kind : ColumnKind
  /-- A share between 0 and 1. -/
  confidence : Float
deriving DecidableEq

/-- How many cells of a sample each recognizer accepts. -/
structure Tally where
  sampled : Nat := 0
  numeric : Nat := 0
  integer : Nat := 0
  date : Nat := 0
  boolean : Nat := 0
  email : Nat := 0
  url : Nat := 0
  id : Nat := 0
  /-- The number of different displays. -/
  distinct : Nat := 0

/-- Whether a value is a number or a text that is a numeral. -/
def countsAsNumeric : Value → Bool
  | .integer _ | .float _ => true
  | .text raw => (numeral? (Text.trim raw)).isSome
  | _ => false

/-- Whether a value is a whole number or a numeral of one. -/
def countsAsInteger : Value → Bool
  | .integer _ => true
  | .float x => Decimal.isWhole x
  | .text raw => (numeral? (Text.trim raw)).any Numeral.integral
  | _ => false

/-- Whether a value can be read as a truth value. -/
def countsAsBoolean : Value → Bool
  | .boolean _ => true
  | .integer i => i == 0 || i == 1
  | .text raw => looksBoolean (Text.trim raw)
  | _ => false

/-- Whether a value is a date or looks like one. -/
def countsAsDate : Value → Bool
  | .date _ => true
  | .text raw => looksLikeDate (Text.trim raw)
  | _ => false

/-- Whether a value is a text that passes a test once trimmed. -/
def countsAsText (test : String → Bool) : Value → Bool
  | .text raw => test (Text.trim raw)
  | _ => false

/-- Tallies a sample. -/
def Tally.ofSample (sample : List Value) : Tally where
  sampled := sample.length
  numeric := sample.countP countsAsNumeric
  integer := sample.countP countsAsInteger
  date := sample.countP countsAsDate
  boolean := sample.countP countsAsBoolean
  email := sample.countP (countsAsText looksLikeEmail)
  url := sample.countP (countsAsText looksLikeUrl)
  id := sample.countP (countsAsText looksLikeId)
  distinct := (sample.map Value.display).eraseDups.length

/-- A count as a share of the sample. -/
def Tally.ratio (tally : Tally) (count : Nat) : Float :=
  if tally.sampled = 0 then 0.0 else Float.ofNat count / Float.ofNat tally.sampled

/-- The kinds that are tried, with their counts and the shares they have to exceed. -/
def Tally.checks (tally : Tally) : List (ColumnKind × Nat × Float) :=
  [(.date, tally.date, 0.8),
    (.email, tally.email, 0.8),
    (.url, tally.url, 0.8),
    (.boolean, tally.boolean, 0.8),
    (.id, tally.id, 0.8),
    (.integer, tally.integer, 0.8),
    (.number, tally.numeric, 0.7)]

/-- A column counts as a category only below this share of distinct values. -/
def categoryRatio : Float := 0.3

/-- The smallest sample that can be a category. -/
def categorySample : Nat := 10

/-- The larger of two numbers. -/
def larger (x y : Float) : Float :=
  if Decimal.isLess x y then y else x

/-- The kind that a tally shows. -/
def Tally.decide (tally : Tally) : ColumnType :=
  if tally.sampled = 0 then ⟨.null, 1.0⟩
  else
    match tally.checks.find? fun (_, count, least) => Decimal.isLess least (tally.ratio count) with
    | some (kind, count, _) => ⟨kind, tally.ratio count⟩
    | none =>
      let unique := tally.ratio tally.distinct
      if Decimal.isLess unique categoryRatio && categorySample ≤ tally.sampled then
        ⟨.category, 1.0 - unique⟩
      else
        let strongest := (tally.checks.map fun (_, count, _) => tally.ratio count).foldl larger 0.0
        ⟨.text, 1.0 - strongest⟩

/-- Detects the kind of the column that a sample is taken from. -/
def detect (sample : List Value) : ColumnType :=
  (Tally.ofSample sample).decide

namespace ColumnType

/-- The column type as a JSON object. -/
def toJson (type : ColumnType) : Json :=
  .object [("type", .text type.kind.name), ("confidence", .float type.confidence)]

/-- Reads a column type. -/
def read? {δ : Type} [Document δ] (node : δ) : Option ColumnType := do
  let record ← Record.read? [["type"], ["confidence"]] node
  let kind ← record.required "type" (Document.named? (ColumnKind.all.map fun k => (k.name, k)))
  let confidence ← record.required "confidence" Document.float?
  pure ⟨kind, confidence⟩

end ColumnType

end TableTalk.Cleaning
