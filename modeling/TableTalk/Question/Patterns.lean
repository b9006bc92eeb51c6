import TableTalk.Text.Scanner

/-!
# Patterns in questions

The places of a question in lower case that are read with their numbers and
names: slices in percent, limits, columns to sort and group by, and comparisons
with a number.
-/

namespace TableTalk.Question

open TableTalk.Text (Scanner isBlank isWordDigit)
open TableTalk.Text.Scanner (boundary oneOf optional)

/-- Reads one of some words. -/
def anyWord (words : List String) : Scanner String :=
  oneOf (words.map Scanner.text)

/-- Reads blanks. -/
def gap : Scanner Unit := do
  let _ ← Scanner.some isBlank
  pure ()

/-- Reads blanks, or nothing. -/
def maybeGap : Scanner Unit := do
  let _ ← Scanner.many isBlank
  pure ()

/-- Reads digits with an optional fraction. -/
def number : Scanner String := do
  let whole ← Scanner.digits
  let fraction ←
    Scanner.either
      (do
        let _ ← Scanner.text "."
        let places ← Scanner.digits
        pure ('.' :: places))
      (Scanner.done [])
  pure (String.ofList (whole ++ fraction))

/-- Whether a character may stand in a name. -/
def isNameChar (c : Char) : Bool :=
  c.isLower || c.isDigit || c == '_'

/-- Reads a name. -/
def name : Scanner String := do
  let cs ← Scanner.some isNameChar
  pure (String.ofList cs)

/-- An article and the gap after it. -/
def article : Scanner Unit := do
  let _ ← Scanner.text "the"
  gap

/-- A slice: the word for its end, and the percentage. -/
def percentPattern : Scanner (String × String) := do
  boundary
  let word ← anyWord ["top", "bottom", "highest", "lowest", "upper", "lower"]
  gap
  let percent ← number
  maybeGap
  let whole (w : String) : Scanner Unit := do
    let _ ← Scanner.text w
    boundary
  let sign : Scanner Unit := do
    let _ ← Scanner.text "%"
    pure ()
  oneOf [sign, whole "percent", whole "pct"]
  pure (word, percent)

/-- A limit: the word for its end, and the number of rows. -/
def limitPattern : Scanner (String × String) := do
  boundary
  let word ← anyWord ["top", "bottom", "first", "last", "best", "worst", "highest", "lowest"]
  gap
  let count ← Scanner.digits
  boundary
  pure (word, String.ofList count)

/-- A limit by the word itself: the number of rows. -/
def plainLimitPattern : Scanner String := do
  boundary
  let _ ← Scanner.text "limit"
  gap
  optional do
    let _ ← Scanner.text "to"
    gap
  let count ← Scanner.digits
  boundary
  pure (String.ofList count)

/-- A column to sort by. -/
def sortPattern : Scanner String := do
  boundary
  let _ ← anyWord ["sort", "sorted", "order", "ordered"]
  gap
  let _ ← Scanner.text "by"
  gap
  optional article
  name

/-- A phrase for grouping, and the name after it. -/
def groupPattern : Scanner (String × String) := do
  boundary
  let groupBy : Scanner String := do
    let head ← Scanner.text "group"
    optional do
      let _ ← Scanner.text "ed"
      pure ()
    gap
    let _ ← Scanner.text "by"
    pure head
  let keyword ←
    oneOf [groupBy, Scanner.phrase ["for", "each"], Scanner.text "per", Scanner.text "by"]
  gap
  optional article
  let word ← name
  pure (keyword, word)

/-- The phrases of comparisons. -/
def comparisonPhrases : List (List String) :=
  [[">="], ["<="], ["!="], ["="], [">"], ["<"], ["greater", "than"], ["more", "than"],
    ["higher", "than"], ["less", "than"], ["fewer", "than"], ["lower", "than"], ["above"],
    ["over"], ["below"], ["under"], ["at", "least"], ["at", "most"], ["equals"], ["equal", "to"]]

/-- A comparison of a name with a number. -/
structure Comparison where
  name : String
  phrase : String
  number : String

/-- A comparison as it stands in a question. -/
def comparisonPattern : Scanner Comparison := do
  boundary
  let first ← Scanner.one fun c => c.isLower || c == '_'
  let rest ← Scanner.many isNameChar
  optional do
    gap
    let _ ← Scanner.text "is"
    pure ()
  maybeGap
  let phrase ← oneOf (comparisonPhrases.map Scanner.phrase)
  maybeGap
  let sign ← Scanner.either (Scanner.text "-") (Scanner.done "")
  let digits ← number
  boundary
  pure ⟨String.ofList (first :: rest), phrase, sign ++ digits⟩

/-- The last word in front of a place, of which the nearest characters come first. -/
def wordBefore (before : List Char) : String :=
  let word := (before.dropWhile isBlank).takeWhile fun c => !isBlank c
  String.ofList word.reverse

end TableTalk.Question
