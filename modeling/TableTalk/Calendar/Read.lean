import TableTalk.Calendar.Timestamp
import TableTalk.Decimal.Read
import TableTalk.Text.Words

/-!
# Reading dates

The shapes in which exported data writes dates and times, tried one after the
other: the internet form with an offset first, then forms with a time, then
plain dates. Whole numbers are never dates, so that years, counts and keys stay
numbers.
-/

namespace TableTalk.Calendar

open TableTalk.Decimal (digitsValue)
open TableTalk.Text (isBlank)

/-- The parts of a date and time gathered so far. -/
structure Parts where
  year : Int := 0
  month : Nat := 1
  day : Nat := 1
  hour : Nat := 0
  minute : Nat := 0
  second : Nat := 0
  nanosecond : Nat := 0

/-- The date and time with these parts, if there is one. -/
def Parts.timestamp? (parts : Parts) : Option Timestamp := do
  let date ← Date.ofParts? parts.year parts.month parts.day
  let time ← Time.ofParts? parts.hour parts.minute parts.second parts.nanosecond
  pure ⟨date, time⟩

/-- A part that is written as a number of at most two digits. -/
inductive Field
  | month
  | day
  | hour
  | minute
  | second
deriving DecidableEq, Repr

/-- The parts with one of them set. -/
def Field.set (field : Field) (value : Nat) (parts : Parts) : Parts :=
  match field with
  | .month => { parts with month := value }
  | .day => { parts with day := value }
  | .hour => { parts with hour := value }
  | .minute => { parts with minute := value }
  | .second => { parts with second := value }

/-- An element of the shape of a written date. -/
inductive Item
  | year
  | number (field : Field)
  /-- The first three letters of a month's name. -/
  | shortMonth
  /-- A month's name, in full or its first three letters. -/
  | month
  /-- A point and the digits of a fraction of a second, or nothing. -/
  | fraction
  /-- Any number of blanks, none included. -/
  | space
  | literal (c : Char)

/-- Reads at least `least` and at most `most` digits. -/
def number? (least most : Nat) (cs : List Char) : Option (Nat × List Char) :=
  let run := (cs.take most).takeWhile Char.isDigit
  if run.length < least then none else some (digitsValue run, cs.drop run.length)

/-- Reads a year: up to four digits, or any number of digits after a sign. -/
def year? (cs : List Char) : Option (Int × List Char) :=
  match cs.dropWhile isBlank with
  | '-' :: rest => (number? 1 rest.length rest).map fun (n, rest) => (-(n : Int), rest)
  | '+' :: rest => (number? 1 rest.length rest).map fun (n, rest) => ((n : Int), rest)
  | rest => (number? 1 4 rest).map fun (n, rest) => ((n : Int), rest)

/-- Reads the digits of a fraction of a second as nanoseconds; digits past the ninth are dropped. -/
def nanosecond? (cs : List Char) : Option (Nat × List Char) :=
  let run := cs.takeWhile Char.isDigit
  if run.isEmpty then none
  else
    let kept := run.take 9
    some (digitsValue kept * Nat.pow 10 (9 - kept.length), cs.drop run.length)

/-- The names of the months in lower case. -/
def monthNames : List String :=
  ["january", "february", "march", "april", "may", "june", "july", "august", "september",
    "october", "november", "december"]

/-- Whether the characters begin with a name, in any case of ASCII letters. -/
def beginsWith (name cs : List Char) : Bool :=
  name.isPrefixOf (cs.map Char.toLower)

/-- Reads the first three letters of a month's name, and the rest of the name too if `full`. -/
def monthName? (full : Bool) (cs : List Char) : Option (Nat × List Char) := do
  let names := monthNames.map String.toList
  let index ← names.findIdx? fun name => beginsWith (name.take 3) cs
  let name ← names[index]?
  let length := if full && beginsWith name cs then name.length else 3
  pure (index + 1, cs.drop length)

/-- Reads one element and records what it says. -/
def Item.read? (item : Item) (parts : Parts) (cs : List Char) : Option (Parts × List Char) :=
  match item with
  | .year => (year? cs).map fun (n, rest) => ({ parts with year := n }, rest)
  | .number field =>
    (number? 1 2 (cs.dropWhile isBlank)).map fun (n, rest) => (field.set n parts, rest)
  | .shortMonth => (monthName? false cs).map fun (n, rest) => ({ parts with month := n }, rest)
  | .month => (monthName? true cs).map fun (n, rest) => ({ parts with month := n }, rest)
  | .fraction =>
    match cs with
    | '.' :: rest => (nanosecond? rest).map fun (n, rest) => ({ parts with nanosecond := n }, rest)
    | _ => some (parts, cs)
  | .space => some (parts, cs.dropWhile isBlank)
  | .literal c =>
    match cs with
    | d :: rest => if c == d then some (parts, rest) else none
    | [] => none

/-- Reads elements in turn; nothing may be left over. -/
def readShape? : List Item → Parts → List Char → Option Parts
  | [], parts, cs => if cs.isEmpty then some parts else none
  | item :: shape, parts, cs => do
    let (parts, rest) ← item.read? parts cs
    readShape? shape parts rest

/-- Year, month and day with a separator. -/
def yearFirst (separator : Char) : List Item :=
  [.year, .literal separator, .number .month, .literal separator, .number .day]

/-- Month, day and year with slashes. -/
def monthFirst : List Item :=
  [.number .month, .literal '/', .number .day, .literal '/', .year]

/-- Hours and minutes. -/
def toMinute : List Item :=
  [.number .hour, .literal ':', .number .minute]

/-- Hours, minutes and seconds. -/
def toSecond : List Item :=
  toMinute ++ [.literal ':', .number .second]

/-- The shapes with a time of day. -/
def timestampShapes : List (List Item) :=
  [yearFirst '-' ++ .literal 'T' :: toSecond ++ [.fraction],
    yearFirst '-' ++ .literal 'T' :: toSecond,
    yearFirst '-' ++ .space :: toSecond ++ [.fraction],
    yearFirst '-' ++ .space :: toSecond,
    yearFirst '-' ++ .literal 'T' :: toMinute,
    yearFirst '-' ++ .space :: toMinute,
    monthFirst ++ .space :: toSecond,
    monthFirst ++ .space :: toMinute]

/-- The shapes of plain dates. -/
def dateShapes : List (List Item) :=
  [yearFirst '-',
    monthFirst,
    [.number .day, .literal '-', .number .month, .literal '-', .year],
    yearFirst '/',
    [.shortMonth, .space, .number .day, .literal ',', .space, .year],
    [.month, .space, .number .day, .literal ',', .space, .year],
    [.shortMonth, .space, .number .day, .space, .year],
    [.number .day, .space, .shortMonth, .space, .year],
    [.number .day, .space, .month, .space, .year]]

/-- Reads a fixed character. -/
def literal? (c : Char) : List Char → Option (List Char)
  | d :: rest => if c == d then some rest else none
  | [] => none

/-- Reads the offset from universal time, in seconds, that ends the internet form. -/
def offset? (cs : List Char) : Option Int :=
  match cs with
  | ['z'] | ['Z'] => some 0
  | sign :: rest => do
    let direction ← if sign == '+' then some 1 else if sign == '-' || sign == '−' then some (-1)
      else none
    let (hours, rest) ← number? 2 2 rest
    let rest ← literal? ':' rest
    let (minutes, rest) ← number? 2 2 rest
    if rest.isEmpty && minutes < 60 && hours < 24 then
      some (direction * (hours * 3600 + minutes * 60 : Nat))
    else none
  | [] => none

/-- Reads the internet form: full date, a letter T or a space, full time and offset. The result is
in universal time. -/
def internet? (cs : List Char) : Option Timestamp := do
  let (year, cs) ← number? 4 4 cs
  let cs ← literal? '-' cs
  let (month, cs) ← number? 2 2 cs
  let cs ← literal? '-' cs
  let (day, cs) ← number? 2 2 cs
  let cs ← literal? 'T' cs <|> literal? 't' cs <|> literal? ' ' cs
  let (hour, cs) ← number? 2 2 cs
  let cs ← literal? ':' cs
  let (minute, cs) ← number? 2 2 cs
  let cs ← literal? ':' cs
  let (second, cs) ← number? 2 2 cs
  let (nanosecond, cs) ←
    match cs with
    | '.' :: rest => nanosecond? rest
    | _ => some (0, cs)
  let offset ← offset? cs
  let parts : Parts := { year := year, month, day, hour, minute, second, nanosecond }
  (parts.timestamp?).map (·.minusSeconds offset)

/-- Reads a plain date as its midnight. -/
def date? (cs : List Char) (shape : List Item) : Option Timestamp := do
  let parts ← readShape? shape {} cs
  let date ← Date.ofParts? parts.year parts.month parts.day
  pure (.ofDate date)

/-- Reads a date with a time. -/
def timestamp? (cs : List Char) (shape : List Item) : Option Timestamp := do
  let parts ← readShape? shape {} cs
  parts.timestamp?

/-- Whether the text is a whole number, or empty apart from signs. -/
def isWholeNumber (cs : List Char) : Bool :=
  (cs.dropWhile fun c => c == '-' || c == '+').all Char.isDigit

/-- Reads a date or a date with a time in any known shape. -/
def read? (text : String) : Option Timestamp :=
  let cs := Text.stripWhile isBlank text.toList
  if isWholeNumber cs then none
  else
    internet? cs
      <|> timestampShapes.findSome? (timestamp? cs)
      <|> dateShapes.findSome? (date? cs)

end TableTalk.Calendar
