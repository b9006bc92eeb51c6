import TableTalk.Calendar.Notation
import TableTalk.Text.Lowercase
import TableTalk.Text.Words
import TableTalk.Value

/-!
# Time intervals

Intervals of the calendar and the keys of their buckets. Keys go from the year
down with leading zeros, so that sorting keys as texts sorts them by time; cells
that are no dates share one key that comes last.
-/

namespace TableTalk

open Calendar (Timestamp Date)

/-- A unit of the calendar. -/
inductive Interval
  | day
  | week
  | month
  | quarter
  | year
deriving DecidableEq, Repr, Inhabited

namespace Interval

/-- All intervals. -/
def all : List Interval := [day, week, month, quarter, year]

/-- The name of an interval. -/
def name : Interval → String
  | day => "day"
  | week => "week"
  | month => "month"
  | quarter => "quarter"
  | year => "year"

/-- The words that mean each interval. -/
def words : List (Interval × List String) :=
  [(day, ["day", "daily"]), (week, ["week", "weekly"]), (month, ["month", "monthly"]),
    (quarter, ["quarter", "quarterly"]), (year, ["year", "yearly", "annual"])]

/-- A text that names no interval, in lower case and without blanks around it. -/
structure Unknown where
  text : String

/-- What is said of an unknown interval. -/
def Unknown.message (unknown : Unknown) : String :=
  "Unknown time interval '" ++ unknown.text ++ "'"

/-- Reads an interval. -/
def read (text : String) : Except Unknown Interval :=
  let word := Text.lowerAscii (Text.trim text)
  match words.find? fun entry => entry.2.contains word with
  | some (interval, _) => .ok interval
  | none => .error ⟨word⟩

/-- The week of the year; weeks begin on Monday, and the first one holds 1 January. -/
def weekOfYear (date : Date) : Nat :=
  (date.dayOfYear + Calendar.newYearWeekday date.year) / 7 + 1

/-- The key of the interval in which a point in time lies. -/
def key (interval : Interval) (t : Timestamp) : String :=
  let year := Calendar.shortYearText t.date.year
  match interval with
  | .year => year
  | .quarter => year ++ "-Q" ++ toString ((t.date.month - 1) / 3 + 1)
  | .month => year ++ "-" ++ Calendar.padded 2 t.date.month
  | .week => year ++ "-W" ++ Calendar.padded 2 (weekOfYear t.date)
  | .day => t.date.text

/-- The key of values that are no dates. -/
def unknownKey : String := "unknown"

/-- The key of a value. -/
def keyOf (interval : Interval) (value : Value) : String :=
  match value.date? with
  | some t => interval.key t
  | none => unknownKey

end Interval

end TableTalk
