import TableTalk.Calendar.Date

/-!
# Points in time

A timestamp is a date and a time of day, without a time zone. A leap second is
kept as a second whole nanoseconds past the 59th second. Timestamps are compared
through a single number that reads their parts from the year down.
-/

namespace TableTalk.Calendar

/-- A time of day. -/
structure Time where
  /-- Whole seconds since midnight. -/
  second : Nat
  /-- From one thousand million on it stands in the leap second after `second`. -/
  nanosecond : Nat
  second_lt : second < 86400
  nanosecond_lt : nanosecond < 2000000000
deriving DecidableEq

namespace Time

/-- The start of a day. -/
def midnight : Time := ⟨0, 0, by decide, by decide⟩

/-- The time with these parts; the sixtieth second of a minute is a leap second. -/
def ofParts? (hour minute second nanosecond : Nat) : Option Time :=
  if h : hour < 24 ∧ minute < 60 ∧ second ≤ 60 ∧ nanosecond < 1000000000 then
    if second = 60 then
      some ⟨hour * 3600 + minute * 60 + 59, nanosecond + 1000000000, by omega, by omega⟩
    else some ⟨hour * 3600 + minute * 60 + second % 60, nanosecond, by omega, by omega⟩
  else none

end Time

/-- A date with a time of day. -/
structure Timestamp where
  date : Date
  time : Time
deriving DecidableEq

namespace Timestamp

/-- A date at midnight. -/
def ofDate (date : Date) : Timestamp := ⟨date, .midnight⟩

/-- A number that grows with time. -/
def key (t : Timestamp) : Int :=
  (((t.date.year * 16 + t.date.month) * 32 + t.date.day) * 86400 + t.time.second) * 2000000000
    + t.time.nanosecond

instance : Ord Timestamp where
  compare a b := compare a.key b.key

/-- The time some seconds earlier, for shifts of less than a day. -/
def minusSeconds (t : Timestamp) (seconds : Int) : Timestamp :=
  let moved := (t.time.second : Int) - seconds
  let date :=
    if moved < 0 then t.date.previous
    else if 86400 ≤ moved then t.date.next
    else t.date
  ⟨date, { t.time with
    second := (moved % 86400).toNat
    second_lt := by omega }⟩

end Timestamp

end TableTalk.Calendar
