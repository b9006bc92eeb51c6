/-!
# Dates of the Gregorian calendar

A date is a year, a month and a day that exist together, in the calendar
extended to all years in range. Years before 1 are counted 0, -1 and so on.
-/

namespace TableTalk.Calendar

/-- Whether a year has a 29 February. -/
def isLeapYear (year : Int) : Bool :=
  year % 4 == 0 && (year % 100 != 0 || year % 400 == 0)

/-- The number of days of a month; there are none in a month that does not exist. -/
def monthLength (year : Int) (month : Nat) : Nat :=
  match month with
  | 1 | 3 | 5 | 7 | 8 | 10 | 12 => 31
  | 4 | 6 | 9 | 11 => 30
  | 2 => if isLeapYear year then 29 else 28
  | _ => 0

/-- The first year in range. -/
def firstYear : Int := -262143

/-- The last year in range. -/
def lastYear : Int := 262142

/-- Whether year, month and day name a day. -/
def IsDay (year : Int) (month day : Nat) : Prop :=
  firstYear ≤ year ∧ year ≤ lastYear ∧ 1 ≤ day ∧ day ≤ monthLength year month

instance (year : Int) (month day : Nat) : Decidable (IsDay year month day) :=
  inferInstanceAs (Decidable (_ ∧ _))

/-- A day of the calendar. -/
structure Date where
  year : Int
  month : Nat
  day : Nat
  isDay : IsDay year month day
deriving DecidableEq

namespace Date

/-- The date with these parts, if there is such a day. -/
def ofParts? (year : Int) (month day : Nat) : Option Date :=
  if h : IsDay year month day then some ⟨year, month, day, h⟩ else none

/-- The day after, or the date itself at the end of the calendar. -/
def next (date : Date) : Date :=
  (ofParts? date.year date.month (date.day + 1)
    <|> ofParts? date.year (date.month + 1) 1
    <|> ofParts? (date.year + 1) 1 1).getD date

/-- The day before, or the date itself at the start of the calendar. -/
def previous (date : Date) : Date :=
  (ofParts? date.year date.month (date.day - 1)
    <|> ofParts? date.year (date.month - 1) (monthLength date.year (date.month - 1))
    <|> ofParts? (date.year - 1) 12 31).getD date

/-- The number of days of the year before this date. -/
def dayOfYear (date : Date) : Nat :=
  (List.range (date.month - 1)).foldr (fun m days => monthLength date.year (m + 1) + days)
    (date.day - 1)

end Date

/-- The weekday of 1 January, counted from Monday as zero. -/
def newYearWeekday (year : Int) : Nat :=
  let past := year - 1
  ((365 * past + past / 4 - past / 100 + past / 400) % 7).toNat

end TableTalk.Calendar
