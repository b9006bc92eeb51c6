import TableTalk.Calendar.Timestamp
import TableTalk.Decimal.Shortest

/-!
# How dates are written

Years from 0 to 9999 take four digits; the others carry a sign. A leap second is
written as the sixtieth of its minute.
-/

namespace TableTalk.Calendar

open TableTalk.Decimal (digitText)

/-- A number with zeros in front up to a width. -/
def padded (width n : Nat) : String :=
  let digits := digitText n
  String.ofList (List.replicate (width - digits.length) '0' ++ digits)

/-- A year of a written date. -/
def yearText (year : Int) : String :=
  if 0 ≤ year ∧ year ≤ 9999 then padded 4 year.toNat
  else (if year < 0 then "-" else "+") ++ padded 4 year.natAbs

/-- A year with zeros in front up to four characters, its sign included. -/
def shortYearText (year : Int) : String :=
  if year < 0 then "-" ++ padded 3 year.natAbs else padded 4 year.toNat

/-- The date as year, month and day. -/
def Date.text (date : Date) : String :=
  yearText date.year ++ "-" ++ padded 2 date.month ++ "-" ++ padded 2 date.day

/-- The time as hours, minutes and seconds. -/
def Time.text (time : Time) : String :=
  padded 2 (time.second / 3600) ++ ":" ++ padded 2 (time.second / 60 % 60) ++ ":" ++
    padded 2 (time.second % 60 + time.nanosecond / 1000000000)

/-- The fraction of a second, with three, six or nine digits, or nothing for a whole second. -/
def Time.fractionText (time : Time) : String :=
  let fraction := time.nanosecond % 1000000000
  if fraction = 0 then ""
  else if fraction % 1000000 = 0 then "." ++ padded 3 (fraction / 1000000)
  else if fraction % 1000 = 0 then "." ++ padded 6 (fraction / 1000)
  else "." ++ padded 9 fraction

/-- Date and time with a letter between them, down to the second. -/
def Timestamp.text (t : Timestamp) : String :=
  t.date.text ++ "T" ++ t.time.text

/-- Date and time as people read them; midnight is left out. -/
def Timestamp.display (t : Timestamp) : String :=
  if t.time = .midnight then t.date.text else t.date.text ++ " " ++ t.time.text

end TableTalk.Calendar
