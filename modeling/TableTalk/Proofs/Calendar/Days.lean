import Mathlib.Algebra.Order.Ring.Int
import Mathlib.Tactic.IntervalCases
import TableTalk.Calendar.Timestamp

/-!
# Days in their order

Days are counted from 1 January of the year 1, a Monday. The count grows by one from each
day to the next, across months and years, so weeks begin at the multiples of seven. Within
a year the days are in the order of months and days, and the week of the year is the
number of the Monday on which the week begins.
-/

namespace TableTalk.Calendar

/-- The days from 1 January of the year 1 to 1 January of a year. -/
def daysBefore (year : Int) : Int :=
  365 * (year - 1) + (year - 1) / 4 - (year - 1) / 100 + (year - 1) / 400

/-- The days of a year in front of a month. -/
def monthStart (year : Int) (month : Nat) : Nat :=
  (List.range (month - 1)).foldr (fun m days => monthLength year (m + 1) + days) 0

theorem newYearWeekday_eq (year : Int) : (newYearWeekday year : Int) = daysBefore year % 7 := by
  show ((daysBefore year % 7).toNat : Int) = _
  omega

theorem monthLength_le (year : Int) (month : Nat) : monthLength year month ≤ 31 := by
  unfold monthLength
  split <;> (try split) <;> omega

theorem monthLength_pos_iff {year : Int} {month : Nat} :
    0 < monthLength year month ↔ 1 ≤ month ∧ month ≤ 12 := by
  constructor
  · intro h
    unfold monthLength at h
    split at h <;> omega
  · rintro ⟨hfirst, hlast⟩
    by_cases hfebruary : month = 2
    · subst hfebruary
      show 0 < if isLeapYear year then 29 else 28
      split <;> omega
    · interval_cases month <;> first | exact absurd rfl hfebruary | exact Nat.succ_pos _

theorem foldr_days (length : Nat → Nat) (months : List Nat) (rest : Nat) :
    months.foldr (fun m days => length m + days) rest =
      months.foldr (fun m days => length m + days) 0 + rest := by
  induction months with
  | nil => exact (Nat.zero_add rest).symm
  | cons m months ih => rw [List.foldr_cons, List.foldr_cons, ih, Nat.add_assoc]

theorem monthStart_succ (year : Int) {month : Nat} (h : 1 ≤ month) :
    monthStart year (month + 1) = monthStart year month + monthLength year month := by
  obtain ⟨previous, rfl⟩ := Nat.exists_eq_add_of_le' h
  show (List.range (previous + 1)).foldr _ 0 = (List.range previous).foldr _ 0 + _
  rw [List.range_succ, List.foldr_append, foldr_days, List.foldr_cons, List.foldr_nil, Nat.add_zero]

theorem monthStart_mono (year : Int) {first second : Nat} (h : first ≤ second) :
    monthStart year first ≤ monthStart year second := by
  induction h with
  | refl => exact le_refl _
  | @step month _ ih =>
    rcases Nat.eq_zero_or_pos month with rfl | hpos
    · exact ih
    · rw [monthStart_succ year hpos]
      omega

theorem monthStart_yearEnd (year : Int) :
    monthStart year 13 = if isLeapYear year then 366 else 365 := by
  show monthLength year 1 + (monthLength year 2 + (monthLength year 3 + (monthLength year 4 +
    (monthLength year 5 + (monthLength year 6 + (monthLength year 7 + (monthLength year 8 +
    (monthLength year 9 + (monthLength year 10 + (monthLength year 11 +
    (monthLength year 12 + 0))))))))))) = _
  simp only [monthLength]
  split <;> rfl

theorem daysBefore_succ (year : Int) :
    daysBefore (year + 1) = daysBefore year + if isLeapYear year then 366 else 365 := by
  unfold daysBefore
  by_cases hleap : isLeapYear year = true
  · rw [if_pos hleap]
    simp only [isLeapYear, Bool.and_eq_true, Bool.or_eq_true, beq_iff_eq, bne_iff_ne] at hleap
    omega
  · rw [if_neg hleap]
    simp only [isLeapYear, Bool.and_eq_true, Bool.or_eq_true, beq_iff_eq, bne_iff_ne] at hleap
    omega

namespace Date

variable {a b : Date}

/-- The days from 1 January of the year 1, a Monday, to a date. -/
def serial (date : Date) : Int :=
  daysBefore date.year + date.dayOfYear

/-- The weekday, counted from Monday as zero. -/
def weekday (date : Date) : Int :=
  date.serial % 7

/-- The Monday on which the week of a date begins, as a count of days. -/
def monday (date : Date) : Int :=
  date.serial - date.weekday

theorem month_bounds (date : Date) : 1 ≤ date.month ∧ date.month ≤ 12 :=
  monthLength_pos_iff.mp (date.isDay.2.2.1.trans date.isDay.2.2.2)

theorem day_bounds (date : Date) : 1 ≤ date.day ∧ date.day ≤ 31 :=
  ⟨date.isDay.2.2.1, date.isDay.2.2.2.trans (monthLength_le _ _)⟩

theorem dayOfYear_eq (date : Date) :
    date.dayOfYear = monthStart date.year date.month + (date.day - 1) :=
  foldr_days _ _ _

/-- A date lies in front of the next month. -/
theorem dayOfYear_lt (date : Date) : date.dayOfYear < monthStart date.year (date.month + 1) := by
  have hday := date.isDay.2.2
  rw [dayOfYear_eq, monthStart_succ _ date.month_bounds.1]
  omega

theorem dayOfYear_lt_year (date : Date) : date.dayOfYear < 366 := by
  have hlast := monthStart_mono date.year (show date.month + 1 ≤ 13 by have := date.month_bounds; omega)
  have hend := monthStart_yearEnd date.year
  have hlt := date.dayOfYear_lt
  split at hend <;> omega

/-- Within a year the days are in the order of months and days. -/
theorem dayOfYear_mono (year : a.year = b.year)
    (h : a.month < b.month ∨ a.month = b.month ∧ a.day ≤ b.day) : a.dayOfYear ≤ b.dayOfYear := by
  rcases h with hmonth | ⟨hmonth, hday⟩
  · have hnext := monthStart_mono b.year (show a.month + 1 ≤ b.month from hmonth)
    have hlt := a.dayOfYear_lt
    rw [year] at hlt
    rw [dayOfYear_eq b]
    omega
  · rw [dayOfYear_eq, dayOfYear_eq, year, hmonth]
    omega

theorem ofParts?_eq_some {year : Int} {month day : Nat} {date : Date}
    (h : ofParts? year month day = some date) :
    date.year = year ∧ date.month = month ∧ date.day = day := by
  unfold ofParts? at h
  split at h
  · obtain rfl := Option.some.inj h
    exact ⟨rfl, rfl, rfl⟩
  · cases h

theorem ofParts?_eq_none {year : Int} {month day : Nat} :
    ofParts? year month day = none ↔ ¬ IsDay year month day := by
  unfold ofParts?
  split <;> simp [*]

/-- The count of days grows by one from day to day, up to the end of the calendar. -/
theorem serial_next (date : Date) :
    date.next = date ∨ date.next.serial = date.serial + 1 := by
  obtain ⟨hfirst, hlast, hpos, hlength⟩ := date.isDay
  have hmonths := date.month_bounds
  rw [next]
  -- tomorrow is in the same month, on the first of the next one, or on New Year's Day
  cases hday : ofParts? date.year date.month (date.day + 1) with
  | some tomorrow =>
    right
    obtain ⟨hy, hm, hd⟩ := ofParts?_eq_some hday
    show tomorrow.serial = _
    rw [serial, serial, dayOfYear_eq, dayOfYear_eq, hy, hm, hd]
    omega
  | none =>
    have hend : date.day = monthLength date.year date.month := by
      by_contra hne
      exact ofParts?_eq_none.mp hday ⟨hfirst, hlast, by omega, by omega⟩
    cases hmonth : ofParts? date.year (date.month + 1) 1 with
    | some tomorrow =>
      right
      obtain ⟨hy, hm, hd⟩ := ofParts?_eq_some hmonth
      show tomorrow.serial = _
      rw [serial, serial, dayOfYear_eq, dayOfYear_eq, hy, hm, hd, monthStart_succ _ hmonths.1]
      omega
    | none =>
      have hdecember : date.month = 12 := by
        by_contra hne
        refine ofParts?_eq_none.mp hmonth ⟨hfirst, hlast, le_refl 1, ?_⟩
        exact monthLength_pos_iff.mpr ⟨by omega, by omega⟩
      cases hyear : ofParts? (date.year + 1) 1 1 with
      | none => exact Or.inl rfl
      | some tomorrow =>
        right
        obtain ⟨hy, hm, hd⟩ := ofParts?_eq_some hyear
        have hwhole := monthStart_succ date.year hmonths.1
        rw [hdecember, monthStart_yearEnd] at hwhole
        show tomorrow.serial = _
        rw [serial, serial, dayOfYear_eq, dayOfYear_eq, hy, hm, hd, daysBefore_succ, hend,
          hdecember]
        have hstart : monthStart (date.year + 1) 1 = 0 := rfl
        have hlength : monthLength date.year 12 = 31 := rfl
        by_cases hleap : isLeapYear date.year = true
        · rw [if_pos hleap] at hwhole ⊢
          omega
        · rw [if_neg hleap] at hwhole ⊢
          omega

/-- 1 January 2024 is a Monday. -/
example : (⟨2024, 1, 1, by decide⟩ : Date).weekday = 0 := by decide

end Date

/-- Points in time are in the order of their years, months and days. -/
theorem Timestamp.year_lt_or_of_key_le {s t : Timestamp} (h : s.key ≤ t.key) :
    s.date.year < t.date.year ∨ s.date.year = t.date.year ∧
      (s.date.month < t.date.month ∨ s.date.month = t.date.month ∧ s.date.day ≤ t.date.day) := by
  have hmonthS := s.date.month_bounds
  have hmonthT := t.date.month_bounds
  have hdayS := s.date.day_bounds
  have hdayT := t.date.day_bounds
  have hsecond := s.time.second_lt
  have hsecondT := t.time.second_lt
  have hnano := s.time.nanosecond_lt
  have hnanoT := t.time.nanosecond_lt
  unfold key at h
  omega

end TableTalk.Calendar
