import TableTalk.Proofs.Calendar.Days
import TableTalk.Proofs.Decimal.Places
import TableTalk.Proofs.Grouping

/-!
# Keys of intervals

The key of an interval is its year in four digits and its number within the year in a
fixed count of digits. Texts of this form are in the order of the numbers that they spell,
so keys are equal exactly for points in time that share the interval, and they follow the
order of time. The key of values that are no dates comes behind all of them.
-/

namespace TableTalk

open Calendar (Date Timestamp padded)

theorem Text.append_lt_append_iff {a b c d : List Char} (same : a.length = c.length) :
    a ++ b < c ++ d ↔ a < c ∨ a = c ∧ b < d := by
  induction a generalizing c with
  | nil =>
    obtain rfl := List.length_eq_zero_iff.mp same.symm
    simp
  | cons x a ih =>
    obtain ⟨y, c, rfl⟩ := List.exists_cons_of_length_eq_add_one same.symm
    rw [List.cons_append, List.cons_append, List.cons_lt_cons_iff, List.cons_lt_cons_iff,
      ih (Nat.succ.inj same), List.cons.injEq]
    tauto

theorem Text.append_lt_append_left_iff {a b c : List Char} : a ++ b < a ++ c ↔ b < c := by
  rw [append_lt_append_iff rfl]
  simp

namespace Calendar

section Padded

variable {width m n : Nat}

theorem toList_padded (width n : Nat) : (padded width n).toList =
    List.replicate (width - (Decimal.digitText n).length) '0' ++ Decimal.digitText n :=
  String.toList_ofList

theorem padded_ne_nil : (padded width n).toList ≠ [] := by
  rw [toList_padded]
  exact List.append_ne_nil_of_right_ne_nil _ Nat.toDigits_ne_nil

theorem length_padded (positive : 0 < width) (fits : n < 10 ^ width) :
    (padded width n).toList.length = width := by
  have hle : (Decimal.digitText n).length ≤ width :=
    (Nat.length_toDigits_le_iff (by decide) positive).mpr fits
  rw [toList_padded, List.length_append, List.length_replicate, Nat.sub_add_cancel hle]

theorem isDigit_of_mem_padded {c : Char} (h : c ∈ (padded width n).toList) :
    c.isDigit = true := by
  rw [toList_padded] at h
  rcases List.mem_append.mp h with h | h
  · rw [List.eq_of_mem_replicate h]
    rfl
  · exact Decimal.isDigit_of_mem_digitText h

theorem toList_padded_succ (positive : 0 < width) (n : Nat) : (padded (width + 1) n).toList =
    (padded width (n / 10)).toList ++ [(n % 10).digitChar] := by
  rw [toList_padded, toList_padded, Decimal.digitText, Decimal.digitText]
  by_cases hdigit : n < 10
  · have hzero : n / 10 = 0 := Nat.div_eq_of_lt hdigit
    obtain ⟨width, rfl⟩ := Nat.exists_eq_add_of_le' positive
    rw [Nat.toDigits_of_lt_base hdigit, hzero, Nat.mod_eq_of_lt hdigit]
    show List.replicate (width + 1) '0' ++ _ = List.replicate width '0' ++ ['0'] ++ _
    rw [List.replicate_succ']
  · have hdigits : Nat.toDigits 10 n = Nat.toDigits 10 (n / 10) ++ [(n % 10).digitChar] := by
      rw [Nat.toDigits_eq_if (by decide), if_neg hdigit]
    rw [hdigits, List.length_append, List.length_singleton, Nat.add_sub_add_right,
      List.append_assoc]

/-- Numbers of one width are in the order of their texts. -/
theorem padded_lt_of_lt (positive : 0 < width) (fits : n < 10 ^ width) (h : m < n) :
    (padded width m).toList < (padded width n).toList := by
  induction width, positive using Nat.le_induction generalizing m n with
  | base =>
    have hdigit : ∀ n < 10, ∀ m < n, (padded 1 m).toList < (padded 1 n).toList := by decide
    exact hdigit n fits m h
  | succ width hpos ih =>
    have hn : n / 10 < 10 ^ width := by rw [pow_succ] at fits; omega
    have hm : m / 10 < 10 ^ width := by omega
    have hlast : ∀ n < 10, ∀ m < n, [m.digitChar] < [n.digitChar] := by decide
    rw [toList_padded_succ hpos, toList_padded_succ hpos, Text.append_lt_append_iff
      ((length_padded hpos hm).trans (length_padded hpos hn).symm)]
    -- the digits in front of the last decide, unless they are the same
    rcases Nat.lt_or_ge (m / 10) (n / 10) with hlt | hge
    · exact Or.inl (ih hn hlt)
    · have hsame : m / 10 = n / 10 := by omega
      exact Or.inr ⟨by rw [hsame], hlast _ (by omega) _ (by omega)⟩

theorem padded_lt_iff (positive : 0 < width) (hm : m < 10 ^ width) (hn : n < 10 ^ width) :
    (padded width m).toList < (padded width n).toList ↔ m < n := by
  constructor
  · intro h
    rcases Nat.lt_trichotomy m n with hlt | rfl | hgt
    · exact hlt
    · exact absurd h (lt_irrefl _)
    · exact absurd h (lt_asymm (padded_lt_of_lt positive hm hgt))
  · exact padded_lt_of_lt positive hn

theorem padded_inj (positive : 0 < width) (hm : m < 10 ^ width) (hn : n < 10 ^ width) :
    (padded width m).toList = (padded width n).toList ↔ m = n := by
  refine ⟨fun h => ?_, fun h => by rw [h]⟩
  rcases Nat.lt_trichotomy m n with hlt | heq | hgt
  · exact absurd h (padded_lt_of_lt positive hn hlt).ne
  · exact heq
  · exact absurd h (padded_lt_of_lt positive hm hgt).ne'

end Padded

/-- A year that is written with four digits and no sign. -/
def Date.HasPlainYear (date : Date) : Prop :=
  0 ≤ date.year ∧ date.year ≤ 9999

instance (date : Date) : Decidable date.HasPlainYear :=
  inferInstanceAs (Decidable (_ ∧ _))

end Calendar

namespace Interval

/-- The quarters of a year. -/
def quarters : List (List Nat) :=
  [[1, 2, 3], [4, 5, 6], [7, 8, 9], [10, 11, 12]]

/-- Two dates lie in one interval. Weeks begin on Monday and end with the year. -/
def Shares (interval : Interval) (a b : Date) : Prop :=
  a.year = b.year ∧
    match interval with
    | .year => True
    | .quarter => ∃ quarter ∈ quarters, a.month ∈ quarter ∧ b.month ∈ quarter
    | .month => a.month = b.month
    | .week => a.monday = b.monday
    | .day => a = b

/-- The number of the interval of a date within its year. -/
def number (interval : Interval) (date : Date) : Nat :=
  match interval with
  | .year => 0
  | .quarter => (date.month - 1) / 3 + 1
  | .month => date.month
  | .week => weekOfYear date
  | .day => 32 * date.month + date.day

/-- What the key of an interval has behind the year. -/
def tail (interval : Interval) (date : Date) : List Char :=
  match interval with
  | .year => []
  | .quarter => ['-', 'Q'] ++ (padded 1 ((date.month - 1) / 3 + 1)).toList
  | .month => ['-'] ++ (padded 2 date.month).toList
  | .week => ['-', 'W'] ++ (padded 2 (weekOfYear date)).toList
  | .day => ['-'] ++ ((padded 2 date.month).toList ++ (['-'] ++ (padded 2 date.day).toList))

variable {interval : Interval} {a b : Date}

theorem weekOfYear_eq (date : Date) :
    (weekOfYear date : Int) = (date.dayOfYear + Calendar.daysBefore date.year % 7) / 7 + 1 := by
  rw [← Calendar.newYearWeekday_eq]
  rfl

theorem weekOfYear_lt (date : Date) : weekOfYear date < 100 := by
  have hday := date.dayOfYear_lt_year
  have hweek := weekOfYear_eq date
  omega

/-- A week of a year is known by the Monday on which it begins. -/
theorem weekOfYear_inj (year : a.year = b.year) :
    weekOfYear a = weekOfYear b ↔ a.monday = b.monday := by
  have hmonday (date : Date) :
      date.monday = 7 * ((Calendar.daysBefore date.year + date.dayOfYear) / 7) := by
    show date.serial - date.serial % 7 = 7 * (date.serial / 7)
    omega
  have ha := weekOfYear_eq a
  have hb := weekOfYear_eq b
  rw [hmonday, hmonday, ← year]
  rw [← year] at hb
  omega

theorem shares_iff :
    interval.Shares a b ↔ a.year = b.year ∧ interval.number a = interval.number b := by
  refine and_congr_right fun year => ?_
  have ha := a.month_bounds
  have hb := b.month_bounds
  cases interval with
  | year => exact iff_of_true trivial rfl
  | month => exact Iff.rfl
  | week => exact (weekOfYear_inj year).symm
  | quarter =>
    show (∃ quarter ∈ quarters, _) ↔ (a.month - 1) / 3 + 1 = (b.month - 1) / 3 + 1
    simp only [quarters, List.mem_cons, List.not_mem_nil, or_false, exists_eq_or_imp,
      exists_eq_left]
    omega
  | day =>
    show a = b ↔ 32 * a.month + a.day = 32 * b.month + b.day
    have hdayA := a.day_bounds
    have hdayB := b.day_bounds
    constructor
    · rintro rfl
      rfl
    · intro h
      obtain ⟨y, m, d, hday⟩ := a
      obtain ⟨y', m', d', hday'⟩ := b
      dsimp only at *
      obtain rfl : m = m' := by omega
      obtain rfl : d = d' := by omega
      subst year
      rfl

theorem toList_key {t : Timestamp} (plain : t.date.HasPlainYear) :
    (interval.key t).toList = (padded 4 t.date.year.toNat).toList ++ interval.tail t.date := by
  have hshort : Calendar.shortYearText t.date.year = padded 4 t.date.year.toNat :=
    if_neg (not_lt.mpr plain.1)
  have hlong : Calendar.yearText t.date.year = padded 4 t.date.year.toNat := if_pos plain
  cases interval with
  | year => simp [key, tail, hshort]
  | month => simp [key, tail, hshort]
  | week => simp [key, tail, hshort]
  | day => simp [key, tail, Calendar.Date.text, hlong]
  | quarter =>
    have hmonth := t.date.month_bounds
    have hquarter : ∀ q < 5, toString q = padded 1 q := by decide
    simp [key, tail, hshort, hquarter _ (show (t.date.month - 1) / 3 + 1 < 5 by omega)]

theorem tail_lt_iff :
    interval.tail a < interval.tail b ↔ interval.number a < interval.number b := by
  have ha := a.month_bounds
  have hb := b.month_bounds
  cases interval with
  | year => exact iff_of_false (lt_irrefl ([] : List Char)) (Nat.lt_irrefl 0)
  | month =>
    show ['-'] ++ _ < ['-'] ++ _ ↔ _
    rw [Text.append_lt_append_left_iff]
    exact Calendar.padded_lt_iff (by decide) (by omega) (by omega)
  | week =>
    show ['-', 'W'] ++ _ < ['-', 'W'] ++ _ ↔ _
    rw [Text.append_lt_append_left_iff]
    exact Calendar.padded_lt_iff (by decide) (weekOfYear_lt a) (weekOfYear_lt b)
  | quarter =>
    show ['-', 'Q'] ++ _ < ['-', 'Q'] ++ _ ↔ _
    rw [Text.append_lt_append_left_iff]
    exact Calendar.padded_lt_iff (by decide) (by omega) (by omega)
  | day =>
    have hdayA := a.day_bounds
    have hdayB := b.day_bounds
    have hwidth (date : Date) : (padded 2 date.month).toList.length = 2 :=
      Calendar.length_padded (by decide) (by have := date.month_bounds; omega)
    show ['-'] ++ (_ ++ (['-'] ++ _)) < ['-'] ++ (_ ++ (['-'] ++ _)) ↔
      32 * a.month + a.day < 32 * b.month + b.day
    rw [Text.append_lt_append_left_iff,
      Text.append_lt_append_iff ((hwidth a).trans (hwidth b).symm),
      Text.append_lt_append_left_iff, Calendar.padded_lt_iff (by decide) (by omega) (by omega),
      Calendar.padded_inj (by decide) (by omega) (by omega),
      Calendar.padded_lt_iff (by decide) (by omega) (by omega)]
    omega

section Keys

variable {s t : Timestamp} (plainS : s.date.HasPlainYear) (plainT : t.date.HasPlainYear)

include plainS plainT

theorem key_lt_iff : interval.key s < interval.key t ↔ s.date.year < t.date.year ∨
    s.date.year = t.date.year ∧ interval.number s.date < interval.number t.date := by
  have hs := plainS
  have ht := plainT
  unfold Date.HasPlainYear at hs ht
  have hwidth {year : Int} (h : 0 ≤ year ∧ year ≤ 9999) : year.toNat < 10 ^ 4 := by omega
  rw [String.lt_iff_toList_lt, toList_key plainS, toList_key plainT,
    Text.append_lt_append_iff ((Calendar.length_padded (by decide) (hwidth hs)).trans
      (Calendar.length_padded (by decide) (hwidth ht)).symm),
    Calendar.padded_lt_iff (by decide) (hwidth hs) (hwidth ht),
    Calendar.padded_inj (by decide) (hwidth hs) (hwidth ht), tail_lt_iff]
  omega

theorem key_inj : interval.key s = interval.key t ↔ interval.Shares s.date t.date := by
  rw [shares_iff, le_antisymm_iff, ← not_lt, ← not_lt, key_lt_iff plainS plainT,
    key_lt_iff plainT plainS]
  omega

end Keys

theorem number_mono (year : a.year = b.year)
    (h : a.month < b.month ∨ a.month = b.month ∧ a.day ≤ b.day) :
    interval.number a ≤ interval.number b := by
  cases interval with
  | year => exact le_refl 0
  | month =>
    show a.month ≤ b.month
    omega
  | quarter =>
    show (a.month - 1) / 3 + 1 ≤ (b.month - 1) / 3 + 1
    omega
  | week =>
    have hdays := Date.dayOfYear_mono year h
    have ha := weekOfYear_eq a
    have hb := weekOfYear_eq b
    show weekOfYear a ≤ weekOfYear b
    rw [← year] at hb
    omega
  | day =>
    have ha := a.day_bounds
    show 32 * a.month + a.day ≤ 32 * b.month + b.day
    omega

/-- Keys follow the order of time. -/
theorem key_mono {s t : Timestamp} (plainS : s.date.HasPlainYear) (plainT : t.date.HasPlainYear)
    (h : s.key ≤ t.key) : interval.key s ≤ interval.key t := by
  rw [← not_lt, key_lt_iff plainT plainS]
  rcases Calendar.Timestamp.year_lt_or_of_key_le h with hyear | ⟨hyear, hday⟩
  · omega
  · have hnumber : interval.number s.date ≤ interval.number t.date := number_mono hyear hday
    omega

section Unknown

/-- The first character of a text comes before all small letters. -/
def StartsLow (text : String) : Prop :=
  ∃ c rest, text.toList = c :: rest ∧ c < 'a'

theorem StartsLow.append {text : String} (h : StartsLow text) (more : String) :
    StartsLow (text ++ more) := by
  obtain ⟨c, rest, htext, hc⟩ := h
  exact ⟨c, rest ++ more.toList, by rw [String.toList_append, htext, List.cons_append], hc⟩

theorem startsLow_padded (width n : Nat) : StartsLow (padded width n) := by
  obtain ⟨c, rest, hpadded⟩ : ∃ c rest, (padded width n).toList = c :: rest :=
    List.exists_cons_of_ne_nil Calendar.padded_ne_nil
  have hdigit : c.isDigit = true :=
    Calendar.isDigit_of_mem_padded (hpadded ▸ List.mem_cons_self)
  refine ⟨c, rest, hpadded, ?_⟩
  simp only [Char.isDigit, Bool.and_eq_true, decide_eq_true_eq] at hdigit
  exact lt_of_le_of_lt (show c ≤ '9' from hdigit.2) (by decide)

theorem startsLow_key (t : Timestamp) : StartsLow (interval.key t) := by
  have hshort : StartsLow (Calendar.shortYearText t.date.year) := by
    unfold Calendar.shortYearText
    split
    · exact StartsLow.append ⟨'-', [], rfl, by decide⟩ _
    · exact startsLow_padded 4 _
  have hlong : StartsLow (Calendar.yearText t.date.year) := by
    unfold Calendar.yearText
    split
    · exact startsLow_padded 4 _
    · refine StartsLow.append ?_ _
      split
      · exact ⟨'-', [], rfl, by decide⟩
      · exact ⟨'+', [], rfl, by decide⟩
  cases interval with
  | year => exact hshort
  | quarter | month | week => exact (hshort.append _).append _
  | day => exact (((hlong.append _).append _).append _).append _

/-- The key of values that are no dates comes behind the keys of all points in time. -/
theorem key_lt_unknownKey (t : Timestamp) : interval.key t < unknownKey := by
  have hlow : StartsLow (interval.key t) := startsLow_key t
  obtain ⟨c, rest, hkey, hc⟩ := hlow
  rw [String.lt_iff_toList_lt, hkey]
  exact List.cons_lt_cons_iff.mpr (Or.inl (lt_trans hc (by decide)))

end Unknown

end Interval

namespace Grouping

variable {interval : Interval} {column : String} {rows : Dataset} {first second : Group String Row}

/-- The point in time that stands under a column. -/
def dateOf (column : String) (row : Row) : Option Timestamp :=
  (row.value column).date?

/-- All dates under a column have plain years. -/
def PlainDates (column : String) (rows : Dataset) : Prop :=
  ∀ row ∈ rows, ∀ t ∈ dateOf column row, t.date.HasPlainYear

instance (column : String) (rows : Dataset) : Decidable (PlainDates column rows) :=
  inferInstanceAs (Decidable (∀ row ∈ rows, ∀ t ∈ dateOf column row, t.date.HasPlainYear))

/-- Every row of the first group has a date, and it is earlier than all dates of the second. -/
def Precedes (column : String) (first second : Group String Row) : Prop :=
  ∀ row ∈ first.entries, ∃ t, dateOf column row = some t ∧
    ∀ other ∈ second.entries, ∀ u, dateOf column other = some u → compare t u = .lt

/-- The dates of a group lie in one interval, or none of its rows has a date. -/
def Together (interval : Interval) (column : String) (group : Group String Row) : Prop :=
  ∀ row ∈ group.entries, ∀ other ∈ group.entries,
    Option.Rel (fun t u => interval.Shares t.date u.date) (dateOf column row) (dateOf column other)

theorem keyOf_of_date {row : Row} {t : Timestamp} (h : dateOf column row = some t) :
    interval.keyOf (row.value column) = interval.key t := by
  rw [Interval.keyOf, show (row.value column).date? = some t from h]

theorem keyOf_of_none {row : Row} (h : dateOf column row = none) :
    interval.keyOf (row.value column) = Interval.unknownKey := by
  rw [Interval.keyOf, show (row.value column).date? = none from h]

theorem keyOf_le_unknownKey (row : Row) :
    interval.keyOf (row.value column) ≤ Interval.unknownKey := by
  cases hdate : dateOf column row with
  | none => rw [keyOf_of_none hdate]
  | some t => rw [keyOf_of_date hdate]; exact (Interval.key_lt_unknownKey t).le

theorem of_mem_byInterval {group : Group String Row} {row : Row}
    (h : group ∈ byInterval column interval rows) (hrow : row ∈ group.entries) :
    row ∈ rows ∧ interval.keyOf (row.value column) = group.key := by
  rw [entries_of_mem_groupBy h, List.mem_filter] at hrow
  exact ⟨hrow.1, of_decide_eq_true hrow.2⟩

theorem precedes_of_key_lt (plain : PlainDates column rows)
    (hfirst : first ∈ byInterval column interval rows)
    (hsecond : second ∈ byInterval column interval rows) (h : first.key < second.key) :
    Precedes column first second := by
  intro row hrow
  obtain ⟨hin, hkey⟩ := of_mem_byInterval hfirst hrow
  cases hdate : dateOf column row with
  | none =>
    -- the key of the group is then the last of all keys
    obtain ⟨other, -, hother⟩ := exists_head_of_mem_groupBy hsecond
    rw [keyOf_of_none hdate] at hkey
    have hlast : interval.keyOf (other.value column) ≤ Interval.unknownKey :=
      keyOf_le_unknownKey other
    rw [hother, hkey] at hlast
    exact absurd h (not_lt.mpr hlast)
  | some t =>
    refine ⟨t, rfl, fun other hmem u hu => ?_⟩
    obtain ⟨hotherIn, hotherKey⟩ := of_mem_byInterval hsecond hmem
    rw [keyOf_of_date hdate] at hkey
    rw [keyOf_of_date hu] at hotherKey
    by_contra hlate
    have hle : u.key ≤ t.key := not_lt.mp fun hlt => hlate (compare_lt_iff_lt.mpr hlt)
    have hkeys : interval.key u ≤ interval.key t :=
      Interval.key_mono (plain other hotherIn u hu) (plain row hin t hdate) hle
    rw [hkey, hotherKey] at hkeys
    exact absurd h (not_lt.mpr hkeys)

theorem together_of_mem (plain : PlainDates column rows) {group : Group String Row}
    (h : group ∈ byInterval column interval rows) : Together interval column group := by
  intro row hrow other hother
  obtain ⟨hin, hkey⟩ := of_mem_byInterval h hrow
  obtain ⟨hotherIn, hotherKey⟩ := of_mem_byInterval h hother
  rw [← hotherKey] at hkey
  cases hdate : dateOf column row with
  | none =>
    cases hotherDate : dateOf column other with
    | none => exact Option.Rel.none
    | some u =>
      rw [keyOf_of_none hdate, keyOf_of_date hotherDate] at hkey
      exact absurd hkey.symm (Interval.key_lt_unknownKey u).ne
  | some t =>
    cases hotherDate : dateOf column other with
    | none =>
      rw [keyOf_of_date hdate, keyOf_of_none hotherDate] at hkey
      exact absurd hkey (Interval.key_lt_unknownKey t).ne
    | some u =>
      rw [keyOf_of_date hdate, keyOf_of_date hotherDate] at hkey
      exact Option.Rel.some
        ((Interval.key_inj (plain row hin t hdate) (plain other hotherIn u hotherDate)).mp hkey)

/-- Keys of points in time are equal just in one interval, follow the order of time, and come before
the key of what is no date. Groups by interval therefore have the rows of one interval each, in
the order of time, with the rows that have no date last. -/
theorem keys_tell_intervals_in_order (interval : Interval) :
    (∀ s t : Timestamp, s.date.HasPlainYear → t.date.HasPlainYear →
      (interval.key s = interval.key t ↔ interval.Shares s.date t.date) ∧
      (compare s t = .lt → ¬ interval.key t < interval.key s)) ∧
    (∀ t : Timestamp, interval.key t < Interval.unknownKey) ∧
    ∀ (column : String) (rows : Dataset), PlainDates column rows →
      ((byInterval column interval rows).flatMap Group.entries).Perm rows ∧
      (byInterval column interval rows).Pairwise (Precedes column) ∧
      ∀ group ∈ byInterval column interval rows, Together interval column group := by
  refine ⟨fun s t plainS plainT => ⟨Interval.key_inj plainS plainT, fun hlt => ?_⟩,
    Interval.key_lt_unknownKey, fun column rows plain => ⟨flatMap_groupBy_perm _ _, ?_, ?_⟩⟩
  · have hle : s.key ≤ t.key := (compare_lt_iff_lt.mp hlt).le
    exact not_lt.mpr (Interval.key_mono plainS plainT hle)
  · have hascending : Ascending (byInterval column interval rows) := ascending_groupBy _ _
    exact hascending.imp_of_mem fun hfirst hsecond hlt =>
      precedes_of_key_lt plain hfirst hsecond hlt
  · exact fun group hgroup => together_of_mem plain hgroup

def newYearsEve : Timestamp := .ofDate ⟨2024, 12, 31, by decide⟩

def newYear : Timestamp := .ofDate ⟨2025, 1, 1, by decide⟩

/-- Two days of one week in two years, and a row that has no date. -/
def aroundNewYear : Dataset :=
  [Row.ofCells [("day", .date newYear)], Row.ofCells [("day", .text "soon")],
    Row.ofCells [("day", .date newYearsEve)]]

theorem weeks_end_with_years :
    (newYearsEve.date.HasPlainYear ∧ newYear.date.HasPlainYear ∧ compare newYearsEve newYear = .lt ∧
      PlainDates "day" aroundNewYear) ∧
    newYearsEve.date.monday = newYear.date.monday ∧
    (Interval.week.key newYearsEve = Interval.week.key newYear ↔
      Interval.week.Shares newYearsEve.date newYear.date) ∧
    ¬ Interval.week.key newYear < Interval.week.key newYearsEve ∧
    (byInterval "day" .week aroundNewYear).Pairwise (Precedes "day") := by
  have heve : newYearsEve.date.HasPlainYear := by decide
  have hnew : newYear.date.HasPlainYear := by decide
  have hlt : compare newYearsEve newYear = .lt := by decide
  have hplain : PlainDates "day" aroundNewYear := by decide +kernel
  obtain ⟨hkeys, -, hgroups⟩ := keys_tell_intervals_in_order .week
  obtain ⟨hsame, horder⟩ := hkeys newYearsEve newYear heve hnew
  exact ⟨⟨heve, hnew, hlt, hplain⟩, by decide, hsame, horder hlt, (hgroups "day" _ hplain).2.1⟩

end Grouping

end TableTalk
