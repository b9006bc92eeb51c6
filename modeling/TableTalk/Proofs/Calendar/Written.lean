import TableTalk.Proofs.Calendar.IntervalKeys
import TableTalk.Proofs.Calendar.Shapes
import TableTalk.Proofs.Json.Quoting
import TableTalk.Proofs.Text.Trimming
import TableTalk.Value

/-!
# Dates as they are written

A timestamp is written down to the second, and the first of the shapes with a time of day
reads the text again, whatever the year: the internet form does not fit, as there is no
offset. What is read is the timestamp without its fraction of a second. Leap seconds keep
their place, since all that is ever read ends its minute with them.
-/

namespace TableTalk

namespace Calendar

open TableTalk.Decimal (digitsValue)
open TableTalk.Text (isBlank)

section Texts

variable {n width : Nat} {rest : List Char} {shape : List Item} {parts : Parts}

theorem digitsValue_padded (width n : Nat) : digitsValue (padded width n).toList = n := by
  show Nat.ofDigitChars 10 (padded width n).toList 0 = n
  rw [toList_padded, Nat.ofDigitChars_append, Nat.ofDigitChars_replicate_zero, Nat.mul_zero,
    Decimal.digitText, Nat.ofDigitChars_ten_toDigits]

theorem isDigits_padded : IsDigits (padded width n).toList := fun _ => isDigit_of_mem_padded

/-- Two digits are read as the number that they were written for. -/
theorem readShape?_padded {field : Field} (fits : n < 100) (stops : Stops Char.isDigit rest) :
    readShape? (.number field :: shape) parts ((padded 2 n).toList ++ rest) =
      readShape? shape (field.set n parts) rest := by
  have hlength : (padded 2 n).toList.length = 2 := length_padded (by decide) fits
  rw [readShape?_number isDigits_padded padded_ne_nil hlength.le stops, digitsValue_padded]

/-- Behind a sign the digits of a year are read to the last. -/
theorem number?_signed (stops : Stops Char.isDigit rest) :
    number? 1 ((padded 4 n).toList ++ rest).length ((padded 4 n).toList ++ rest) =
      some (n, rest) := by
  have hlength : (padded 4 n).toList.length ≤ ((padded 4 n).toList ++ rest).length := by
    rw [List.length_append]
    exact Nat.le_add_right _ _
  rw [number?_append isDigits_padded (List.length_pos_iff.mpr padded_ne_nil) hlength (Or.inr stops),
    digitsValue_padded]

theorem year?_minus (cs : List Char) : year? ('-' :: cs) =
    (number? 1 cs.length cs).map fun (n, rest) => (-(n : Int), rest) := by
  rw [year?, dropWhile_of_stops (stops_cons.mpr (by decide))]
  rfl

theorem year?_plus (cs : List Char) : year? ('+' :: cs) =
    (number? 1 cs.length cs).map fun (n, rest) => ((n : Int), rest) := by
  rw [year?, dropWhile_of_stops (stops_cons.mpr (by decide))]
  rfl

/-- Years are read as they are written, with four digits or with a sign. -/
theorem readShape?_yearText (year : Int) (stops : Stops Char.isDigit rest) :
    readShape? (.year :: shape) parts ((yearText year).toList ++ rest) =
      readShape? shape { parts with year := year } rest := by
  by_cases hplain : 0 ≤ year ∧ year ≤ 9999
  · have hlength : (padded 4 year.toNat).toList.length = 4 := length_padded (by decide) (by omega)
    rw [yearText, if_pos hplain, readShape?_year isDigits_padded padded_ne_nil hlength.le stops,
      digitsValue_padded, Int.toNat_of_nonneg hplain.1]
  · have hyear : year? ((yearText year).toList ++ rest) = some (year, rest) := by
      rw [yearText, if_neg hplain, String.toList_append, List.append_assoc]
      by_cases hnegative : year < 0
      · rw [if_pos hnegative, show "-".toList = ['-'] from rfl, List.singleton_append, year?_minus,
          number?_signed stops, Option.map_some]
        exact congrArg (fun y => some (y, rest)) (show -(year.natAbs : Int) = year by omega)
      · rw [if_neg hnegative, show "+".toList = ['+'] from rfl, List.singleton_append, year?_plus,
          number?_signed stops, Option.map_some]
        exact congrArg (fun y => some (y, rest)) (show (year.natAbs : Int) = year by omega)
    rw [readShape?_cons, Item.read?, hyear]
    rfl

theorem mem_yearText {year : Int} {c : Char} (h : c ∈ (yearText year).toList) :
    c.isDigit = true ∨ c = '-' ∨ c = '+' := by
  unfold yearText at h
  split at h
  · exact Or.inl (isDigit_of_mem_padded h)
  · rw [String.toList_append, List.mem_append] at h
    rcases h with hsign | hdigit
    · right
      split at hsign
      · exact Or.inl (List.mem_singleton.mp hsign)
      · exact Or.inr (List.mem_singleton.mp hsign)
    · exact Or.inl (isDigit_of_mem_padded hdigit)

/-- A text is no whole number if anything but digits and signs is in it. -/
theorem isWholeNumber_eq_false_of_mem {cs : List Char} {c : Char} (hc : c ∈ cs)
    (other : c.isDigit = false) (unsigned : (c == '-' || c == '+') = false) :
    isWholeNumber cs = false := by
  rw [isWholeNumber, List.all_eq_false]
  refine ⟨c, ?_, by simp [other]⟩
  rw [← List.takeWhile_append_dropWhile (p := fun c => c == '-' || c == '+') (l := cs),
    List.mem_append] at hc
  refine hc.resolve_left fun hfront => ?_
  have hsign := List.mem_takeWhile_imp hfront
  rw [unsigned] at hsign
  cases hsign

theorem internet?_of_stops {cs : List Char} (stops : Stops Char.isDigit cs) :
    internet? cs = none := by
  rw [internet?, number?_of_stops (by decide) stops]
  rfl

end Texts

namespace Time

/-- Leap seconds stand at the end of a minute. -/
def IsRegular (time : Time) : Prop :=
  1000000000 ≤ time.nanosecond → time.second % 60 = 59

instance (time : Time) : Decidable time.IsRegular :=
  inferInstanceAs (Decidable (_ → _))

/-- The time without its fraction of a second. -/
def wholeSecond (time : Time) : Time where
  second := time.second
  nanosecond := time.nanosecond / 1000000000 * 1000000000
  second_lt := time.second_lt
  nanosecond_lt := by
    have hlt := time.nanosecond_lt
    omega

theorem isRegular_of_ofParts? {hour minute second nanosecond : Nat} {time : Time}
    (h : ofParts? hour minute second nanosecond = some time) : time.IsRegular := by
  unfold ofParts? at h
  split at h
  case isFalse => cases h
  case isTrue hrange =>
    split at h
    all_goals
      obtain rfl := Option.some.inj h
      intro hleap
      dsimp only at hleap ⊢
      omega

/-- A regular time is named by its parts, the leap second as the sixtieth of its minute. -/
theorem ofParts?_wholeSecond {time : Time} (regular : time.IsRegular) :
    ofParts? (time.second / 3600) (time.second / 60 % 60)
      (time.second % 60 + time.nanosecond / 1000000000) 0 = some time.wholeSecond := by
  have hsecond := time.second_lt
  have hnanosecond := time.nanosecond_lt
  unfold IsRegular at regular
  have hrange : time.second / 3600 < 24 ∧ time.second / 60 % 60 < 60 ∧
      time.second % 60 + time.nanosecond / 1000000000 ≤ 60 ∧ 0 < 1000000000 := by omega
  rw [ofParts?, dif_pos hrange]
  split
  all_goals
    rw [Option.some.injEq, wholeSecond, mk.injEq]
    omega

end Time

namespace Timestamp

/-- The timestamp without its fraction of a second. -/
def wholeSecond (t : Timestamp) : Timestamp := ⟨t.date, t.time.wholeSecond⟩

theorem wholeSecond_eq_self_iff {t : Timestamp} :
    t.wholeSecond = t ↔ t.time.nanosecond % 1000000000 = 0 := by
  obtain ⟨date, second, nanosecond, hsecond, hnanosecond⟩ := t
  simp only [wholeSecond, Time.wholeSecond, mk.injEq, Time.mk.injEq, true_and]
  omega

/-- Shifts by whole minutes leave leap seconds at the end of theirs. -/
theorem isRegular_minusSeconds {t : Timestamp} {seconds : Int} (minutes : 60 ∣ seconds)
    (regular : t.time.IsRegular) : (t.minusSeconds seconds).time.IsRegular := by
  intro hleap
  have hsecond := regular hleap
  show (((t.time.second : Int) - seconds) % 86400).toNat % 60 = 59
  omega

/-- The parts that the text of a timestamp names. -/
def parts (t : Timestamp) : Parts where
  year := t.date.year
  month := t.date.month
  day := t.date.day
  hour := t.time.second / 3600
  minute := t.time.second / 60 % 60
  second := t.time.second % 60 + t.time.nanosecond / 1000000000

theorem parts_lt (t : Timestamp) :
    t.parts.hour < 100 ∧ t.parts.minute < 100 ∧ t.parts.second < 100 := by
  have hsecond := t.time.second_lt
  have hnanosecond := t.time.nanosecond_lt
  show t.time.second / 3600 < 100 ∧ t.time.second / 60 % 60 < 100 ∧
    t.time.second % 60 + t.time.nanosecond / 1000000000 < 100
  omega

theorem timestamp?_parts {t : Timestamp} (regular : t.time.IsRegular) :
    t.parts.timestamp? = some t.wholeSecond := by
  have hdate : Date.ofParts? t.parts.year t.parts.month t.parts.day = some t.date :=
    dif_pos t.date.isDay
  have htime : Time.ofParts? t.parts.hour t.parts.minute t.parts.second t.parts.nanosecond =
      some t.time.wholeSecond := Time.ofParts?_wholeSecond regular
  rw [Parts.timestamp?, hdate, htime]
  rfl

theorem toList_text (t : Timestamp) : t.text.toList =
    (yearText t.date.year).toList ++ '-' :: ((padded 2 t.date.month).toList ++
      '-' :: ((padded 2 t.date.day).toList ++ 'T' :: ((padded 2 t.parts.hour).toList ++
        ':' :: ((padded 2 t.parts.minute).toList ++
          ':' :: (padded 2 t.parts.second).toList)))) := by
  simp [text, Date.text, Time.text, parts, String.toList_append]

theorem length_text {t : Timestamp} (plain : t.date.HasPlainYear) :
    t.text.toList.length = 19 := by
  obtain ⟨hnonneg, hle⟩ := plain
  obtain ⟨hhour, hminute, hsecond⟩ := t.parts_lt
  have hmonth := t.date.month_bounds
  have hday := t.date.day_bounds
  have hwidth {n : Nat} (fits : n < 100) : (padded 2 n).toList.length = 2 :=
    length_padded (by decide) fits
  have hyear : (padded 4 t.date.year.toNat).toList.length = 4 :=
    length_padded (by decide) (by omega)
  simp only [toList_text, yearText, if_pos (And.intro hnonneg hle), List.length_append,
    List.length_cons, hyear, hwidth hhour, hwidth hminute, hwidth hsecond,
    hwidth (show t.date.month < 100 by omega), hwidth (show t.date.day < 100 by omega)]

/-- The shape of the text, which is the first of those with a time of day. -/
theorem readShape?_text (t : Timestamp) :
    readShape? (yearFirst '-' ++ .literal 'T' :: toSecond ++ [.fraction]) {} t.text.toList =
      some t.parts := by
  obtain ⟨hhour, hminute, hsecond⟩ := t.parts_lt
  have hmonth := t.date.month_bounds
  have hday := t.date.day_bounds
  have hstops {c : Char} (cs : List Char) (hc : c.isDigit = false) :
      Stops Char.isDigit (c :: cs) := stops_cons.mpr hc
  show readShape? (.year :: .literal '-' :: .number .month :: .literal '-' :: .number .day ::
    .literal 'T' :: .number .hour :: .literal ':' :: .number .minute :: .literal ':' ::
    .number .second :: .fraction :: []) {} _ = _
  rw [toList_text, readShape?_yearText _ (hstops _ rfl), readShape?_literal,
    readShape?_padded (by omega) (hstops _ rfl), readShape?_literal,
    readShape?_padded (by omega) (hstops _ rfl), readShape?_literal,
    readShape?_padded hhour (hstops _ rfl), readShape?_literal,
    readShape?_padded hminute (hstops _ rfl), readShape?_literal,
    ← List.append_nil (padded 2 t.parts.second).toList, readShape?_padded hsecond stops_nil,
    readShape?_fraction_of_stops stops_nil, readShape?_nil]
  rfl

theorem mem_text {t : Timestamp} {c : Char} (h : c ∈ t.text.toList) :
    c.isDigit = true ∨ c ∈ ['-', '+', 'T', ':'] := by
  rw [toList_text] at h
  simp only [List.mem_append, List.mem_cons] at h
  rcases h with hyear | rfl | hmonth | rfl | hday | rfl | hhour | rfl | hminute | rfl | hsecond
  · exact (mem_yearText hyear).imp_right fun hsign => by
      rcases hsign with rfl | rfl <;> decide
  · exact Or.inr (by decide)
  · exact Or.inl (isDigit_of_mem_padded hmonth)
  · exact Or.inr (by decide)
  · exact Or.inl (isDigit_of_mem_padded hday)
  · exact Or.inr (by decide)
  · exact Or.inl (isDigit_of_mem_padded hhour)
  · exact Or.inr (by decide)
  · exact Or.inl (isDigit_of_mem_padded hminute)
  · exact Or.inr (by decide)
  · exact Or.inl (isDigit_of_mem_padded hsecond)

theorem stripWhile_text (t : Timestamp) :
    Text.stripWhile isBlank t.text.toList = t.text.toList := by
  have hmarks : ∀ c ∈ ['-', '+', 'T', ':'], isBlank c = false := by simp [isBlank]
  exact Text.stripWhile_of_none fun c hc =>
    (mem_text hc).elim not_isBlank_of_isDigit (hmarks c)

theorem isWholeNumber_text (t : Timestamp) : isWholeNumber t.text.toList = false := by
  have hcolon : ':' ∈ t.text.toList := by simp [toList_text]
  exact isWholeNumber_eq_false_of_mem hcolon rfl rfl

/-- The internet form is longer than the text of a plain year, and does not begin with a sign. -/
theorem internet?_text (t : Timestamp) : internet? t.text.toList = none := by
  by_cases hplain : t.date.HasPlainYear
  · rw [Option.eq_none_iff_forall_ne_some]
    intro other hother
    obtain ⟨-, -, zone, offset, -, ⟨-, hlong⟩, hoffset, -⟩ := exists_of_internet? hother
    have hlength : t.text.toList.length = 19 := length_text hplain
    have hzone : zone = [] := List.length_eq_zero_iff.mp (by omega)
    rw [hzone] at hoffset
    cases hoffset
  · refine internet?_of_stops ?_
    have hsigned : ¬ (0 ≤ t.date.year ∧ t.date.year ≤ 9999) := hplain
    rw [toList_text, yearText, if_neg hsigned, String.toList_append]
    split <;> exact stops_cons.mpr rfl

/-- The text of a regular timestamp is read as the timestamp to the second. -/
theorem read?_text {t : Timestamp} (regular : t.time.IsRegular) :
    Calendar.read? t.text = some t.wholeSecond := by
  have hshape : timestamp? t.text.toList
      (yearFirst '-' ++ .literal 'T' :: toSecond ++ [.fraction]) = some t.wholeSecond := by
    rw [timestamp?, readShape?_text]
    exact timestamp?_parts regular
  have hfirst : timestampShapes.findSome? (timestamp? t.text.toList) = some t.wholeSecond := by
    rw [timestampShapes, List.findSome?_cons, hshape]
  simp only [Calendar.read?, stripWhile_text, isWholeNumber_text, internet?_text, hfirst]
  rfl

end Timestamp

section Reading

variable {parts : Parts} {cs : List Char} {shape : List Item} {t : Timestamp}

theorem isRegular_of_parts (h : parts.timestamp? = some t) : t.time.IsRegular := by
  obtain ⟨date, -, h⟩ := Option.bind_eq_some_iff.mp h
  obtain ⟨time, htime, h⟩ := Option.bind_eq_some_iff.mp h
  obtain rfl := Option.some.inj h
  exact Time.isRegular_of_ofParts? htime

/-- Whatever is read is regular. -/
theorem isRegular_of_read? {text : String} (h : read? text = some t) : t.time.IsRegular := by
  simp only [read?] at h
  split at h
  · cases h
  simp only [Option.orElse_eq_orElse, Option.orElse_eq_or, Option.or_eq_some_iff] at h
  rcases h with hinternet | ⟨-, htimestamp | ⟨-, hdate⟩⟩
  · obtain ⟨parts, moment, zone, offset, -, -, hoffset, hmoment, rfl⟩ :=
      exists_of_internet? hinternet
    exact Timestamp.isRegular_minusSeconds (takes_of_offset? hoffset).2 (isRegular_of_parts hmoment)
  · obtain ⟨shape, -, hshape⟩ := List.exists_of_findSome?_eq_some htimestamp
    obtain ⟨parts, -, hparts⟩ := Option.bind_eq_some_iff.mp hshape
    exact isRegular_of_parts hparts
  · obtain ⟨shape, -, hshape⟩ := List.exists_of_findSome?_eq_some hdate
    obtain ⟨parts, -, hparts⟩ := Option.bind_eq_some_iff.mp hshape
    obtain ⟨date, -, hmidnight⟩ := Option.bind_eq_some_iff.mp hparts
    obtain rfl := Option.some.inj hmidnight
    have hmidnight : Time.midnight.IsRegular := by decide
    exact hmidnight

end Reading

end Calendar

namespace Value

open Calendar (Timestamp)

/-- The value that is read back from the JSON text of another. -/
def throughJson (value : Value) : Option Value :=
  (Json.read? value.toJson.compact).bind read?

theorem throughJson_date (t : Timestamp) : (date t).throughJson = some (text t.text) := by
  rw [throughJson, toJson, Json.read?_compact_text]
  rfl

/-- A date that was read from a text and goes through a document is read back without its fraction
of a second: the same date and second, and a leap second if it was one. So it is the same date
just if it had no fraction. -/
theorem dates_return_to_the_second {raw : String} {t : Timestamp}
    (h : Calendar.read? raw = some t) :
    (date t).throughJson.bind date? = some t.wholeSecond ∧
      ((date t).throughJson.bind date? = some t ↔ t.time.nanosecond % 1000000000 = 0) := by
  have hback : (date t).throughJson.bind date? = some t.wholeSecond := by
    rw [throughJson_date, Option.bind_some, date?]
    exact Calendar.Timestamp.read?_text (Calendar.isRegular_of_read? h)
  refine ⟨hback, ?_⟩
  rw [hback, Option.some.injEq, Calendar.Timestamp.wholeSecond_eq_self_iff]

/-- Half of a leap second, in a year that is written with a sign. -/
def distantLeapSecond : Timestamp :=
  ⟨⟨-12345, 12, 31, by decide⟩, ⟨86399, 1500000000, by decide, by decide⟩⟩

theorem distant_leap_second_returns :
    Calendar.read? "-12345-12-31T23:59:60.5" = some distantLeapSecond ∧
    (date distantLeapSecond).throughJson = some (text "-12345-12-31T23:59:60") ∧
    ((date distantLeapSecond).throughJson.bind date? = some distantLeapSecond.wholeSecond ∧
      ((date distantLeapSecond).throughJson.bind date? = some distantLeapSecond ↔
        distantLeapSecond.time.nanosecond % 1000000000 = 0)) := by
  have hread : Calendar.read? "-12345-12-31T23:59:60.5" = some distantLeapSecond := by
    decide +kernel
  exact ⟨hread, by decide +kernel, dates_return_to_the_second hread⟩

/-- A quarter of a second past half past two. -/
def quarterSecond : Timestamp :=
  ⟨⟨2024, 5, 6, by decide⟩, ⟨52200, 250000000, by decide, by decide⟩⟩

theorem fraction_of_second_is_lost :
    Calendar.read? "2024-05-06T14:30:00.250" = some quarterSecond ∧
    (date quarterSecond).throughJson = some (text "2024-05-06T14:30:00") ∧
    (date quarterSecond).throughJson.bind date? ≠ some quarterSecond := by
  decide +kernel

end Value

end TableTalk
