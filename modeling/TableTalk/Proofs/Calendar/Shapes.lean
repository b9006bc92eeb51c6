import TableTalk.Proofs.Calendar.Readers

/-!
# Reading shapes from left to right

How each item of a shape goes on where the text begins with what it looks for, and which of
the shapes are left for a text of digits and a few separators.
-/

namespace TableTalk.Calendar

open TableTalk.Decimal (digitsValue)
open TableTalk.Text (isBlank isWordDigit)

variable {p : Char → Bool} {cs run rest : List Char} {c : Char}

@[simp]
theorem stops_nil : Stops p [] := by simp [Stops]

@[simp]
theorem stops_cons : Stops p (c :: cs) ↔ p c = false := by simp [Stops]

theorem dropWhile_of_stops (h : Stops p cs) : cs.dropWhile p = cs :=
  dropWhile_append (List.forall_mem_nil _) h

/-- Only ASCII digits. -/
def IsDigits (run : List Char) : Prop := ∀ c ∈ run, c.isDigit = true

theorem IsDigits.take (h : IsDigits run) (n : Nat) : IsDigits (run.take n) :=
  fun c hc => h c (List.mem_of_mem_take hc)

theorem IsDigits.drop (h : IsDigits run) (n : Nat) : IsDigits (run.drop n) :=
  fun c hc => h c (List.mem_of_mem_drop hc)

theorem Stops.mono {q : Char → Bool} (h : Stops q cs) (le : ∀ c, p c = true → q c = true) :
    Stops p cs := by
  intro c hc
  rw [← Bool.not_eq_true]
  exact fun hp => Bool.false_ne_true ((h c hc).symm.trans (le c hp))

theorem stops_append {q : Char → Bool} (all : ∀ c ∈ run, q c = true) (some : run ≠ [])
    (other : ∀ c, q c = true → p c = false) : Stops p (run ++ rest) := by
  cases run with
  | nil => exact absurd rfl some
  | cons c run => exact stops_cons.mpr (other c (all c (by simp)))

theorem IsDigits.stops (h : IsDigits run) (some : run ≠ [])
    (other : ∀ c, c.isDigit = true → p c = false) : Stops p (run ++ rest) :=
  stops_append h some other

theorem not_isBlank_of_isDigit (h : c.isDigit = true) : isBlank c = false :=
  Text.not_isBlank_of_isWordDigit (Text.isWordDigit_of_isDigit h)

theorem ne_of_isDigit {d : Char} (h : c.isDigit = true) (hd : d.isDigit = false) : c ≠ d := by
  rintro rfl
  rw [h] at hd
  cases hd

theorem digitsValue_concat (run : List Char) (c : Char) :
    digitsValue (run ++ [c]) = 10 * digitsValue run + (c.toNat - '0'.toNat) := by
  rw [digitsValue, List.foldl_append]
  rfl

theorem digitsValue_lt (h : IsDigits run) : digitsValue run < 10 ^ run.length := by
  induction run using List.reverseRecOn with
  | nil => simp [digitsValue]
  | append_singleton run c ih =>
    have hrest := ih fun d hd => h d (by simp [hd])
    have hdigit := Text.isDigit_iff_toNat.mp (h c (by simp))
    have hzero : '0'.toNat = 0x30 := rfl
    rw [digitsValue_concat, List.length_append, List.length_singleton, pow_succ]
    omega

/-- The digits of a fraction are read up to the last, and stand for less than a second. -/
theorem nanosecond?_append (digits : IsDigits run) (some : run ≠ [])
    (stops : Stops Char.isDigit rest) :
    ∃ n < 1000000000, nanosecond? (run ++ rest) = Option.some (n, rest) := by
  have hempty : run.isEmpty = false := by rwa [List.isEmpty_eq_false_iff]
  refine ⟨digitsValue (run.take 9) * 10 ^ (9 - (run.take 9).length), ?_, ?_⟩
  · have hkept : (run.take 9).length ≤ 9 := List.length_take_le 9 run
    calc digitsValue (run.take 9) * 10 ^ (9 - (run.take 9).length)
        < 10 ^ (run.take 9).length * 10 ^ (9 - (run.take 9).length) :=
          Nat.mul_lt_mul_of_pos_right (digitsValue_lt (digits.take 9)) (by positivity)
      _ = 10 ^ 9 := by rw [← pow_add, Nat.add_sub_cancel' hkept]
  · simp only [nanosecond?, takeWhile_append digits stops, hempty, Bool.false_eq_true, ↓reduceIte,
      List.drop_left]
    rfl

theorem literal?_cons (c : Char) (cs : List Char) : literal? c (c :: cs) = some cs := by
  simp [literal?]

theorem literal?_of_stops (h : Stops (c == ·) cs) :
    literal? c cs = none := by
  cases cs with
  | nil => rfl
  | cons d cs =>
    have hne : (c == d) = false := stops_cons.mp h
    simp [literal?, hne]

section Forward

variable {shape : List Item} {parts : Parts}

theorem readShape?_nil : readShape? [] parts [] = some parts := rfl

theorem readShape?_nil_eq_some {out : Parts} :
    readShape? [] parts cs = some out ↔ cs = [] ∧ out = parts := by
  cases cs with
  | nil => simp [readShape?, eq_comm]
  | cons c cs => simp [readShape?]

theorem readShape?_literal :
    readShape? (.literal c :: shape) parts (c :: cs) = readShape? shape parts cs := by
  simp [readShape?_cons, Item.read?]

theorem readShape?_literal_of_stops (h : Stops (c == ·) cs) :
    readShape? (.literal c :: shape) parts cs = none := by
  cases cs with
  | nil => rfl
  | cons d cs =>
    have hne : (c == d) = false := stops_cons.mp h
    simp [readShape?_cons, Item.read?, hne]

/-- At most two of some digits are read as a number. -/
theorem readShape?_number_take {field : Field} (digits : IsDigits run) (some : run ≠ [])
    (stops : Stops Char.isDigit rest) :
    readShape? (.number field :: shape) parts (run ++ rest) =
      readShape? shape (field.set (digitsValue (run.take 2)) parts) (run.drop 2 ++ rest) := by
  have hpos : 0 < run.length := List.length_pos_iff.mpr some
  have hblanks : (run ++ rest).dropWhile isBlank = run.take 2 ++ (run.drop 2 ++ rest) := by
    rw [dropWhile_of_stops (digits.stops some fun c => not_isBlank_of_isDigit), ← List.append_assoc,
      List.take_append_drop]
  have hnumber : number? 1 2 (run.take 2 ++ (run.drop 2 ++ rest)) =
      Option.some (digitsValue (run.take 2), run.drop 2 ++ rest) := by
    refine number?_append (digits.take 2) ?_ (List.length_take_le 2 run) ?_
    · rw [List.length_take]
      omega
    · by_cases hlong : run.length ≤ 2
      · rw [List.drop_of_length_le hlong]
        exact Or.inr stops
      · rw [List.length_take]
        omega
  rw [readShape?_cons, Item.read?, hblanks, hnumber]
  rfl

theorem readShape?_number {field : Field} (digits : IsDigits run) (some : run ≠ [])
    (short : run.length ≤ 2) (stops : Stops Char.isDigit rest) :
    readShape? (.number field :: shape) parts (run ++ rest) =
      readShape? shape (field.set (digitsValue run) parts) rest := by
  rw [readShape?_number_take digits some stops, List.take_of_length_le short,
    List.drop_of_length_le short, List.nil_append]

theorem readShape?_number_of_stops {field : Field} (blank : Stops isBlank cs)
    (stops : Stops Char.isDigit cs) : readShape? (.number field :: shape) parts cs = none := by
  rw [readShape?_cons, Item.read?, dropWhile_of_stops blank, number?_of_stops one_pos stops]
  rfl

theorem readShape?_year (digits : IsDigits run) (some : run ≠ []) (short : run.length ≤ 4)
    (stops : Stops Char.isDigit rest) :
    readShape? (.year :: shape) parts (run ++ rest) =
      readShape? shape { parts with year := digitsValue run } rest := by
  have hpos : 0 < run.length := List.length_pos_iff.mpr some
  have hnumber : number? 1 4 (run ++ rest) = Option.some (digitsValue run, rest) :=
    number?_append digits hpos short (Or.inr stops)
  have hyear : year? (run ++ rest) = Option.some ((digitsValue run : Int), rest) := by
    rw [year?, dropWhile_of_stops (digits.stops some fun c => not_isBlank_of_isDigit)]
    cases run with
    | nil => exact absurd rfl some
    | cons c run =>
      have hdigit : c.isDigit = true := digits c (by simp)
      split
      case h_1 heq => exact absurd (List.cons.inj heq).1 (ne_of_isDigit hdigit rfl)
      case h_2 heq => exact absurd (List.cons.inj heq).1 (ne_of_isDigit hdigit rfl)
      case h_3 => rw [hnumber]; rfl
  rw [readShape?_cons, Item.read?, hyear]
  rfl

theorem readShape?_space (blanks : ∀ c ∈ run, isBlank c = true) (stops : Stops isBlank rest) :
    readShape? (.space :: shape) parts (run ++ rest) = readShape? shape parts rest := by
  rw [readShape?_cons, Item.read?, dropWhile_append blanks stops]
  rfl

theorem readShape?_space_of_stops (stops : Stops isBlank cs) :
    readShape? (.space :: shape) parts cs = readShape? shape parts cs :=
  readShape?_space (List.forall_mem_nil _) stops

/-- Behind a space that can be missing, a number is read only from blanks or digits. -/
theorem stops_of_space_number {field : Field} {out : Parts}
    (h : readShape? (.space :: .number field :: shape) parts cs = some out) :
    Stops (fun c => !(isBlank c || c.isDigit)) cs := by
  cases cs with
  | nil => simp
  | cons c cs =>
    rw [stops_cons, Bool.not_eq_false']
    by_contra hother
    rw [Bool.not_eq_true, Bool.or_eq_false_iff] at hother
    rw [readShape?_space_of_stops (stops_cons.mpr hother.1),
      readShape?_number_of_stops (stops_cons.mpr hother.1) (stops_cons.mpr hother.2)] at h
    cases h

theorem readShape?_fraction (digits : IsDigits run) (some : run ≠ [])
    (stops : Stops Char.isDigit rest) : ∃ n < 1000000000,
    readShape? (.fraction :: shape) parts ('.' :: (run ++ rest)) =
      readShape? shape { parts with nanosecond := n } rest := by
  obtain ⟨n, hlt, hread⟩ := nanosecond?_append digits some stops
  refine ⟨n, hlt, ?_⟩
  rw [readShape?_cons, Item.read?]
  simp only [hread]
  rfl

theorem readShape?_fraction_of_stops (stops : Stops (· == '.') cs) :
    readShape? (.fraction :: shape) parts cs = readShape? shape parts cs := by
  cases cs with
  | nil => rfl
  | cons c cs =>
    have hne : c ≠ '.' := by simpa using stops
    have hread : Item.fraction.read? parts (c :: cs) = some (parts, c :: cs) := by
      simp [Item.read?, hne]
    rw [readShape?_cons, hread]
    rfl

/-- Items for months read the name of one. -/
theorem namesMonth_of_read? {item : Item} {out : Parts}
    (month : item = .month ∨ item = .shortMonth) (h : item.read? parts cs = some (out, rest)) :
    ∃ word n, cs = word ++ rest ∧ NamesMonth word n ∧ out = { parts with month := n } := by
  have hread : ∃ full n, monthName? full cs = some (n, rest) ∧ out = { parts with month := n } := by
    rcases month with rfl | rfl
    all_goals
      obtain ⟨⟨n, rest'⟩, hread, hn⟩ := Option.map_eq_some_iff.mp h
      obtain ⟨rfl, rfl⟩ := Prod.mk.inj hn
      exact ⟨_, n, hread, rfl⟩
  obtain ⟨full, n, hread, rfl⟩ := hread
  obtain ⟨word, hcs, hword⟩ := namesMonth_of_monthName? hread
  exact ⟨word, n, hcs, hword, rfl⟩

theorem readShape?_month {word : List Char} {month : Nat} (names : NamesMonth word month)
    (stops : Stops Char.isAlpha rest) :
    readShape? (.month :: shape) parts (word ++ rest) =
      readShape? shape { parts with month := month } rest := by
  rw [readShape?_cons, Item.read?, monthName?_append names stops]
  rfl

end Forward

/-- Day, month and year with dashes. -/
def dayFirst : List Item :=
  [.number .day, .literal '-', .number .month, .literal '-', .year]

theorem isSome_timestamp?_iff {parts : Parts} : parts.timestamp?.isSome = true ↔
    IsDay parts.year parts.month parts.day ∧ parts.hour < 24 ∧ parts.minute < 60 ∧
      parts.second ≤ 60 ∧ parts.nanosecond < 1000000000 := by
  have htime : (Time.ofParts? parts.hour parts.minute parts.second parts.nanosecond).isSome = true ↔
      parts.hour < 24 ∧ parts.minute < 60 ∧ parts.second ≤ 60 ∧ parts.nanosecond < 1000000000 := by
    rw [Time.ofParts?]
    split
    case isTrue h => simp only [h, and_self, iff_true]; split <;> rfl
    case isFalse h => simp [h]
  rw [← htime, Parts.timestamp?, Date.ofParts?]
  split
  case isTrue h =>
    cases Time.ofParts? parts.hour parts.minute parts.second parts.nanosecond <;> simp [h]
  case isFalse h => simp [h]

/-- A text is read if one of the shapes reads it and the parts exist. -/
theorem isSome_read?_iff {text : String} (trimmed : Text.stripWhile isBlank text.toList = cs) :
    (read? text).isSome = true ↔ isWholeNumber cs = false ∧
      ((internet? cs).isSome = true ∨
        (∃ shape ∈ timestampShapes, ∃ parts, readShape? shape {} cs = some parts ∧
          parts.timestamp?.isSome = true) ∨
        ∃ shape ∈ dateShapes, ∃ parts, readShape? shape {} cs = some parts ∧
          IsDay parts.year parts.month parts.day) := by
  have htimestamp (shape : List Item) : (timestamp? cs shape).isSome = true ↔
      ∃ parts, readShape? shape {} cs = some parts ∧ parts.timestamp?.isSome = true := by
    rw [timestamp?]
    cases readShape? shape {} cs <;> simp
  have hdate (shape : List Item) : (date? cs shape).isSome = true ↔
      ∃ parts, readShape? shape {} cs = some parts ∧ IsDay parts.year parts.month parts.day := by
    rw [date?]
    cases readShape? shape {} cs with
    | none => simp
    | some parts =>
      by_cases h : IsDay parts.year parts.month parts.day <;> simp [Date.ofParts?, h]
  simp only [read?, trimmed]
  cases isWholeNumber cs with
  | true => simp
  | false =>
    simp only [Bool.false_eq_true, ↓reduceIte, Option.orElse_eq_orElse, Option.orElse_eq_or,
      Option.isSome_or, Bool.or_eq_true, List.findSome?_isSome_iff, htimestamp, hdate, true_and]

section Candidates

variable {shape : List Item} {parts out : Parts}

theorem colon_of_timestampShapes (known : shape ∈ timestampShapes)
    (h : readShape? shape parts cs = some out) : ':' ∈ cs := by
  refine mem_of_readShape? h ?_
  simp only [timestampShapes, List.mem_cons, List.not_mem_nil, or_false] at known
  rcases known with rfl | rfl | rfl | rfl | rfl | rfl | rfl | rfl <;> simp [toSecond, toMinute]

/-- Dates have no place for a colon. -/
theorem no_colon_of_dateShapes (known : shape ∈ dateShapes)
    (h : readShape? shape parts cs = some out) : ':' ∉ cs := by
  have hnone : ∀ shape ∈ dateShapes, ∀ item ∈ shape, item.takes ':' = false := by decide +kernel
  intro hcolon
  obtain ⟨item, hitem, htakes⟩ := takes_of_readShape? h hcolon
  rw [hnone shape known item hitem] at htakes
  cases htakes

theorem exists_isAlpha (h : readShape? shape parts cs = some out)
    (month : .month ∈ shape ∨ .shortMonth ∈ shape) : ∃ c ∈ cs, c.isAlpha = true := by
  rcases month with hmem | hmem
  · exact exists_mem_of_readShape? h hmem rfl
  · exact exists_mem_of_readShape? h hmem rfl

/-- Digits and dashes are read with the year in front or at the end. -/
theorem shape_of_dashes (hcs : ∀ c ∈ cs, c.isDigit = true ∨ c = '-') (known : shape ∈ dateShapes)
    (h : readShape? shape parts cs = some out) : shape = yearFirst '-' ∨ shape = dayFirst := by
  have hslash : .literal '/' ∉ shape := fun hmem => by
    rcases hcs _ (mem_of_readShape? h hmem) with hc | hc <;> cases hc
  have hmonth : ¬(.month ∈ shape ∨ .shortMonth ∈ shape) := fun hmem => by
    obtain ⟨c, hc, hletter⟩ := exists_isAlpha h hmem
    rcases hcs c hc with hdigit | rfl
    · exact ne_of_isDigit hdigit (Text.not_isDigit_of_isAlpha hletter) rfl
    · cases hletter
  simp only [dateShapes, List.mem_cons, List.not_mem_nil, or_false] at known
  rcases known with rfl | rfl | rfl | rfl | rfl | rfl | rfl | rfl | rfl
  · exact Or.inl rfl
  · exact absurd (by simp [monthFirst]) hslash
  · exact Or.inr rfl
  · exact absurd (by simp [yearFirst]) hslash
  all_goals exact absurd (by simp) hmonth

/-- Slashes have a place in two shapes of dates only. -/
theorem shape_of_slash (hslash : '/' ∈ cs) (known : shape ∈ dateShapes)
    (h : readShape? shape parts cs = some out) : shape = monthFirst ∨ shape = yearFirst '/' := by
  have hany : shape.any (·.takes '/') = true := List.any_eq_true.mpr (takes_of_readShape? h hslash)
  simp only [dateShapes, List.mem_cons, List.not_mem_nil, or_false] at known
  rcases known with rfl | rfl | rfl | rfl | rfl | rfl | rfl | rfl | rfl
  case inr.inl => exact Or.inl rfl
  case inr.inr.inr.inl => exact Or.inr rfl
  all_goals exact absurd hany (by decide)

/-- A comma has a place only between a month's name with a day and a year. -/
theorem shape_of_comma (hcomma : ',' ∈ cs) (known : shape ∈ dateShapes)
    (h : readShape? shape parts cs = some out) : ∃ item, (item = .month ∨ item = .shortMonth) ∧
      shape = [item, .space, .number .day, .literal ',', .space, .year] := by
  have hany : shape.any (·.takes ',') = true := List.any_eq_true.mpr (takes_of_readShape? h hcomma)
  simp only [dateShapes, List.mem_cons, List.not_mem_nil, or_false] at known
  rcases known with rfl | rfl | rfl | rfl | rfl | rfl | rfl | rfl | rfl
  case inr.inr.inr.inr.inl => exact ⟨_, Or.inr rfl, rfl⟩
  case inr.inr.inr.inr.inr.inl => exact ⟨_, Or.inl rfl, rfl⟩
  all_goals exact absurd hany (by decide)

/-- No text with a digit of another script is read. -/
theorem isPlain_of_read? {text : String} (trimmed : Text.stripWhile isBlank text.toList = cs)
    (h : (read? text).isSome = true) : ∀ c ∈ cs, isPlain c = true := by
  rcases ((isSome_read?_iff trimmed).mp h).2 with
    hinternet | ⟨shape, hshape, parts, hread, -⟩ | ⟨shape, hshape, parts, hread, -⟩
  · obtain ⟨t, ht⟩ := Option.isSome_iff_exists.mp hinternet
    exact fun c hc => ((isPlain_of_internet? ht).2.mem_or hc).resolve_right List.not_mem_nil
  · exact fun c => isPlain_of_readShape? (List.mem_append_left _ hshape) hread
  · exact fun c => isPlain_of_readShape? (List.mem_append_right _ hshape) hread

/-- A text without a colon is read as a date or not at all. -/
theorem isSome_read?_of_date {text : String} (trimmed : Text.stripWhile isBlank text.toList = cs)
    (colon : ':' ∉ cs) : (read? text).isSome = true ↔ isWholeNumber cs = false ∧
      ∃ shape ∈ dateShapes, ∃ parts, readShape? shape {} cs = some parts ∧
        IsDay parts.year parts.month parts.day := by
  rw [isSome_read?_iff trimmed, and_congr_right_iff]
  refine fun _ => ⟨?_, fun h => Or.inr (Or.inr h)⟩
  rintro (hinternet | ⟨shape, hshape, parts, hread, -⟩ | hdate)
  · obtain ⟨t, ht⟩ := Option.isSome_iff_exists.mp hinternet
    exact absurd (isPlain_of_internet? ht).1 colon
  · exact absurd (colon_of_timestampShapes hshape hread) colon
  · exact hdate

/-- A text with a colon is read as a date with a time or not at all. -/
theorem isSome_read?_of_time {text : String} (trimmed : Text.stripWhile isBlank text.toList = cs)
    (colon : ':' ∈ cs) : (read? text).isSome = true ↔ isWholeNumber cs = false ∧
      ((internet? cs).isSome = true ∨ ∃ shape ∈ timestampShapes, ∃ parts,
        readShape? shape {} cs = some parts ∧ parts.timestamp?.isSome = true) := by
  rw [isSome_read?_iff trimmed, and_congr_right_iff]
  refine fun _ => ⟨?_, fun h => h.imp_right Or.inl⟩
  rintro (hinternet | htimestamp | ⟨shape, hshape, parts, hread, -⟩)
  · exact Or.inl hinternet
  · exact Or.inr htimestamp
  · exact absurd colon (no_colon_of_dateShapes hshape hread)

/-- What can follow hours and minutes in a shape. -/
def clockTails : List (List Item) :=
  [[], [.literal ':', .number .second], [.literal ':', .number .second, .fraction]]

/-- What stands between date and time: a space, or a letter. -/
def between (spaced : Bool) : Item := if spaced then .space else .literal 'T'

/-- The shapes with a time of day have the year in front, apart from those with slashes. -/
theorem timestampShapes_cases (known : shape ∈ timestampShapes) : .literal '/' ∈ shape ∨
    ∃ spaced, ∃ tail ∈ clockTails, shape = yearFirst '-' ++ between spaced :: (toMinute ++ tail) := by
  simp only [timestampShapes, List.mem_cons, List.not_mem_nil, or_false] at known
  rcases known with rfl | rfl | rfl | rfl | rfl | rfl | rfl | rfl
  · exact Or.inr ⟨false, clockTails[2], by simp [clockTails], rfl⟩
  · exact Or.inr ⟨false, clockTails[1], by simp [clockTails], rfl⟩
  · exact Or.inr ⟨true, clockTails[2], by simp [clockTails], rfl⟩
  · exact Or.inr ⟨true, clockTails[1], by simp [clockTails], rfl⟩
  · exact Or.inr ⟨false, clockTails[0], by simp [clockTails], rfl⟩
  · exact Or.inr ⟨true, clockTails[0], by simp [clockTails], rfl⟩
  · exact Or.inl (by simp [monthFirst])
  · exact Or.inl (by simp [monthFirst])

theorem mem_timestampShapes (spaced : Bool) {tail : List Item} (htail : tail ∈ clockTails) :
    yearFirst '-' ++ between spaced :: (toMinute ++ tail) ∈ timestampShapes := by
  simp only [clockTails, List.mem_cons, List.not_mem_nil, or_false] at htail
  cases spaced <;> rcases htail with rfl | rfl | rfl <;>
    simp [timestampShapes, yearFirst, toSecond, toMinute, between]

end Candidates

/-- A text is no whole number if something else than a digit is in it. -/
theorem isWholeNumber_eq_false (stops : Stops (fun c => c == '-' || c == '+') cs) (hc : c ∈ cs)
    (other : c.isDigit = false) : isWholeNumber cs = false := by
  rw [isWholeNumber, dropWhile_of_stops stops, List.all_eq_false]
  exact ⟨c, hc, by simp [other]⟩

end TableTalk.Calendar
