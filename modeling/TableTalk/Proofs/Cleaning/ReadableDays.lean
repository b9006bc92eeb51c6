import TableTalk.Proofs.Calendar.Shapes
import TableTalk.Proofs.Cleaning.DateForms

/-!
# Which dates without a time of day can be read

What the readers ask of a date beyond its shape, once its digits are ASCII digits: a day that
exists, and for a month's word the name of a month without a point.
-/

namespace TableTalk.Cleaning

open TableTalk.Calendar
open TableTalk.Decimal (digitsValue)
open TableTalk.Text (isBlank isWordDigit)

/-- Whether there is such a day. -/
def DashedDay.Exists (date : DashedDay) : Prop :=
  IsDay (digitsValue date.year) (digitsValue date.month) (digitsValue date.day)

section Parts

variable {least most : Nat} {cs rest : List Char} {shape : List Item} {parts : Parts}

theorem isDigits_of_plain {lengths : ℕ → Prop}
    (run : {part // part ∈ Text.Scanner.runs lengths isWordDigit})
    (plain : ∀ c ∈ run.val, isPlain c = true) : IsDigits run := by
  intro c hc
  have hdigit : isWordDigit c = true := run.property.2 c hc
  simpa [isPlain, hdigit] using plain c hc

theorem ne_nil (digits : Digits least most) (pos : 0 < least) : digits.val ≠ [] := by
  have hleast : least ≤ digits.val.length := digits.property.1.1
  exact List.length_pos_iff.mp (by omega)

theorem length_le (digits : Digits least most) : digits.val.length ≤ most :=
  digits.property.1.2

theorem not_mem_run {lengths : ℕ → Prop} {p : Char → Bool} {c : Char}
    (run : {part // part ∈ Text.Scanner.runs lengths p}) (h : p c = false) : c ∉ run.val :=
  fun hc => Bool.false_ne_true (h.symm.trans (run.property.2 c hc))

theorem number?_digits {n : ℕ} (digits : Digits n n) (plain : IsDigits digits) (rest : List Char) :
    number? n n (digits ++ rest) = some (digitsValue digits, rest) :=
  number?_append plain digits.property.1.1 (length_le digits)
    (Or.inl (le_antisymm (length_le digits) digits.property.1.1))

/-- Whether the digits of a date are ASCII digits. -/
structure DashedDay.Plain (date : DashedDay) : Prop where
  year : IsDigits date.year
  month : IsDigits date.month
  day : IsDigits date.day

theorem DashedDay.plain_of_chars {date : DashedDay}
    (plain : ∀ c ∈ date.chars, isPlain c = true) : date.Plain := by
  refine ⟨isDigits_of_plain _ fun c hc => ?_, isDigits_of_plain _ fun c hc => ?_,
    isDigits_of_plain _ fun c hc => ?_⟩
  all_goals exact plain c (by simp [DashedDay.chars, hc])

theorem readShape?_yearFirst (shape : List Item) (parts : Parts) {date : DashedDay}
    (plain : date.Plain) (stops : Stops Char.isDigit rest) :
    readShape? (yearFirst '-' ++ shape) parts (date.chars ++ rest) =
      readShape? shape { parts with
        year := (digitsValue date.year : Int)
        month := digitsValue date.month
        day := digitsValue date.day } rest := by
  simp only [yearFirst, DashedDay.chars, List.append_assoc, List.cons_append, List.nil_append]
  rw [readShape?_year plain.year (ne_nil _ (by decide)) (length_le _) (by simp),
    readShape?_literal,
    readShape?_number plain.month (ne_nil _ (by decide)) (length_le _) (by simp),
    readShape?_literal, readShape?_number plain.day (ne_nil _ (by decide)) (length_le _) stops]
  rfl

/-- The year cannot stand at the end where a shape has it in front. -/
theorem readShape?_yearFirst_short {first second : Digits 1 2} {year : Digits 4 4}
    {separator : Char} (hfirst : IsDigits first) (hsecond : IsDigits second) (hyear : IsDigits year)
    (other : separator.isDigit = false) :
    readShape? (yearFirst separator) parts
      (first ++ separator :: (second ++ separator :: year)) = none := by
  have hlength : year.val.length = 4 := le_antisymm (length_le year) year.property.1.1
  rw [yearFirst, readShape?_year hfirst (ne_nil _ (by decide)) (le_trans (length_le _) (by decide))
      (by simpa using other),
    readShape?_literal,
    readShape?_number hsecond (ne_nil _ (by decide)) (length_le _) (by simpa using other),
    readShape?_literal, ← List.append_nil year.val,
    readShape?_number_take hyear (ne_nil _ (by decide)) (by simp)]
  refine Option.eq_none_iff_forall_ne_some.mpr fun out hout => ?_
  have hrest := congrArg List.length (readShape?_nil_eq_some.mp hout).1
  rw [List.append_nil, List.length_drop, hlength] at hrest
  cases hrest

/-- The year cannot stand in front where a shape has it at the end. -/
theorem readShape?_dayFirst_dashed {date : DashedDay} (plain : date.Plain) :
    readShape? dayFirst parts date.chars = none := by
  have hlength : date.year.val.length = 4 := le_antisymm (length_le _) date.year.property.1.1
  rw [dayFirst, DashedDay.chars,
    readShape?_number_take plain.year (ne_nil _ (by decide)) (by simp)]
  refine readShape?_literal_of_stops ((plain.year.drop 2).stops ?_ fun c hc => ?_)
  · intro hnil
    have hrest := congrArg List.length hnil
    rw [List.length_drop, hlength] at hrest
    cases hrest
  · exact beq_eq_false_iff_ne.mpr (ne_of_isDigit hc rfl).symm

end Parts

section Dates

variable {text : String}

theorem not_sign_of_isDigit {c : Char} (h : c.isDigit = true) : (c == '-' || c == '+') = false := by
  rw [Bool.or_eq_false_iff, beq_eq_false_iff_ne, beq_eq_false_iff_ne]
  exact ⟨ne_of_isDigit h rfl, ne_of_isDigit h rfl⟩

theorem read?_bare {date : DashedDay} (plain : date.Plain)
    (trimmed : Text.stripWhile isBlank text.toList = date.chars) :
    (Calendar.read? text).isSome = true ↔ date.Exists := by
  have hcs : ∀ c ∈ date.chars, c.isDigit = true ∨ c = '-' := by
    intro c hc
    simp only [DashedDay.chars, List.mem_append, List.mem_cons] at hc
    rcases hc with hc | hc | hc | hc | hc
    · exact Or.inl (plain.year c hc)
    · exact Or.inr hc
    · exact Or.inl (plain.month c hc)
    · exact Or.inr hc
    · exact Or.inl (plain.day c hc)
  have hcolon : ':' ∉ date.chars := fun h => by rcases hcs _ h with h | h <;> cases h
  have hwhole : isWholeNumber date.chars = false :=
    isWholeNumber_eq_false (plain.year.stops (ne_nil _ (by decide)) fun c => not_sign_of_isDigit)
      (by simp [DashedDay.chars] : '-' ∈ date.chars) rfl
  rw [isSome_read?_of_date trimmed hcolon, and_iff_right hwhole]
  have hread := readShape?_yearFirst [] {} plain stops_nil
  rw [List.append_nil, List.append_nil, readShape?_nil] at hread
  constructor
  · rintro ⟨shape, hshape, parts, hparts, hday⟩
    rcases shape_of_dashes hcs hshape hparts with rfl | rfl
    · obtain rfl := Option.some.inj (hread.symm.trans hparts)
      exact hday
    · rw [readShape?_dayFirst_dashed plain] at hparts
      cases hparts
  · intro hday
    exact ⟨yearFirst '-', by simp [dateShapes], _, hread, hday⟩

section Short

variable {first second : Digits 1 2} {year : Digits 4 4} {separator : Char} {f g : Field}
  (hfirst : IsDigits first) (hsecond : IsDigits second) (hyear : IsDigits year)

include hfirst hsecond hyear

theorem mem_short {c : Char}
    (hc : c ∈ first ++ separator :: (second ++ separator :: year : List Char)) :
    c.isDigit = true ∨ c = separator := by
  simp only [List.mem_append, List.mem_cons] at hc
  rcases hc with hc | hc | hc | hc | hc
  · exact Or.inl (hfirst c hc)
  · exact Or.inr hc
  · exact Or.inl (hsecond c hc)
  · exact Or.inr hc
  · exact Or.inl (hyear c hc)

theorem readShape?_short (parts : Parts) (other : separator.isDigit = false) :
    readShape? [.number f, .literal separator, .number g, .literal separator, .year] parts
        (first ++ separator :: (second ++ separator :: year)) =
      some { g.set (digitsValue second) (f.set (digitsValue first) parts) with
        year := (digitsValue year : Int) } := by
  have hseparator (rest : List Char) : Stops Char.isDigit (separator :: rest) :=
    stops_cons.mpr other
  rw [readShape?_number hfirst (ne_nil _ (by decide)) (length_le _) (hseparator _),
    readShape?_literal,
    readShape?_number hsecond (ne_nil _ (by decide)) (length_le _) (hseparator _),
    readShape?_literal, ← List.append_nil year.val,
    readShape?_year hyear (ne_nil _ (by decide)) (length_le _) stops_nil, readShape?_nil,
    List.append_nil]

/-- Two numbers and a year are read just by the shape that has the year at the end. -/
theorem read?_short (other : separator.isDigit = false) (colon : separator ≠ ':')
    (known : [.number f, .literal separator, .number g, .literal separator, .year] ∈ dateShapes)
    (only : ∀ shape ∈ dateShapes, ∀ parts,
      readShape? shape {} (first ++ separator :: (second ++ separator :: year)) = some parts →
        shape = yearFirst separator ∨
          shape = [.number f, .literal separator, .number g, .literal separator, .year])
    (trimmed : Text.stripWhile isBlank text.toList =
      first ++ separator :: (second ++ separator :: year)) :
    (Calendar.read? text).isSome = true ↔
      IsDay (digitsValue year) (g.set (digitsValue second) (f.set (digitsValue first) {})).month
        (g.set (digitsValue second) (f.set (digitsValue first) {})).day := by
  have hcolon : ':' ∉ (first ++ separator :: (second ++ separator :: year) : List Char) := by
    intro h
    rcases mem_short hfirst hsecond hyear h with hdigit | hsame
    · cases hdigit
    · exact colon hsame.symm
  have hwhole : isWholeNumber (first ++ separator :: (second ++ separator :: year)) = false :=
    isWholeNumber_eq_false (hfirst.stops (ne_nil _ (by decide)) fun c => not_sign_of_isDigit)
      (by simp : separator ∈ _) other
  have hread := readShape?_short (f := f) (g := g) hfirst hsecond hyear {} other
  rw [isSome_read?_of_date trimmed hcolon, and_iff_right hwhole]
  constructor
  · rintro ⟨shape, hshape, parts, hparts, hday⟩
    rcases only shape hshape parts hparts with rfl | rfl
    · rw [readShape?_yearFirst_short hfirst hsecond hyear other] at hparts
      cases hparts
    · obtain rfl := Option.some.inj (hread.symm.trans hparts)
      exact hday
  · intro hday
    exact ⟨_, known, _, hread, hday⟩

theorem read?_slashed (trimmed : Text.stripWhile isBlank text.toList =
      first ++ '/' :: (second ++ '/' :: year)) : (Calendar.read? text).isSome = true ↔
    IsDay (digitsValue year) (digitsValue first) (digitsValue second) := by
  have hknown : monthFirst ∈ dateShapes := by simp [dateShapes]
  refine read?_short (f := .month) (g := .day) hfirst hsecond hyear rfl (by decide) hknown
    (fun shape hshape parts hparts => ?_) trimmed
  exact (shape_of_slash (by simp) hshape hparts).symm

theorem read?_dashed (trimmed : Text.stripWhile isBlank text.toList =
      first ++ '-' :: (second ++ '-' :: year)) : (Calendar.read? text).isSome = true ↔
    IsDay (digitsValue year) (digitsValue second) (digitsValue first) := by
  have hknown : dayFirst ∈ dateShapes := by simp [dateShapes, dayFirst]
  refine read?_short (f := .day) (g := .month) hfirst hsecond hyear rfl (by decide) hknown
    (fun shape hshape parts hparts => ?_) trimmed
  exact shape_of_dashes (fun c => mem_short hfirst hsecond hyear) hshape hparts

end Short

section Named

variable {name : MonthWord} {point : Bool} {gap : Blanks 1} {day : Digits 1 2} {space : Blanks 0}
  {year : Digits 4 4}

/-- Whether a character can be that of a month's name or behind it, but not in front of a day. -/
def isNameEnd (c : Char) : Bool := !(isBlank c || c.isDigit)

theorem isNameEnd_of_isAlpha {c : Char} (h : c.isAlpha = true) : isNameEnd c = true := by
  simp [isNameEnd, Text.not_isBlank_of_isAlpha h, Text.not_isDigit_of_isAlpha h]

theorem isNameEnd_of_isNameLetter {c : Char} (h : isNameLetter c = true) : isNameEnd c = true := by
  simp only [isNameLetter, Bool.or_eq_true, beq_iff_eq] at h
  rcases h with (h | rfl) | rfl
  · exact isNameEnd_of_isAlpha h
  · decide
  · decide

theorem readShape?_named_tail (gap : Blanks 1) (space : Blanks 0) (hday : IsDigits day)
    (hyear : IsDigits year) (parts : Parts) :
    readShape? [.space, .number .day, .literal ',', .space, .year] parts
      (gap ++ (day ++ ',' :: (space ++ year))) =
        some { parts with day := digitsValue day, year := (digitsValue year : Int) } := by
  rw [readShape?_space gap.property.2
      (hday.stops (ne_nil _ (by decide)) fun c => not_isBlank_of_isDigit),
    readShape?_number hday (ne_nil _ (by decide)) (length_le _) (by simp), readShape?_literal,
    ← List.append_nil year.val,
    readShape?_space space.property.2
      (hyear.stops (ne_nil _ (by decide)) fun c => not_isBlank_of_isDigit),
    readShape?_year hyear (ne_nil _ (by decide)) (length_le _) (by simp), readShape?_nil,
    List.append_nil]
  rfl

/-- What stands in front of the blanks is a month's name only if it is the whole word. -/
theorem front_eq_of_namesMonth {word tail rest : List Char} {month : ℕ}
    (hword : NamesMonth word month) (tailEnds : Stops isNameEnd tail)
    (restEnds : Stops isNameEnd rest)
    (h : name ++ ((if point then ['.'] else []) ++ tail) = word ++ rest) :
    point = false ∧ word = name ∧ tail = rest := by
  have hnameEnd : ∀ c ∈ (name ++ if point then ['.'] else [] : List Char), isNameEnd c = true := by
    intro c hc
    rcases List.mem_append.mp hc with hc | hc
    · exact isNameEnd_of_isNameLetter (name.property.2 c hc)
    · split at hc
      · obtain rfl := List.mem_singleton.mp hc
        decide
      · cases hc
  have hwordEnd : ∀ c ∈ word, isNameEnd c = true := fun c hc =>
    isNameEnd_of_isAlpha (hword.isAlpha c hc)
  have hfront := takeWhile_append hnameEnd tailEnds
  rw [List.append_assoc, h, takeWhile_append hwordEnd restEnds] at hfront
  cases point with
  | true => exact absurd (hword.isAlpha '.' (by simp [hfront])) (by decide)
  | false =>
    have hsame : word = name := by simpa using hfront
    rw [hsame] at h
    exact ⟨rfl, hsame, List.append_cancel_left h⟩

theorem colon_not_mem_named : ':' ∉ (name ++ ((if point then ['.'] else []) ++
    (gap ++ (day ++ ',' :: (space ++ year)))) : List Char) := by
  have hletter : ':' ∉ name.val := not_mem_run name (by decide)
  have hgap : ':' ∉ gap.val := not_mem_run gap (by decide)
  have hspace : ':' ∉ space.val := not_mem_run space (by decide)
  have hday : ':' ∉ day.val := not_mem_run day (by decide)
  have hyear : ':' ∉ year.val := not_mem_run year (by decide)
  cases point <;> simp [hletter, hgap, hspace, hday, hyear]

theorem isWholeNumber_named {rest : List Char} (hcomma : ',' ∈ rest) :
    isWholeNumber (name ++ rest) = false := by
  have hname : name.val ≠ [] := by
    have hlength : 3 ≤ name.val.length := name.property.1.1
    exact List.length_pos_iff.mp (by omega)
  refine isWholeNumber_eq_false (stops_append name.property.2 hname fun c hc => ?_)
    (List.mem_append_right _ hcomma) rfl
  rw [Bool.or_eq_false_iff, beq_eq_false_iff_ne, beq_eq_false_iff_ne]
  constructor <;> rintro rfl <;> exact absurd hc (by decide)

theorem read?_named (hday : IsDigits day) (hyear : IsDigits year)
    (trimmed : Text.stripWhile isBlank text.toList =
      name ++ ((if point then ['.'] else []) ++ (gap ++ (day ++ ',' :: (space ++ year))))) :
    (Calendar.read? text).isSome = true ↔ point = false ∧ ∃ month, NamesMonth name month ∧
      IsDay (digitsValue year) month (digitsValue day) := by
  have hgap : gap.val ≠ [] := List.length_pos_iff.mp gap.property.1
  have hcomma : ',' ∈ ((if point then ['.'] else []) ++
      (gap ++ (day ++ ',' :: (space ++ year))) : List Char) := by simp
  have hend : Stops isNameEnd (gap ++ (day ++ ',' :: (space ++ year))) :=
    stops_append gap.property.2 hgap fun c hc => by simp [isNameEnd, hc]
  have htail (parts : Parts) := readShape?_named_tail gap space hday hyear parts
  rw [isSome_read?_of_date trimmed colon_not_mem_named,
    and_iff_right (isWholeNumber_named hcomma)]
  constructor
  · rintro ⟨shape, hshape, parts, hparts, hexists⟩
    obtain ⟨item, hitem, rfl⟩ :=
      shape_of_comma (List.mem_append_right _ hcomma) hshape hparts
    rw [readShape?_cons] at hparts
    obtain ⟨⟨next, rest⟩, hread, hrest⟩ := Option.bind_eq_some_iff.mp hparts
    obtain ⟨word, month, hcs, hword, rfl⟩ := namesMonth_of_read? hitem hread
    obtain ⟨rfl, rfl, rfl⟩ :=
      front_eq_of_namesMonth hword hend (stops_of_space_number hrest) hcs
    obtain rfl := Option.some.inj ((htail _).symm.trans hrest)
    exact ⟨rfl, month, hword, hexists⟩
  · rintro ⟨rfl, month, hmonth, hexists⟩
    refine ⟨[.month, .space, .number .day, .literal ',', .space, .year], by simp [dateShapes],
      { month, day := digitsValue day, year := (digitsValue year : Int) }, ?_, hexists⟩
    have hletters : Stops Char.isAlpha (gap ++ (day ++ ',' :: (space ++ year))) :=
      hend.mono fun c => isNameEnd_of_isAlpha
    exact (readShape?_month hmonth hletters).trans (htail _)

end Named

end Dates

end TableTalk.Cleaning
