import TableTalk.Proofs.Cleaning.ReadableDays

/-!
# Which forms of dates can be read

A text that has the shape of a date need not be one that the readers take. What they ask of each
form beyond its shape: ASCII digits, a day that exists, a time of day in range, an offset only
after seconds and with a colon, and the name of a month without a point.
-/

namespace TableTalk.Cleaning

open TableTalk.Calendar
open TableTalk.Decimal (digitsValue)
open TableTalk.Text (isBlank isWordDigit)

/-- Whether an offset has a colon and is less than a day. -/
def Offset.Sound : Offset → Prop
  | universal => True
  | shift _ hours colon minutes =>
    colon = true ∧ digitsValue hours < 24 ∧ digitsValue minutes < 60

/-- Whether there is such a time of day; a leap second is one. -/
structure Clock.Exists (clock : Clock) : Prop where
  hour_lt : digitsValue clock.hour < 24
  minute_lt : digitsValue clock.minute < 60
  second_le : ∀ seconds ∈ clock.seconds, digitsValue seconds.whole ≤ 60

/-- Whether a time of day exists and has an offset only after seconds. -/
structure Clock.Sound (clock : Clock) : Prop where
  exists_clock : clock.Exists
  offset : ∀ offset ∈ clock.offset, clock.seconds.isSome = true ∧ offset.Sound

/-- Whether the parts of a form are those of a date. -/
def DateForm.Sound : DateForm → Prop
  | bare date => date.Exists
  | moment date _ clock => date.Exists ∧ clock.Sound
  | slashed month day year => IsDay (digitsValue year) (digitsValue month) (digitsValue day)
  | dashed day month year => IsDay (digitsValue year) (digitsValue month) (digitsValue day)
  | named name point _ day _ year =>
    point = false ∧ ∃ month, NamesMonth name month ∧
      IsDay (digitsValue year) month (digitsValue day)

/-- Whether a form is that of a date, in ASCII digits. -/
def DateForm.Readable (form : DateForm) : Prop :=
  (∀ c ∈ form.chars, isPlain c = true) ∧ form.Sound

section Moments

variable {date : DashedDay} {clock : Clock} {parts out : Parts} {shape : List Item}

/-- What stands behind hours and minutes. -/
def Clock.tail (clock : Clock) : List Char :=
  clock.seconds.elim [] Seconds.chars ++ clock.offset.elim [] Offset.chars

theorem Clock.chars_eq (clock : Clock) :
    clock.chars = clock.hour ++ ':' :: (clock.minute ++ clock.tail) := rfl

theorem stops_offset {p : Char → Bool} (offset : Option Offset) (universal : p 'Z' = false)
    (plus : p '+' = false) (minus : p '-' = false) : Stops p (offset.elim [] Offset.chars) := by
  rcases offset with _ | _ | ⟨west, hours, colon, minutes⟩
  · exact stops_nil
  · exact stops_cons.mpr universal
  · cases west
    · exact stops_cons.mpr plus
    · exact stops_cons.mpr minus

theorem stops_tail (clock : Clock) : Stops Char.isDigit clock.tail := by
  rw [Clock.tail]
  cases clock.seconds with
  | none => exact stops_offset clock.offset rfl rfl rfl
  | some seconds => exact stops_cons.mpr rfl

theorem offset_eq_nil {offset : Option Offset} :
    offset.elim [] Offset.chars = [] ↔ offset = none := by
  rcases offset with _ | _ | ⟨west, hours, colon, minutes⟩ <;> simp [Offset.chars]

/-- Whether the digits of seconds are ASCII digits. -/
structure Seconds.Plain (seconds : Seconds) : Prop where
  whole : IsDigits seconds.whole
  fraction : ∀ fraction ∈ seconds.fraction, IsDigits fraction.val

theorem stops_fraction {p : Char → Bool} {seconds : Seconds} {rest : List Char}
    (point : p '.' = false) (stops : Stops p rest) :
    Stops p ((seconds.fraction.elim [] fun fraction => '.' :: fraction) ++ rest) := by
  cases seconds.fraction with
  | none => exact stops
  | some fraction => exact stops_cons.mpr point

theorem readShape?_seconds {seconds : Seconds} (plain : seconds.Plain) {rest : List Char}
    (stops : Stops Char.isDigit rest) :
    readShape? (.literal ':' :: .number .second :: shape) parts (seconds.chars ++ rest) =
      readShape? shape { parts with second := digitsValue seconds.whole }
        ((seconds.fraction.elim [] fun fraction => '.' :: fraction) ++ rest) := by
  rw [Seconds.chars, List.cons_append, readShape?_literal, List.append_assoc,
    readShape?_number plain.whole (ne_nil _ (by decide)) (length_le _)
      (stops_fraction (by decide) stops)]
  rfl

/-- With an item for a fraction, seconds are read with or without one. -/
theorem readShape?_seconds_fraction (shape : List Item) (parts : Parts) {seconds : Seconds}
    (plain : seconds.Plain) {rest : List Char}
    (stops : Stops Char.isDigit rest) (point : Stops (· == '.') rest) : ∃ n < 1000000000,
    readShape? (.literal ':' :: .number .second :: .fraction :: shape) { parts with nanosecond := 0 }
        (seconds.chars ++ rest) =
      readShape? shape { parts with second := digitsValue seconds.whole, nanosecond := n } rest := by
  rw [readShape?_seconds plain stops]
  cases hfraction : seconds.fraction with
  | none =>
    refine ⟨0, by decide, ?_⟩
    rw [Option.elim_none, List.nil_append, readShape?_fraction_of_stops point]
  | some fraction =>
    have hdigits : fraction.val ≠ [] := List.length_pos_iff.mp fraction.property.1
    exact readShape?_fraction (plain.fraction fraction hfraction) hdigits stops

section Tails

/-- The parts of a time of day after its minutes. -/
def Clock.complete (clock : Clock) (parts : Parts) (n : ℕ) : Parts :=
  { parts with
    second := clock.seconds.elim 0 fun seconds => digitsValue seconds.whole
    nanosecond := n }

variable (plain : ∀ seconds ∈ clock.seconds, seconds.Plain)

include plain

/-- Behind the minutes a shape goes on with the end, seconds, or seconds and a fraction. -/
theorem readShape?_clockTails (parts : Parts) {tail : List Item} (known : tail ∈ clockTails)
    (h : readShape? tail { parts with second := 0, nanosecond := 0 } clock.tail = some out) :
    clock.offset = none ∧ ∃ n < 1000000000, out = clock.complete parts n := by
  have hdigit : Stops Char.isDigit (clock.offset.elim [] Offset.chars) :=
    stops_offset _ rfl rfl rfl
  have hpoint : Stops (· == '.') (clock.offset.elim [] Offset.chars) := stops_offset _ rfl rfl rfl
  have hcolon : Stops (':' == ·) (clock.offset.elim [] Offset.chars) := stops_offset _ rfl rfl rfl
  rw [Clock.tail] at h
  rw [← offset_eq_nil]
  simp only [Clock.complete]
  simp only [clockTails, List.mem_cons, List.not_mem_nil, or_false] at known
  cases hseconds : clock.seconds with
  | none =>
    rw [hseconds, Option.elim_none, List.nil_append] at h
    rcases known with rfl | rfl | rfl
    · obtain ⟨hnil, rfl⟩ := readShape?_nil_eq_some.mp h
      exact ⟨hnil, 0, by decide, rfl⟩
    all_goals
      rw [readShape?_literal_of_stops hcolon] at h
      cases h
  | some seconds =>
    have hplain := plain seconds hseconds
    rw [hseconds, Option.elim_some] at h
    rcases known with rfl | rfl | rfl
    · exact absurd (readShape?_nil_eq_some.mp h).1 (by simp [Seconds.chars])
    · rw [readShape?_seconds hplain hdigit, readShape?_nil_eq_some, List.append_eq_nil_iff] at h
      obtain ⟨⟨-, hnil⟩, rfl⟩ := h
      exact ⟨hnil, 0, by decide, rfl⟩
    · obtain ⟨n, hlt, hread⟩ :=
        readShape?_seconds_fraction [] parts hplain hdigit hpoint
      obtain ⟨hnil, rfl⟩ := readShape?_nil_eq_some.mp (hread.symm.trans h)
      exact ⟨hnil, n, hlt, rfl⟩

theorem exists_clockTails (parts : Parts) (none : clock.offset = none) :
    ∃ tail ∈ clockTails, ∃ n < 1000000000,
      readShape? tail { parts with second := 0, nanosecond := 0 } clock.tail =
        some (clock.complete parts n) := by
  simp only [Clock.tail, Clock.complete, none, Option.elim_none, List.append_nil]
  cases hseconds : clock.seconds with
  | none => exact ⟨[], by simp [clockTails], 0, by decide, rfl⟩
  | some seconds =>
    obtain ⟨n, hlt, hread⟩ :=
      readShape?_seconds_fraction [] { parts with second := 0 } (plain seconds hseconds) stops_nil
        stops_nil
    rw [List.append_nil] at hread
    exact ⟨clockTails[2], by simp [clockTails], n, hlt, hread⟩

end Tails

/-- What is read of a moment up to its minutes. -/
def toMinuteParts (date : DashedDay) (clock : Clock) : Parts :=
  { year := (digitsValue date.year : Int)
    month := digitsValue date.month
    day := digitsValue date.day
    hour := digitsValue clock.hour
    minute := digitsValue clock.minute }

theorem readShape?_between (spaced other : Bool) {run rest : List Char} (digits : IsDigits run)
    (some : run ≠ []) :
    readShape? (between spaced :: .number .hour :: shape) parts
        ((if other then ' ' else 'T') :: (run ++ rest)) =
      if spaced = other then readShape? (.number .hour :: shape) parts (run ++ rest) else none := by
  cases spaced <;> cases other
  · exact readShape?_literal
  · exact readShape?_literal_of_stops (stops_cons.mpr rfl)
  · have hletter : Stops isBlank ('T' :: (run ++ rest)) := stops_cons.mpr rfl
    rw [between, if_pos rfl, if_neg Bool.false_ne_true, readShape?_space_of_stops hletter,
      readShape?_number_of_stops hletter (stops_cons.mpr rfl)]
    rfl
  · have hdigits : Stops isBlank (run ++ rest) := digits.stops some fun c => not_isBlank_of_isDigit
    have hblank : ∀ c ∈ [' '], isBlank c = true := fun c hc => by
      rw [List.mem_singleton.mp hc]
      rfl
    exact readShape?_space hblank hdigits

/-- Only the item for the letter or the blank between date and time goes on behind the date. -/
theorem readShape?_moment (shape : List Item) (hdate : date.Plain) (hhour : IsDigits clock.hour)
    (hminute : IsDigits clock.minute) (spaced other : Bool) :
    readShape? (yearFirst '-' ++ between spaced :: (toMinute ++ shape)) {}
        (date.chars ++ (if other then ' ' else 'T') :: clock.chars) =
      if spaced = other then readShape? shape (toMinuteParts date clock) clock.tail
      else none := by
  have hbetween : Stops Char.isDigit ((if other then ' ' else 'T') :: clock.chars) :=
    stops_cons.mpr (by cases other <;> rfl)
  rw [readShape?_yearFirst _ _ hdate hbetween, clock.chars_eq, toMinute,
    List.cons_append, readShape?_between spaced other hhour (ne_nil _ (by decide))]
  refine if_congr Iff.rfl ?_ rfl
  rw [readShape?_number hhour (ne_nil _ (by decide)) (length_le _) (by simp), List.cons_append,
    readShape?_literal, List.cons_append,
    readShape?_number hminute (ne_nil _ (by decide)) (length_le _) (stops_tail clock)]
  rfl

/-- How the internet form goes on behind the minutes. -/
def internetTail? (parts : Parts) (cs : List Char) : Option Timestamp := do
  let cs ← literal? ':' cs
  let (second, cs) ← number? 2 2 cs
  let (nanosecond, cs) ←
    match cs with
    | '.' :: rest => nanosecond? rest
    | _ => some (0, cs)
  let offset ← offset? cs
  ({ parts with second, nanosecond : Parts }.timestamp?).map (·.minusSeconds offset)

theorem internet?_moment (hdate : date.Plain) (hhour : IsDigits clock.hour)
    (hminute : IsDigits clock.minute) (spaced : Bool) :
    internet? (date.chars ++ (if spaced then ' ' else 'T') :: clock.chars) =
      internetTail? (toMinuteParts date clock) clock.tail := by
  have hbetween (cs : List Char) : (literal? 'T' ((if spaced then ' ' else 'T') :: cs) <|>
      literal? 't' ((if spaced then ' ' else 'T') :: cs) <|>
      literal? ' ' ((if spaced then ' ' else 'T') :: cs)) = some cs := by
    cases spaced <;> rfl
  have hbind {α β : Type} {o : Option α} {a : α} (f : α → Option β) (h : o = some a) :
      (o >>= f) = f a := by
    rw [h]
    rfl
  rw [DashedDay.chars, Clock.chars_eq, List.append_assoc, List.cons_append, List.append_assoc,
    List.cons_append, internet?]
  -- rewriting under the binders of the reader is slow, so each part is read at its front
  refine (hbind _ (number?_digits _ hdate.year _)).trans <| (hbind _ (literal?_cons _ _)).trans <|
    (hbind _ (number?_digits _ hdate.month _)).trans <| (hbind _ (literal?_cons _ _)).trans <|
    (hbind _ (number?_digits _ hdate.day _)).trans <| (hbind _ (hbetween _)).trans <|
    (hbind _ (number?_digits _ hhour _)).trans <| (hbind _ (literal?_cons _ _)).trans <|
    (hbind _ (number?_digits _ hminute _)).trans ?_
  rfl

theorem internetTail?_seconds (parts : Parts) {seconds : Seconds} (plain : seconds.Plain)
    {rest : List Char} (stops : Stops Char.isDigit rest) (point : Stops (· == '.') rest) :
    ∃ n < 1000000000, internetTail? parts (seconds.chars ++ rest) =
      (offset? rest).bind fun offset =>
        ({ parts with second := digitsValue seconds.whole, nanosecond := n : Parts }.timestamp?).map
          (·.minusSeconds offset) := by
  rw [Seconds.chars, internetTail?, List.cons_append, List.append_assoc]
  simp only [Option.bind_eq_bind]
  rw [literal?_cons, Option.bind_some, number?_digits _ plain.whole, Option.bind_some]
  cases hfraction : seconds.fraction with
  | none =>
    refine ⟨0, by decide, ?_⟩
    cases rest with
    | nil => rfl
    | cons c rest =>
      have hne : c ≠ '.' := by simpa using point
      rw [Option.elim_none, List.nil_append]
      dsimp only
      split
      case h_1 heq => exact absurd (List.cons.inj heq).1 hne
      case h_2 => rfl
  | some fraction =>
    have hdigits : fraction.val ≠ [] := List.length_pos_iff.mp fraction.property.1
    obtain ⟨n, hlt, hread⟩ := nanosecond?_append (plain.fraction fraction hfraction) hdigits stops
    refine ⟨n, hlt, ?_⟩
    rw [Option.elim_some, List.cons_append]
    show (nanosecond? (fraction ++ rest)).bind _ = _
    rw [hread, Option.bind_some]

/-- Whether the digits of an offset are ASCII digits. -/
def Offset.Plain : Offset → Prop
  | universal => True
  | shift _ hours _ minutes => IsDigits hours ∧ IsDigits minutes

theorem isSome_shift?_iff {hours minutes : Digits 2 2} (hhours : IsDigits hours)
    (hminutes : IsDigits minutes) (direction : ℤ) (colon : Bool) :
    (shift? direction (hours.val ++ ((if colon then [':'] else []) ++ minutes.val))).isSome = true ↔
      colon = true ∧ digitsValue hours < 24 ∧ digitsValue minutes < 60 := by
  simp only [shift?, Option.bind_eq_bind]
  rw [number?_digits _ hhours, Option.bind_some]
  cases colon with
  | false =>
    have hnone : Stops (':' == ·) (minutes.val ++ []) :=
      hminutes.stops (ne_nil _ (by decide)) fun c hc =>
        beq_eq_false_iff_ne.mpr (ne_of_isDigit hc rfl).symm
    rw [if_neg Bool.false_ne_true, List.nil_append, ← List.append_nil minutes.val,
      literal?_of_stops hnone]
    simp
  | true =>
    rw [if_pos rfl, List.singleton_append, literal?_cons, Option.bind_some,
      ← List.append_nil minutes.val, number?_digits _ hminutes, Option.bind_some, List.append_nil]
    by_cases hrange : digitsValue hours < 24 ∧ digitsValue minutes < 60
    · simp [hrange]
    · simp only [true_and, hrange, iff_false]
      rw [if_neg fun h => hrange (by simpa [and_comm] using h)]
      simp

theorem isSome_offset?_iff {offset : Option Offset} (plain : ∀ o ∈ offset, o.Plain) :
    (offset? (offset.elim [] Offset.chars)).isSome = true ↔ ∃ o ∈ offset, o.Sound := by
  rcases offset with _ | _ | ⟨west, hours, colon, minutes⟩
  · simp [offset?]
  · exact iff_of_true rfl ⟨.universal, rfl, trivial⟩
  · obtain ⟨hhours, hminutes⟩ := plain _ rfl
    have hsound : (∃ o ∈ some (Offset.shift west hours colon minutes), o.Sound) ↔
        colon = true ∧ digitsValue hours < 24 ∧ digitsValue minutes < 60 := by
      simp [Offset.Sound]
    rw [hsound, Option.elim_some, Offset.chars]
    cases west
    · exact isSome_shift?_iff hhours hminutes 1 colon
    · exact isSome_shift?_iff hhours hminutes (-1) colon

theorem slash_not_mem (date : DashedDay) (spaced : Bool) (clock : Clock) :
    '/' ∉ date.chars ++ (if spaced then ' ' else 'T') :: clock.chars := by
  have hdigits {lengths : ℕ → Prop} (run : {part // part ∈ Text.Scanner.runs lengths isWordDigit}) :
      '/' ∉ run.val := not_mem_run run (by decide)
  have hbetween : '/' ≠ (if spaced then ' ' else 'T') := by cases spaced <;> decide
  have hseconds : '/' ∉ clock.seconds.elim [] Seconds.chars := by
    rcases clock.seconds with _ | ⟨whole, _ | fraction⟩ <;> simp [Seconds.chars, hdigits]
  have hoffset : '/' ∉ clock.offset.elim [] Offset.chars := by
    rcases clock.offset with _ | _ | ⟨west, hours, colon, minutes⟩
    · simp
    · simp [Offset.chars]
    · cases west <;> cases colon <;> simp [Offset.chars, hdigits]
  simp [DashedDay.chars, Clock.chars, hdigits, hbetween, hseconds, hoffset]

section Combined

variable {spaced : Bool} (hdate : date.Plain) (hhour : IsDigits clock.hour)
  (hminute : IsDigits clock.minute) (hseconds : ∀ seconds ∈ clock.seconds, seconds.Plain)

theorem isSome_timestamp?_complete {n : ℕ} (hn : n < 1000000000) :
    (clock.complete (toMinuteParts date clock) n).timestamp?.isSome = true ↔
      date.Exists ∧ clock.Exists := by
  rw [isSome_timestamp?_iff]
  have hsecond : (clock.complete (toMinuteParts date clock) n).second ≤ 60 ↔
      ∀ seconds ∈ clock.seconds, digitsValue seconds.whole ≤ 60 := by
    rw [Clock.complete]
    cases clock.seconds <;> simp
  constructor
  · rintro ⟨hday, hhour, hminute, hle, -⟩
    exact ⟨hday, hhour, hminute, hsecond.mp hle⟩
  · rintro ⟨hday, hhour, hminute, hle⟩
    exact ⟨hday, hhour, hminute, hsecond.mpr hle, hn⟩

include hdate hhour hminute hseconds

/-- Without an offset a moment is read by a shape. -/
theorem exists_timestampShapes_iff : (∃ shape ∈ timestampShapes, ∃ parts,
      readShape? shape {} (date.chars ++ (if spaced then ' ' else 'T') :: clock.chars) = some parts ∧
        parts.timestamp?.isSome = true) ↔
    clock.offset = none ∧ date.Exists ∧ clock.Exists := by
  have hread (other : Bool) (tail : List Item) :=
    readShape?_moment tail hdate hhour hminute other spaced
  constructor
  · rintro ⟨shape, hshape, parts, hparts, hexists⟩
    rcases timestampShapes_cases hshape with hslash | ⟨other, tail, htail, rfl⟩
    · exact absurd (mem_of_readShape? hparts hslash) (slash_not_mem date spaced clock)
    · rw [hread other tail] at hparts
      split at hparts
      case isFalse => cases hparts
      case isTrue =>
        obtain ⟨hoffset, n, hn, rfl⟩ :=
          readShape?_clockTails hseconds (toMinuteParts date clock) htail hparts
        exact ⟨hoffset, (isSome_timestamp?_complete hn).mp hexists⟩
  · rintro ⟨hoffset, hexists⟩
    obtain ⟨tail, htail, n, hn, hparts⟩ :=
      exists_clockTails hseconds (toMinuteParts date clock) hoffset
    refine ⟨_, mem_timestampShapes spaced htail, _, ?_, (isSome_timestamp?_complete hn).mpr hexists⟩
    rw [hread spaced tail, if_pos rfl]
    exact hparts

/-- The internet form has seconds and an offset. -/
theorem isSome_internet?_iff (hoffset : ∀ offset ∈ clock.offset, offset.Plain) :
    (internet? (date.chars ++ (if spaced then ' ' else 'T') :: clock.chars)).isSome = true ↔
      clock.seconds.isSome = true ∧ (∃ offset ∈ clock.offset, offset.Sound) ∧
        date.Exists ∧ clock.Exists := by
  rw [internet?_moment hdate hhour hminute, Clock.tail, ← isSome_offset?_iff hoffset]
  have hdigit : Stops Char.isDigit (clock.offset.elim [] Offset.chars) :=
    stops_offset _ rfl rfl rfl
  have hpoint : Stops (· == '.') (clock.offset.elim [] Offset.chars) := stops_offset _ rfl rfl rfl
  have hcolon : Stops (':' == ·) (clock.offset.elim [] Offset.chars) := stops_offset _ rfl rfl rfl
  cases hsome : clock.seconds with
  | none =>
    rw [Option.elim_none, List.nil_append, internetTail?, literal?_of_stops hcolon]
    simp
  | some seconds =>
    obtain ⟨n, hn, hread⟩ := internetTail?_seconds (toMinuteParts date clock)
      (hseconds seconds hsome) hdigit hpoint
    have hcomplete : (clock.complete (toMinuteParts date clock) n).timestamp?.isSome = true ↔
        date.Exists ∧ clock.Exists := isSome_timestamp?_complete hn
    simp only [Clock.complete, hsome, Option.elim_some] at hcomplete
    rw [Option.elim_some, hread, ← hcomplete]
    cases offset? (clock.offset.elim [] Offset.chars) <;> simp

/-- A moment is read by the internet form if it has an offset, and by a shape if it has none. -/
theorem read?_moment (hoffset : ∀ offset ∈ clock.offset, offset.Plain) {text : String}
    (trimmed : Text.stripWhile isBlank text.toList =
      date.chars ++ (if spaced then ' ' else 'T') :: clock.chars) :
    (Calendar.read? text).isSome = true ↔ date.Exists ∧ clock.Sound := by
  have hcolon : ':' ∈ date.chars ++ (if spaced then ' ' else 'T') :: clock.chars := by
    simp [Clock.chars]
  have hstops : Stops (fun c => c == '-' || c == '+')
      (date.chars ++ (if spaced then ' ' else 'T') :: clock.chars) := by
    rw [DashedDay.chars, List.append_assoc]
    exact hdate.year.stops (ne_nil _ (by decide)) fun c => not_sign_of_isDigit
  rw [isSome_read?_of_time trimmed hcolon, and_iff_right (isWholeNumber_eq_false hstops hcolon rfl),
    isSome_internet?_iff hdate hhour hminute hseconds hoffset,
    exists_timestampShapes_iff hdate hhour hminute hseconds]
  constructor
  · rintro (⟨hsome, ⟨offset, hmem, hsound⟩, hday, hclock⟩ | ⟨hnone, hday, hclock⟩)
    · refine ⟨hday, hclock, fun other hother => ⟨hsome, ?_⟩⟩
      obtain rfl := Option.mem_unique hmem hother
      exact hsound
    · refine ⟨hday, hclock, fun offset hmem => ?_⟩
      rw [hnone] at hmem
      cases hmem
  · rintro ⟨hday, hclock, hsound⟩
    cases hnone : clock.offset with
    | none => exact Or.inr ⟨rfl, hday, hclock⟩
    | some offset =>
      obtain ⟨hsome, hoffset⟩ := hsound offset hnone
      exact Or.inl ⟨hsome, ⟨offset, rfl, hoffset⟩, hday, hclock⟩

end Combined

end Moments

/-- A text in the form of a date is read just if the form is readable. -/
theorem read?_form {form : DateForm} {text : String}
    (trimmed : Text.stripWhile isBlank text.toList = form.chars) :
    (Calendar.read? text).isSome = true ↔ form.Readable := by
  by_cases plain : ∀ c ∈ form.chars, isPlain c = true
  · rw [DateForm.Readable, and_iff_right plain]
    have hdigits {lengths : ℕ → Prop} (run : {part // part ∈ Text.Scanner.runs lengths isWordDigit})
        (h : run.val ⊆ form.chars) : IsDigits run :=
      isDigits_of_plain run fun c hc => plain c (h hc)
    cases form with
    | bare date => exact read?_bare (DashedDay.plain_of_chars plain) trimmed
    | moment date spaced clock =>
      have hdate : date.Plain :=
        DashedDay.plain_of_chars fun c hc => plain c (by simp [DateForm.chars, hc])
      refine read?_moment hdate (hdigits _ fun c hc => ?_) (hdigits _ fun c hc => ?_)
        (fun seconds hseconds => ⟨hdigits _ fun c hc => ?_,
          fun fraction hfraction => hdigits _ fun c hc => ?_⟩)
        (fun offset hoffset => ?_) trimmed
      · simp [DateForm.chars, Clock.chars, hc]
      · simp [DateForm.chars, Clock.chars, hc]
      · rw [Option.mem_def] at hseconds
        simp [DateForm.chars, Clock.chars, hseconds, Seconds.chars, hc]
      · rw [Option.mem_def] at hseconds hfraction
        simp [DateForm.chars, Clock.chars, hseconds, Seconds.chars, hfraction, hc]
      · rw [Option.mem_def] at hoffset
        cases offset with
        | universal => trivial
        | shift west hours colon minutes =>
          refine ⟨hdigits _ fun c hc => ?_, hdigits _ fun c hc => ?_⟩
          all_goals simp [DateForm.chars, Clock.chars, hoffset, Offset.chars, hc]
    | slashed month day year =>
      refine read?_slashed (hdigits _ fun c hc => ?_) (hdigits _ fun c hc => ?_)
        (hdigits _ fun c hc => ?_) trimmed
      all_goals simp [DateForm.chars, hc]
    | dashed day month year =>
      refine read?_dashed (hdigits _ fun c hc => ?_) (hdigits _ fun c hc => ?_)
        (hdigits _ fun c hc => ?_) trimmed
      all_goals simp [DateForm.chars, hc]
    | named name point gap day space year =>
      refine read?_named (hdigits _ fun c hc => ?_) (hdigits _ fun c hc => ?_) trimmed
      all_goals simp [DateForm.chars, hc]
  · exact iff_of_false (fun h => plain (isPlain_of_read? trimmed h)) fun h => plain h.1

end TableTalk.Cleaning
