import TableTalk.Cleaning.Detection
import TableTalk.Proofs.Text.Scanning

/-!
# The forms of dates that are recognized

The patterns of dates take all texts of a few forms, whose parts are digits, letters and
separators.
-/

namespace TableTalk.Cleaning

open TableTalk.Text (Scanner isBlank isWordDigit)
open TableTalk.Text.Scanner (Reads runs spelled)

/-- From `least` to `most` digits of any script. -/
abbrev Digits (least most : Nat) : Type :=
  {part // part ∈ runs (fun n => least ≤ n ∧ n ≤ most) isWordDigit}

/-- At least `least` blanks. -/
abbrev Blanks (least : Nat) : Type := {part // part ∈ runs (least ≤ ·) isBlank}

/-- A letter of a month's name: the long s and the Kelvin sign are letters when case is ignored. -/
def isNameLetter (c : Char) : Bool := c.isAlpha || c == 'ſ' || c == '\u212a'

/-- A word in the place of a month's name. -/
abbrev MonthWord : Type := {part // part ∈ runs (fun n => 3 ≤ n ∧ n ≤ 9) isNameLetter}

/-- A year, a month and a day with dashes. -/
structure DashedDay where
  year : Digits 4 4
  month : Digits 2 2
  day : Digits 2 2

/-- An offset from universal time. -/
inductive Offset
  | universal
  | shift (west : Bool) (hours : Digits 2 2) (colon : Bool) (minutes : Digits 2 2)

/-- The seconds of a time of day. -/
structure Seconds where
  whole : Digits 2 2
  fraction : Option {part // part ∈ runs (1 ≤ ·) isWordDigit}

/-- A time of day, perhaps without seconds, and perhaps with an offset. -/
structure Clock where
  hour : Digits 2 2
  minute : Digits 2 2
  seconds : Option Seconds
  offset : Option Offset

/-- A text that has the shape of a date. -/
inductive DateForm
  | bare (date : DashedDay)
  | moment (date : DashedDay) (spaced : Bool) (clock : Clock)
  | slashed (month day : Digits 1 2) (year : Digits 4 4)
  | dashed (day month : Digits 1 2) (year : Digits 4 4)
  | named (name : MonthWord) (point : Bool) (gap : Blanks 1) (day : Digits 1 2) (space : Blanks 0)
      (year : Digits 4 4)

def DashedDay.chars (date : DashedDay) : List Char :=
  date.year ++ '-' :: (date.month ++ '-' :: date.day)

def Offset.chars : Offset → List Char
  | universal => ['Z']
  | shift west hours colon minutes =>
    (if west then '-' else '+') :: (hours ++ ((if colon then [':'] else []) ++ minutes))

def Seconds.chars (seconds : Seconds) : List Char :=
  ':' :: (seconds.whole ++ seconds.fraction.elim [] fun fraction => '.' :: fraction)

def Clock.chars (clock : Clock) : List Char :=
  clock.hour ++ ':' :: (clock.minute ++
    (clock.seconds.elim [] Seconds.chars ++ clock.offset.elim [] Offset.chars))

def DateForm.chars : DateForm → List Char
  | bare date => date.chars
  | moment date spaced clock => date.chars ++ (if spaced then ' ' else 'T') :: clock.chars
  | slashed month day year => month ++ '/' :: (day ++ '/' :: year)
  | dashed day month year => day ++ '-' :: (month ++ '-' :: year)
  | named name point gap day space year =>
    name ++ ((if point then ['.'] else []) ++ (gap ++ (day ++ ',' :: (space ++ year))))

section Languages

theorem reads_digits (count : Nat) :
    Reads (digits count) (spelled fun part : Digits count count => part.val) := by
  rw [← Scanner.runs_eq_spelled, ← mul_one (runs _ _)]
  exact (Scanner.reads_between count count isWordDigit).bind fun _ => Scanner.reads_pure ()

theorem reads_anyOf (chars : List Char) :
    Reads (anyOf chars) (spelled fun c : {c // c ∈ chars} => [c.val]) := by
  have hone : runs (· = 1) chars.contains = spelled fun c : {c // c ∈ chars} => [c.val] := by
    ext part
    rw [Scanner.mem_runs, List.length_eq_one_iff]
    constructor
    · rintro ⟨⟨c, rfl⟩, hc⟩
      exact ⟨⟨c, by simpa using hc⟩, rfl⟩
    · rintro ⟨⟨c, hc⟩, rfl⟩
      exact ⟨⟨c, rfl⟩, by simpa using hc⟩
  rw [← hone, ← mul_one (runs _ _)]
  exact (Scanner.reads_one chars.contains).bind fun _ => Scanner.reads_pure ()

theorem reads_separator (c : Char) : Reads (anyOf [c]) (spelled fun _ : Unit => [c]) := by
  refine (reads_anyOf [c]).layout (fun _ => ()) (fun _ => ⟨⟨c, by simp⟩, rfl⟩) ?_
  rintro ⟨d, hd⟩
  obtain rfl := List.mem_singleton.mp hd
  rfl

theorem reads_choice (c d : Char) :
    Reads (anyOf [c, d]) (spelled fun last : Bool => [if last then d else c]) := by
  have hall : spelled (fun c' : {c' // c' ∈ [c, d]} => [c'.val]) =
      spelled fun last : Bool => [if last then d else c] := by
    ext part
    simp [Scanner.mem_spelled]
  exact hall ▸ reads_anyOf [c, d]

theorem reads_dashedDate : Reads dashedDate (spelled DashedDay.chars) := by
  have h : Reads dashedDate _ := (reads_digits 4).bind fun _ => (reads_separator '-').bind fun _ =>
    (reads_digits 2).bind fun _ => (reads_separator '-').bind fun _ => reads_digits 2
  simp only [Scanner.spelled_mul] at h
  refine h.layout (fun form => ⟨form.1, form.2.2.1, form.2.2.2.2⟩) ?_ fun _ => rfl
  rintro ⟨year, month, day⟩
  exact ⟨(year, (), month, (), day), rfl⟩

theorem reads_seconds : Reads (do
    anyOf [':']
    digits 2
    Scanner.optional do
      anyOf ['.']
      let _ ← Scanner.digits
      pure ()) (spelled Seconds.chars) := by
  have h := (reads_separator ':').bind fun _ => (reads_digits 2).bind fun _ =>
    ((reads_separator '.').bind fun _ => (Scanner.reads_some isWordDigit).bind fun _ =>
      Scanner.reads_pure ()).optional
  simp only [mul_one, Scanner.runs_eq_spelled, Scanner.spelled_mul, Scanner.spelled_add_one] at h
  refine h.layout (fun form => ⟨form.2.1, form.2.2.map Prod.snd⟩) ?_ ?_
  · rintro ⟨whole, fraction⟩
    exact ⟨((), whole, fraction.map ((), ·)), by cases fraction <;> rfl⟩
  · rintro ⟨-, whole, fraction⟩
    cases fraction <;> rfl

theorem reads_offset : Reads (Scanner.either (anyOf ['Z']) do
    anyOf ['+', '-']
    digits 2
    Scanner.optional (anyOf [':'])
    digits 2) (spelled Offset.chars) := by
  have h := (reads_separator 'Z').either ((reads_choice '+' '-').bind fun _ =>
    (reads_digits 2).bind fun _ => (reads_separator ':').optional.bind fun _ => reads_digits 2)
  simp only [Scanner.spelled_mul, Scanner.spelled_add, Scanner.spelled_add_one] at h
  refine h.layout (Sum.elim (fun _ => .universal) fun form =>
    .shift form.1 form.2.1 form.2.2.1.isSome form.2.2.2) ?_ ?_
  · rintro (_ | ⟨west, hours, colon, minutes⟩)
    · exact ⟨.inl (), rfl⟩
    · exact ⟨.inr (west, hours, if colon then some () else none, minutes), by cases colon <;> rfl⟩
  · rintro (_ | ⟨west, hours, colon, minutes⟩)
    · rfl
    · cases colon <;> rfl

theorem reads_clockTime : Reads clockTime (spelled Clock.chars) := by
  have h : Reads clockTime _ := (reads_digits 2).bind fun _ => (reads_separator ':').bind fun _ =>
    (reads_digits 2).bind fun _ => reads_seconds.optional.bind fun _ => reads_offset.optional
  simp only [Scanner.spelled_mul, Scanner.spelled_add_one] at h
  refine h.layout (fun form => ⟨form.1, form.2.2.1, form.2.2.2.1, form.2.2.2.2⟩) ?_ fun _ => rfl
  rintro ⟨hour, minute, seconds, offset⟩
  exact ⟨(hour, (), minute, seconds, offset), rfl⟩

theorem reads_shortDate (separator : Char) : Reads (shortDate separator)
    (spelled fun parts : Digits 1 2 × Digits 1 2 × Digits 4 4 =>
      parts.1 ++ separator :: (parts.2.1 ++ separator :: parts.2.2)) := by
  have h : Reads (shortDate separator) _ := (Scanner.reads_between 1 2 isWordDigit).bind fun _ =>
    (reads_separator separator).bind fun _ => (Scanner.reads_between 1 2 isWordDigit).bind fun _ =>
      (reads_separator separator).bind fun _ => reads_digits 4
  simp only [Scanner.runs_eq_spelled, Scanner.spelled_mul] at h
  refine h.layout (fun form => (form.1, form.2.2.1, form.2.2.2.2)) ?_ fun _ => rfl
  rintro ⟨first, second, year⟩
  exact ⟨(first, (), second, (), year), rfl⟩

theorem reads_namedDate : Reads namedDate (spelled fun parts :
    MonthWord × Bool × Blanks 1 × Digits 1 2 × Blanks 0 × Digits 4 4 =>
      parts.1 ++ ((if parts.2.1 then ['.'] else []) ++ (parts.2.2.1 ++ (parts.2.2.2.1 ++
        ',' :: (parts.2.2.2.2.1 ++ parts.2.2.2.2.2))))) := by
  have h : Reads namedDate _ := (Scanner.reads_between 3 9 isNameLetter).bind fun _ =>
    (reads_separator '.').optional.bind fun _ => (Scanner.reads_some isBlank).bind fun _ =>
      (Scanner.reads_between 1 2 isWordDigit).bind fun _ => (reads_separator ',').bind fun _ =>
        (Scanner.reads_many isBlank).bind fun _ => reads_digits 4
  simp only [Scanner.runs_eq_spelled, Scanner.spelled_mul, Scanner.spelled_add_one] at h
  refine h.layout (fun form => (form.1, form.2.1.isSome, form.2.2.1, form.2.2.2.1,
    form.2.2.2.2.2.1, form.2.2.2.2.2.2)) ?_ ?_
  · rintro ⟨name, point, gap, day, space, year⟩
    exact ⟨(name, if point then some () else none, gap, day, (), space, year), by
      cases point <;> rfl⟩
  · rintro ⟨name, point, gap, day, -, space, year⟩
    cases point <;> rfl

end Languages

/-- The patterns of dates take exactly the texts that are spelled by the forms. -/
theorem datePatterns_fit_iff (text : String) : datePatterns.any (·.fits text) = true ↔
    ∃ form : DateForm, form.chars = text.toList := by
  have hmoment : Reads (do dashedDate; anyOf ['T', ' ']; clockTime) _ :=
    reads_dashedDate.bind fun _ => (reads_choice 'T' ' ').bind fun _ => reads_clockTime
  simp only [Scanner.spelled_mul] at hmoment
  simp only [datePatterns, List.any_cons, List.any_nil, Bool.or_false, Bool.or_eq_true,
    Scanner.fits_iff hmoment, Scanner.fits_iff reads_dashedDate,
    Scanner.fits_iff (reads_shortDate _), Scanner.fits_iff reads_namedDate, Scanner.mem_spelled,
    Prod.exists]
  constructor
  · rintro (⟨date, spaced, clock, h⟩ | ⟨date, h⟩ | ⟨month, day, year, h⟩ | ⟨day, month, year, h⟩ |
      ⟨name, point, gap, day, space, year, h⟩)
    · exact ⟨.moment date spaced clock, h⟩
    · exact ⟨.bare date, h⟩
    · exact ⟨.slashed month day year, h⟩
    · exact ⟨.dashed day month year, h⟩
    · exact ⟨.named name point gap day space year, h⟩
  · rintro ⟨date | ⟨date, spaced, clock⟩ | ⟨month, day, year⟩ | ⟨day, month, year⟩ |
      ⟨name, point, gap, day, space, year⟩, h⟩
    · exact Or.inr (Or.inl ⟨date, h⟩)
    · exact Or.inl ⟨date, spaced, clock, h⟩
    · exact Or.inr (Or.inr (Or.inl ⟨month, day, year, h⟩))
    · exact Or.inr (Or.inr (Or.inr (Or.inl ⟨day, month, year, h⟩)))
    · exact Or.inr (Or.inr (Or.inr (Or.inr ⟨name, point, gap, day, space, year, h⟩)))

end TableTalk.Cleaning
