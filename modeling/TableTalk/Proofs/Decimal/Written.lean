import Mathlib.Computability.Language
import TableTalk.Proofs.Calendar.Shapes
import TableTalk.Proofs.Decimal.Scientific

/-!
# Decimals as they are written

A decimal is written with a sign or none, with digits before a point, behind it or on
both sides, and with an exponent or none. What is read are exactly these texts, and the
number that is read is the one nearest to the value that is written.
-/

namespace TableTalk.Decimal

open Calendar (IsDigits Stops)

variable {cs ds : List Char}

/-- A sign in front of digits, or none. -/
inductive WrittenSign
  | absent
  | plus
  | minus
deriving DecidableEq

namespace WrittenSign

def text : WrittenSign → List Char
  | absent => []
  | plus => ['+']
  | minus => ['-']

/-- What stands behind the sign, with the sign. -/
def apply {α : Type} [Neg α] : WrittenSign → α → α
  | minus, x => -x
  | _, x => x

/-- A text with the sign taken from its front. -/
def split : List Char → WrittenSign × List Char
  | '-' :: cs => (minus, cs)
  | '+' :: cs => (plus, cs)
  | cs => (absent, cs)

theorem cases (cs : List Char) :
    (∃ ds, cs = '-' :: ds) ∨ (∃ ds, cs = '+' :: ds) ∨
      cs.head? ≠ some '-' ∧ cs.head? ≠ some '+' := by
  cases cs with
  | nil => simp
  | cons c cs =>
    by_cases hminus : c = '-'
    · exact Or.inl ⟨cs, by rw [hminus]⟩
    · by_cases hplus : c = '+'
      · exact Or.inr (Or.inl ⟨cs, by rw [hplus]⟩)
      · simp [hminus, hplus]

theorem split_of_unsigned (minus : cs.head? ≠ some '-') (plus : cs.head? ≠ some '+') :
    split cs = (absent, cs) := by
  cases cs with
  | nil => rfl
  | cons c cs =>
    have hminus : c ≠ '-' := fun h => minus (congrArg some h)
    have hplus : c ≠ '+' := fun h => plus (congrArg some h)
    simp [split, hminus, hplus]

/-- A sign is told from what stands behind it, unless that has a sign too. -/
theorem split_text_append (sign : WrittenSign) (minus : cs.head? ≠ some '-')
    (plus : cs.head? ≠ some '+') : split (sign.text ++ cs) = (sign, cs) := by
  cases sign with
  | absent => exact split_of_unsigned minus plus
  | plus => rfl
  | minus => rfl

theorem text_append_split (cs : List Char) : (split cs).1.text ++ (split cs).2 = cs := by
  unfold split
  split <;> rfl

end WrittenSign

/-- Behind its letter, an exponent is digits with a sign or none. -/
theorem exponent?_cons (e : Char) (cs : List Char) :
    exponent? (e :: cs) =
      if e == 'e' || e == 'E' then
        if (WrittenSign.split cs).2.isEmpty || !(WrittenSign.split cs).2.all Char.isDigit then none
        else some ((WrittenSign.split cs).1.apply (digitsValue (WrittenSign.split cs).2 : ℤ))
      else none := by
  rcases WrittenSign.cases cs with ⟨ds, rfl⟩ | ⟨ds, rfl⟩ | ⟨hminus, hplus⟩
  · rfl
  · rfl
  · rw [WrittenSign.split_of_unsigned hminus hplus]
    cases cs with
    | nil => rfl
    | cons c cs => simp_all [exponent?, WrittenSign.apply]

theorem exponent?_cons_eq_some_iff {e : Char} {n : ℤ} :
    exponent? (e :: cs) = some n ↔
      (e = 'e' ∨ e = 'E') ∧ (WrittenSign.split cs).2 ≠ [] ∧ IsDigits (WrittenSign.split cs).2 ∧
        (WrittenSign.split cs).1.apply (digitsValue (WrittenSign.split cs).2 : ℤ) = n := by
  rw [exponent?_cons]
  simp [IsDigits, and_assoc]

theorem head?_ne_of_isDigits {c : Char} (plain : IsDigits ds) (h : c.isDigit = false) :
    ds.head? ≠ some c := by
  intro hhead
  exact Calendar.ne_of_isDigit (plain c (List.mem_of_head? hhead)) h rfl

/-- An exponent behind digits. -/
structure WrittenExponent where
  letter : Char
  sign : WrittenSign
  digits : List Char
  isLetter : letter = 'e' ∨ letter = 'E'
  nonempty : digits ≠ []
  plain : IsDigits digits

namespace WrittenExponent

def text (written : WrittenExponent) : List Char :=
  written.letter :: (written.sign.text ++ written.digits)

def value (written : WrittenExponent) : ℤ :=
  written.sign.apply (digitsValue written.digits : ℤ)

end WrittenExponent

/-- The text of an exponent, which may be missing. -/
def exponentText (exponent : Option WrittenExponent) : List Char :=
  exponent.elim [] WrittenExponent.text

/-- A missing exponent is zero. -/
def exponentValue (exponent : Option WrittenExponent) : ℤ :=
  exponent.elim 0 WrittenExponent.value

theorem exponent?_eq_some_iff {n : ℤ} :
    exponent? cs = some n ↔
      ∃ exponent, exponentText exponent = cs ∧ exponentValue exponent = n := by
  constructor
  · intro h
    cases cs with
    | nil => exact ⟨none, rfl, Option.some.inj h⟩
    | cons e cs =>
      obtain ⟨hletter, hsome, hplain, hvalue⟩ := exponent?_cons_eq_some_iff.mp h
      refine ⟨some ⟨e, _, _, hletter, hsome, hplain⟩, ?_, hvalue⟩
      exact congrArg (e :: ·) (WrittenSign.text_append_split cs)
  · rintro ⟨exponent, rfl, rfl⟩
    cases exponent with
    | none => rfl
    | some written =>
      have hsplit := WrittenSign.split_text_append written.sign
        (head?_ne_of_isDigits written.plain (c := '-') rfl)
        (head?_ne_of_isDigits written.plain (c := '+') rfl)
      refine exponent?_cons_eq_some_iff.mpr ⟨written.isLetter, ?_, ?_, ?_⟩
      · rw [hsplit]
        exact written.nonempty
      · rw [hsplit]
        exact written.plain
      · rw [hsplit]
        rfl

theorem stops_exponentText (exponent : Option WrittenExponent) :
    Stops Char.isDigit (exponentText exponent) := by
  cases exponent with
  | none => exact Calendar.stops_nil
  | some written =>
    refine Calendar.stops_cons.mpr ?_
    rcases written.isLetter with h | h <;> rw [h] <;> rfl

theorem head?_exponentText (exponent : Option WrittenExponent) :
    (exponentText exponent).head? ≠ some '.' := by
  cases exponent with
  | none => simp [exponentText]
  | some written =>
    have hletter : written.letter ≠ '.' := by
      rcases written.isLetter with h | h <;> rw [h] <;> decide
    simpa [exponentText, WrittenExponent.text] using hletter

/-- A decimal without sign: digits before the point or behind it, and perhaps an exponent. -/
structure Unsigned where
  whole : List Char
  /-- The digits behind the point, if there is a point. -/
  fraction : Option (List Char)
  exponent : Option WrittenExponent
  plainWhole : IsDigits whole
  plainFraction : IsDigits (fraction.getD [])
  nonempty : whole ≠ [] ∨ fraction.getD [] ≠ []

namespace Unsigned

variable (written : Unsigned)

def text : List Char :=
  written.whole ++ (written.fraction.elim [] ('.' :: ·) ++ exponentText written.exponent)

/-- The number that the digits on both sides of the point spell. -/
def significand : ℕ :=
  digitsValue (written.whole ++ written.fraction.getD [])

/-- The power of ten that the significand is multiplied by. -/
def scale : ℤ :=
  exponentValue written.exponent - (written.fraction.getD []).length

def value : ℚ :=
  written.significand * 10 ^ written.scale

theorem value_nonneg : 0 ≤ written.value :=
  mul_nonneg (Nat.cast_nonneg _) (zpow_nonneg (by norm_num) _)

/-- The number that is read. -/
def number : Float :=
  nearest written.significand written.scale

theorem roundsTo_number : RoundsTo written.value written.number :=
  roundsTo_nearest _ _

theorem text_of_whole {written : Unsigned} (fraction : written.fraction = none)
    (exponent : written.exponent = none) : written.text = written.whole := by
  rw [text, fraction, exponent]
  exact List.append_nil _

/-- A decimal without sign begins with a digit or with the point. -/
theorem head?_text_ne {c : Char} (digit : c.isDigit = false) (point : c ≠ '.') :
    written.text.head? ≠ some c := by
  intro hhead
  cases hwhole : written.whole with
  | cons d rest =>
    have hd := written.plainWhole d (hwhole ▸ List.mem_cons_self)
    rw [text, hwhole] at hhead
    exact Calendar.ne_of_isDigit hd digit (Option.some.inj hhead)
  | nil =>
    have hsome := written.nonempty.resolve_left (not_not.mpr hwhole)
    cases hfraction : written.fraction with
    | none => exact hsome (by rw [hfraction]; rfl)
    | some run =>
      rw [text, hwhole, hfraction] at hhead
      exact point (Option.some.inj hhead).symm

theorem split_text_append (sign : WrittenSign) :
    WrittenSign.split (sign.text ++ written.text) = (sign, written.text) :=
  WrittenSign.split_text_append sign (written.head?_text_ne rfl (by decide))
    (written.head?_text_ne rfl (by decide))

end Unsigned

section Reading

theorem unsigned?_of_point (h : cs.dropWhile Char.isDigit = '.' :: ds) :
    unsigned? cs =
      if (cs.takeWhile Char.isDigit).isEmpty && (ds.takeWhile Char.isDigit).isEmpty then none
      else (exponent? (ds.dropWhile Char.isDigit)).map fun exponent =>
        nearest (digitsValue (cs.takeWhile Char.isDigit ++ ds.takeWhile Char.isDigit))
          (exponent - (ds.takeWhile Char.isDigit).length) := by
  simp only [unsigned?, spanDigits, h]

theorem unsigned?_of_no_point (h : (cs.dropWhile Char.isDigit).head? ≠ some '.') :
    unsigned? cs =
      if (cs.takeWhile Char.isDigit).isEmpty then none
      else (exponent? (cs.dropWhile Char.isDigit)).map fun exponent =>
        nearest (digitsValue (cs.takeWhile Char.isDigit)) exponent := by
  cases hrest : cs.dropWhile Char.isDigit with
  | nil => simp [unsigned?, spanDigits, hrest]
  | cons c rest =>
    have hpoint : c ≠ '.' := by
      rintro rfl
      exact h (congrArg List.head? hrest)
    simp [unsigned?, spanDigits, hrest, hpoint]

/-- What is read are exactly the decimals without sign. -/
theorem unsigned?_eq_some_iff {x : Float} :
    unsigned? cs = some x ↔
      ∃ written : Unsigned, written.text = cs ∧ written.number = x := by
  constructor
  · intro h
    have hplain : IsDigits (cs.takeWhile Char.isDigit) := fun _ => List.mem_takeWhile_imp
    by_cases hpoint : (cs.dropWhile Char.isDigit).head? = some '.'
    · obtain ⟨ds, hds⟩ := List.head?_eq_some_iff.mp hpoint
      rw [unsigned?_of_point hds] at h
      split at h
      case isTrue => cases h
      case isFalse hsome =>
        obtain ⟨n, hn, rfl⟩ := Option.map_eq_some_iff.mp h
        obtain ⟨exponent, htext, rfl⟩ := exponent?_eq_some_iff.mp hn
        refine ⟨⟨_, some (ds.takeWhile Char.isDigit), exponent, hplain,
          fun _ => List.mem_takeWhile_imp, ?_⟩, ?_, rfl⟩
        · rw [Bool.and_eq_true, List.isEmpty_iff, List.isEmpty_iff] at hsome
          exact not_and_or.mp hsome
        · show _ ++ ('.' :: ds.takeWhile Char.isDigit ++ exponentText exponent) = cs
          rw [htext, List.cons_append, List.takeWhile_append_dropWhile, ← hds,
            List.takeWhile_append_dropWhile]
    · rw [unsigned?_of_no_point hpoint] at h
      split at h
      case isTrue => cases h
      case isFalse hsome =>
        obtain ⟨n, hn, rfl⟩ := Option.map_eq_some_iff.mp h
        obtain ⟨exponent, htext, rfl⟩ := exponent?_eq_some_iff.mp hn
        refine ⟨⟨_, none, exponent, hplain, List.forall_mem_nil _, Or.inl ?_⟩, ?_, ?_⟩
        · rwa [List.isEmpty_iff] at hsome
        · show _ ++ ([] ++ exponentText exponent) = cs
          rw [htext, List.nil_append, List.takeWhile_append_dropWhile]
        · simp [Unsigned.number, Unsigned.significand, Unsigned.scale]
  · rintro ⟨⟨whole, fraction, exponent, plainWhole, plainFraction, nonempty⟩, rfl, rfl⟩
    cases fraction with
    | none =>
      have hstops := stops_exponentText exponent
      have htake := Calendar.takeWhile_append plainWhole hstops
      have hdrop := Calendar.dropWhile_append plainWhole hstops
      have hwhole : whole ≠ [] := nonempty.resolve_right (not_not.mpr rfl)
      show unsigned? (whole ++ exponentText exponent) = _
      rw [unsigned?_of_no_point (hdrop.symm ▸ head?_exponentText exponent), htake, hdrop,
        exponent?_eq_some_iff.mpr ⟨exponent, rfl, rfl⟩]
      simp [hwhole, Unsigned.number, Unsigned.significand, Unsigned.scale]
    | some fraction =>
      have hstops := stops_exponentText exponent
      have htake := Calendar.takeWhile_append plainFraction hstops
      have hdrop := Calendar.dropWhile_append plainFraction hstops
      have hpoint : Stops Char.isDigit ('.' :: (fraction ++ exponentText exponent)) :=
        Calendar.stops_cons.mpr rfl
      have htakeWhole := Calendar.takeWhile_append plainWhole hpoint
      have hdropWhole := Calendar.dropWhile_append plainWhole hpoint
      have hsome : (whole.isEmpty && fraction.isEmpty) = false := by
        rw [Bool.and_eq_false_iff, List.isEmpty_eq_false_iff, List.isEmpty_eq_false_iff]
        exact nonempty
      show unsigned? (whole ++ '.' :: (fraction ++ exponentText exponent)) = _
      rw [unsigned?_of_point hdropWhole]
      dsimp only [Option.getD_some] at htake hdrop
      rw [htakeWhole, htake, hdrop, hsome, exponent?_eq_some_iff.mpr ⟨exponent, rfl, rfl⟩]
      rfl

end Reading

/-- A decimal with a sign or none. -/
structure Written where
  sign : WrittenSign
  unsigned : Unsigned

namespace Written

variable (written : Written)

def text : List Char :=
  written.sign.text ++ written.unsigned.text

def value : ℚ :=
  written.sign.apply written.unsigned.value

/-- The number that is read. -/
def number : Float :=
  written.sign.apply written.unsigned.number

theorem abs_value : |written.value| = written.unsigned.value := by
  have hnonneg := written.unsigned.value_nonneg
  rw [value]
  cases written.sign
  · exact abs_of_nonneg hnonneg
  · exact abs_of_nonneg hnonneg
  · exact (abs_neg _).trans (abs_of_nonneg hnonneg)

theorem isFinite_number_iff : isFinite written.number = true ↔ |written.value| < overflowBound := by
  have hrounds := written.unsigned.roundsTo_number
  rw [written.abs_value, ← hrounds.isFinite_iff, number]
  cases written.sign
  · rfl
  · rfl
  · exact hrounds.isFinite_neg_iff

/-- The number that is read is the one nearest to the value, and has the sign that is written. -/
theorem isNearest_number (finite : isFinite written.number = true) :
    IsNearest written.value written.number ∧
      (isNegative written.number = true ↔ written.sign = .minus) := by
  have hrounds := written.unsigned.roundsTo_number
  rw [isFinite_number_iff, abs_value, ← hrounds.isFinite_iff] at finite
  have hnearest := hrounds.isNearest written.unsigned.value_nonneg finite
  have hpositive := hrounds.isNegative
  obtain ⟨sign, unsigned⟩ := written
  cases sign
  · exact ⟨hnearest, by simp [number, WrittenSign.apply, hpositive]⟩
  · exact ⟨hnearest, by simp [number, WrittenSign.apply, hpositive]⟩
  · obtain ⟨hneg, hsign⟩ := hnearest.neg hpositive
    exact ⟨hneg, by simp [number, WrittenSign.apply, hsign]⟩

end Written

section Language

open Computability

/-- One ASCII digit. -/
def digit : Language Char := {cs | ∃ c, c.isDigit = true ∧ cs = [c]}

/-- The texts of `[+-]?`. -/
def signs : Language Char := 1 + ({['+']} + {['-']})

/-- The texts of `[+-]?(d+(.d*)?|.d+)([eE][+-]?d+)?`, where `d` is an ASCII digit. -/
def decimals : Language Char :=
  signs * ((digit * digit∗ * (1 + {['.']} * digit∗) + {['.']} * (digit * digit∗)) *
    (1 + ({['e']} + {['E']}) * (signs * (digit * digit∗))))

theorem mem_digit_kstar_iff : cs ∈ digit∗ ↔ IsDigits cs := by
  rw [Language.mem_kstar]
  constructor
  · rintro ⟨runs, rfl, hruns⟩ c hc
    obtain ⟨run, hrun, hmem⟩ := List.mem_flatten.mp hc
    obtain ⟨d, hd, rfl⟩ := hruns run hrun
    rwa [List.mem_singleton.mp hmem]
  · intro hplain
    refine ⟨cs.map ([·]), (List.flatMap_singleton' cs).symm, fun run hrun => ?_⟩
    obtain ⟨c, hc, rfl⟩ := List.mem_map.mp hrun
    exact ⟨c, hplain c hc, rfl⟩

theorem mem_digits_iff : cs ∈ digit * digit∗ ↔ cs ≠ [] ∧ IsDigits cs := by
  rw [Language.mem_mul]
  constructor
  · rintro ⟨_, ⟨c, hc, rfl⟩, rest, hrest, rfl⟩
    refine ⟨List.cons_ne_nil _ _, ?_⟩
    exact List.forall_mem_cons.mpr ⟨hc, mem_digit_kstar_iff.mp hrest⟩
  · rintro ⟨hsome, hplain⟩
    obtain ⟨c, rest, rfl⟩ := List.exists_cons_of_ne_nil hsome
    obtain ⟨hc, hrest⟩ := List.forall_mem_cons.mp hplain
    exact ⟨[c], ⟨c, hc, rfl⟩, rest, mem_digit_kstar_iff.mpr hrest, rfl⟩

theorem mem_signs_iff : cs ∈ signs ↔ ∃ sign : WrittenSign, sign.text = cs := by
  rw [signs, Language.mem_add, Language.mem_add, Language.mem_one]
  constructor
  · rintro (rfl | rfl | rfl)
    · exact ⟨.absent, rfl⟩
    · exact ⟨.plus, rfl⟩
    · exact ⟨.minus, rfl⟩
  · rintro ⟨sign, rfl⟩
    cases sign
    · exact Or.inl rfl
    · exact Or.inr (Or.inl rfl)
    · exact Or.inr (Or.inr rfl)

theorem mem_exponents_iff :
    cs ∈ 1 + ({['e']} + {['E']}) * (signs * (digit * digit∗)) ↔
      ∃ exponent, exponentText exponent = cs := by
  constructor
  · rintro (rfl | ⟨_, hletter, _, ⟨_, hsign, run, hrun, rfl⟩, rfl⟩)
    · exact ⟨none, rfl⟩
    · obtain ⟨sign, rfl⟩ := mem_signs_iff.mp hsign
      obtain ⟨hsome, hplain⟩ := mem_digits_iff.mp hrun
      rcases hletter with rfl | rfl
      · exact ⟨some ⟨'e', sign, run, Or.inl rfl, hsome, hplain⟩, rfl⟩
      · exact ⟨some ⟨'E', sign, run, Or.inr rfl, hsome, hplain⟩, rfl⟩
  · rintro ⟨exponent, rfl⟩
    cases exponent with
    | none => exact Or.inl rfl
    | some written =>
      have hsign := mem_signs_iff.mpr ⟨written.sign, rfl⟩
      have hdigits := mem_digits_iff.mpr ⟨written.nonempty, written.plain⟩
      have hletter : [written.letter] ∈ ({['e']} + {['E']} : Language Char) := by
        rcases written.isLetter with h | h
        · exact Or.inl (congrArg (fun c => [c]) h)
        · exact Or.inr (congrArg (fun c => [c]) h)
      exact Or.inr (Language.append_mem_mul hletter (Language.append_mem_mul hsign hdigits))

theorem mem_significands_iff :
    cs ∈ digit * digit∗ * (1 + {['.']} * digit∗) + {['.']} * (digit * digit∗) ↔
      ∃ (whole : List Char) (fraction : Option (List Char)), IsDigits whole ∧
        IsDigits (fraction.getD []) ∧ (whole ≠ [] ∨ fraction.getD [] ≠ []) ∧
          whole ++ fraction.elim [] ('.' :: ·) = cs := by
  constructor
  · rintro (⟨whole, hwhole, _, rfl | ⟨_, rfl, run, hrun, rfl⟩, rfl⟩ | ⟨_, rfl, run, hrun, rfl⟩)
    · obtain ⟨hsome, hplain⟩ := mem_digits_iff.mp hwhole
      exact ⟨whole, none, hplain, List.forall_mem_nil _, Or.inl hsome, rfl⟩
    · obtain ⟨hsome, hplain⟩ := mem_digits_iff.mp hwhole
      exact ⟨whole, some run, hplain, mem_digit_kstar_iff.mp hrun, Or.inl hsome, rfl⟩
    · obtain ⟨hsome, hplain⟩ := mem_digits_iff.mp hrun
      exact ⟨[], some run, List.forall_mem_nil _, hplain, Or.inr hsome, rfl⟩
  · rintro ⟨whole, fraction, hwhole, hfraction, hsome, rfl⟩
    by_cases hempty : whole = []
    · -- there is nothing before the point, so there is a point
      subst hempty
      have hsome' := hsome.resolve_left (not_not.mpr rfl)
      cases fraction with
      | none => exact absurd rfl hsome'
      | some run => exact Or.inr ⟨_, rfl, run, mem_digits_iff.mpr ⟨hsome', hfraction⟩, rfl⟩
    · refine Or.inl (Language.append_mem_mul (mem_digits_iff.mpr ⟨hempty, hwhole⟩) ?_)
      cases fraction with
      | none => exact Or.inl rfl
      | some run => exact Or.inr ⟨_, rfl, run, mem_digit_kstar_iff.mpr hfraction, rfl⟩

/-- The decimals as they are written are the texts of the regular expression. -/
theorem mem_decimals_iff : cs ∈ decimals ↔ ∃ written : Written, written.text = cs := by
  constructor
  · rintro ⟨_, hsign, _, ⟨_, hdigits, _, hexponent, rfl⟩, rfl⟩
    obtain ⟨sign, rfl⟩ := mem_signs_iff.mp hsign
    obtain ⟨whole, fraction, hwhole, hfraction, hsome, rfl⟩ := mem_significands_iff.mp hdigits
    obtain ⟨exponent, rfl⟩ := mem_exponents_iff.mp hexponent
    refine ⟨⟨sign, ⟨whole, fraction, exponent, hwhole, hfraction, hsome⟩⟩, ?_⟩
    exact congrArg (sign.text ++ ·) (List.append_assoc _ _ _).symm
  · rintro ⟨⟨sign, ⟨whole, fraction, exponent, hwhole, hfraction, hsome⟩⟩, rfl⟩
    have hdigits := mem_significands_iff.mpr ⟨whole, fraction, hwhole, hfraction, hsome, rfl⟩
    rw [Written.text, Unsigned.text, ← List.append_assoc whole]
    exact Language.append_mem_mul (mem_signs_iff.mpr ⟨sign, rfl⟩)
      (Language.append_mem_mul hdigits (mem_exponents_iff.mpr ⟨exponent, rfl⟩))

end Language

end TableTalk.Decimal
