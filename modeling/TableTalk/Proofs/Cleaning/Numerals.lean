import Mathlib.Data.List.DropRight
import TableTalk.Cleaning.Numeral
import TableTalk.Proofs.Decimal.Written

/-!
# The grammar of numerals

A text is a numeral if a decimal is left of it without the parentheses, the percent sign
and the separators. Whole numbers of several digits that begin with a zero are excluded,
and so are numbers that are too great and negative numbers in parentheses. The number
is the one nearest to the decimal, or to its opposite in parentheses.
-/

namespace TableTalk.Cleaning

open Decimal (IsNearest Unsigned Written WrittenExponent WrittenSign decimals isFinite isNegative
  overflowBound)
open Text (isBlank)

/-- Parentheses around something: a text of more than two bytes. -/
def IsEnclosed (cs : List Char) : Prop :=
  cs.head? = some '(' ∧ cs.getLast? = some ')' ∧ 2 < Text.byteCount cs

instance (cs : List Char) : Decidable (IsEnclosed cs) :=
  inferInstanceAs (Decidable (_ ∧ _))

/-- Whether parentheses mark an amount as negative. -/
def IsMarked (text : String) : Prop :=
  IsEnclosed (Text.stripWhile isBlank text.toList)

instance (text : String) : Decidable (IsMarked text) :=
  inferInstanceAs (Decidable (IsEnclosed _))

/-- What is left of a text without parentheses, percent sign, separators and currency signs. -/
def remainder (text : String) : List Char :=
  let trimmed := Text.stripWhile isBlank text.toList
  let body := Text.stripWhile isBlank (if IsMarked text then trimmed.tail.dropLast else trimmed)
  let bare := if body.getLast? = some '%' then body.dropLast else body
  (bare.rdropWhile isBlank).filter (· ∉ [',', '_', '$', '€', '£', '¥', '₹'])

section Remainder

variable {cs : List Char}

theorem length_le_byteCount (cs : List Char) : cs.length ≤ Text.byteCount cs := by
  induction cs with
  | nil => exact le_rfl
  | cons c cs ih =>
    have hsize := Char.utf8Size_pos c
    show cs.length + 1 ≤ c.utf8Size + Text.byteCount cs
    omega

/-- Between two parentheses, characters and bytes are counted alike. -/
theorem two_lt_length_iff (first : cs.head? = some '(') (last : cs.getLast? = some ')') :
    2 < cs.length ↔ 2 < Text.byteCount cs := by
  refine ⟨fun h => h.trans_le (length_le_byteCount cs), fun h => ?_⟩
  match cs with
  | [] => cases first
  | [c] =>
    obtain rfl := Option.some.inj first
    exact absurd (Option.some.inj last) (by decide)
  | [c, d] =>
    obtain rfl := Option.some.inj first
    obtain rfl := Option.some.inj last
    exact absurd h (by decide)
  | _ :: _ :: _ :: rest => simp

theorem parenthesized?_eq (cs : List Char) :
    parenthesized? cs = if IsEnclosed cs then some cs.tail.dropLast else none := by
  by_cases hfirst : cs.head? = some '('
  · by_cases hlast : cs.getLast? = some ')'
    · simp [parenthesized?, IsEnclosed, hfirst, hlast, two_lt_length_iff hfirst hlast]
    · simp [parenthesized?, IsEnclosed, hlast]
  · simp [parenthesized?, IsEnclosed, hfirst]

theorem getD_parenthesized? (cs : List Char) :
    (parenthesized? cs).getD cs = if IsEnclosed cs then cs.tail.dropLast else cs := by
  rw [parenthesized?_eq]
  split <;> rfl

theorem isSome_parenthesized?_iff : (parenthesized? cs).isSome = true ↔ IsEnclosed cs := by
  rw [parenthesized?_eq]
  split <;> simp [*]

theorem not_isSeparator_eq (c : Char) :
    (!isSeparator c) = decide (c ∉ [',', '_', '$', '€', '£', '¥', '₹']) := by
  rw [isSeparator, List.contains_eq_mem, decide_not]

theorem filter_withoutPercent (text : String) :
    (withoutPercent ((parenthesized? (Text.stripWhile isBlank text.toList)).getD
      (Text.stripWhile isBlank text.toList))).filter (fun c => !isSeparator c) =
        remainder text := by
  simp only [getD_parenthesized?, not_isSeparator_eq, withoutPercent, beq_iff_eq]
  rfl

/-- What is read of a text is decided by what is left of it and by the parentheses. -/
theorem numeral?_eq (text : String) :
    numeral? text =
      if isCode (remainder text) then none
      else (decimal? (remainder text)).bind fun value =>
        if !isFinite value then none
        else if IsMarked text then
          if (remainder text).head? = some '-' then none else some ⟨-value, isIntegral value⟩
        else some ⟨value, isIntegral value⟩ := by
  rw [numeral?]
  simp only [filter_withoutPercent, isSome_parenthesized?_iff, beq_iff_eq]
  rfl

end Remainder

section Decimals

variable {cs : List Char}

theorem decimal?_eq (cs : List Char) :
    decimal? cs =
      (Decimal.unsigned? (WrittenSign.split cs).2).map (WrittenSign.split cs).1.apply := by
  rcases WrittenSign.cases cs with ⟨ds, rfl⟩ | ⟨ds, rfl⟩ | ⟨hminus, hplus⟩
  · rfl
  · exact Option.map_id'.symm
  · have hsame : decimal? cs = Decimal.unsigned? cs := by
      cases cs with
      | nil => rfl
      | cons c cs => simp_all [decimal?]
    rw [WrittenSign.split_of_unsigned hminus hplus, hsame]
    exact Option.map_id'.symm

/-- What is read are exactly the decimals. -/
theorem decimal?_eq_some_iff {x : Float} :
    decimal? cs = some x ↔ ∃ written : Written, written.text = cs ∧ written.number = x := by
  rw [decimal?_eq, Option.map_eq_some_iff]
  constructor
  · rintro ⟨y, hy, rfl⟩
    obtain ⟨unsigned, htext, rfl⟩ := Decimal.unsigned?_eq_some_iff.mp hy
    refine ⟨⟨(WrittenSign.split cs).1, unsigned⟩, ?_, rfl⟩
    rw [Written.text, htext, WrittenSign.text_append_split]
  · rintro ⟨⟨sign, unsigned⟩, rfl, rfl⟩
    have hsplit := unsigned.split_text_append sign
    refine ⟨unsigned.number, Decimal.unsigned?_eq_some_iff.mpr ⟨unsigned, ?_, rfl⟩, ?_⟩
    · rw [Written.text, hsplit]
    · rw [Written.text, hsplit]
      rfl

theorem isSome_decimal?_iff : (decimal? cs).isSome = true ↔ cs ∈ decimals := by
  rw [Option.isSome_iff_exists, Decimal.mem_decimals_iff]
  constructor
  · rintro ⟨x, hx⟩
    obtain ⟨written, htext, -⟩ := decimal?_eq_some_iff.mp hx
    exact ⟨written, htext⟩
  · rintro ⟨written, htext⟩
    exact ⟨written.number, decimal?_eq_some_iff.mpr ⟨written, htext, rfl⟩⟩

end Decimals

/-- A whole number of several digits that begins with a zero. -/
def IsPadded (written : Unsigned) : Prop :=
  written.fraction = none ∧ written.exponent = none ∧ 1 < written.whole.length ∧
    written.whole.head? = some '0'

section Codes

theorem all_isDigit_text_iff (written : Unsigned) :
    written.text.all Char.isDigit = true ↔ written.fraction = none ∧ written.exponent = none := by
  rw [List.all_eq_true]
  constructor
  · intro hplain
    constructor
    · cases hfraction : written.fraction with
      | none => rfl
      | some run =>
        have hpoint := hplain '.' (by simp [Unsigned.text, hfraction])
        cases hpoint
    · cases hexponent : written.exponent with
      | none => rfl
      | some exponent =>
        have hletter := hplain exponent.letter
          (by simp [Unsigned.text, hexponent, Decimal.exponentText, WrittenExponent.text])
        rcases exponent.isLetter with h | h <;> rw [h] at hletter <;> cases hletter
  · rintro ⟨hfraction, hexponent⟩
    rw [Unsigned.text_of_whole hfraction hexponent]
    exact written.plainWhole

/-- Codes are told by their digits, whatever the sign in front of them. -/
theorem isCode_text_iff (written : Written) :
    isCode written.text = true ↔ IsPadded written.unsigned := by
  have hsign : ∀ c ∈ written.sign.text, isSign c = true := by
    cases written.sign <;> simp [WrittenSign.text, isSign]
  have hstops : Calendar.Stops isSign written.unsigned.text := by
    intro c hc
    have hplus := written.unsigned.head?_text_ne (c := '+') rfl (by decide)
    have hminus := written.unsigned.head?_text_ne (c := '-') rfl (by decide)
    rw [Option.mem_def.mp hc, ne_eq, Option.some_inj] at hplus hminus
    simp [isSign, hplus, hminus]
  have hdigits : written.text.dropWhile isSign = written.unsigned.text :=
    Calendar.dropWhile_append hsign hstops
  rw [isCode, hdigits, Bool.and_eq_true, Bool.and_eq_true, all_isDigit_text_iff,
    decide_eq_true_iff, beq_iff_eq, IsPadded, and_assoc, and_assoc]
  refine and_congr_right fun hfraction => and_congr_right fun hexponent => ?_
  rw [Unsigned.text_of_whole hfraction hexponent]

end Codes

section Numerals

variable {text : String} {written : Written} {numeral : Numeral}

theorem head?_text_eq_minus_iff (written : Written) :
    written.text.head? = some '-' ↔ written.sign = .minus := by
  obtain ⟨sign, unsigned⟩ := written
  cases sign
  · refine iff_of_false (unsigned.head?_text_ne rfl (by decide)) ?_
    rintro ⟨⟩
  · exact iff_of_false (by rintro ⟨⟩) (by rintro ⟨⟩)
  · exact iff_of_true rfl rfl

/-- The conditions under which a decimal becomes a number. -/
structure IsAdmitted (text : String) (written : Written) : Prop where
  notPadded : ¬ IsPadded written.unsigned
  bounded : |written.value| < overflowBound
  /-- A number has no second minus sign in parentheses. -/
  notNegated : IsMarked text → written.sign ≠ .minus

/-- A decimal becomes a number unless it is padded with zeros, too great, or negative in
parentheses. -/
theorem numeral?_eq_some_iff_of_text (left : written.text = remainder text) :
    numeral? text = some numeral ↔
      IsAdmitted text written ∧
        (⟨if IsMarked text then -written.number else written.number,
          isIntegral written.number⟩ : Numeral) = numeral := by
  have hdecimal : decimal? written.text = some written.number :=
    decimal?_eq_some_iff.mpr ⟨written, rfl, rfl⟩
  have hiff : IsAdmitted text written ↔ isCode written.text = false ∧
      isFinite written.number = true ∧ (IsMarked text → written.text.head? ≠ some '-') := by
    rw [Written.isFinite_number_iff, ne_eq, head?_text_eq_minus_iff, ← Bool.not_eq_true,
      isCode_text_iff]
    exact ⟨fun ⟨h, h', h''⟩ => ⟨h, h', h''⟩, fun ⟨h, h', h''⟩ => ⟨h, h', h''⟩⟩
  rw [numeral?_eq, ← left, hiff, hdecimal, Option.bind_some]
  cases isCode written.text with
  | true => simp
  | false =>
    cases isFinite written.number with
    | false => simp
    | true =>
      by_cases hmarked : IsMarked text
      · by_cases hminus : written.text.head? = some '-' <;> simp [hmarked, hminus]
      · simp [hmarked]

theorem mem_decimals_of_isSome (h : (numeral? text).isSome = true) : remainder text ∈ decimals := by
  refine isSome_decimal?_iff.mp (Option.isSome_iff_ne_none.mpr fun hnone => ?_)
  rw [numeral?_eq, hnone] at h
  split at h <;> cases h

/-- A text is a numeral just if what is left of it is a decimal, and the decimal is not padded with
zeros, not too great and not negative in parentheses. Its number is nearest to the decimal's value,
or to the opposite of that in parentheses; zeros have the sign that is written, too. -/
theorem numerals_match_their_grammar (text : String) :
    ((numeral? text).isSome = true ↔ remainder text ∈ decimals ∧
      ∀ written : Written, written.text = remainder text → IsAdmitted text written) ∧
    ∀ numeral, numeral? text = some numeral →
      ∀ written : Written, written.text = remainder text →
        IsNearest (if IsMarked text then -written.value else written.value) numeral.value ∧
        (isNegative numeral.value = true ↔ IsMarked text ∨ written.sign = .minus) := by
  refine ⟨⟨fun hsome => ⟨mem_decimals_of_isSome hsome, fun written left => ?_⟩, ?_⟩, ?_⟩
  · obtain ⟨numeral, hnumeral⟩ := Option.isSome_iff_exists.mp hsome
    exact ((numeral?_eq_some_iff_of_text left).mp hnumeral).1
  · rintro ⟨hmem, hadmitted⟩
    obtain ⟨written, left⟩ := Decimal.mem_decimals_iff.mp hmem
    rw [(numeral?_eq_some_iff_of_text left).mpr ⟨hadmitted written left, rfl⟩]
    rfl
  · intro numeral hnumeral written left
    obtain ⟨hadmitted, rfl⟩ := (numeral?_eq_some_iff_of_text left).mp hnumeral
    obtain ⟨hnearest, hsign⟩ :=
      written.isNearest_number (written.isFinite_number_iff.mpr hadmitted.bounded)
    by_cases hmarked : IsMarked text
    · have hplain := hadmitted.notNegated hmarked
      obtain ⟨hneg, hnegative⟩ := hnearest.neg (Bool.eq_false_iff.mpr (mt hsign.mp hplain))
      simp [hmarked, hneg, hnegative]
    · simp [hmarked, hnearest, hsign]

/-- An amount in parentheses, with currency sign, separators and percent sign. -/
example : (numeral? " (₹1,23_4.50 %) ").map Numeral.value = some (-1234.5) := by decide +kernel

/-- Zeros in front make a code of a whole number, but not of others. -/
example : (numeral? "007").isNone ∧ (numeral? "007.").map Numeral.value = some 7 ∧
    (numeral? "-0e0").map Numeral.value = some (-0.0) := by
  decide +kernel

end Numerals

end TableTalk.Cleaning
