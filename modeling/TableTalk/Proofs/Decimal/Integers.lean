import TableTalk.Proofs.Calendar.Shapes
import TableTalk.Proofs.Decimal.Places

/-!
# Whole numbers and their nearest numbers

Digits are read as the number nearest to the whole number that they spell, and that
number is whole too. It is the same whole number just if that is one of at most 53
bits times a power of two. Going back to whole numbers of 64 bits changes only the
number past the greatest one, which becomes the greatest one.
-/

namespace TableTalk.Decimal

variable {x y : Float} {p q : ℚ} {i j : ℤ}

section Whole

theorem exact_eq_truncate (whole : isWhole x = true) : exact x = truncate x := by
  obtain ⟨finite, hmod⟩ := Bool.and_eq_true_iff.mp whole
  have hdvd := Nat.dvd_of_mod_eq_zero (beq_iff_eq.mp hmod)
  have hden : ((scaled x).denominator : ℚ) ≠ 0 := Nat.cast_ne_zero.mpr (denominator_pos x).ne'
  have hvalue : mkRat (scaled x).numerator (scaled x).denominator =
      ((scaled x).numerator / (scaled x).denominator : ℕ) := by
    rw [Rat.mkRat_eq_div, Int.cast_natCast, Nat.cast_div hdvd hden]
  rw [exact, if_pos finite, truncate, hvalue]
  dsimp only
  split
  · rw [Int.cast_neg, Int.cast_natCast]
  · rw [Int.cast_natCast]

theorem isWhole_of_exact (finite : isFinite x = true) (h : exact x = i) : isWhole x = true := by
  have hden : ((scaled x).denominator : ℚ) ≠ 0 := Nat.cast_ne_zero.mpr (denominator_pos x).ne'
  have hvalue : mkRat (scaled x).numerator (scaled x).denominator = |(i : ℚ)| := by
    have hnonneg : 0 ≤ mkRat (scaled x).numerator (scaled x).denominator :=
      Rat.mkRat_nonneg (Int.natCast_nonneg _) _
    rw [← h, exact, if_pos finite]
    split
    · rw [abs_neg, abs_of_nonneg hnonneg]
    · rw [abs_of_nonneg hnonneg]
  rw [Rat.mkRat_eq_div, Int.cast_natCast, div_eq_iff hden, abs_intCast] at hvalue
  have hproduct : (scaled x).numerator = i.natAbs * (scaled x).denominator := by
    exact_mod_cast hvalue
  rw [isWhole, finite, hproduct, Nat.mul_mod_left]
  rfl

/-- Numbers from `2 ^ 53` on have no bits behind the point. -/
theorem isWhole_of_large (finite : isFinite x = true)
    (large : magnitude (Float.ofNat (2 ^ 53)) ≤ magnitude x) : isWhole x = true := by
  have hword : magnitude (Float.ofNat (2 ^ 53)) = 1076 * 2 ^ 52 := by decide
  have hfield : 1076 ≤ magnitude x / Nat.pow 2 52 := by
    rw [Nat.pow_eq]
    omega
  have hdenominator : (scaled x).denominator = 1 := by
    rw [Scaled.denominator, scaled, if_neg (by omega),
      show (-(((magnitude x / Nat.pow 2 52 : ℕ) : ℤ) - 1075)).toNat = 0 by omega]
  rw [isWhole, finite, hdenominator, Nat.mod_one]
  rfl

end Whole

/-- A whole number of 64 bits. -/
def IsInt64 (i : ℤ) : Prop := -2 ^ 63 ≤ i ∧ i < 2 ^ 63

theorem IsInt64.natAbs_le (h : IsInt64 i) : i.natAbs ≤ 2 ^ 63 := by
  obtain ⟨hlower, hupper⟩ := h
  omega

/-- A whole number of at most 53 bits times a power of two. -/
def FitsSignificand (i : ℤ) : Prop := ∃ m k : ℕ, m < 2 ^ 53 ∧ i.natAbs = m * 2 ^ k

theorem fitsSignificand_of_lt (small : i.natAbs < 2 ^ 53) : FitsSignificand i :=
  ⟨i.natAbs, 0, small, (Nat.mul_one _).symm⟩

namespace IsNearest

theorem abs_exact_le (hx : IsNearest p x) (hy : IsNearest q y) (h : |p| ≤ |q|) :
    |exact x| ≤ |exact y| := by
  have hunit : (0 : ℚ) < 2 ^ (1074 : ℤ) := zpow_pos two_pos _
  have hword := wordValue_mono (hx.magnitude_le hy h)
  rwa [← Nat.cast_le (α := ℚ), ← abs_exact_mul_unit hx.finite, ← abs_exact_mul_unit hy.finite,
    mul_le_mul_iff_left₀ hunit] at hword

/-- The nearest number of a whole number is the number itself just if 53 bits are enough. -/
theorem exact_eq_iff (h : IsNearest i x) : exact x = i ↔ FitsSignificand i := by
  constructor
  · intro hexact
    obtain ⟨m, k, hword, fits, least⟩ := exists_word_eq (magnitude x)
    have hvalue : i.natAbs * 2 ^ 1074 = m * 2 ^ k := by
      have habs := abs_exact_mul_unit h.finite
      rw [hexact, abs_intCast, hword, wordValue_eq fits least, zpow_ofNat] at habs
      apply Nat.cast_injective (R := ℚ)
      rwa [Nat.cast_mul, Nat.cast_pow, Nat.cast_ofNat]
    rcases Nat.le_total 1074 k with hk | hk
    · refine ⟨m, k - 1074, fits, ?_⟩
      rw [← Nat.sub_add_cancel hk, pow_add, ← mul_assoc] at hvalue
      exact Nat.eq_of_mul_eq_mul_right (pow_pos two_pos _) hvalue
    · -- the bits behind the point are zeros
      refine fitsSignificand_of_lt (lt_of_le_of_lt ?_ fits)
      rw [← Nat.sub_add_cancel hk, pow_add, ← mul_assoc] at hvalue
      rw [← Nat.eq_of_mul_eq_mul_right (Nat.two_pow_pos k) hvalue]
      exact Nat.le_mul_of_pos_right _ (Nat.two_pow_pos _)
  · rintro ⟨m, k, fits, hvalue⟩
    rcases Nat.eq_zero_or_pos m with rfl | pos
    · refine h.exact_eq (m := 0) (k := 0) ?_ (by decide) (Or.inr rfl)
      rw [abs_intCast, hvalue]
      norm_num
    · obtain ⟨n, l, hn, hfits, hleast, -⟩ := exists_mantissa pos fits.le
      refine h.exact_eq (m := n) (k := l + k) ?_ hfits (Or.inl hleast)
      rw [abs_intCast, hvalue, pow_add, ← mul_assoc, ← hn, Nat.cast_mul, Nat.cast_pow,
        Nat.cast_ofNat, mul_right_comm]

/-- The nearest number of a whole number is whole. -/
theorem isWhole (h : IsNearest i x) : isWhole x = true := by
  by_cases small : i.natAbs < 2 ^ 53
  · exact isWhole_of_exact h.finite (h.exact_eq_iff.mpr (fitsSignificand_of_lt small))
  · refine isWhole_of_large h.finite ((isNearest_ofNat (by decide)).magnitude_le h ?_)
    rw [abs_intCast, Nat.abs_cast]
    exact_mod_cast not_lt.mp small

theorem exact_eq_truncate (h : IsNearest i x) : exact x = truncate x :=
  Decimal.exact_eq_truncate h.isWhole

theorem truncate_eq_iff (h : IsNearest i x) : truncate x = i ↔ FitsSignificand i := by
  rw [← h.exact_eq_iff, h.exact_eq_truncate, Int.cast_inj]

/-- Nearest numbers are in the order of the whole numbers. -/
theorem natAbs_truncate_le (hx : IsNearest i x) (hy : IsNearest j y) (h : i.natAbs ≤ j.natAbs) :
    (truncate x).natAbs ≤ (truncate y).natAbs := by
  have hle := hx.abs_exact_le hy (by rw [abs_intCast, abs_intCast]; exact_mod_cast h)
  rw [hx.exact_eq_truncate, hy.exact_eq_truncate, abs_intCast, abs_intCast] at hle
  exact_mod_cast hle

theorem natAbs_truncate (h : IsNearest i x) (small : i.natAbs < 2 ^ 53) :
    (truncate x).natAbs = i.natAbs :=
  congrArg Int.natAbs (h.truncate_eq_iff.mpr (fitsSignificand_of_lt small))

theorem le_natAbs_truncate (h : IsNearest i x) (large : 2 ^ 53 ≤ i.natAbs) :
    2 ^ 53 ≤ (truncate x).natAbs := by
  have hpower : IsNearest ((2 ^ 53 : ℕ) : ℤ) (Float.ofNat (2 ^ 53)) := isNearest_ofNat (by decide)
  exact hpower.natAbs_truncate_le h large

/-- Different whole numbers that share a nearest number have at least 54 bits. -/
theorem le_natAbs_of_ne (hi : IsNearest i x) (hj : IsNearest j x) (ne : i ≠ j) :
    2 ^ 53 ≤ i.natAbs ∧ 2 ^ 53 ≤ j.natAbs := by
  rcases Nat.lt_or_ge i.natAbs (2 ^ 53) with hlt | hge <;>
    rcases Nat.lt_or_ge j.natAbs (2 ^ 53) with hlt' | hge'
  · refine absurd ?_ ne
    rw [← hi.truncate_eq_iff.mpr (fitsSignificand_of_lt hlt),
      ← hj.truncate_eq_iff.mpr (fitsSignificand_of_lt hlt')]
  · have hle := hj.le_natAbs_truncate hge'
    rw [hi.natAbs_truncate hlt] at hle
    omega
  · have hle := hi.le_natAbs_truncate hge
    rw [hj.natAbs_truncate hlt'] at hle
    omega
  · exact ⟨hge, hge'⟩

/-- Only the number past the greatest one of 64 bits is too large. -/
theorem toInt_toInt64 (h : IsNearest i x) (small : i.natAbs ≤ 2 ^ 63) :
    (toInt64 x).toInt = min (truncate x) (2 ^ 63 - 1) := by
  have hpower : IsNearest ((2 ^ 63 : ℕ) : ℤ) (Float.ofNat (2 ^ 63)) := isNearest_ofNat le_rfl
  have hbound : (truncate x).natAbs ≤ 2 ^ 63 := h.natAbs_truncate_le hpower small
  have hmin : Int64.minValue.toInt = -2 ^ 63 := rfl
  have hmax : Int64.maxValue.toInt = 2 ^ 63 - 1 := rfl
  rw [toInt64, if_pos h.finite]
  dsimp only
  rw [hmin, hmax, if_neg (by omega)]
  split
  case isTrue hlt => rw [hmax]; omega
  case isFalse hge => rw [Int64.toInt_ofInt_of_le (by omega) (by omega)]; omega

/-- Which whole numbers of 64 bits come back as they were. The greatest one does not fit, but the
next power of two, which is its nearest number, is cut back to it. -/
theorem toInt64_eq_ofInt_iff (h : IsNearest i x) (range : IsInt64 i) :
    toInt64 x = Int64.ofInt i ↔ FitsSignificand i ∨ i = 2 ^ 63 - 1 := by
  obtain ⟨lower, upper⟩ := range
  have hvalue : toInt64 x = Int64.ofInt i ↔ min (truncate x) (2 ^ 63 - 1) = i := by
    rw [← Int64.toInt_inj, h.toInt_toInt64 (by omega), Int64.toInt_ofInt_of_le lower upper]
  have hgreatest (hi : i = 2 ^ 63 - 1) : truncate x = 2 ^ 63 := by
    have hnearest : IsNearest i (Float.ofInt i) := isNearest_ofInt (by omega)
    have hne : (i : ℚ) ≠ 0 := by
      rw [Int.cast_ne_zero]
      omega
    rw [h.eq_of_ne_zero hnearest hne, hi]
    decide
  rw [hvalue, ← h.truncate_eq_iff]
  omega

end IsNearest

section Reading

variable {negative : Bool} {run : List Char}

theorem nearest_zero_right {n : ℕ} (small : n ≤ 2 ^ 63) : nearest n 0 = Float.ofNat n := by
  have hlength : (Nat.toDigits 10 n).length ≤ 19 :=
    (Nat.length_toDigits_le_iff (by decide) (by decide)).mpr (small.trans_lt (by decide))
  rw [nearest]
  split
  case isTrue hzero =>
    subst hzero
    decide
  case isFalse =>
    dsimp only
    rw [if_neg (by omega), if_neg (by omega)]
    rfl

/-- Digits alone are read as a whole number. -/
theorem unsigned?_digits (some : run ≠ []) (plain : Calendar.IsDigits run) :
    unsigned? run = Option.some (nearest (digitsValue run) 0) := by
  have htake : run.takeWhile Char.isDigit = run := List.takeWhile_eq_self_iff.mpr plain
  have hdrop : run.dropWhile Char.isDigit = [] := List.dropWhile_eq_nil_iff.mpr plain
  have hempty : run.isEmpty = false := List.isEmpty_eq_false_iff.mpr some
  simp [unsigned?, spanDigits, htake, hdrop, hempty, exponent?]

theorem ne_of_isWordDigit {c d : Char} (h : Text.isWordDigit c = true)
    (hd : Text.isWordDigit d = false) : c ≠ d := by
  rintro rfl
  rw [h] at hd
  cases hd

variable (some : run ≠ []) (all : ∀ c ∈ run, Text.isWordDigit c = true)

include all

/-- Digits of other scripts are not read. -/
theorem isDigits_of_unsigned? (h : (unsigned? run).isSome = true) : Calendar.IsDigits run := by
  cases hrest : run.dropWhile Char.isDigit with
  | nil => exact List.dropWhile_eq_nil_iff.mp hrest
  | cons c rest =>
    have hc := all c ((List.dropWhile_suffix _).subset (hrest ▸ List.mem_cons_self))
    have hpoint := ne_of_isWordDigit hc (d := '.') (by decide)
    have hlower := ne_of_isWordDigit hc (d := 'e') (by decide)
    have hupper := ne_of_isWordDigit hc (d := 'E') (by decide)
    simp [unsigned?, spanDigits, hrest, hpoint, exponent?, hlower, hupper] at h

include some

/-- No word is written in digits. -/
theorem ofList_toLower_ne {word : String} (letters : word.toList.head?.any Char.isAlpha = true) :
    String.ofList (run.map Char.toLower) ≠ word := by
  obtain ⟨c, rest, rfl⟩ := List.exists_cons_of_ne_nil some
  rintro rfl
  have halpha : c.isAlpha = true := by simpa using letters
  have hdigit := all c List.mem_cons_self
  rw [Text.not_isWordDigit_of_isAlpha halpha] at hdigit
  cases hdigit

/-- Digits behind a sign are read, and the sign is put in front of what was read. -/
theorem read?_signedText : read? (signedText negative run) =
    (unsigned? run).map fun x => if negative then -x else x := by
  have hinf : (String.ofList (run.map Char.toLower) == "inf") = false :=
    beq_eq_false_iff_ne.mpr (ofList_toLower_ne some all rfl)
  have hinfinity : (String.ofList (run.map Char.toLower) == "infinity") = false :=
    beq_eq_false_iff_ne.mpr (ofList_toLower_ne some all rfl)
  have hnan : (String.ofList (run.map Char.toLower) == "nan") = false :=
    beq_eq_false_iff_ne.mpr (ofList_toLower_ne some all rfl)
  cases negative with
  | true => simp [read?, signedText, hinf, hinfinity, hnan]
  | false =>
    obtain ⟨c, rest, rfl⟩ := List.exists_cons_of_ne_nil some
    have hminus := ne_of_isWordDigit (all c List.mem_cons_self) (d := '-') (by decide)
    have hplus := ne_of_isWordDigit (all c List.mem_cons_self) (d := '+') (by decide)
    simp [-List.map_cons, read?, signedText, hminus, hplus, hinf, hinfinity, hnan]

end Reading

/-- Digits, with or without a minus sign in front of them. -/
structure SignedDigits where
  negative : Bool
  digits : List Char
  some : digits ≠ []
  plain : Calendar.IsDigits digits

namespace SignedDigits

variable (written : SignedDigits)

def text : String := signedText written.negative written.digits

/-- The whole number that the digits spell. -/
def value : ℤ :=
  if written.negative then -digitsValue written.digits else digitsValue written.digits

/-- The number that is read. -/
def number : Float :=
  if written.negative then -Float.ofNat (digitsValue written.digits)
  else Float.ofNat (digitsValue written.digits)

variable {written} in
theorem mem_text {c : Char} (h : c ∈ written.text.toList) : c = '-' ∨ c.isDigit = true := by
  rw [text, signedText, String.toList_ofList] at h
  split at h
  · exact (List.mem_cons.mp h).imp_right (written.plain c)
  · exact Or.inr (written.plain c h)

theorem not_mem_text {c : Char} (sign : c ≠ '-') (digit : c.isDigit = false) :
    c ∉ written.text.toList := by
  intro h
  rcases mem_text h with rfl | hdigit
  · exact sign rfl
  · rw [digit] at hdigit
    cases hdigit

theorem natAbs_value : written.value.natAbs = digitsValue written.digits := by
  rw [value]
  split <;> omega

theorem isNearest_number (small : written.value.natAbs ≤ 2 ^ 63) :
    IsNearest written.value written.number := by
  rw [natAbs_value] at small
  rw [value, number]
  cases written.negative with
  | false =>
    rw [if_neg Bool.false_ne_true, if_neg Bool.false_ne_true, Int.cast_natCast]
    exact isNearest_ofNat small
  | true =>
    rw [if_pos rfl, if_pos rfl, Int.cast_neg, Int.cast_natCast]
    rcases Nat.eq_zero_or_pos (digitsValue written.digits) with hzero | pos
    · rw [hzero, Nat.cast_zero, neg_zero]
      exact isNearest_zero (by decide)
    · exact isNearest_neg_ofNat pos small

theorem isWordDigit_of_mem {c : Char} (h : c ∈ written.digits) : Text.isWordDigit c = true :=
  Text.isWordDigit_of_isDigit (written.plain c h)

theorem unsigned?_eq (small : written.value.natAbs ≤ 2 ^ 63) :
    unsigned? written.digits = Option.some (Float.ofNat (digitsValue written.digits)) := by
  rw [natAbs_value] at small
  rw [unsigned?_digits written.some written.plain, nearest_zero_right small]

theorem map_sign_unsigned? (small : written.value.natAbs ≤ 2 ^ 63) :
    ((unsigned? written.digits).map fun x => if written.negative then -x else x) =
      Option.some written.number := by
  rw [written.unsigned?_eq small]
  rfl

theorem read?_text (small : written.value.natAbs ≤ 2 ^ 63) :
    read? written.text = Option.some written.number := by
  rw [text, read?_signedText written.some fun c => written.isWordDigit_of_mem,
    written.map_sign_unsigned? small]

/-- A whole number as it is commonly written. -/
def ofInt (i : ℤ) : SignedDigits where
  negative := i < 0
  digits := digitText i.natAbs
  some := Nat.toDigits_ne_nil
  plain _ h := isDigit_of_mem_digitText h

theorem value_ofInt (i : ℤ) : (ofInt i).value = i := by
  have hdigits : digitsValue (digitText i.natAbs) = i.natAbs := Nat.ofDigitChars_ten_toDigits
  simp only [value, ofInt, hdigits, decide_eq_true_eq]
  split <;> omega

end SignedDigits

end TableTalk.Decimal
