import TableTalk.Proofs.Decimal.Quotients

/-!
# Exact values and nearest numbers

A finite number is the number of its word with a sign, counted in units of the least
positive number. A number is the nearest one to an exact value if its word is the
word of the rounded value: finite numbers are the nearest ones to themselves, and
whole numbers of 64 bits become the nearest ones, and so do quotients of counts. Of two
exact values the greater never has a smaller nearest number, and only the two zeros are
different numbers nearest to one value.
-/

namespace TableTalk.Decimal

open Float.Model (Format)
open Float.Model.UnpackedFloat (div)

variable {x y : Float} {p q : ℚ}

theorem toNat_toBits (x : Float) :
    x.toBits.toNat = (if isNegative x then 2 ^ 63 else 0) + magnitude x := by
  have hbits := x.toBits.toNat_lt
  by_cases h : 2 ^ 63 ≤ x.toBits.toNat
  · simp only [isNegative, magnitude, Nat.pow_eq, h, decide_true, ↓reduceIte]
    omega
  · simp only [isNegative, magnitude, Nat.pow_eq, h, decide_false, Bool.false_eq_true, ↓reduceIte]
    omega

theorem abs_intCast (i : ℤ) : |(i : ℚ)| = i.natAbs := by
  rw [Nat.cast_natAbs, Int.cast_abs]

theorem eq_of_totalKey (h : totalKey x = totalKey y) : x = y := by
  have hbits : x.toBits.toNat = y.toBits.toNat := by
    rw [toNat_toBits, toNat_toBits]
    unfold totalKey at h
    cases hx : isNegative x <;> cases hy : isNegative y <;>
      simp only [hx, hy, Bool.false_eq_true, ↓reduceIte] at h ⊢ <;> omega
  obtain ⟨bits, valid⟩ := x
  obtain ⟨bits', valid'⟩ := y
  obtain rfl : bits = bits' := UInt64.toNat_inj.mp hbits
  rfl

theorem numerator_div_denominator (s : Scaled) :
    (s.numerator : ℚ) / s.denominator = s.significand * 2 ^ s.exponent := by
  rw [Scaled.numerator, Scaled.denominator, Nat.pow_eq, Nat.pow_eq]
  push_cast
  rcases Int.le_total 0 s.exponent with h | h
  -- the power of two is above or below the line
  · rw [show (-s.exponent).toNat = 0 by omega, pow_zero, div_one, ← zpow_natCast,
      Int.toNat_of_nonneg h]
  · rw [show s.exponent.toNat = 0 by omega, pow_zero, mul_one, div_eq_mul_inv, ← zpow_natCast,
      Int.toNat_of_nonneg (by omega), ← zpow_neg, neg_neg]

theorem scaled_mul_unit (x : Float) :
    ((scaled x).numerator : ℚ) / (scaled x).denominator * 2 ^ (1074 : ℤ) =
      wordValue (magnitude x) := by
  rw [numerator_div_denominator, mul_assoc, ← zpow_add₀ two_ne_zero]
  simp only [scaled, wordValue, Nat.pow_eq]
  by_cases h : magnitude x < 2 ^ 52
  · have hfield : magnitude x / 2 ^ 52 = 0 := Nat.div_eq_of_lt h
    simp only [hfield, ↓reduceIte, h, Nat.mod_eq_of_lt]
    rw [show (-1074 : ℤ) + 1074 = 0 from rfl, zpow_zero, mul_one]
  · have hfield : magnitude x / 2 ^ 52 ≠ 0 := by
      rw [Nat.div_ne_zero_iff]
      omega
    have hexponent : ((magnitude x / 2 ^ 52 : ℕ) : ℤ) - 1075 + 1074 =
        ((magnitude x / 2 ^ 52 - 1 : ℕ) : ℤ) := by omega
    simp only [hfield, ↓reduceIte, h]
    rw [hexponent, zpow_natCast]
    push_cast
    rfl

theorem exact_mul_unit (finite : isFinite x = true) :
    exact x * 2 ^ (1074 : ℤ) =
      if isNegative x then -(wordValue (magnitude x) : ℚ) else wordValue (magnitude x) := by
  rw [exact, if_pos finite, ← scaled_mul_unit]
  dsimp only
  rw [Rat.mkRat_eq_div, Int.cast_natCast]
  split
  · rw [neg_mul]
  · rfl

theorem abs_exact_mul_unit (finite : isFinite x = true) :
    |exact x| * 2 ^ (1074 : ℤ) = wordValue (magnitude x) := by
  have hunit : (0 : ℚ) < 2 ^ (1074 : ℤ) := zpow_pos two_pos _
  calc |exact x| * 2 ^ (1074 : ℤ) = |exact x * 2 ^ (1074 : ℤ)| := by
        rw [abs_mul, abs_of_pos hunit]
    _ = wordValue (magnitude x) := by
      rw [exact_mul_unit finite]
      split
      · rw [abs_neg, Nat.abs_cast]
      · rw [Nat.abs_cast]

/-- A number is nearest to an exact value: its word is the word of the rounded value, and its sign
is the sign of the value. Zero may have either sign. -/
structure IsNearest (q : ℚ) (x : Float) : Prop where
  finite : isFinite x = true
  nonneg : isNegative x = false → 0 ≤ q
  nonpos : isNegative x = true → q ≤ 0
  rounded : ∃ r : Rounding (|q| * 2 ^ (1074 : ℤ)), magnitude x = r.word

namespace IsNearest

theorem magnitude_le (hx : IsNearest p x) (hy : IsNearest q y) (h : |p| ≤ |q|) :
    magnitude x ≤ magnitude y := by
  obtain ⟨r, hr⟩ := hx.rounded
  obtain ⟨s, hs⟩ := hy.rounded
  rw [hr, hs]
  exact r.word_mono s (mul_le_mul_of_nonneg_right h (zpow_nonneg two_pos.le _))

/-- The nearest numbers are in the order of the values. -/
theorem totalKey_le (hx : IsNearest p x) (hy : IsNearest q y) (h : p < q) :
    totalKey x ≤ totalKey y := by
  -- the magnitudes decide only where the signs agree
  unfold totalKey
  cases hsx : isNegative x <;> cases hsy : isNegative y
  · have hp := hx.nonneg hsx
    have hle := hx.magnitude_le hy (abs_le_abs_of_nonneg hp h.le)
    simp only [Bool.false_eq_true, ↓reduceIte]
    omega
  · exact absurd ((hx.nonneg hsx).trans_lt h) (hy.nonpos hsy).not_gt
  · simp only [↓reduceIte, Bool.false_eq_true]
    omega
  · have hq := hy.nonpos hsy
    have hle := hy.magnitude_le hx (abs_le_abs_of_nonpos hq h.le)
    simp only [↓reduceIte]
    omega

theorem magnitude_eq (hx : IsNearest q x) (hy : IsNearest q y) : magnitude x = magnitude y :=
  le_antisymm (hx.magnitude_le hy le_rfl) (hy.magnitude_le hx le_rfl)

/-- Only zero has two nearest numbers. -/
theorem eq_of_ne_zero (hx : IsNearest q x) (hy : IsNearest q y) (h : q ≠ 0) : x = y := by
  apply eq_of_totalKey
  have hsign : isNegative x = isNegative y := by
    cases hsx : isNegative x <;> cases hsy : isNegative y
    · rfl
    · exact absurd (le_antisymm (hy.nonpos hsy) (hx.nonneg hsx)) h
    · exact absurd (le_antisymm (hx.nonpos hsx) (hy.nonneg hsy)) h
    · rfl
  rw [totalKey, totalKey, hsign, hx.magnitude_eq hy]

/-- A value with a mantissa of at most 53 bits is its own nearest number. -/
theorem exact_eq (hx : IsNearest q x) {m k : ℕ} (hq : |q| * 2 ^ (1074 : ℤ) = m * 2 ^ k)
    (fits : m < 2 ^ 53) (least : 2 ^ 52 ≤ m ∨ k = 0) : exact x = q := by
  have hunit : (2 : ℚ) ^ (1074 : ℤ) ≠ 0 := zpow_ne_zero _ two_ne_zero
  obtain ⟨r, hr⟩ := hx.rounded
  have hvalue : (wordValue (magnitude x) : ℚ) = |q| * 2 ^ (1074 : ℤ) := by
    rw [hr, word_eq_of_fits r hq fits least, wordValue_eq fits least, hq]
    push_cast
    rfl
  apply mul_right_cancel₀ hunit
  rw [exact_mul_unit hx.finite, hvalue]
  cases hsign : isNegative x with
  | true => rw [if_pos rfl, abs_of_nonpos (hx.nonpos hsign), neg_mul, neg_neg]
  | false => rw [if_neg Bool.false_ne_true, abs_of_nonneg (hx.nonneg hsign)]

end IsNearest

theorem isNearest_exact (finite : isFinite x = true) : IsNearest (exact x) x := by
  have hunit : (0 : ℚ) < 2 ^ (1074 : ℤ) := zpow_pos two_pos _
  have hexact := exact_mul_unit finite
  refine ⟨finite, fun h => ?_, fun h => ?_, ?_⟩
  · rw [h, if_neg Bool.false_ne_true] at hexact
    exact nonneg_of_mul_nonneg_left (hexact ▸ Nat.cast_nonneg _) hunit
  · rw [h, if_pos rfl] at hexact
    exact nonpos_of_mul_nonpos_left (hexact ▸ neg_nonpos.mpr (Nat.cast_nonneg _)) hunit
  · obtain ⟨m, k, hword, fits, least⟩ := exists_word_eq (magnitude x)
    obtain ⟨r, hr⟩ := exists_rounding_of_fits fits least
    rw [abs_exact_mul_unit finite, hword, wordValue_eq fits least, Nat.cast_mul, Nat.cast_pow,
      Nat.cast_ofNat]
    exact ⟨r, hr.symm⟩

theorem isNearest_zero (h : magnitude x = 0) : IsNearest 0 x where
  finite := by
    have hpos : 0 < infiniteMagnitude := by decide
    rw [isFinite, h]
    exact decide_eq_true hpos
  nonneg _ := le_rfl
  nonpos _ := le_rfl
  rounded := by
    have hrounding := exists_rounding_of_fits (m := 0) (k := 0) (by decide) (Or.inr rfl)
    rw [Nat.cast_zero, zero_mul] at hrounding
    obtain ⟨r, hr⟩ := hrounding
    rw [abs_zero, zero_mul, h]
    exact ⟨r, by omega⟩

/-- A number whose bits are the word of a rounded value is nearest to the value. -/
theorem isNearest_of_word {q : ℚ} {x : Float} (r : Rounding (q * 2 ^ (1074 : ℤ))) (nonneg : 0 ≤ q)
    (hbits : x.toBits.toNat = r.word) (below : r.word < infinityWord) : IsNearest q x := by
  have hinfinity : infinityWord = infiniteMagnitude := rfl
  have hbound : infiniteMagnitude < 2 ^ 63 := by decide
  have hsign : isNegative x = false := by
    rw [isNegative, hbits, Nat.pow_eq]
    exact decide_eq_false (by omega)
  have hmagnitude : magnitude x = r.word := by
    rw [magnitude, hbits, Nat.pow_eq, Nat.mod_eq_of_lt (by omega)]
  refine ⟨?_, fun _ => nonneg, fun h => absurd (hsign.symm.trans h) (by decide), ?_⟩
  · rw [isFinite, hmagnitude]
    exact decide_eq_true (by omega)
  · rw [abs_of_nonneg nonneg]
    exact ⟨r, hmagnitude⟩

/-- The opposite of a finite number without sign has a sign. -/
theorem isNegative_neg (finite : isFinite x = true) (positive : isNegative x = false) :
    isNegative (-x) = true := by
  have hword : x.toBits.toNat = magnitude x := by
    rw [toNat_toBits, positive, if_neg Bool.false_ne_true, Nat.zero_add]
  rw [isFinite, decide_eq_true_iff, ← hword] at finite
  rcases Nat.eq_zero_or_pos x.toBits.toNat with hzero | pos
  · obtain ⟨bits, valid⟩ := x
    obtain rfl : bits = 0 := UInt64.toNat_inj.mp hzero
    change isNegative (-(.ofModel (.pack (.zero .positive)))) = true
    decide
  · have hbits : (-x).toBits.toNat = 2 ^ 63 + x.toBits.toNat :=
      toBits_neg_of_word (v := x.toModel) pos finite
    rw [isNegative, hbits, Nat.pow_eq]
    exact decide_eq_true (Nat.le_add_right _ _)

/-- The opposite of the nearest number is nearest to the opposite value. -/
theorem IsNearest.neg (h : IsNearest q x) (positive : isNegative x = false) :
    IsNearest (-q) (-x) ∧ isNegative (-x) = true := by
  have hsign := isNegative_neg h.finite positive
  refine ⟨⟨isFinite_neg h.finite, fun hfalse => ?_, fun _ => ?_, ?_⟩, hsign⟩
  · exact absurd (hsign.symm.trans hfalse) (by decide)
  · exact neg_nonpos.mpr (h.nonneg positive)
  · rw [abs_neg, magnitude_neg h.finite]
    exact h.rounded

section Whole

variable {n : ℕ}

/-- The bits of a positive whole number of 64 bits are a word below infinity. -/
theorem exists_rounding_of_le (pos : 0 < n) (small : n ≤ 2 ^ 63) :
    ∃ r : Rounding (n * 2 ^ (1074 : ℤ)), (Float.ofNat n).toBits.toNat = r.word ∧
      r.word < infinityWord := by
  obtain ⟨r, hr⟩ := exists_rounding_ofNat pos
  have hlt : (Float.ofNat n).toBits.toNat < infinityWord :=
    (toBits_ofNat_mono pos small).trans_lt (by decide)
  exact ⟨r, by omega, by omega⟩

theorem isNearest_ofNat (small : n ≤ 2 ^ 63) : IsNearest n (Float.ofNat n) := by
  rcases Nat.eq_zero_or_pos n with rfl | pos
  · exact_mod_cast isNearest_zero (x := Float.ofNat 0) (by decide)
  obtain ⟨r, hbits, hr⟩ := exists_rounding_of_le pos small
  exact isNearest_of_word r (Nat.cast_nonneg n) hbits hr

theorem isNearest_neg_ofNat (pos : 0 < n) (small : n ≤ 2 ^ 63) :
    IsNearest (-n) (-Float.ofNat n) := by
  have hnearest := isNearest_ofNat small
  have hpos : (0 : ℚ) < n := by exact_mod_cast pos
  refine (hnearest.neg (Bool.eq_false_iff.mpr fun hsign => ?_)).1
  exact absurd (hnearest.nonpos hsign) hpos.not_ge

/-- A whole number of 64 bits becomes the nearest number. -/
theorem isNearest_ofInt {i : ℤ} (small : i.natAbs ≤ 2 ^ 63) : IsNearest i (Float.ofInt i) := by
  cases i with
  | ofNat n => exact isNearest_ofNat small
  | negSucc n =>
    have h := isNearest_neg_ofNat n.succ_pos small
    rwa [show -((n.succ : ℕ) : ℚ) = ((Int.negSucc n : ℤ) : ℚ) by push_cast; ring] at h

/-- Whole numbers of at most 53 bits, and the next power of two, need no rounding. -/
theorem exact_ofInt {i : ℤ} (small : i.natAbs ≤ 2 ^ 53) : exact (Float.ofInt i) = i := by
  have hnearest := isNearest_ofInt (i := i) (by omega)
  rcases Nat.eq_zero_or_pos i.natAbs with hzero | pos
  · refine hnearest.exact_eq (m := 0) (k := 0) ?_ (by decide) (Or.inr rfl)
    rw [abs_intCast, hzero, Nat.cast_zero, zero_mul, zero_mul]
  · obtain ⟨m, k, hm, fits, least, -⟩ := exists_mantissa pos small
    exact hnearest.exact_eq (abs_intCast i ▸ hm) fits (Or.inl least)

/-- The word of a positive whole number of at most 53 bits. -/
theorem wordValue_ofNat (pos : 0 < n) (small : n ≤ 2 ^ 53) :
    (wordValue (Float.ofNat n).toBits.toNat : ℚ) = n * 2 ^ (1074 : ℤ) := by
  obtain ⟨r, hbits, -⟩ := exists_rounding_of_le pos (by omega)
  obtain ⟨m, k, hm, fits, least, -⟩ := exists_mantissa pos small
  rw [hbits, word_eq_of_fits r hm fits (Or.inl least), wordValue_eq fits (Or.inl least), hm]
  push_cast
  rfl

theorem toBits_ofNat_lt_infinity (pos : 0 < n) (small : n ≤ 2 ^ 53) :
    (Float.ofNat n).toBits.toNat < infinityWord :=
  (toBits_ofNat_mono pos small).trans_lt (by decide)

theorem ofNat_zero_div (pos : 0 < n) (small : n ≤ 2 ^ 53) :
    Float.ofNat 0 / Float.ofNat n = .ofModel (.pack (.zero .positive)) := by
  obtain ⟨k, e, hk, hunpack, -⟩ := unpack_of_word (v := (Float.ofNat n).toModel)
    (toBits_ofNat_pos pos) (toBits_ofNat_lt_infinity pos small)
  have hzero : (Float.ofNat 0).toModel.unpack = .zero .positive := unpack_of_zero (by decide)
  show Float.ofModel (.pack (div Format.binary64 (Float.ofNat 0).toModel.unpack
    (Float.ofNat n).toModel.unpack)) = _
  rw [hunpack, hzero]
  rfl

/-- Values up to one are rounded to numbers far below infinity. -/
theorem word_lt_of_le_one {q : ℚ} (r : Rounding (q * 2 ^ (1074 : ℤ))) (h : q ≤ 1) :
    r.word < infinityWord := by
  have hone : (1 : ℚ) * 2 ^ (1074 : ℤ) = (2 ^ 52 : ℕ) * 2 ^ 1022 := by
    rw [one_mul, zpow_ofNat, Nat.cast_pow, Nat.cast_ofNat, ← pow_add]
  obtain ⟨s, hs⟩ := exists_rounding_of_fits (m := 2 ^ 52) (k := 1022) (by decide) (Or.inl le_rfl)
  have hword := r.word_mono s (hone ▸ mul_le_mul_of_nonneg_right h (zpow_nonneg two_pos.le _))
  rw [infinityWord]
  omega

/-- The quotient of two counts is the number nearest to the exact one. -/
theorem isNearest_div_ofNat {m n : ℕ} (le : m ≤ n) (small : n ≤ 2 ^ 53) (pos : 0 < n) :
    IsNearest (m / n) (Float.ofNat m / Float.ofNat n) := by
  rcases Nat.eq_zero_or_pos m with rfl | hm
  · rw [ofNat_zero_div pos small, Nat.cast_zero, zero_div]
    exact isNearest_zero (by decide)
  · have hdiv := exists_rounding_div (v := (Float.ofNat m).toModel) (w := (Float.ofNat n).toModel)
      (toBits_ofNat_pos hm) (toBits_ofNat_lt_infinity hm (le.trans small))
      (toBits_ofNat_pos pos) (toBits_ofNat_lt_infinity pos small)
    have hvalue : (wordValue (Float.ofNat m).toModel.toBits.toNat : ℚ) /
        wordValue (Float.ofNat n).toModel.toBits.toNat = m / n := by
      show (wordValue (Float.ofNat m).toBits.toNat : ℚ) / wordValue (Float.ofNat n).toBits.toNat = _
      rw [wordValue_ofNat hm (le.trans small), wordValue_ofNat pos small,
        mul_div_mul_right _ _ (zpow_ne_zero _ two_ne_zero)]
    rw [hvalue] at hdiv
    obtain ⟨r, hr⟩ := hdiv
    have hle : (m / n : ℚ) ≤ 1 := div_le_one_of_le₀ (by exact_mod_cast le) (Nat.cast_nonneg n)
    have hbelow := word_lt_of_le_one r hle
    refine isNearest_of_word r (by positivity) ?_ hbelow
    show ((Float.ofNat m).toModel / (Float.ofNat n).toModel).toBits.toNat = _
    omega

end Whole

end TableTalk.Decimal
