import TableTalk.Proofs.Decimal.Rounding

/-!
# Quotients of counts

Counts become numbers by rounding, and so do their quotients. A greater count has
therefore no smaller quotient by one and the same divisor.
-/

namespace TableTalk.Decimal

open Float.Model (Format totalExponent)
open Float.Model.UnpackedFloat

section Operations

/-- The word of a product of positive numbers, as far as it has digits enough. -/
theorem exists_rounding_mul {v w : Float.Model} {m n : ℕ} {d e : ℤ} {hm : 0 < m} {hn : 0 < n}
    (hv : v.unpack = .finite .positive m d hm) (hw : w.unpack = .finite .positive n e hn)
    (precise : 2 ^ 52 ≤ m * n) :
    ∃ r : Rounding ((m * n : ℕ) * 2 ^ (d + e + 1074)),
      (v * w).toBits.toNat = min r.word infinityWord := by
  change ∃ r : Rounding _, (Float.Model.pack (mul Format.binary64 v.unpack w.unpack)).toBits.toNat =
    min r.word infinityWord
  rw [hv, hw]
  exact exists_rounding (Represents.exact (m * n)) (Or.inl precise)

/-- A number with a mantissa of at most 53 bits needs no rounding. -/
theorem exists_rounding_of_fits {m k : ℕ} (fits : m < 2 ^ 53) (least : 2 ^ 52 ≤ m ∨ k = 0) :
    ∃ r : Rounding ((m : ℚ) * 2 ^ k), r.word = k * 2 ^ 52 + m :=
  ⟨{ exponent := k
     em := ⟨m, false, false⟩
     represents := mul_div_cancel_right₀ _ (by positivity)
     fits := by
       have hm : (m : ℚ) < 2 ^ 53 := by exact_mod_cast fits
       rw [pow_add, mul_comm]
       gcongr
     least := by
       refine least.imp_left fun hle => ?_
       have hm : (2 : ℚ) ^ 52 ≤ m := by exact_mod_cast hle
       rw [pow_add, mul_comm]
       gcongr }, rfl⟩

/-- A positive number with a mantissa of at most 53 bits is not changed by rounding. -/
theorem word_eq_of_fits {x : ℚ} (r : Rounding x) {m k : ℕ} (hx : x = m * 2 ^ k)
    (fits : m < 2 ^ 53) (least : 2 ^ 52 ≤ m ∨ k = 0) : r.word = k * 2 ^ 52 + m := by
  subst hx
  obtain ⟨s, hs⟩ := exists_rounding_of_fits fits least
  rw [← hs]
  exact le_antisymm (r.word_mono s le_rfl) (s.word_mono r le_rfl)

theorem shiftLeft_mul_zpow (m s : ℕ) (e : ℤ) : ((m <<< s : ℕ) : ℚ) * 2 ^ (e - s) = m * 2 ^ e := by
  rw [Nat.shiftLeft_eq, zpow_sub₀ two_ne_zero, zpow_natCast]
  push_cast
  field_simp

/-- Whole numbers are rounded with as many digits as there is room for. -/
theorem exists_rounding_whole {n : ℕ} (pos : 0 < n) :
    ∃ r : Rounding (n * 2 ^ (1074 : ℤ)),
      (Float.Model.ofNat n).toBits.toNat = min r.word infinityWord := by
  obtain ⟨s, hs⟩ : ∃ s, s = (0 - Format.binary64.targetExponent (totalExponent n 0)).toNat :=
    ⟨_, rfl⟩
  have htarget : Format.binary64.targetExponent (totalExponent n 0) = (n.log2 : ℤ) - 52 := by
    simp [Format.targetExponent, totalExponent, Format.mantissaBits, Format.minExponent]
    omega
  have hprecise : 2 ^ 52 ≤ n <<< s := by
    rw [Nat.shiftLeft_eq]
    calc 2 ^ 52 ≤ 2 ^ (n.log2 + s) := Nat.pow_le_pow_right two_pos (by omega)
      _ = 2 ^ n.log2 * 2 ^ s := pow_add 2 _ _
      _ ≤ n * 2 ^ s := Nat.mul_le_mul_right _ (Nat.log2_self_le pos.ne')
  have h := exists_rounding (Represents.exact (n <<< s))
    (Or.inl hprecise : _ ∨ (0 : ℤ) - s ≤ -1074)
  rw [show (0 : ℤ) - s + 1074 = 1074 - s by omega, shiftLeft_mul_zpow] at h
  have hround : Float.Model.ofNat n =
      Float.Model.pack
        (roundWithAccuracy Format.binary64 .positive (n <<< s) ((0 : ℤ) - s) .exact) := by
    have hcompare : compare (n : ℤ) 0 = .gt := Int.compare_eq_gt.mpr (by omega)
    simp only [Float.Model.ofNat, Float.Model.UnpackedFloat.ofNat, Float.Model.UnpackedFloat.ofInt,
      Float.Model.UnpackedFloat.normalize, hcompare, Int.toNat_natCast,
      Float.Model.UnpackedFloat.round, decreaseExponent, ← hs]
  rw [hround]
  exact h

/-- Large numbers are multiplied by a power of ten that is one. -/
theorem toModel_ofNat_of_large {n : ℕ} (large : 2 ^ 53 ≤ n) :
    (Float.ofNat n).toModel =
      Float.Model.pack
        (roundWithAccuracy Format.binary64 .positive (n <<< 53 * 1) (-53 + 0) .exact) := by
  have hofNat : Float.ofNat n = Float.ofScientific n false 0 := rfl
  have hbound : ¬ (0 : ℤ) > 2 ^ Format.binary64.exponentBits := by decide
  have hsmall : ¬ (0 : ℤ) < -((2 ^ Format.binary64.exponentBits : ℤ) + (n.log2 : ℤ)) := by
    have hpow : (0 : ℤ) ≤ 2 ^ Format.binary64.exponentBits := by decide
    omega
  rw [hofNat, Float.ofScientific, dif_neg (by omega)]
  change Float.Model.pack (Float.Model.UnpackedFloat.ofScientific Format.binary64 n 0) = _
  rw [Float.Model.UnpackedFloat.ofScientific, dif_neg (by omega), if_neg hbound, if_neg hsmall,
    if_pos (le_refl 0)]
  rfl

/-- Small numbers are multiplied by the power of ten that is one. -/
theorem toModel_ofNat_of_small {n : ℕ} (small : n < 2 ^ 53) :
    (Float.ofNat n).toModel = Float.Model.ofNat n * Float.Model.ofBits 0x3FF0000000000000 := by
  have hofNat : Float.ofNat n = Float.ofScientific n false 0 := rfl
  have hword : n.toUInt64.toNat = n := by
    rw [Nat.toUInt64_eq, UInt64.toNat_ofNat']
    omega
  rw [hofNat, Float.ofScientific, dif_pos ⟨small, by decide⟩]
  change Float.Model.ofUInt64 n.toUInt64 * _ = _
  rw [Float.Model.ofUInt64, Float.Model.UnpackedFloat.ofUInt64, hword]
  rfl

/-- Small whole numbers have a mantissa of 53 bits. -/
theorem exists_mantissa {n : ℕ} (pos : 0 < n) (small : n ≤ 2 ^ 53) :
    ∃ m k : ℕ, (n : ℚ) * 2 ^ (1074 : ℤ) = m * 2 ^ k ∧ m < 2 ^ 53 ∧ 2 ^ 52 ≤ m ∧ k ≤ 1075 := by
  rcases Nat.lt_or_eq_of_le small with hlt | rfl
  · obtain ⟨s, hs⟩ : ∃ s, n.log2 + s = 52 := by
      have hlog := (Nat.log2_lt pos.ne').mpr hlt
      exact ⟨52 - n.log2, by omega⟩
    have hbounds : 2 ^ 52 ≤ n <<< s ∧ n <<< s < 2 ^ 53 := by
      rw [Nat.shiftLeft_eq, ← hs, show 53 = n.log2 + 1 + s by omega, pow_add, pow_add _ (_ + 1)]
      exact ⟨Nat.mul_le_mul_right _ (Nat.log2_self_le pos.ne'),
        Nat.mul_lt_mul_of_pos_right Nat.lt_log2_self (Nat.two_pow_pos s)⟩
    refine ⟨n <<< s, 1074 - s, ?_, hbounds.2, hbounds.1, by omega⟩
    rw [← shiftLeft_mul_zpow n s, ← zpow_natCast, Nat.cast_sub (by omega)]
    rfl
  · refine ⟨2 ^ 52, 1075, ?_, by decide, le_rfl, le_rfl⟩
    rw [Nat.cast_pow, Nat.cast_pow, Nat.cast_ofNat, zpow_ofNat, ← pow_add, ← pow_add]

/-- A word between zero and infinity that stands for a value. -/
structure HasValue (v : Float.Model) (q : ℚ) : Prop where
  pos : 0 < v.toBits.toNat
  finite : v.toBits.toNat < infinityWord
  value : (wordValue v.toBits.toNat : ℚ) = q * 2 ^ (1074 : ℤ)

/-- Small numbers are exact. -/
theorem hasValue_ofNat {n : ℕ} (pos : 0 < n) (small : n < 2 ^ 53) :
    HasValue (Float.Model.ofNat n) n := by
  obtain ⟨r, hr⟩ := exists_rounding_whole pos
  obtain ⟨m, k, hx, fits, least, hk⟩ := exists_mantissa pos small.le
  have hle : k * 2 ^ 52 ≤ 1075 * 2 ^ 52 := Nat.mul_le_mul_right _ hk
  have hword : (Float.Model.ofNat n).toBits.toNat = k * 2 ^ 52 + m := by
    rw [hr, word_eq_of_fits r hx fits (Or.inl least), infinityWord]
    omega
  refine ⟨by omega, by rw [hword, infinityWord]; omega, ?_⟩
  rw [hword, wordValue_eq fits (Or.inl least), hx, Nat.cast_mul, Nat.cast_pow, Nat.cast_ofNat]

theorem exists_rounding_ofNat {n : ℕ} (pos : 0 < n) :
    ∃ r : Rounding (n * 2 ^ (1074 : ℤ)),
      (Float.ofNat n).toBits.toNat = min r.word infinityWord := by
  by_cases hsmall : n < 2 ^ 53
  · have hdigits := hasValue_ofNat pos hsmall
    obtain ⟨m, e, hm, hunpack, hword⟩ := unpack_of_word hdigits.pos hdigits.finite
    have hvalue := hword.trans hdigits.value
    have hone : (Float.Model.ofBits 0x3FF0000000000000).unpack =
        .finite .positive (2 ^ 52) (-52) (by decide) := rfl
    have h := exists_rounding_mul hunpack hone (by omega)
    have hx : ((m * 2 ^ 52 : ℕ) : ℚ) * 2 ^ (e + -52 + 1074) = n * 2 ^ (1074 : ℤ) := by
      rw [← hvalue, ← shiftLeft_mul_zpow m 52, Nat.shiftLeft_eq]
      congr 2
      omega
    rw [hx] at h
    rw [Float.toBits, toModel_ofNat_of_small hsmall]
    exact h
  · have h := exists_rounding (Represents.exact (n <<< 53 * 1))
      (Or.inl (by rw [Nat.shiftLeft_eq]; omega) : _ ∨ (-53 : ℤ) + 0 ≤ -1074)
    rw [mul_one, show (-53 : ℤ) + 0 + 1074 = 1074 - (53 : ℕ) by rfl, shiftLeft_mul_zpow] at h
    rw [Float.toBits, toModel_ofNat_of_large (by omega), mul_one]
    exact h

/-- Division takes as many digits of the quotient as rounding needs. -/
theorem exists_divCore (m n : ℕ) (d e : ℤ) (hm : 0 < m) (hn : 0 < n) :
    ∃ s : ℕ, divCore Format.binary64 m d n e =
        (m <<< s / n, d - e - s, accuracyOfFraction (m <<< s % n) n) ∧
      (2 ^ 52 ≤ m <<< s / n ∨ d - e - s ≤ -1074) := by
  obtain ⟨t, ht⟩ : ∃ t, t = min (d - e) (Format.binary64.targetExponent
    (totalExponent m d - totalExponent n e)) := ⟨_, rfl⟩
  have htarget : t = min (d - e) (max ((m.log2 : ℤ) + d - (n.log2 + e) - 53) (-1074)) := by
    rw [ht]
    simp [Format.targetExponent, totalExponent, Format.mantissaBits, Format.minExponent]
    omega
  obtain ⟨s, hs⟩ : ∃ s : ℕ, d - e - t = s := ⟨(d - e - t).toNat, by omega⟩
  refine ⟨s, ?_, ?_⟩
  · have hexponent : t = d - e - s := by omega
    simp only [divCore, ← ht, hs, Int.toNat_natCast, ← hexponent]
  · by_cases hleast : d - e - s ≤ -1074
    · exact Or.inr hleast
    · left
      have hlog : n.log2 + 53 ≤ m.log2 + s := by omega
      rw [Nat.le_div_iff_mul_le hn, Nat.shiftLeft_eq]
      calc 2 ^ 52 * n ≤ 2 ^ 52 * 2 ^ (n.log2 + 1) :=
            Nat.mul_le_mul_left _ Nat.lt_log2_self.le
        _ = 2 ^ (n.log2 + 53) := by rw [← pow_add]; congr 1; omega
        _ ≤ 2 ^ (m.log2 + s) := Nat.pow_le_pow_right two_pos hlog
        _ = 2 ^ m.log2 * 2 ^ s := pow_add 2 _ _
        _ ≤ m * 2 ^ s := Nat.mul_le_mul_right _ (Nat.log2_self_le hm.ne')

/-- The word of a quotient of mantissas with their exponents. -/
theorem exists_rounding_unpacked_div {m n : ℕ} (d e : ℤ) (hm : 0 < m) (hn : 0 < n) :
    ∃ r : Rounding ((m : ℚ) / n * 2 ^ (d - e + 1074)),
      (Float.Model.pack (div Format.binary64 (.finite .positive m d hm)
        (.finite .positive n e hn))).toBits.toNat = min r.word infinityWord := by
  obtain ⟨s, hcore, hprecise⟩ := exists_divCore m n d e hm hn
  have h := exists_rounding (Represents.quotient (m <<< s) hn) hprecise
  rw [show d - e - s + 1074 = d - e + 1074 - s by omega, div_mul_eq_mul_div, shiftLeft_mul_zpow,
    ← div_mul_eq_mul_div] at h
  simp only [div, hcore]
  exact h

/-- The word of a quotient of positive numbers. -/
theorem exists_rounding_div {v w : Float.Model} (hv : 0 < v.toBits.toNat)
    (hv' : v.toBits.toNat < infinityWord) (hw : 0 < w.toBits.toNat)
    (hw' : w.toBits.toNat < infinityWord) :
    ∃ r : Rounding ((wordValue v.toBits.toNat : ℚ) / wordValue w.toBits.toNat * 2 ^ (1074 : ℤ)),
      (v / w).toBits.toNat = min r.word infinityWord := by
  obtain ⟨m, d, hm, hunpack, hvalue⟩ := unpack_of_word hv hv'
  obtain ⟨n, e, hn, hunpack', hvalue'⟩ := unpack_of_word hw hw'
  have h := exists_rounding_unpacked_div d e hm hn
  have hx : (m : ℚ) / n * 2 ^ (d - e + 1074) =
      (wordValue v.toBits.toNat : ℚ) / wordValue w.toBits.toNat * 2 ^ (1074 : ℤ) := by
    rw [← hvalue, ← hvalue', zpow_add₀ two_ne_zero (d - e), zpow_sub₀ two_ne_zero,
      zpow_add₀ two_ne_zero d, zpow_add₀ two_ne_zero e]
    have hunit : (2 : ℚ) ^ (1074 : ℤ) ≠ 0 := zpow_ne_zero _ two_ne_zero
    have hpow : (2 : ℚ) ^ e ≠ 0 := zpow_ne_zero _ two_ne_zero
    have hn' : (n : ℚ) ≠ 0 := by exact_mod_cast hn.ne'
    field_simp
  rw [hx, ← hunpack, ← hunpack'] at h
  exact h

end Operations

section Order

theorem toBits_ofNat_mono {m n : ℕ} (pos : 0 < m) (le : m ≤ n) :
    (Float.ofNat m).toBits.toNat ≤ (Float.ofNat n).toBits.toNat := by
  obtain ⟨r, hr⟩ := exists_rounding_ofNat pos
  obtain ⟨s, hs⟩ := exists_rounding_ofNat (pos.trans_le le)
  have hmn : (m : ℚ) ≤ n := by exact_mod_cast le
  have hword := r.word_mono s (mul_le_mul_of_nonneg_right hmn (zpow_nonneg two_pos.le _))
  omega

theorem toBits_ofNat_pos {n : ℕ} (pos : 0 < n) : 0 < (Float.ofNat n).toBits.toNat := by
  obtain ⟨r, hr⟩ := exists_rounding_ofNat pos
  have hn : (1 : ℚ) ≤ n := by exact_mod_cast pos
  have hunit : (1 : ℚ) ≤ 2 ^ (1074 : ℤ) := one_le_zpow₀ one_le_two (by omega)
  have hword := r.word_pos (one_le_mul_of_one_le_of_one_le hn hunit)
  have hinfinity : 0 < infinityWord := by decide
  omega

theorem toBits_ofNat_le (n : ℕ) : (Float.ofNat n).toBits.toNat ≤ infinityWord := by
  rcases Nat.eq_zero_or_pos n with rfl | pos
  · decide
  · obtain ⟨r, hr⟩ := exists_rounding_ofNat pos
    omega

/-- Among numbers that are not negative, words compare as the numbers do. -/
theorem isLess_iff_of_word {x : Float} (hx : isNegative x = false) {v : Float.Model}
    (hv : v.toBits.toNat ≤ infinityWord) :
    isLess x (.ofModel v) = true ↔ isNaN x = false ∧ magnitude x < v.toBits.toNat := by
  have hsmall : infinityWord < 2 ^ 63 := by decide
  have hmagnitude : magnitude (.ofModel v) = v.toBits.toNat := Nat.mod_eq_of_lt (hv.trans_lt hsmall)
  have hsign : isNegative (.ofModel v) = false :=
    decide_eq_false (Nat.not_le.mpr (hv.trans_lt hsmall))
  have hnumber : isNaN (.ofModel v) = false := by
    rw [isNaN, hmagnitude]
    exact decide_eq_false (Nat.not_lt.mpr hv)
  simp [isLess, numberKey, hx, hsign, hnumber, hmagnitude]

theorem isLess_zero {x : Float} (hx : isNegative x = false) :
    isLess x (.ofModel (.pack (.zero .positive))) = false := by
  rw [Bool.eq_false_iff, ne_eq, isLess_iff_of_word hx (by decide)]
  intro h
  exact absurd h.2 (Nat.not_lt_zero _)

/-- Nothing is less than a quotient by infinity: it is zero, or it is no number. -/
theorem isLess_div_infinity {x : Float} (hx : isNegative x = false) {v w : Float.Model}
    (hv : v.toBits.toNat ≤ infinityWord) (hw : w.toBits.toNat = infinityWord) :
    isLess x (.ofModel (v / w)) = false := by
  have hnone : isLess x (.ofModel (.pack .notANumber)) = false := by
    rw [isLess, show isNaN (.ofModel (.pack .notANumber)) = true by decide]
    simp
  change isLess x (.ofModel (.pack (div Format.binary64 v.unpack w.unpack))) = false
  rw [unpack_of_infinity hw]
  rcases Nat.lt_or_eq_of_le hv with hlt | heq
  · rcases Nat.eq_zero_or_pos v.toBits.toNat with h | h
    · rw [unpack_of_zero h]
      exact isLess_zero hx
    · obtain ⟨m, e, hm, hunpack, -⟩ := unpack_of_word h hlt
      rw [hunpack]
      exact isLess_zero hx
  · rw [unpack_of_infinity heq]
    exact hnone

theorem isLess_zero_div {x : Float} (hx : isNegative x = false) {v w : Float.Model}
    (hv : v.toBits.toNat = 0) (hw : 0 < w.toBits.toNat) (hw' : w.toBits.toNat < infinityWord) :
    isLess x (.ofModel (v / w)) = false := by
  obtain ⟨m, e, hm, hunpack, -⟩ := unpack_of_word hw hw'
  change isLess x (.ofModel (.pack (div Format.binary64 v.unpack w.unpack))) = false
  rw [unpack_of_zero hv, hunpack]
  exact isLess_zero hx

/-- What a quotient exceeds, a quotient of a greater number exceeds. -/
theorem isLess_div_mono {x : Float} (hx : isNegative x = false) {u v w : Float.Model}
    (hu : 0 < u.toBits.toNat) (le : u.toBits.toNat ≤ v.toBits.toNat)
    (hv : v.toBits.toNat < infinityWord) (hw : 0 < w.toBits.toNat)
    (hw' : w.toBits.toNat < infinityWord) (h : isLess x (.ofModel (u / w)) = true) :
    isLess x (.ofModel (v / w)) = true := by
  obtain ⟨r, hr⟩ := exists_rounding_div hu (le.trans_lt hv) hw hw'
  obtain ⟨s, hs⟩ := exists_rounding_div (hu.trans_le le) hv hw hw'
  have hvalue : (wordValue u.toBits.toNat : ℚ) ≤ wordValue v.toBits.toNat := by
    exact_mod_cast wordValue_mono le
  have hword : r.word ≤ s.word := by
    refine r.word_mono s (mul_le_mul_of_nonneg_right ?_ (zpow_nonneg two_pos.le _))
    exact div_le_div_of_nonneg_right hvalue (Nat.cast_nonneg _)
  rw [isLess_iff_of_word hx (hr.trans_le (min_le_right _ _)), hr] at h
  rw [isLess_iff_of_word hx (hs.trans_le (min_le_right _ _)), hs]
  exact ⟨h.1, h.2.trans_le (min_le_min_right infinityWord hword)⟩

/-- A greater part of a whole exceeds what a smaller part exceeds. -/
theorem isLess_share_mono {x : Float} (hx : isNegative x = false) {part other whole : ℕ}
    (le : part ≤ other) (within : other ≤ whole)
    (h : isLess x (Float.ofNat part / Float.ofNat whole) = true) :
    isLess x (Float.ofNat other / Float.ofNat whole) = true := by
  change isLess x (.ofModel ((Float.ofNat part).toModel / (Float.ofNat whole).toModel)) = true at h
  rcases Nat.eq_zero_or_pos whole with rfl | hwhole
  · obtain rfl : other = 0 := by omega
    obtain rfl : part = 0 := by omega
    exact h
  have hfinite : (Float.ofNat whole).toBits.toNat < infinityWord := by
    refine lt_of_le_of_ne (toBits_ofNat_le whole) fun hinfinity => ?_
    rw [isLess_div_infinity hx (toBits_ofNat_le part) hinfinity] at h
    cases h
  have hpart : 0 < part := by
    refine Nat.pos_of_ne_zero fun hzero => ?_
    subst hzero
    rw [isLess_zero_div hx (by decide) (toBits_ofNat_pos hwhole) hfinite] at h
    cases h
  have hother := (toBits_ofNat_mono (hpart.trans_le le) within).trans_lt hfinite
  exact isLess_div_mono hx (toBits_ofNat_pos hpart) (toBits_ofNat_mono hpart le) hother
    (toBits_ofNat_pos hwhole) hfinite h

end Order

end TableTalk.Decimal
