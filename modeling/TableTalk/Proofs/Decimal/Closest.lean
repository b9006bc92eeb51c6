import TableTalk.Proofs.Decimal.Exact

/-!
# Nearest numbers are closest

A rounded mantissa is at most half a unit away from what is rounded, and every other
number is at least half a unit away. So no finite number is closer to a value than the
one nearest to it. Values from half a unit beyond the greatest number on are rounded to
infinity.
-/

namespace TableTalk.Decimal

open Float.Model.UnpackedFloat

section Mantissas

variable {em : ExtendedMantissa} {x : ℚ}

theorem Represents.abs_roundedMantissa_sub_le (h : Represents em x) :
    |(em.roundedMantissa : ℚ) - x| ≤ 1 / 2 := by
  obtain ⟨m, r, s⟩ := em
  obtain hbit | hbit : m % 2 = 0 ∨ m % 2 = 1 := by omega
  all_goals
    rw [abs_le]
    cases r <;> cases s <;>
      simp [Represents, ExtendedMantissa.roundedMantissa, ExtendedMantissa.accuracy,
        Accuracy.roundToNearestEven, hbit] at h ⊢ <;>
      constructor <;> linarith

/-- No whole number is closer than the rounded mantissa. -/
theorem Represents.abs_roundedMantissa_sub_le_abs (h : Represents em x) (n : ℕ) :
    |(em.roundedMantissa : ℚ) - x| ≤ |(n : ℚ) - x| := by
  have hhalf := h.abs_roundedMantissa_sub_le
  by_cases hn : n = em.roundedMantissa
  · rw [hn]
  · have hone : (1 : ℚ) ≤ |(n : ℚ) - em.roundedMantissa| := by
      have hne : (n : ℤ) - em.roundedMantissa ≠ 0 := by omega
      exact_mod_cast Int.one_le_abs hne
    have htriangle := abs_sub_le (n : ℚ) x em.roundedMantissa
    rw [abs_sub_comm x] at htriangle
    linarith

end Mantissas

/-- A mantissa that rounding has carried over belongs to the next exponent. -/
theorem wordValue_eq_of_carried {m k : ℕ} (fits : m ≤ 2 ^ 53) (least : 2 ^ 52 ≤ m ∨ k = 0) :
    wordValue (k * 2 ^ 52 + m) = m * 2 ^ k := by
  rcases Nat.lt_or_eq_of_le fits with hlt | rfl
  · exact wordValue_eq hlt least
  · rw [show k * 2 ^ 52 + 2 ^ 53 = (k + 1) * 2 ^ 52 + 2 ^ 52 by omega,
      wordValue_eq (by decide) (Or.inl le_rfl), Nat.pow_succ]
    ring

namespace Rounding

variable {x y : ℚ}

/-- Every number that is not negative can be rounded. -/
theorem nonempty (nonneg : 0 ≤ x) : Nonempty (Rounding x) := by
  rcases nonneg.eq_or_lt with rfl | pos
  · have hzero := exists_rounding_of_fits (m := 0) (k := 0) (by decide) (Or.inr rfl)
    rw [Nat.cast_zero, zero_mul] at hzero
    exact ⟨hzero.choose⟩
  · obtain ⟨k, hk⟩ : ∃ k, k = (Int.log 2 x - 52).toNat := ⟨_, rfl⟩
    have hlower : (2 : ℚ) ^ Int.log 2 x ≤ x := Int.zpow_log_le_self one_lt_two pos
    have hupper : x < (2 : ℚ) ^ (Int.log 2 x + 1) := Int.lt_zpow_succ_log_self one_lt_two x
    have hnum : ((x.num.toNat : ℕ) : ℚ) = x.num := by
      exact_mod_cast Int.toNat_of_nonneg (Rat.num_nonneg.mpr nonneg)
    have hratio : ((x.num.toNat : ℕ) : ℚ) / (x.den * 2 ^ k : ℕ) = x / 2 ^ k := by
      rw [hnum, Nat.cast_mul, Nat.cast_pow, Nat.cast_ofNat, ← div_div, Rat.num_div_den]
    have hden : 0 < x.den * 2 ^ k := Nat.mul_pos x.den_pos (Nat.two_pow_pos k)
    refine ⟨⟨k, _, hratio ▸ Represents.quotient x.num.toNat hden, ?_, ?_⟩⟩
    · rw [← zpow_natCast]
      exact hupper.trans_le (zpow_le_zpow_right₀ one_le_two (by omega))
    · refine or_iff_not_imp_right.mpr fun hne => ?_
      rw [← zpow_natCast]
      exact (zpow_le_zpow_right₀ one_le_two (by omega)).trans hlower

theorem wordValue_word (r : Rounding x) :
    (wordValue r.word : ℚ) = r.em.roundedMantissa * 2 ^ r.exponent := by
  rw [word, wordValue_eq_of_carried r.roundedMantissa_le r.le_roundedMantissa, Nat.cast_mul,
    Nat.cast_pow, Nat.cast_ofNat]

/-- No word stands for a number that is closer. -/
theorem abs_wordValue_word_sub_le (r : Rounding x) (word : ℕ) :
    |(wordValue r.word : ℚ) - x| ≤ |(wordValue word : ℚ) - x| := by
  have hpow : (0 : ℚ) < 2 ^ r.exponent := by positivity
  obtain ⟨hlower, hupper⟩ := r.represents.bounds
  rw [le_div_iff₀ hpow] at hlower
  rw [div_lt_iff₀ hpow] at hupper
  have hscaled (n : ℕ) :
      |(n : ℚ) * 2 ^ r.exponent - x| = |(n : ℚ) - x / 2 ^ r.exponent| * 2 ^ r.exponent := by
    rw [← abs_of_pos hpow, ← abs_mul, abs_of_pos hpow, sub_mul, div_mul_cancel₀ _ hpow.ne']
  have hclosest (n : ℕ) : |(wordValue r.word : ℚ) - x| ≤ |(n : ℚ) * 2 ^ r.exponent - x| := by
    rw [r.wordValue_word, hscaled, hscaled]
    exact mul_le_mul_of_nonneg_right (r.represents.abs_roundedMantissa_sub_le_abs n) hpow.le
  -- the number lies between two words that follow each other
  rcases Nat.lt_or_ge (r.exponent * 2 ^ 52 + r.em.mantissa) word with hlt | hge
  · have hword := wordValue_mono (Nat.succ_le_of_lt hlt)
    rw [Nat.succ_eq_add_one, Nat.add_assoc, wordValue_eq_of_carried r.mantissa_lt
      (r.le_mantissa.imp_left Nat.le_succ_of_le)] at hword
    have hword' : ((r.em.mantissa + 1 : ℕ) : ℚ) * 2 ^ r.exponent ≤ wordValue word := by
      exact_mod_cast hword
    refine (hclosest (r.em.mantissa + 1)).trans ?_
    rw [Nat.cast_add, Nat.cast_one] at hword' ⊢
    rw [abs_of_nonneg (by linarith), abs_of_nonneg (by linarith)]
    linarith
  · have hword := wordValue_mono hge
    rw [wordValue_eq r.mantissa_lt r.le_mantissa] at hword
    have hword' : (wordValue word : ℚ) ≤ r.em.mantissa * 2 ^ r.exponent := by
      exact_mod_cast hword
    refine (hclosest r.em.mantissa).trans ?_
    rw [abs_of_nonpos (by linarith), abs_of_nonpos (by linarith)]
    linarith

/-- Half a unit beyond the greatest number, the even neighbour is infinity. -/
theorem exists_rounding_half_beyond :
    ∃ r : Rounding ((2 ^ 53 - 1 / 2) * 2 ^ 2045), r.word = infinityWord := by
  have hrounded : (⟨2 ^ 53 - 1, true, false⟩ : ExtendedMantissa).roundedMantissa = 2 ^ 53 := by
    decide
  refine ⟨⟨2045, ⟨2 ^ 53 - 1, true, false⟩, ?_, ?_, Or.inl ?_⟩, ?_⟩
  · rw [mul_div_cancel_right₀ _ (by positivity)]
    simp only [Represents]
    norm_num
  · rw [Nat.add_comm, pow_add]
    gcongr
    norm_num
  · rw [Nat.add_comm, pow_add]
    gcongr
    norm_num
  · rw [word, hrounded]
    show 2045 * 2 ^ 52 + 2 ^ 53 = infinityWord
    decide

/-- The rounded number is too great just if the number is at least half a unit beyond the greatest
one. -/
theorem infinityWord_le_word_iff (r : Rounding x) :
    infinityWord ≤ r.word ↔ (2 ^ 53 - 1 / 2) * 2 ^ 2045 ≤ x := by
  have hround := r.roundedMantissa_le
  constructor
  · intro hle
    rw [infinityWord, word] at hle
    rcases Nat.lt_or_ge r.exponent 2046 with hlt | hge
    · -- the mantissa has been carried over
      have hexponent : r.exponent = 2045 := by omega
      have hmantissa : r.em.roundedMantissa = 2 ^ 53 := by omega
      have hhalf := (abs_le.mp r.represents.abs_roundedMantissa_sub_le).2
      rw [hmantissa, hexponent, Nat.cast_pow, Nat.cast_ofNat] at hhalf
      rw [← le_div_iff₀ (by positivity)]
      exact sub_le_comm.mp hhalf
    · have hx := r.least.resolve_right (by omega)
      refine le_trans ?_ hx
      calc ((2 ^ 53 - 1 / 2) * 2 ^ 2045 : ℚ) ≤ 2 ^ 53 * 2 ^ 2045 := by gcongr; norm_num
        _ = 2 ^ (2046 + 52) := by rw [← pow_add]
        _ ≤ 2 ^ (r.exponent + 52) := pow_le_pow_right₀ one_le_two (by omega)
  · intro hx
    obtain ⟨s, hs⟩ := exists_rounding_half_beyond
    exact hs ▸ s.word_mono r hx

end Rounding

/-- Values from here on are rounded to infinity: half a unit beyond the greatest number. -/
def overflowBound : ℚ := 2 ^ 1024 - 2 ^ 970

theorem overflowBound_mul_unit :
    overflowBound * 2 ^ (1074 : ℤ) = (2 ^ 53 - 1 / 2) * 2 ^ 2045 := by
  rw [overflowBound, zpow_ofNat, sub_mul, sub_mul, ← pow_add, ← pow_add, ← pow_add,
    show 1024 + 1074 = 53 + 2045 from rfl, one_div_mul_eq_div,
    show (2 : ℚ) ^ 2045 = 2 ^ (970 + 1074) * 2 from pow_succ 2 2044,
    mul_div_cancel_right₀ _ two_ne_zero]

theorem Rounding.word_lt_infinityWord_iff {q : ℚ} (r : Rounding (q * 2 ^ (1074 : ℤ))) :
    r.word < infinityWord ↔ q < overflowBound := by
  have hunit : (0 : ℚ) < 2 ^ (1074 : ℤ) := zpow_pos two_pos _
  rw [← not_le, r.infinityWord_le_word_iff, ← overflowBound_mul_unit,
    mul_le_mul_iff_left₀ hunit, not_le]

namespace IsNearest

variable {x y : Float} {q : ℚ}

/-- No finite number is closer to a value than the one nearest to it. -/
theorem abs_exact_sub_le (hx : IsNearest q x) (finite : isFinite y = true) :
    |exact x - q| ≤ |exact y - q| := by
  have hunit : (0 : ℚ) < 2 ^ (1074 : ℤ) := zpow_pos two_pos _
  obtain ⟨r, hr⟩ := hx.rounded
  have hclosest : |(|exact x| - |q|)| ≤ |(|exact y| - |q|)| := by
    have hword := r.abs_wordValue_word_sub_le (magnitude y)
    rw [← hr, ← abs_exact_mul_unit hx.finite, ← abs_exact_mul_unit finite, ← sub_mul, ← sub_mul,
      abs_mul, abs_mul, abs_of_pos hunit, mul_le_mul_iff_left₀ hunit] at hword
    exact hword
  have hsign : |exact x - q| = |(|exact x| - |q|)| := by
    have hexact := isNearest_exact hx.finite
    cases hs : isNegative x with
    | false => rw [abs_of_nonneg (hexact.nonneg hs), abs_of_nonneg (hx.nonneg hs)]
    | true =>
      rw [abs_of_nonpos (hexact.nonpos hs), abs_of_nonpos (hx.nonpos hs), ← neg_sub', abs_neg]
  rw [hsign]
  exact hclosest.trans (abs_abs_sub_abs_le _ _)

end IsNearest

end TableTalk.Decimal
