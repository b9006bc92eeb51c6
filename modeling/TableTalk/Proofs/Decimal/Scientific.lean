import TableTalk.Decimal.Read
import TableTalk.Proofs.Decimal.Closest

/-!
# Decimals are read as their nearest numbers

Digits with a power of ten are read in one of three ways. Few digits with a small
exponent are multiplied or divided by a power of ten that is a number itself, others
are multiplied or divided exactly, and values far out of range are not computed at
all. Each way the exact value is rounded once.
-/

namespace TableTalk.Decimal

open Float.Model (Format)
open Float.Model.UnpackedFloat (ExtendedMantissa)

/-- The bits of a number are the word of a rounded value, or infinity where that is too great. -/
def RoundsTo (q : ℚ) (x : Float) : Prop :=
  ∃ r : Rounding (q * 2 ^ (1074 : ℤ)), x.toBits.toNat = min r.word infinityWord

namespace RoundsTo

variable {q : ℚ} {x : Float}

theorem isNegative (h : RoundsTo q x) : isNegative x = false := by
  obtain ⟨r, hr⟩ := h
  have hbound : infinityWord < 2 ^ 63 := by decide
  rw [Decimal.isNegative, hr, Nat.pow_eq]
  exact decide_eq_false (by omega)

theorem isFinite_iff (h : RoundsTo q x) : isFinite x = true ↔ q < overflowBound := by
  obtain ⟨r, hr⟩ := h
  have hinfinity : infinityWord = infiniteMagnitude := rfl
  have hbound : infiniteMagnitude < 2 ^ 63 := by decide
  rw [← r.word_lt_infinityWord_iff, isFinite, decide_eq_true_iff, magnitude, hr, Nat.pow_eq]
  omega

theorem isNearest (h : RoundsTo q x) (nonneg : 0 ≤ q) (finite : isFinite x = true) :
    IsNearest q x := by
  have hbelow := h.isFinite_iff.mp finite
  obtain ⟨r, hr⟩ := h
  have hword := r.word_lt_infinityWord_iff.mpr hbelow
  exact isNearest_of_word r nonneg (hr.trans (min_eq_left hword.le)) hword

/-- What is rounded to infinity stays infinite with a sign. -/
theorem isFinite_neg_iff (h : RoundsTo q x) : isFinite (-x) = true ↔ isFinite x = true := by
  refine ⟨fun hneg => ?_, isFinite_neg⟩
  by_contra hinfinite
  have hword : x.toBits.toNat = infinityWord := by
    rw [h.isFinite_iff] at hinfinite
    obtain ⟨r, hr⟩ := h
    have hlarge := mt r.word_lt_infinityWord_iff.mp hinfinite
    omega
  obtain ⟨bits, valid⟩ := x
  obtain rfl : bits = 0x7FF0000000000000 := UInt64.toNat_inj.mp hword
  change isFinite (-(.ofModel (.pack (.infinity .positive)))) = true at hneg
  revert hneg
  decide

end RoundsTo

section Operations

variable {v w : Float.Model} {p q : ℚ}

theorem HasValue.div (hv : HasValue v p) (hw : HasValue w q) :
    RoundsTo (p / q) (.ofModel (v / w)) := by
  have h := exists_rounding_div hv.pos hv.finite hw.pos hw.finite
  rw [hv.value, hw.value, mul_div_mul_right _ _ (zpow_ne_zero _ two_ne_zero)] at h
  exact h

/-- A product is rounded once if one factor has all its digits. -/
theorem HasValue.mul (hv : HasValue v p) (hw : HasValue w q) (normal : 2 ^ 53 ≤ w.toBits.toNat) :
    RoundsTo (p * q) (.ofModel (v * w)) := by
  obtain ⟨m, d, hm, hunpack, hvalue⟩ := unpack_of_word hv.pos hv.finite
  obtain ⟨n, k, hn, hunpack', fits, least, hword⟩ := exists_unpack_of_word hw.pos hw.finite
  have hprecise : 2 ^ 52 ≤ n := least.resolve_right (by omega)
  have h := exists_rounding_mul hunpack hunpack' (hprecise.trans (Nat.le_mul_of_pos_left n hm))
  have hp : (m : ℚ) * 2 ^ (d + 1074) = p * 2 ^ (1074 : ℤ) := hvalue.trans hv.value
  have hq : (n : ℚ) * 2 ^ k = q * 2 ^ (1074 : ℤ) := by
    rw [← hw.value, hword, wordValue_eq fits least, Nat.cast_mul, Nat.cast_pow, Nat.cast_ofNat]
  have hproduct : ((m * n : ℕ) : ℚ) * 2 ^ (d + ((k : ℤ) - 1074) + 1074) =
      p * q * 2 ^ (1074 : ℤ) := by
    have hunit : (2 : ℚ) ^ (1074 : ℤ) ≠ 0 := zpow_ne_zero _ two_ne_zero
    rw [show d + ((k : ℤ) - 1074) + 1074 = d + 1074 + k - 1074 by omega, zpow_sub₀ two_ne_zero,
      zpow_add₀ two_ne_zero (d + 1074), zpow_natCast, Nat.cast_mul, ← mul_div_assoc,
      mul_mul_mul_comm, hp, hq, mul_mul_mul_comm, mul_div_assoc, mul_div_cancel_right₀ _ hunit]
  rw [hproduct] at h
  exact h

end Operations

section Scientific

variable {d n : ℕ}

theorem hasValue_toFloat (pos : 0 < d) (small : d < 2 ^ 53) :
    HasValue d.toUInt64.toFloat.toModel d := by
  have hword : d.toUInt64.toNat = d := by
    rw [Nat.toUInt64_eq, UInt64.toNat_ofNat']
    omega
  have hmodel : d.toUInt64.toFloat.toModel = Float.Model.ofNat d := by
    show Float.Model.pack (Float.Model.UnpackedFloat.ofNat _ d.toUInt64.toNat) = _
    rw [hword]
    rfl
  rw [hmodel]
  exact hasValue_ofNat pos small

/-- The words of the powers of ten that are numbers themselves. -/
theorem powerOfTen_words : ∀ k : Fin 23,
    2 ^ 53 ≤ Float.exactlyRepresentablePowersOfTen[k].toBits.toNat ∧
      Float.exactlyRepresentablePowersOfTen[k].toBits.toNat < infinityWord ∧
      wordValue Float.exactlyRepresentablePowersOfTen[k].toBits.toNat =
        10 ^ k.val * 2 ^ 1074 := by
  decide +kernel

theorem hasValue_powerOfTen (k : Fin 23) :
    HasValue Float.exactlyRepresentablePowersOfTen[k].toModel (10 ^ k.val) := by
  obtain ⟨hnormal, hfinite, hvalue⟩ := powerOfTen_words k
  refine ⟨(Nat.two_pow_pos 53).trans_le hnormal, hfinite, ?_⟩
  show (wordValue Float.exactlyRepresentablePowersOfTen[k].toBits.toNat : ℚ) = _
  rw [hvalue, Nat.cast_mul, Nat.cast_pow, Nat.cast_pow, Nat.cast_ofNat, Nat.cast_ofNat,
    zpow_ofNat]

/-- Few digits and a small exponent need one operation. -/
theorem roundsTo_ofScientific_of_small (negative : Bool) (pos : 0 < d) (small : d < 2 ^ 53)
    (short : n ≤ 22) :
    RoundsTo (d * 10 ^ (if negative then -(n : ℤ) else n)) (Float.ofScientific d negative n) := by
  have hdigits := hasValue_toFloat pos small
  have hpower := hasValue_powerOfTen ⟨n, by omega⟩
  rw [Float.ofScientific, dif_pos ⟨small, short⟩]
  cases negative with
  | true =>
    rw [if_pos rfl, zpow_neg, zpow_natCast, ← div_eq_mul_inv]
    exact hdigits.div hpower
  | false =>
    rw [if_neg Bool.false_ne_true, zpow_natCast]
    exact hdigits.mul hpower (powerOfTen_words ⟨n, by omega⟩).1

/-- Other digits and exponents are multiplied or divided without rounding. -/
theorem roundsTo_ofScientific_of_large {e : ℤ} (pos : 0 < d) (upper : e ≤ 2 ^ 11)
    (lower : -(2 ^ 11 + (d.log2 : ℤ)) ≤ e) :
    RoundsTo (d * 10 ^ e) (.ofModel (Float.Model.ofScientific d e)) := by
  have hupper : ¬ e > 2 ^ Format.binary64.exponentBits := not_lt.mpr upper
  have hlower : ¬ e < -(2 ^ Format.binary64.exponentBits + (d.log2 : ℤ)) := not_lt.mpr lower
  rw [Float.Model.ofScientific, Float.Model.UnpackedFloat.ofScientific, dif_neg pos.ne',
    if_neg hupper, if_neg hlower]
  split
  case isTrue hnonneg =>
    have hprecise : 2 ^ 52 ≤ d <<< 53 * 10 ^ e.toNat := by
      rw [Nat.shiftLeft_eq]
      calc 2 ^ 52 ≤ 1 * 2 ^ 53 * 1 := by decide
        _ ≤ d * 2 ^ 53 * 10 ^ e.toNat :=
          Nat.mul_le_mul (Nat.mul_le_mul_right _ pos) (Nat.pow_pos (by decide))
    have h := exists_rounding (Represents.exact (d <<< 53 * 10 ^ e.toNat))
      (Or.inl hprecise : _ ∨ (-53 : ℤ) + 0 ≤ -1074)
    have hvalue : ((d <<< 53 * 10 ^ e.toNat : ℕ) : ℚ) * 2 ^ ((-53 : ℤ) + 0 + 1074) =
        d * 10 ^ e * 2 ^ (1074 : ℤ) := by
      have hpower : ((10 ^ e.toNat : ℕ) : ℚ) = 10 ^ e := by
        rw [Nat.cast_pow, Nat.cast_ofNat, ← zpow_natCast, Int.toNat_of_nonneg hnonneg]
      rw [show (-53 : ℤ) + 0 + 1074 = 1074 - (53 : ℕ) by rfl, Nat.cast_mul, mul_right_comm,
        shiftLeft_mul_zpow, hpower, mul_right_comm]
    rw [hvalue] at h
    exact h
  case isFalse hneg =>
    have hten : 0 < 10 ^ (-e).toNat := Nat.pow_pos (by decide)
    have h := exists_rounding_unpacked_div 0 0 pos hten
    have hpower : (d : ℚ) / (10 ^ (-e).toNat : ℕ) = d * 10 ^ e := by
      rw [Nat.cast_pow, Nat.cast_ofNat, ← zpow_natCast, Int.toNat_of_nonneg (by omega), zpow_neg,
        div_inv_eq_mul]
    rw [hpower, sub_zero, zero_add] at h
    exact h

theorem signed_natAbs (e : ℤ) :
    (if decide (e < 0) = true then -(e.natAbs : ℤ) else e.natAbs) = e := by
  rcases Int.lt_or_le e 0 with hneg | hnonneg
  · rw [decide_eq_true hneg, if_pos rfl]
    omega
  · rw [decide_eq_false hnonneg.not_gt, if_neg Bool.false_ne_true]
    omega

theorem roundsTo_ofScientific {e : ℤ} (pos : 0 < d) (upper : e ≤ 2 ^ 11)
    (lower : -(2 ^ 11 + (d.log2 : ℤ)) ≤ e) :
    RoundsTo (d * 10 ^ e) (Float.ofScientific d (e < 0) e.natAbs) := by
  by_cases hexact : d < 2 ^ 53 ∧ e.natAbs ≤ 22
  · have h := roundsTo_ofScientific_of_small (e < 0) pos hexact.1 hexact.2
    rwa [signed_natAbs] at h
  · rw [Float.ofScientific, dif_neg hexact]
    dsimp only
    rw [Int.negOfNat_eq, Int.ofNat_eq_natCast, signed_natAbs]
    exact roundsTo_ofScientific_of_large pos upper lower

end Scientific

section Ranges

variable {q : ℚ}

theorem roundsTo_infinity (large : overflowBound ≤ q) : RoundsTo q (1.0 / 0.0) := by
  have hbits : (1.0 / 0.0 : Float).toBits.toNat = infinityWord := by decide +kernel
  have hbound : (0 : ℚ) ≤ overflowBound := by
    rw [overflowBound, sub_nonneg]
    exact pow_le_pow_right₀ one_le_two (by decide)
  have hnonneg : 0 ≤ q * 2 ^ (1074 : ℤ) :=
    mul_nonneg (hbound.trans large) (zpow_nonneg two_pos.le _)
  obtain ⟨r⟩ := Rounding.nonempty hnonneg
  have hword := not_lt.mp (mt r.word_lt_infinityWord_iff.mp large.not_gt)
  exact ⟨r, hbits.trans (min_eq_right hword).symm⟩

theorem exists_rounding_quarter : ∃ r : Rounding (1 / 4), r.word = 0 := by
  have hrounded : (⟨0, false, true⟩ : ExtendedMantissa).roundedMantissa = 0 := rfl
  refine ⟨⟨0, ⟨0, false, true⟩, ?_, by norm_num, Or.inr rfl⟩, ?_⟩
  · simp only [Represents]
    norm_num
  · rw [Rounding.word, hrounded, Nat.zero_mul]

/-- Less than a quarter of the least positive number is rounded to zero. -/
theorem roundsTo_zero (nonneg : 0 ≤ q) (small : q * 2 ^ (1074 : ℤ) ≤ 1 / 4) : RoundsTo q 0.0 := by
  have hbits : (0.0 : Float).toBits.toNat = 0 := by decide +kernel
  obtain ⟨s, hs⟩ := exists_rounding_quarter
  obtain ⟨r⟩ := Rounding.nonempty (mul_nonneg nonneg (zpow_nonneg two_pos.le 1074))
  have hword := r.word_mono s small
  exact ⟨r, by omega⟩

theorem overflowBound_le : overflowBound ≤ 10 ^ (400 : ℤ) := by
  calc overflowBound ≤ 2 ^ 1024 := sub_le_self _ (by positivity)
    _ ≤ 2 ^ (3 * 400) := pow_le_pow_right₀ one_le_two (by decide)
    _ = 8 ^ 400 := by rw [pow_mul]; norm_num
    _ ≤ 10 ^ (400 : ℤ) := by rw [zpow_ofNat]; gcongr; norm_num

theorem tiny_mul_unit_le : (10 : ℚ) ^ (-400 : ℤ) * 2 ^ (1074 : ℤ) ≤ 1 / 4 := by
  have hunit : (2 : ℚ) ^ (1074 : ℤ) ≤ 10 ^ (358 : ℤ) := by
    calc (2 : ℚ) ^ (1074 : ℤ) = 8 ^ 358 := by
          rw [zpow_ofNat, show 1074 = 3 * 358 from rfl, pow_mul]
          norm_num
      _ ≤ 10 ^ (358 : ℤ) := by rw [zpow_ofNat]; gcongr; norm_num
  calc (10 : ℚ) ^ (-400 : ℤ) * 2 ^ (1074 : ℤ) ≤ 10 ^ (-400 : ℤ) * 10 ^ (358 : ℤ) := by gcongr
    _ = 10 ^ (-42 : ℤ) := by rw [← zpow_add₀ (by norm_num)]; rfl
    _ ≤ 10 ^ (-1 : ℤ) := zpow_le_zpow_right₀ (by norm_num) (by decide)
    _ ≤ 1 / 4 := by norm_num

end Ranges

section Lengths

variable {d : ℕ} (pos : 0 < d)

theorem length_toDigits_pos (d : ℕ) : 0 < (Nat.toDigits 10 d).length :=
  List.length_pos_of_ne_nil Nat.toDigits_ne_nil

theorem length_toDigits_le (d : ℕ) : (Nat.toDigits 10 d).length ≤ d.log2 + 1 := by
  refine (Nat.length_toDigits_le_iff (by decide) (by omega)).mpr ?_
  exact Nat.lt_log2_self.trans_le (Nat.pow_le_pow_left (by decide) _)

theorem mul_ten_zpow_le (e : ℤ) : (d : ℚ) * 10 ^ e ≤ 10 ^ ((Nat.toDigits 10 d).length + e) := by
  have hlt := (Nat.length_toDigits_le_iff (by decide) (length_toDigits_pos d)).mp le_rfl
  rw [zpow_add₀ (by norm_num), zpow_natCast]
  gcongr
  exact_mod_cast hlt.le

include pos in
theorem le_mul_ten_zpow (e : ℤ) :
    10 ^ ((Nat.toDigits 10 d).length - 1 + e) ≤ (d : ℚ) * 10 ^ e := by
  have hle : 10 ^ ((Nat.toDigits 10 d).length - 1) ≤ d := by
    rcases Nat.eq_zero_or_pos ((Nat.toDigits 10 d).length - 1) with hzero | hpos
    · rw [hzero]
      exact pos
    · refine not_lt.mp fun hlt => ?_
      have hlength := (Nat.length_toDigits_le_iff (by decide) hpos).mpr hlt
      omega
  rw [zpow_add₀ (by norm_num), ← Nat.cast_pred (length_toDigits_pos d), zpow_natCast]
  gcongr
  exact_mod_cast hle

end Lengths

/-- Digits with a power of ten are read as the rounded value. -/
theorem roundsTo_nearest (d : ℕ) (e : ℤ) : RoundsTo (d * 10 ^ e) (nearest d e) := by
  rw [nearest]
  split
  case isTrue hzero =>
    rw [hzero, Nat.cast_zero, zero_mul]
    exact roundsTo_zero le_rfl (by norm_num)
  case isFalse hne =>
    have pos : 0 < d := Nat.pos_of_ne_zero hne
    have hlower := le_mul_ten_zpow pos e
    have hupper := mul_ten_zpow_le (d := d) e
    have hlength := length_toDigits_pos d
    have hlog := length_toDigits_le d
    generalize (Nat.toDigits 10 d).length = length at hlower hupper hlength hlog ⊢
    dsimp only
    split
    case isTrue hlarge =>
      apply roundsTo_infinity
      calc overflowBound ≤ 10 ^ (400 : ℤ) := overflowBound_le
        _ ≤ 10 ^ ((length : ℤ) - 1 + e) := zpow_le_zpow_right₀ (by norm_num) (by omega)
        _ ≤ d * 10 ^ e := hlower
    case isFalse =>
      split
      case isTrue hsmall =>
        apply roundsTo_zero (by positivity)
        have hvalue : (d : ℚ) * 10 ^ e ≤ 10 ^ (-400 : ℤ) :=
          hupper.trans (zpow_le_zpow_right₀ (by norm_num) hsmall.le)
        exact (mul_le_mul_of_nonneg_right hvalue (zpow_nonneg two_pos.le _)).trans tiny_mul_unit_le
      case isFalse => exact roundsTo_ofScientific pos (by omega) (by omega)

end TableTalk.Decimal
