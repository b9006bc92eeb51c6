import TableTalk.Proofs.Decimal.Words

/-!
# Rounding keeps the order

Arithmetic finds the leading digits of an exact result and two bits on what is left
of it, and rounds them to the nearest number. Rounding a greater number never gives
a smaller word. Numbers are taken in units of the least positive binary64 number.
-/

namespace TableTalk.Decimal

open Float.Model (Format totalExponent)
open Float.Model.UnpackedFloat

/-- The number that a mantissa and its two residual bits leave possible. -/
def Represents (em : ExtendedMantissa) (x : ℚ) : Prop :=
  match em.roundBit, em.stickyBit with
  | false, false => x = em.mantissa
  | false, true => em.mantissa < x ∧ x < em.mantissa + 1 / 2
  | true, false => x = em.mantissa + 1 / 2
  | true, true => em.mantissa + 1 / 2 < x ∧ x < em.mantissa + 1

namespace Represents

variable {em other : ExtendedMantissa} {x y : ℚ}

theorem bounds (h : Represents em x) : (em.mantissa : ℚ) ≤ x ∧ x < em.mantissa + 1 := by
  obtain ⟨m, r, s⟩ := em
  cases r <;> cases s <;> simp only [Represents] at h ⊢ <;> constructor <;> linarith

theorem exact (m : ℕ) : Represents (.ofMantissaAndAccuracy m .exact) m := rfl

/-- Halving keeps what the residual bits say about the number. -/
theorem shiftRightOne (h : Represents em x) : Represents em.shiftRightOne (x / 2) := by
  obtain ⟨m, r, s⟩ := em
  have hm : ((m % 2 : ℕ) : ℚ) + 2 * ((m / 2 : ℕ) : ℚ) = (m : ℚ) := by
    exact_mod_cast Nat.mod_add_div m 2
  obtain hbit | hbit : m % 2 = 0 ∨ m % 2 = 1 := by omega
  all_goals
    rw [hbit] at hm
    cases r <;> cases s <;>
      simp [Represents, ExtendedMantissa.shiftRightOne, hbit] at h hm ⊢ <;>
      first | linarith | (constructor <;> linarith)

theorem shiftRight (h : Represents em x) (n : ℕ) : Represents (em >>> n) (x / 2 ^ n) := by
  change Represents (n.repeat ExtendedMantissa.shiftRightOne em) _
  induction n with
  | zero => simpa [Nat.repeat] using h
  | succ n ih =>
    rw [Nat.repeat, pow_succ, ← div_div]
    exact ih.shiftRightOne

theorem roundedMantissa_bounds (em : ExtendedMantissa) :
    em.mantissa ≤ em.roundedMantissa ∧ em.roundedMantissa ≤ em.mantissa + 1 := by
  obtain ⟨m, r, s⟩ := em
  cases r <;> cases s <;>
    simp only [ExtendedMantissa.roundedMantissa, ExtendedMantissa.accuracy,
      Accuracy.roundToNearestEven] <;> omega

/-- A greater number is not rounded to a smaller mantissa. -/
theorem roundedMantissa_mono (h : Represents em x) (ho : Represents other y) (le : x ≤ y) :
    em.roundedMantissa ≤ other.roundedMantissa := by
  have hm : em.mantissa < other.mantissa + 1 := by
    have hlt : (em.mantissa : ℚ) < other.mantissa + 1 :=
      lt_of_le_of_lt (h.bounds.1.trans le) ho.bounds.2
    exact_mod_cast hlt
  rcases Nat.lt_or_ge em.mantissa other.mantissa with hlt | hge
  · have hbelow := (roundedMantissa_bounds em).2
    have habove := (roundedMantissa_bounds other).1
    omega
  · have heq : em.mantissa = other.mantissa := by omega
    obtain ⟨m, r, s⟩ := em
    obtain ⟨m', r', s'⟩ := other
    dsimp only at heq
    subst heq
    -- with one mantissa the residual bits alone decide, and they are in the order of x and y
    cases r <;> cases s <;> cases r' <;> cases s' <;>
      simp only [Represents, ExtendedMantissa.roundedMantissa, ExtendedMantissa.accuracy,
        Accuracy.roundToNearestEven] at h ho ⊢ <;>
      first | omega | (exfalso; linarith)

/-- The mantissa of a quotient of whole numbers, with the residual bits of its remainder. -/
theorem quotient (n : ℕ) {d : ℕ} (pos : 0 < d) :
    Represents (.ofMantissaAndAccuracy (n / d) (accuracyOfFraction (n % d) d)) (n / d) := by
  have hd : (0 : ℚ) < d := by exact_mod_cast pos
  have hn : (n : ℚ) / d = ((n / d : ℕ) : ℚ) + ((n % d : ℕ) : ℚ) / d := by
    have h : (d : ℚ) * ((n / d : ℕ) : ℚ) + ((n % d : ℕ) : ℚ) = n := by
      exact_mod_cast Nat.div_add_mod n d
    rw [← h]
    field_simp
  have hlt : ((n % d : ℕ) : ℚ) / d < 1 := by
    rw [div_lt_one hd]
    exact_mod_cast Nat.mod_lt n pos
  rw [accuracyOfFraction]
  split
  case isTrue hzero => rw [hn, hzero, Nat.cast_zero, zero_div, add_zero]; exact exact _
  case isFalse hne =>
    have hpos : 0 < ((n % d : ℕ) : ℚ) / d := by
      apply div_pos _ hd
      exact_mod_cast Nat.pos_of_ne_zero hne
    rw [hn]
    cases hcompare : compare (2 * (n % d)) d with
    | lt =>
      have hhalf : ((n % d : ℕ) : ℚ) / d < 1 / 2 := by
        rw [div_lt_div_iff₀ hd two_pos]
        have h : (2 * (n % d) : ℕ) < d := Nat.compare_eq_lt.mp hcompare
        have h' : (2 : ℚ) * ((n % d : ℕ) : ℚ) < d := by exact_mod_cast h
        linarith
      simp only [Represents, ExtendedMantissa.ofMantissaAndAccuracy]
      exact ⟨by linarith, by linarith⟩
    | eq =>
      have hhalf : ((n % d : ℕ) : ℚ) / d = 1 / 2 := by
        rw [div_eq_div_iff hd.ne' two_ne_zero]
        have h : (2 * (n % d) : ℕ) = d := Nat.compare_eq_eq.mp hcompare
        have h' : (2 : ℚ) * ((n % d : ℕ) : ℚ) = d := by exact_mod_cast h
        linarith
      simp only [Represents, ExtendedMantissa.ofMantissaAndAccuracy]
      rw [hhalf]
    | gt =>
      have hhalf : 1 / 2 < ((n % d : ℕ) : ℚ) / d := by
        rw [div_lt_div_iff₀ two_pos hd]
        have h : d < (2 * (n % d) : ℕ) := Nat.compare_eq_gt.mp hcompare
        have h' : (d : ℚ) < 2 * ((n % d : ℕ) : ℚ) := by exact_mod_cast h
        linarith
      simp only [Represents, ExtendedMantissa.ofMantissaAndAccuracy]
      exact ⟨by linarith, by linarith⟩

end Represents

/-- How a number that is not negative is rounded as long as exponents are not bounded above: with
the least exponent that leaves room for it in 53 bits. -/
structure Rounding (x : ℚ) where
  exponent : ℕ
  em : ExtendedMantissa
  represents : Represents em (x / 2 ^ exponent)
  fits : x < 2 ^ (exponent + 53)
  least : 2 ^ (exponent + 52) ≤ x ∨ exponent = 0

namespace Rounding

variable {x y : ℚ}

/-- The word of the rounded number. -/
def word (r : Rounding x) : ℕ :=
  r.exponent * 2 ^ 52 + r.em.roundedMantissa

theorem mantissa_lt (r : Rounding x) : r.em.mantissa < 2 ^ 53 := by
  have hlt : (r.em.mantissa : ℚ) < 2 ^ 53 := by
    refine lt_of_le_of_lt r.represents.bounds.1 ?_
    rw [div_lt_iff₀ (by positivity), ← pow_add, Nat.add_comm]
    exact r.fits
  exact_mod_cast hlt

theorem le_mantissa (r : Rounding x) : 2 ^ 52 ≤ r.em.mantissa ∨ r.exponent = 0 := by
  refine r.least.imp_left fun hle => ?_
  have hlt : (2 ^ 52 : ℚ) < r.em.mantissa + 1 := by
    refine lt_of_le_of_lt ?_ r.represents.bounds.2
    rw [le_div_iff₀ (by positivity), ← pow_add, Nat.add_comm]
    exact hle
  have hlt' : 2 ^ 52 < r.em.mantissa + 1 := by exact_mod_cast hlt
  omega

theorem roundedMantissa_le (r : Rounding x) : r.em.roundedMantissa ≤ 2 ^ 53 := by
  have hlt := r.mantissa_lt
  have hround := (Represents.roundedMantissa_bounds r.em).2
  omega

theorem le_roundedMantissa (r : Rounding x) :
    2 ^ 52 ≤ r.em.roundedMantissa ∨ r.exponent = 0 :=
  r.le_mantissa.imp_left fun hle => hle.trans (Represents.roundedMantissa_bounds r.em).1

/-- Rounding keeps the order. -/
theorem word_mono (r : Rounding x) (s : Rounding y) (le : x ≤ y) : r.word ≤ s.word := by
  have hle := r.roundedMantissa_le
  unfold word
  rcases Nat.lt_trichotomy r.exponent s.exponent with hlt | heq | hgt
  · have hge := s.le_roundedMantissa.resolve_right (by omega)
    have hmul : (r.exponent + 1) * 2 ^ 52 ≤ s.exponent * 2 ^ 52 := Nat.mul_le_mul_right _ hlt
    omega
  · have hrep := s.represents
    rw [← heq] at hrep
    have hmono := r.represents.roundedMantissa_mono hrep (by gcongr)
    rw [heq]
    omega
  · -- the exponent of the greater number leaves no room for the smaller one
    exfalso
    have hx : (2 : ℚ) ^ (r.exponent + 52) ≤ x := r.least.resolve_right (by omega)
    have hpow : (2 : ℚ) ^ (s.exponent + 53) ≤ 2 ^ (r.exponent + 52) :=
      pow_le_pow_right₀ (by norm_num) (by omega)
    linarith [s.fits]

theorem word_pos (r : Rounding x) (hx : 1 ≤ x) : 0 < r.word := by
  unfold word
  by_contra hzero
  have hround := (Represents.roundedMantissa_bounds r.em).1
  have hexponent : r.exponent = 0 := by omega
  have hmantissa : r.em.mantissa = 0 := by omega
  have hlt := r.represents.bounds.2
  rw [hexponent, hmantissa] at hlt
  norm_num at hlt
  linarith

end Rounding

section Exponents

theorem shiftToTargetExponent_of_fits {m : ℕ} {e : ℤ} (fits : m < 2 ^ 53) (least : -1074 ≤ e) :
    shiftToTargetExponent Format.binary64 m e .exact = (⟨m, false, false⟩, e) := by
  have hlog : m.log2 ≤ 52 := by
    by_cases h : m = 0
    · simp [h]
    · have hlt := (Nat.log2_lt h).mpr fits
      omega
  have hshift : (Format.binary64.targetExponent (totalExponent m e) - e).toNat = 0 := by
    simp [Format.targetExponent, totalExponent, Format.mantissaBits, Format.minExponent]
    omega
  simp only [shiftToTargetExponent, shiftToExponent, hshift]
  rw [Int.natCast_zero, add_zero]
  rfl

/-- A mantissa that rounding has carried over is halved once. -/
theorem shiftToTargetExponent_carried {e : ℤ} (least : -1074 ≤ e) :
    shiftToTargetExponent Format.binary64 (2 ^ 53) e .exact = (⟨2 ^ 52, false, false⟩, e + 1) := by
  have hshift : (Format.binary64.targetExponent (totalExponent (2 ^ 53) e) - e).toNat = 1 := by
    simp only [Format.targetExponent, totalExponent, Nat.log2_two_pow, Format.mantissaBits,
      Format.minExponent]
    norm_num
    omega
  simp only [shiftToTargetExponent, shiftToExponent, hshift]
  rfl

theorem toBits_pack_carried {m k : ℕ} (fits : m ≤ 2 ^ 53) (least : 2 ^ 52 ≤ m ∨ k = 0)
    (shifted : ExtendedMantissa × ℤ)
    (h : shiftToTargetExponent Format.binary64 m ((k : ℤ) - 1074) .exact = shifted) :
    (Float.Model.pack
      (if h : shifted.1.mantissa = 0 then .zero .positive
        else .finite .positive shifted.1.mantissa shifted.2 (Nat.pos_of_ne_zero h))).toBits.toNat =
      min (k * 2 ^ 52 + m) infinityWord := by
  rcases Nat.lt_or_eq_of_le fits with hlt | rfl
  · obtain rfl := h.symm.trans (shiftToTargetExponent_of_fits hlt (by omega))
    split
    case isTrue hzero =>
      obtain rfl : k = 0 := least.resolve_left (by dsimp only at hzero; omega)
      obtain rfl : m = 0 := hzero
      decide
    case isFalse hne => exact toBits_pack_finite _ hlt least
  · obtain rfl := h.symm.trans (shiftToTargetExponent_carried (by omega))
    have hfinite := toBits_pack_finite (Nat.two_pow_pos 52) (by decide)
      (Or.inl (le_refl _) : 2 ^ 52 ≤ 2 ^ 52 ∨ k + 1 = 0)
    have hexponent : ((k + 1 : ℕ) : ℤ) - 1074 = (k : ℤ) - 1074 + 1 := by omega
    have hword : (k + 1) * 2 ^ 52 + 2 ^ 52 = k * 2 ^ 52 + 2 ^ 53 := by omega
    rw [hword] at hfinite
    simp only [hexponent] at hfinite
    exact hfinite

/-- The exponent that is chosen for a mantissa, as long as it has digits enough. -/
theorem exists_shift (m : ℕ) (e : ℤ) (accuracy : Accuracy) (precise : 2 ^ 52 ≤ m ∨ e ≤ -1074) :
    ∃ s k : ℕ,
      shiftToTargetExponent Format.binary64 m e accuracy =
        (ExtendedMantissa.ofMantissaAndAccuracy m accuracy >>> s, (k : ℤ) - 1074) ∧
      e + 1074 = (k : ℤ) - s ∧ m < 2 ^ (s + 53) ∧ (2 ^ (s + 52) ≤ m ∨ k = 0) := by
  have htarget : Format.binary64.targetExponent (totalExponent m e) =
      max ((m.log2 : ℤ) + 1 + e - 53) (-1074) := by
    simp [Format.targetExponent, totalExponent, Format.mantissaBits, Format.minExponent]
  obtain ⟨s, hs⟩ : ∃ s, s = (max ((m.log2 : ℤ) + 1 + e - 53) (-1074) - e).toNat := ⟨_, rfl⟩
  obtain ⟨k, hk⟩ : ∃ k : ℕ, e + s = (k : ℤ) - 1074 := ⟨(e + s + 1074).toNat, by omega⟩
  refine ⟨s, k, ?_, by omega, ?_, ?_⟩
  · simp only [shiftToTargetExponent, shiftToExponent, htarget, ← hs, hk]
  · exact lt_of_lt_of_le Nat.lt_log2_self (Nat.pow_le_pow_right (by decide) (by omega))
  · by_cases hzero : k = 0
    · exact Or.inr hzero
    · have hne : m ≠ 0 := by
        rintro rfl
        simp at hs precise
        omega
      have hlog : 2 ^ 52 ≤ m → 52 ≤ m.log2 := (Nat.le_log2 hne).mpr
      exact Or.inl
        (le_trans (Nat.pow_le_pow_right (by decide) (by omega)) (Nat.log2_self_le hne))

/-- The word of a number is that of its rounding, or infinity where that is too great. -/
theorem exists_rounding {m : ℕ} {e : ℤ} {accuracy : Accuracy} {x : ℚ}
    (represents : Represents (.ofMantissaAndAccuracy m accuracy) x)
    (precise : 2 ^ 52 ≤ m ∨ e ≤ -1074) :
    ∃ r : Rounding (x * 2 ^ (e + 1074)),
      (Float.Model.pack (roundWithAccuracy Format.binary64 .positive m e accuracy)).toBits.toNat =
        min r.word infinityWord := by
  obtain ⟨s, k, hfirst, he, hfits, hleast⟩ := exists_shift m e accuracy precise
  have hm : (m : ℚ) ≤ x ∧ x < m + 1 := by
    have hbounds := represents.bounds
    cases accuracy with
    | exact => exact hbounds
    | inexact order => cases order <;> exact hbounds
  have hscaled : x * 2 ^ (e + 1074) / 2 ^ k = x / 2 ^ s := by
    rw [he, zpow_sub₀ two_ne_zero, zpow_natCast, zpow_natCast]
    field_simp
  let r : Rounding (x * 2 ^ (e + 1074)) :=
    { exponent := k
      em := ExtendedMantissa.ofMantissaAndAccuracy m accuracy >>> s
      represents := by
        rw [hscaled]
        exact represents.shiftRight s
      fits := by
        have hx : ((m + 1 : ℕ) : ℚ) ≤ 2 ^ (s + 53) := by exact_mod_cast hfits
        push_cast at hx
        rw [pow_add, ← div_lt_iff₀' (by positivity), hscaled, div_lt_iff₀' (by positivity),
          ← pow_add]
        linarith [hm.2]
      least := by
        refine hleast.imp_left fun hle => ?_
        have hx : (2 : ℚ) ^ (s + 52) ≤ m := by exact_mod_cast hle
        rw [pow_add, ← le_div_iff₀' (by positivity), hscaled, le_div_iff₀' (by positivity),
          ← pow_add]
        exact hx.trans hm.1 }
  refine ⟨r, ?_⟩
  simp only [roundWithAccuracy, hfirst]
  exact toBits_pack_carried r.roundedMantissa_le r.le_roundedMantissa _ rfl

end Exponents

end TableTalk.Decimal
