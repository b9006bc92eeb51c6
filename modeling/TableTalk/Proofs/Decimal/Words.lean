import Mathlib
import TableTalk.Decimal.Binary64

/-!
# The words of numbers

The bits of a number that is not negative form a word. Words count the binary64
numbers in their order, from zero to infinity; in units of the least positive
number every finite word stands for a whole number.
-/

namespace TableTalk.Decimal

open Float.Model (Format)
open Float.Model.UnpackedFloat

/-- The word of positive infinity. -/
def infinityWord : ℕ := 2047 * 2 ^ 52

section Packing

theorem toNat_packComponents (sign : Sign) (exponent : BitVec 11) (mantissa : BitVec 52) :
    (packComponents Format.binary64 sign exponent mantissa).toNat =
      sign.toBitVec.toNat * 2 ^ 63 + exponent.toNat * 2 ^ 52 + mantissa.toNat := by
  change ((sign.toBitVec ++ exponent) ++ mantissa).toNat = _
  rw [BitVec.toNat_append, ← Nat.shiftLeft_add_eq_or_of_lt mantissa.isLt, Nat.shiftLeft_eq,
    BitVec.toNat_append, ← Nat.shiftLeft_add_eq_or_of_lt exponent.isLt, Nat.shiftLeft_eq]
  omega

/-- The bits of a mantissa of at most 53 bits and its exponent: below the sign is the word. -/
theorem toBits_pack_signed (sign : Sign) {m k : ℕ} (pos : 0 < m) (fits : m < 2 ^ 53)
    (least : 2 ^ 52 ≤ m ∨ k = 0) :
    (Float.Model.pack (.finite sign m ((k : ℤ) - 1074) pos)).toBits.toNat =
      sign.toBitVec.toNat * 2 ^ 63 + min (k * 2 ^ 52 + m) infinityWord := by
  have hbiased : ((k : ℤ) - 1074 + (Format.binary64.exponentBias : ℤ) +
      (Format.binary64.mantissaBitsWithoutImplicit : ℤ)).toNat = k + 1 := by
    simp only [Format.exponentBias]
    omega
  change (Float.Model.UnpackedFloat.pack Format.binary64 _).toNat = _
  simp only [Float.Model.UnpackedFloat.pack, hbiased]
  split
  case isTrue hbig =>
    have hword : (packedInfinity Format.binary64 sign).toNat =
        sign.toBitVec.toNat * 2 ^ 63 + infinityWord := by
      cases sign <;> decide
    have hle : 2046 * 2 ^ 52 ≤ k * 2 ^ 52 := Nat.mul_le_mul_right _ (by simpa using hbig)
    rw [hword, infinityWord]
    have hge := least.resolve_right (by simp at hbig; omega)
    omega
  case isFalse hsmall =>
    have hk : k < 2046 := by simpa using hsmall
    have hle : (k + 1) * 2 ^ 52 ≤ 2046 * 2 ^ 52 := Nat.mul_le_mul_right _ hk
    split
    case isTrue hnormal =>
      have hlog : m.log2 = 52 := by simpa [Format.mantissaBits] using hnormal
      have hge : 2 ^ 52 ≤ m := ((Nat.log2_eq_iff pos.ne').mp hlog).1
      rw [toNat_packComponents, BitVec.toNat_ofNat, BitVec.toNat_ofNat, infinityWord,
        Nat.mod_eq_of_lt (by omega)]
      omega
    case isFalse hsubnormal =>
      have hlt : m < 2 ^ 52 := by
        by_contra hge
        exact hsubnormal (by
          simp only [Format.mantissaBits]
          rw [(Nat.log2_eq_iff pos.ne').mpr ⟨by omega, fits⟩])
      obtain rfl : k = 0 := least.resolve_left (by omega)
      rw [toNat_packComponents, BitVec.toNat_ofNat, BitVec.toNat_ofNat, infinityWord]
      omega

/-- The word of a mantissa of at most 53 bits and its exponent. -/
theorem toBits_pack_finite {m k : ℕ} (pos : 0 < m) (fits : m < 2 ^ 53)
    (least : 2 ^ 52 ≤ m ∨ k = 0) :
    (Float.Model.pack (.finite .positive m ((k : ℤ) - 1074) pos)).toBits.toNat =
      min (k * 2 ^ 52 + m) infinityWord := by
  rw [toBits_pack_signed .positive pos fits least, show Sign.positive.toBitVec.toNat = 0 from rfl,
    Nat.zero_mul, Nat.zero_add]

end Packing

/-- The number of a word below infinity. -/
def wordValue (word : ℕ) : ℕ :=
  if word < 2 ^ 52 then word else (word % 2 ^ 52 + 2 ^ 52) * 2 ^ (word / 2 ^ 52 - 1)

theorem wordValue_eq {m k : ℕ} (fits : m < 2 ^ 53) (least : 2 ^ 52 ≤ m ∨ k = 0) :
    wordValue (k * 2 ^ 52 + m) = m * 2 ^ k := by
  unfold wordValue
  split
  case isTrue hlt =>
    obtain rfl : k = 0 := least.resolve_left (by omega)
    simp
  case isFalse hge =>
    have hm : 2 ^ 52 ≤ m := by
      rcases least with hm | rfl
      · exact hm
      · omega
    have hmod : (k * 2 ^ 52 + m) % 2 ^ 52 = m - 2 ^ 52 := by omega
    have hdiv : (k * 2 ^ 52 + m) / 2 ^ 52 = k + 1 := by omega
    rw [hmod, hdiv, Nat.sub_add_cancel hm, Nat.add_sub_cancel]

/-- Every word is a mantissa of at most 53 bits with its exponent. -/
theorem exists_word_eq (word : ℕ) :
    ∃ m k, word = k * 2 ^ 52 + m ∧ m < 2 ^ 53 ∧ (2 ^ 52 ≤ m ∨ k = 0) := by
  by_cases h : word < 2 ^ 52
  · exact ⟨word, 0, by omega, by omega, Or.inr rfl⟩
  · refine ⟨word % 2 ^ 52 + 2 ^ 52, word / 2 ^ 52 - 1, ?_, by omega, Or.inl (by omega)⟩
    omega

/-- Words count the numbers in their order. -/
theorem wordValue_strictMono : StrictMono wordValue := by
  intro word other h
  obtain ⟨m, k, rfl, hm, hk⟩ := exists_word_eq word
  obtain ⟨n, l, rfl, hn, hl⟩ := exists_word_eq other
  rw [wordValue_eq hm hk, wordValue_eq hn hl]
  rcases Nat.lt_trichotomy k l with hlt | rfl | hgt
  · have hn' : 2 ^ 52 ≤ n := hl.resolve_right (by omega)
    obtain ⟨d, rfl⟩ := Nat.exists_eq_add_of_lt hlt
    calc m * 2 ^ k < 2 ^ 53 * 2 ^ k := Nat.mul_lt_mul_of_pos_right hm (Nat.two_pow_pos k)
      _ = 2 ^ 52 * 2 ^ (k + 1) := by ring
      _ ≤ n * 2 ^ (k + d + 1) :=
        Nat.mul_le_mul hn' (Nat.pow_le_pow_right two_pos (by omega))
  · exact Nat.mul_lt_mul_of_pos_right (by omega) (Nat.two_pow_pos k)
  · exfalso
    have hm' : 2 ^ 52 ≤ m := hk.resolve_right (by omega)
    have hmul : (l + 1) * 2 ^ 52 ≤ k * 2 ^ 52 := Nat.mul_le_mul_right _ hgt
    omega

theorem wordValue_mono {word other : ℕ} (h : word ≤ other) : wordValue word ≤ wordValue other :=
  wordValue_strictMono.monotone h

section Unpacking

variable {bits : UInt64}

theorem sign_of_word (finite : bits.toNat < infinityWord) :
    Sign.ofBitVec (@unpackSign Format.binary64 bits.toBitVec) = .positive := by
  have h : @unpackSign Format.binary64 bits.toBitVec = 0#1 := by
    apply BitVec.eq_of_toNat_eq
    unfold infinityWord at finite
    simp [unpackSign, BitVec.extractLsb_toNat, Nat.shiftRight_eq_div_pow]
    omega
  rw [h]
  rfl

theorem toNat_unpackExponent (bits : UInt64) :
    (@unpackExponent Format.binary64 bits.toBitVec).toNat = bits.toNat / 2 ^ 52 % 2 ^ 11 := by
  simp [unpackExponent, BitVec.extractLsb_toNat, Nat.shiftRight_eq_div_pow]

theorem toNat_unpackMantissa (bits : UInt64) :
    (@unpackMantissa Format.binary64 bits.toBitVec).toNat = bits.toNat % 2 ^ 52 := by
  simp [unpackMantissa, BitVec.extractLsb_toNat]

theorem unpack_of_zero {v : Float.Model} (h : v.toBits.toNat = 0) : v.unpack = .zero .positive := by
  obtain ⟨bits, valid⟩ := v
  obtain rfl : bits = 0 := UInt64.toNat_inj.mp h
  change (Float.Model.pack (.zero .positive)).unpack = _
  rfl

theorem unpack_of_infinity {v : Float.Model} (h : v.toBits.toNat = infinityWord) :
    v.unpack = .infinity .positive := by
  obtain ⟨bits, valid⟩ := v
  obtain rfl : bits = 0x7FF0000000000000 := UInt64.toNat_inj.mp h
  change (Float.Model.pack (.infinity .positive)).unpack = _
  rfl

/-- The mantissa and exponent behind bits that are neither zero nor infinity but for their sign. -/
theorem exists_unpack_of_bits {v : Float.Model} (pos : 0 < v.toBits.toNat % 2 ^ 63)
    (finite : v.toBits.toNat % 2 ^ 63 < infinityWord) :
    ∃ m k : ℕ, ∃ h : 0 < m,
      v.unpack = .finite (Sign.ofBitVec (@unpackSign Format.binary64 v.toBits.toBitVec)) m
        ((k : ℤ) - 1074) h ∧
      m < 2 ^ 53 ∧ (2 ^ 52 ≤ m ∨ k = 0) ∧ v.toBits.toNat % 2 ^ 63 = k * 2 ^ 52 + m := by
  obtain ⟨bits, valid⟩ := v
  dsimp only at pos finite ⊢
  have hexponent := toNat_unpackExponent bits
  have hmantissa := toNat_unpackMantissa bits
  simp only [Float.Model.unpack, Float.Model.UnpackedFloat.unpack]
  have hfinite : @unpackExponent Format.binary64 bits.toBitVec ≠ -1#_ := by
    intro h
    have hall : (@unpackExponent Format.binary64 bits.toBitVec).toNat = 2047 := by
      rw [h]
      decide
    unfold infinityWord at finite
    omega
  rw [if_neg hfinite]
  split
  case isTrue hzero =>
    have hsmall : (@unpackExponent Format.binary64 bits.toBitVec).toNat = 0 := by
      rw [hzero]
      rfl
    split
    case isTrue hempty =>
      have hnone : bits.toNat % 2 ^ 52 = 0 := by
        rw [← hmantissa, hempty]
        rfl
      omega
    case isFalse hne =>
      refine ⟨(@unpackMantissa Format.binary64 bits.toBitVec).toNat, 0, by omega, ?_, by omega,
        Or.inr rfl, by omega⟩
      simp only [hsmall, Format.exponentBias]
      congr 1
  case isFalse hne =>
    have hlarge : (@unpackExponent Format.binary64 bits.toBitVec).toNat ≠ 0 := fun h =>
      hne (BitVec.eq_of_toNat_eq h)
    have hnormal : (1#1 ++ @unpackMantissa Format.binary64 bits.toBitVec).toNat =
        bits.toNat % 2 ^ 52 + 2 ^ 52 := by
      rw [BitVec.toNat_append, ← Nat.shiftLeft_add_eq_or_of_lt (BitVec.isLt _), hmantissa]
      simp [Nat.shiftLeft_eq]
      omega
    refine ⟨(1#1 ++ @unpackMantissa Format.binary64 bits.toBitVec).toNat,
      (@unpackExponent Format.binary64 bits.toBitVec).toNat - 1, by omega, ?_, by omega,
      Or.inl (by omega), by omega⟩
    congr 1
    simp only [Format.exponentBias]
    omega

/-- The mantissa and exponent behind a word that is neither zero nor infinity. -/
theorem exists_unpack_of_word {v : Float.Model} (pos : 0 < v.toBits.toNat)
    (finite : v.toBits.toNat < infinityWord) :
    ∃ m k : ℕ, ∃ h : 0 < m, v.unpack = .finite .positive m ((k : ℤ) - 1074) h ∧ m < 2 ^ 53 ∧
      (2 ^ 52 ≤ m ∨ k = 0) ∧ v.toBits.toNat = k * 2 ^ 52 + m := by
  have hword : v.toBits.toNat % 2 ^ 63 = v.toBits.toNat :=
    Nat.mod_eq_of_lt (finite.trans (by decide))
  have h := exists_unpack_of_bits (hword.symm ▸ pos) (hword.symm ▸ finite)
  rwa [sign_of_word finite, hword] at h

/-- The number behind a word that is neither zero nor infinity. -/
theorem unpack_of_word {v : Float.Model} (pos : 0 < v.toBits.toNat)
    (finite : v.toBits.toNat < infinityWord) :
    ∃ m e, ∃ h : 0 < m, v.unpack = .finite .positive m e h ∧
      (m : ℚ) * 2 ^ (e + 1074) = wordValue v.toBits.toNat := by
  obtain ⟨m, k, hm, hunpack, fits, least, hword⟩ := exists_unpack_of_word pos finite
  refine ⟨m, (k : ℤ) - 1074, hm, hunpack, ?_⟩
  rw [hword, wordValue_eq fits least, sub_add_cancel, zpow_natCast]
  push_cast
  rfl

/-- The opposite of a positive number differs from it in the sign alone. -/
theorem toBits_neg_of_word {v : Float.Model} (pos : 0 < v.toBits.toNat)
    (finite : v.toBits.toNat < infinityWord) :
    (-v).toBits.toNat = 2 ^ 63 + v.toBits.toNat := by
  obtain ⟨m, k, hm, hunpack, fits, least, hword⟩ := exists_unpack_of_word pos finite
  change (Float.Model.pack v.unpack.neg).toBits.toNat = _
  rw [hunpack]
  change (Float.Model.pack (.finite .negative m ((k : ℤ) - 1074) hm)).toBits.toNat = _
  rw [toBits_pack_signed .negative hm fits least, ← hword, min_eq_left finite.le,
    show Sign.negative.toBitVec.toNat = 1 from rfl, Nat.one_mul]

/-- The opposite of a finite number is as large as it. -/
theorem magnitude_neg {x : Float} (finite : isFinite x = true) : magnitude (-x) = magnitude x := by
  rw [isFinite, decide_eq_true_iff] at finite
  rcases Nat.eq_zero_or_pos (magnitude x) with hzero | pos
  · obtain ⟨bits, valid⟩ := x
    rw [magnitude, Nat.pow_eq] at hzero
    have hbits : bits = 0 ∨ bits = 0x8000000000000000 := by
      have hlt := bits.toNat_lt
      have hnat : bits.toNat = 0 ∨ bits.toNat = 2 ^ 63 := by
        change bits.toNat % 2 ^ 63 = 0 at hzero
        omega
      exact hnat.imp UInt64.toNat_inj.mp fun h => UInt64.toNat_inj.mp (h.trans (by decide))
    rcases hbits with rfl | rfl
    · change magnitude (-(.ofModel (.pack (.zero .positive)))) =
        magnitude (.ofModel (.pack (.zero .positive)))
      decide
    · change magnitude (-(.ofModel (.pack (.zero .negative)))) =
        magnitude (.ofModel (.pack (.zero .negative)))
      decide
  · obtain ⟨m, k, hm, hunpack, fits, least, hword⟩ := exists_unpack_of_bits (v := x.toModel) pos finite
    change (Float.Model.pack x.toModel.unpack.neg).toBits.toNat % 2 ^ 63 =
      x.toModel.toBits.toNat % 2 ^ 63
    have hle : x.toModel.toBits.toNat % 2 ^ 63 ≤ infinityWord := le_of_lt finite
    rw [hunpack, neg, toBits_pack_signed _ hm fits least, ← hword, min_eq_left hle]
    rw [Nat.add_mod, Nat.mul_mod_left, Nat.zero_add, Nat.mod_mod, Nat.mod_mod]

theorem isFinite_neg {x : Float} (finite : isFinite x = true) : isFinite (-x) = true := by
  rw [isFinite, magnitude_neg finite]
  exact finite

end Unpacking

end TableTalk.Decimal
