import TableTalk.Proofs.Decimal.Exact
import TableTalk.Proofs.Values

/-!
# Numbers in the order of their magnitude

Two finite numbers are compared through the binary64 numbers nearest to them. This is
the order of the exact numbers with two exceptions. Whole numbers beyond 53 bits may
share their nearest number with another number, and the two then tie. Negative zero
comes before every other zero, although they are the same number.
-/

namespace TableTalk.Value

/-- The exact number that a value is, and zero for a value that is no finite number. -/
def amount : Value → ℚ
  | integer i => i.toInt
  | float x => Decimal.exact x
  | _ => 0

/-- Whether the value is the zero with a minus sign. -/
def isNegativeZero : Value → Bool
  | float x => Decimal.isNegative x && Decimal.magnitude x == 0
  | _ => false

/-- Two different numbers have one nearest number. -/
def Merged (a b : Value) : Prop :=
  a.amount ≠ b.amount ∧ a.number? = b.number?

instance (a b : Value) : Decidable (Merged a b) :=
  inferInstanceAs (Decidable (_ ∧ _))

/-- One of two zeros has a minus sign. -/
def SplitZeros (a b : Value) : Prop :=
  a.amount = 0 ∧ b.amount = 0 ∧ a.isNegativeZero ≠ b.isNegativeZero

variable {a b : Value} {x y : Float}

theorem compare_of_number? (ha : a.number? = some x) (hb : b.number? = some y) :
    compare a b = Ord.compare (Decimal.totalKey x) (Decimal.totalKey y) := by
  have hmixed : compare a b = compareMixed a b := by
    cases a <;> cases b <;> first | rfl | simp [number?] at ha hb
  rw [hmixed, compareMixed, ha, hb]

/-- A finite number is a whole number that is rounded, or a binary64 number. -/
theorem cases_of_number? (ha : a.number? = some x) :
    (∃ i : Int64, a = integer i ∧ x = Float.ofInt i.toInt) ∨
      a = float x ∧ Decimal.isFinite x = true := by
  cases a with
  | integer i => exact Or.inl ⟨i, rfl, (Option.some.inj ha).symm⟩
  | float z =>
    rw [number?] at ha
    split at ha
    case isTrue hfinite =>
      obtain rfl := Option.some.inj ha
      exact Or.inr ⟨rfl, hfinite⟩
    case isFalse => cases ha
  | _ => cases ha

theorem natAbs_toInt_le (i : Int64) : i.toInt.natAbs ≤ 2 ^ 63 := by
  have hle := i.le_toInt
  have hlt := i.toInt_lt
  omega

theorem isNearest_amount (ha : a.number? = some x) : Decimal.IsNearest a.amount x := by
  rcases cases_of_number? ha with ⟨i, rfl, rfl⟩ | ⟨rfl, finite⟩
  · exact Decimal.isNearest_ofInt (natAbs_toInt_le i)
  · exact Decimal.isNearest_exact finite

theorem amount_eq_exact (ha : a.number? = some x)
    (small : ∀ i, a = integer i → i.toInt.natAbs ≤ 2 ^ 53) : a.amount = Decimal.exact x := by
  rcases cases_of_number? ha with ⟨i, rfl, rfl⟩ | ⟨rfl, -⟩
  · exact (Decimal.exact_ofInt (small i rfl)).symm
  · rfl

theorem exists_large_of_merged (ha : a.number? = some x) (merged : Merged a b) :
    ∃ i : Int64, (a = integer i ∨ b = integer i) ∧ 2 ^ 53 < i.toInt.natAbs := by
  by_contra hsmall
  push Not at hsmall
  refine merged.1 ?_
  rw [amount_eq_exact ha fun i hi => hsmall i (Or.inl hi),
    amount_eq_exact (merged.2 ▸ ha) fun i hi => hsmall i (Or.inr hi)]

/-- A zero is told apart from other zeros by its sign alone. -/
theorem totalKey_of_amount_eq_zero (ha : a.number? = some x) (hzero : a.amount = 0) :
    Decimal.totalKey x = if a.isNegativeZero then -1 else 0 := by
  have hnearest := isNearest_amount ha
  rw [hzero] at hnearest
  have hmagnitude : Decimal.magnitude x = 0 :=
    hnearest.magnitude_eq (Decimal.isNearest_zero (x := 0.0) (by decide))
  have hsign : Decimal.isNegative x = a.isNegativeZero := by
    rcases cases_of_number? ha with ⟨i, rfl, rfl⟩ | ⟨rfl, -⟩
    · have hi : i.toInt = 0 := Int.cast_eq_zero.mp hzero
      rw [hi]
      rfl
    · rw [isNegativeZero, hmagnitude, beq_self_eq_true, Bool.and_true]
  rw [Decimal.totalKey, hmagnitude, hsign]
  rfl

theorem compare_of_splitZeros (ha : a.number? = some x) (hb : b.number? = some y)
    (split : SplitZeros a b) : compare a b = if a.isNegativeZero then .lt else .gt := by
  obtain ⟨hzeroA, hzeroB, hne⟩ := split
  rw [compare_of_number? ha hb, totalKey_of_amount_eq_zero ha hzeroA,
    totalKey_of_amount_eq_zero hb hzeroB]
  revert hne
  cases a.isNegativeZero <;> cases b.isNegativeZero <;> decide

/-- A number ties with itself, however it is given, unless it is a zero with two signs. -/
theorem tie_of_amount_eq (ha : a.number? = some x) (hb : b.number? = some y)
    (h : a.amount = b.amount) : compare a b = .eq ↔ ¬ SplitZeros a b := by
  constructor
  · intro htie split
    rw [compare_of_splitZeros ha hb split] at htie
    split at htie <;> cases htie
  · intro hsplit
    rw [compare_of_number? ha hb, Int.compare_eq_eq]
    by_cases hzero : a.amount = 0
    · have hsign : a.isNegativeZero = b.isNegativeZero := by
        by_contra hne
        exact hsplit ⟨hzero, h ▸ hzero, hne⟩
      rw [totalKey_of_amount_eq_zero ha hzero, totalKey_of_amount_eq_zero hb (h ▸ hzero), hsign]
    · have hnearest := isNearest_amount hb
      rw [← h] at hnearest
      rw [(isNearest_amount ha).eq_of_ne_zero hnearest hzero]

/-- Of two different numbers the smaller comes first, unless the two have one nearest number. -/
theorem lt_of_amount_lt (ha : a.number? = some x) (hb : b.number? = some y)
    (h : a.amount < b.amount) : compare a b = .lt ↔ ¬ Merged a b := by
  have hmerged : Merged a b ↔ x = y := by
    rw [Merged, ha, hb, Option.some_inj]
    exact and_iff_right h.ne
  have hle := (isNearest_amount ha).totalKey_le (isNearest_amount hb) h
  rw [compare_of_number? ha hb, Int.compare_eq_lt, hmerged]
  constructor
  · rintro hlt rfl
    exact hlt.false
  · intro hne
    have hkey : Decimal.totalKey x ≠ Decimal.totalKey y := fun he => hne (Decimal.eq_of_totalKey he)
    omega

/-- Finite numbers are compared by their exact magnitude, unless they are two numbers with one
nearest binary64 number, or two zeros of which one has a minus sign. Numbers of the first kind tie,
and one of them is a whole number beyond 53 bits. The zero with the minus sign comes first. -/
theorem compare_amounts_iff (ha : a.isNumeric = true) (hb : b.isNumeric = true) :
    (compare a b = cmp a.amount b.amount ↔ ¬ Merged a b ∧ ¬ SplitZeros a b) ∧
    (Merged a b → compare a b = .eq ∧
      ∃ i : Int64, (a = integer i ∨ b = integer i) ∧ 2 ^ 53 < i.toInt.natAbs) ∧
    (SplitZeros a b → compare a b = if a.isNegativeZero then .lt else .gt) := by
  obtain ⟨x, hx⟩ := Option.isSome_iff_exists.mp ha
  obtain ⟨y, hy⟩ := Option.isSome_iff_exists.mp hb
  refine ⟨?_, fun merged => ⟨?_, exists_large_of_merged hx merged⟩, compare_of_splitZeros hx hy⟩
  · rcases lt_trichotomy a.amount b.amount with hlt | heq | hgt
    · have hsplit : ¬ SplitZeros a b := fun h => hlt.ne (h.1.trans h.2.1.symm)
      rw [hlt.cmp_eq_lt, lt_of_amount_lt hx hy hlt]
      exact (and_iff_left hsplit).symm
    · have hmerged : ¬ Merged a b := fun h => h.1 heq
      rw [heq.cmp_eq_eq, tie_of_amount_eq hx hy heq]
      exact (and_iff_right hmerged).symm
    · have hsplit : ¬ SplitZeros a b := fun h => hgt.ne (h.2.1.trans h.1.symm)
      have hmerged : Merged b a ↔ Merged a b := and_congr ne_comm eq_comm
      rw [hgt.cmp_eq_gt, compare_swap b a, Ordering.swap_eq_gt, lt_of_amount_lt hy hx hgt,
        hmerged]
      exact (and_iff_left hsplit).symm
  · rw [compare_of_number? hx (merged.2 ▸ hx)]
    exact Std.ReflCmp.compare_self

/-- The whole number after the power of two of 53 bits ties with that power. -/
theorem large_numbers_merge :
    let a : Value := integer 9007199254740993
    let b : Value := float 9007199254740992.0
    a.isNumeric = true ∧ b.isNumeric = true ∧ Merged a b ∧ compare a b = .eq := by
  intro a b
  have ha : a.isNumeric = true := rfl
  have hb : b.isNumeric = true := by decide +kernel
  have hmerged : Merged a b := by decide +kernel
  exact ⟨ha, hb, hmerged, ((compare_amounts_iff ha hb).2.1 hmerged).1⟩

/-- Neither two whole numbers beyond 53 bits nor a zero with a minus sign and the whole number zero
are compared by magnitude. -/
theorem compare_misses_magnitudes :
    let a : Value := integer 9007199254740993
    let b : Value := integer 9007199254740992
    let zero : Value := float (-0.0)
    compare a b ≠ cmp a.amount b.amount ∧
      compare zero (integer 0) ≠ cmp zero.amount (integer 0).amount := by
  decide +kernel

end TableTalk.Value
