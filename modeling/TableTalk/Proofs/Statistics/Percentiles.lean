import Mathlib.Data.List.MinMax
import Mathlib.Data.Rat.Floor
import Mathlib.Tactic.FieldSimp
import Mathlib.Tactic.Linarith
import TableTalk.Proofs.Sorting
import TableTalk.Statistics.Summary

/-!
# Percentiles of exact numbers

In exact arithmetic a percentile is the number at a rank of the ascending list: an entry at
a whole rank, and on the line between two neighbours at any other. The number grows with the
rank. So percentiles rise from the least number to the greatest one, the quartiles are in
order, and none of the numbers between them is an outlier. The median stands at half of the
last rank.
-/

namespace TableTalk

namespace Quantity

theorem ofNat_rat (n : ℕ) : (Quantity.ofNat n : ℚ) = n := rfl

theorem isLess_rat (x y : ℚ) : Quantity.isLess x y = decide (x < y) := rfl

theorem isAtMost_rat (x y : ℚ) : Quantity.isAtMost x y = decide (x ≤ y) := rfl

theorem floor_rat (x : ℚ) : Quantity.floor x = ⌊x⌋₊ := rfl

theorem ceil_rat (x : ℚ) : Quantity.ceil x = ⌈x⌉₊ := by
  have hceil : x.ceil = ⌈x⌉ := Rat.ceil_eq_neg_floor_neg x
  rw [← Int.ceil_toNat, ← hceil]
  rfl

end Quantity

namespace Statistics

variable {values others ordered : List ℚ} {p q rank other x y : ℚ}

theorem sorted_perm (values : List ℚ) : (sorted values).Perm values :=
  Listing.sort_perm _ values

theorem length_sorted (values : List ℚ) : (sorted values).length = values.length :=
  (sorted_perm values).length_eq

theorem pairwise_sorted (values : List ℚ) : (sorted values).Pairwise (· ≤ ·) := by
  have hprecedes : (Quantity.precedes : ℚ → ℚ → Bool) = fun x y => compare x y == .lt := by
    funext x y
    rw [Bool.eq_iff_iff, beq_iff_eq, compare_lt_iff_lt]
    exact decide_eq_true_iff
  rw [sorted, hprecedes]
  refine (Listing.pairwise_sort (List.pairwise_of_forall fun _ _ => trivial)).imp fun h => ?_
  exact compare_le_iff_le.mp (Ordering.isLE_iff_ne_gt.mp h.isLE)

theorem sorted_eq_of_perm (perm : others.Perm values) : sorted others = sorted values :=
  List.Perm.eq_of_pairwise (fun _ _ _ _ => le_antisymm) (pairwise_sorted others)
    (pairwise_sorted values) ((sorted_perm others).trans (perm.trans (sorted_perm values).symm))

section Ranks

/-- A number stands at a rank of a list: between the entries at the whole ranks around it, in the
proportion of the distances of the ranks. -/
def IsAtRank (ordered : List ℚ) (rank x : ℚ) : Prop :=
  0 ≤ rank ∧ ∃ low high, ordered[⌊rank⌋₊]? = some low ∧ ordered[⌈rank⌉₊]? = some high ∧
    x = low + (high - low) * (rank - ⌊rank⌋₊)

theorem isAtRank_natCast {i : ℕ} : IsAtRank ordered i x ↔ ordered[i]? = some x := by
  constructor
  · rintro ⟨-, low, high, hlow, -, rfl⟩
    rw [Nat.floor_natCast] at hlow ⊢
    rw [sub_self, mul_zero, add_zero, hlow]
  · intro h
    refine ⟨Nat.cast_nonneg i, x, x, ?_, ?_, by ring⟩
    · rw [Nat.floor_natCast, h]
    · rw [Nat.ceil_natCast, h]

theorem exists_isAtRank (nonneg : 0 ≤ rank) (within : ⌈rank⌉₊ < ordered.length) :
    ∃ x, IsAtRank ordered rank x :=
  ⟨_, nonneg, _, _, List.getElem?_eq_getElem ((Nat.floor_le_ceil rank).trans_lt within),
    List.getElem?_eq_getElem within, rfl⟩

theorem le_of_places (ascending : ordered.Pairwise (· ≤ ·)) {i j : ℕ} (hx : ordered[i]? = some x)
    (hy : ordered[j]? = some y) (h : i ≤ j) : x ≤ y := by
  obtain ⟨hi, rfl⟩ := List.getElem?_eq_some_iff.mp hx
  obtain ⟨hj, rfl⟩ := List.getElem?_eq_some_iff.mp hy
  rcases h.eq_or_lt with rfl | hlt
  · exact le_rfl
  · exact List.pairwise_iff_getElem.mp ascending i j hi hj hlt

theorem IsAtRank.bounds (ascending : ordered.Pairwise (· ≤ ·)) (hx : IsAtRank ordered rank x) :
    (∀ low, ordered[⌊rank⌋₊]? = some low → low ≤ x) ∧
      ∀ high, ordered[⌈rank⌉₊]? = some high → x ≤ high := by
  obtain ⟨nonneg, low, high, hlow, hhigh, rfl⟩ := hx
  have hstep : 0 ≤ high - low :=
    sub_nonneg.mpr (le_of_places ascending hlow hhigh (Nat.floor_le_ceil rank))
  have hpart : 0 ≤ rank - ⌊rank⌋₊ := sub_nonneg.mpr (Nat.floor_le nonneg)
  have hlt : rank - ⌊rank⌋₊ ≤ 1 := sub_le_iff_le_add'.mpr (Nat.lt_floor_add_one rank).le
  constructor
  · intro other h
    obtain rfl := Option.some.inj (hlow.symm.trans h)
    exact le_add_of_nonneg_right (mul_nonneg hstep hpart)
  · intro other h
    obtain rfl := Option.some.inj (hhigh.symm.trans h)
    linarith only [mul_le_of_le_one_right hstep hlt]

/-- Two ranks without a whole one from the first to the second have the same neighbours. -/
theorem same_neighbours (h : p ≤ q) (within : ⌊q⌋₊ < ⌈p⌉₊) : ⌊p⌋₊ = ⌊q⌋₊ ∧ ⌈p⌉₊ = ⌈q⌉₊ := by
  have hfloor := Nat.floor_mono h
  have hceil := Nat.ceil_mono h
  have hp := Nat.ceil_le_floor_add_one p
  have hq := Nat.ceil_le_floor_add_one q
  omega

/-- The number at a rank does not fall when the rank grows. -/
theorem IsAtRank.mono (ascending : ordered.Pairwise (· ≤ ·)) (hx : IsAtRank ordered p x)
    (hy : IsAtRank ordered q y) (h : p ≤ q) : x ≤ y := by
  have hupper := (hx.bounds ascending).2
  have hlower := (hy.bounds ascending).1
  obtain ⟨-, low, high, hlow, hhigh, rfl⟩ := hx
  obtain ⟨-, low', high', hlow', hhigh', rfl⟩ := hy
  rcases le_or_gt ⌈p⌉₊ ⌊q⌋₊ with happart | hwithin
  · calc low + (high - low) * (p - ⌊p⌋₊)
      _ ≤ high := hupper high hhigh
      _ ≤ low' := le_of_places ascending hhigh hlow' happart
      _ ≤ low' + (high' - low') * (q - ⌊q⌋₊) := hlower low' hlow'
  · -- both numbers stand on the line between the same two entries
    obtain ⟨hfloor, hceil⟩ := same_neighbours h hwithin
    rw [hfloor] at hlow ⊢
    rw [hceil] at hhigh
    obtain rfl := Option.some.inj (hlow.symm.trans hlow')
    obtain rfl := Option.some.inj (hhigh.symm.trans hhigh')
    have hstep : low ≤ high := le_of_places ascending hlow hhigh (Nat.floor_le_ceil q)
    gcongr

end Ranks

section Percentiles

/-- The rank of a percentage among the places of a list. -/
def rankOf (count : ℕ) (p : ℚ) : ℚ := p / 100 * (count - 1 : ℕ)

theorem rankOf_mono (count : ℕ) (h : p ≤ q) : rankOf count p ≤ rankOf count q := by
  unfold rankOf
  gcongr

theorem rankOf_nonneg (count : ℕ) (h : 0 ≤ p) : 0 ≤ rankOf count p := by
  unfold rankOf
  positivity

theorem rankOf_zero (count : ℕ) : rankOf count 0 = (0 : ℕ) := by
  rw [rankOf, zero_div, zero_mul, Nat.cast_zero]

theorem rankOf_hundred (count : ℕ) : rankOf count 100 = (count - 1 : ℕ) := by
  rw [rankOf, div_self (by norm_num), one_mul]

theorem percentile_eq_none (h : ¬ (values ≠ [] ∧ 0 ≤ p ∧ p ≤ 100)) :
    percentile values p = none := by
  rw [percentile, if_pos]
  simp only [Quantity.isAtMost_rat, Quantity.ofNat_rat, Bool.or_eq_true, List.isEmpty_iff,
    Bool.not_eq_true', decide_eq_false_iff_not]
  grind

theorem percentile_of_isAtRank (least : 0 ≤ p) (greatest : p ≤ 100)
    (h : IsAtRank (sorted values) (rankOf values.length p) x) : percentile values p = some x := by
  obtain ⟨-, low, high, hlow, hhigh, rfl⟩ := h
  have hnonempty : values ≠ [] := by
    rintro rfl
    cases hlow
  have hguard : (values.isEmpty || !Quantity.isAtMost (Quantity.ofNat 0) p ||
      !Quantity.isAtMost p (Quantity.ofNat 100)) = false := by
    simp [Quantity.isAtMost_rat, Quantity.ofNat_rat, hnonempty, least, greatest]
  have hrank : p / Quantity.ofNat 100 * Quantity.ofNat ((sorted values).length - 1) =
      rankOf values.length p := by
    rw [length_sorted]
    rfl
  rw [percentile, hguard, if_neg Bool.false_ne_true]
  simp only [hrank, Quantity.floor_rat, Quantity.ceil_rat, hlow, hhigh]
  split
  case isTrue hwhole =>
    rw [← hwhole] at hhigh
    obtain rfl := Option.some.inj (hlow.symm.trans hhigh)
    rw [sub_self, zero_mul, add_zero]
  case isFalse => rfl

theorem exists_percentile (nonempty : values ≠ []) (least : 0 ≤ p) (greatest : p ≤ 100) :
    ∃ x, percentile values p = some x ∧ IsAtRank (sorted values) (rankOf values.length p) x := by
  have hle : ⌈rankOf values.length p⌉₊ ≤ values.length - 1 := by
    rw [Nat.ceil_le, ← rankOf_hundred]
    exact rankOf_mono _ greatest
  have hwithin : ⌈rankOf values.length p⌉₊ < (sorted values).length := by
    rw [length_sorted]
    have hpos := List.length_pos_iff.mpr nonempty
    omega
  obtain ⟨x, hx⟩ := exists_isAtRank (rankOf_nonneg _ least) hwithin
  exact ⟨x, percentile_of_isAtRank least greatest hx, hx⟩

theorem percentile_eq_some_iff : percentile values p = some x ↔
    0 ≤ p ∧ p ≤ 100 ∧ IsAtRank (sorted values) (rankOf values.length p) x := by
  constructor
  · intro h
    by_cases hwithin : values ≠ [] ∧ 0 ≤ p ∧ p ≤ 100
    · obtain ⟨hnonempty, hleast, hgreatest⟩ := hwithin
      obtain ⟨y, hy, hrank⟩ := exists_percentile hnonempty hleast hgreatest
      obtain rfl := Option.some.inj (h.symm.trans hy)
      exact ⟨hleast, hgreatest, hrank⟩
    · rw [percentile_eq_none hwithin] at h
      cases h
  · rintro ⟨hleast, hgreatest, hrank⟩
    exact percentile_of_isAtRank hleast hgreatest hrank

theorem percentile_mono (h : p ≤ q) (hx : percentile values p = some x)
    (hy : percentile values q = some y) : x ≤ y :=
  (percentile_eq_some_iff.mp hx).2.2.mono (pairwise_sorted values)
    (percentile_eq_some_iff.mp hy).2.2 (rankOf_mono _ h)

theorem percentile_perm (perm : others.Perm values) (p : ℚ) :
    percentile others p = percentile values p := by
  ext x
  simp only [percentile_eq_some_iff, sorted_eq_of_perm perm, perm.length_eq]

end Percentiles

section Extremes

theorem least_eq_min? (values : List ℚ) : least values = values.min? := by
  cases values with
  | nil => rfl
  | cons x xs =>
    have hlesser : (lesser : ℚ → ℚ → ℚ) = min := by
      funext x y
      simp only [lesser, Quantity.isLess_rat, Quantity.isAtMost_rat]
      grind
    rw [least, hlesser, List.min?_cons']

theorem greatest_eq_max? (values : List ℚ) : greatest values = values.max? := by
  cases values with
  | nil => rfl
  | cons x xs =>
    have hgreater : (greater : ℚ → ℚ → ℚ) = max := by
      funext x y
      simp only [greater, Quantity.isLess_rat, Quantity.isAtMost_rat]
      grind
    rw [greatest, hgreater, List.max?_cons']

theorem least_eq_some_iff : least values = some x ↔ IsLeast {v | v ∈ values} x := by
  rw [least_eq_min?, List.min?_eq_some_iff]
  rfl

theorem greatest_eq_some_iff : greatest values = some x ↔ IsGreatest {v | v ∈ values} x := by
  rw [greatest_eq_max?, List.max?_eq_some_iff]
  rfl

theorem isLeast_of_percentile (h : percentile values 0 = some x) :
    IsLeast {v | v ∈ values} x := by
  obtain ⟨-, -, hrank⟩ := percentile_eq_some_iff.mp h
  rw [rankOf_zero, isAtRank_natCast] at hrank
  refine ⟨(sorted_perm values).subset (List.mem_of_getElem? hrank), fun v hv => ?_⟩
  obtain ⟨i, hi⟩ := List.getElem?_of_mem ((sorted_perm values).symm.subset hv)
  exact le_of_places (pairwise_sorted values) hrank hi (Nat.zero_le i)

theorem isGreatest_of_percentile (h : percentile values 100 = some x) :
    IsGreatest {v | v ∈ values} x := by
  obtain ⟨-, -, hrank⟩ := percentile_eq_some_iff.mp h
  rw [rankOf_hundred, isAtRank_natCast] at hrank
  refine ⟨(sorted_perm values).subset (List.mem_of_getElem? hrank), fun v hv => ?_⟩
  obtain ⟨i, hi⟩ := List.getElem?_of_mem ((sorted_perm values).symm.subset hv)
  refine le_of_places (pairwise_sorted values) hi hrank (Nat.le_sub_one_of_lt ?_)
  rw [← length_sorted]
  exact (List.getElem?_eq_some_iff.mp hi).1

end Extremes

section Middle

theorem isAtRank_half {i : ℕ} {low high : ℚ} (hlow : ordered[i]? = some low)
    (hhigh : ordered[i + 1]? = some high) :
    IsAtRank ordered (i + 1 / 2) ((low + high) / 2) := by
  have hnonneg : (0 : ℚ) ≤ i + 1 / 2 := by positivity
  have hfloor : ⌊(i + 1 / 2 : ℚ)⌋₊ = i := by
    rw [Nat.floor_eq_iff hnonneg]
    constructor <;> linarith
  have hceil : ⌈(i + 1 / 2 : ℚ)⌉₊ = i + 1 := by
    rw [Nat.ceil_eq_iff i.succ_ne_zero, Nat.succ_sub_one, Nat.cast_succ]
    constructor <;> linarith
  refine ⟨hnonneg, low, high, ?_, ?_, ?_⟩
  · rw [hfloor, hlow]
  · rw [hceil, hhigh]
  · rw [hfloor]
    ring

/-- The median of an even number of numbers is the middle of two ranks, that of an odd number the
entry at a whole one. -/
theorem percentile_fifty (values : List ℚ) : percentile values 50 = median values := by
  by_cases hempty : values = []
  · subst hempty
    rfl
  have hlength := length_sorted values
  have hpos : 0 < values.length := List.length_pos_iff.mpr hempty
  have hisEmpty : values.isEmpty = false := List.isEmpty_eq_false_iff.mpr hempty
  rw [median, hisEmpty, if_neg Bool.false_ne_true]
  obtain ⟨i, heven | hodd⟩ := Nat.even_or_odd' values.length
  case inl =>
    obtain ⟨k, rfl⟩ : ∃ k, i = k + 1 := ⟨i - 1, by omega⟩
    have hlow := List.getElem?_eq_getElem (l := sorted values) (i := k) (by omega)
    have hhigh := List.getElem?_eq_getElem (l := sorted values) (i := k + 1) (by omega)
    have hmiddle : (sorted values).length / 2 = k + 1 := by omega
    have hrank : rankOf values.length 50 = k + 1 / 2 := by
      rw [rankOf, heven, show 2 * (k + 1) - 1 = 2 * k + 1 by omega]
      push_cast
      ring
    rw [if_pos (by omega), hmiddle, Nat.add_sub_cancel, hlow, hhigh]
    refine percentile_of_isAtRank (by norm_num) (by norm_num) ?_
    rw [hrank]
    exact isAtRank_half hlow hhigh
  case inr =>
    have hentry := List.getElem?_eq_getElem (l := sorted values) (i := i) (by omega)
    have hmiddle : (sorted values).length / 2 = i := by omega
    have hrank : rankOf values.length 50 = i := by
      rw [rankOf, hodd, Nat.add_sub_cancel]
      push_cast
      ring
    rw [if_neg (by omega), hmiddle, hentry]
    refine percentile_of_isAtRank (by norm_num) (by norm_num) ?_
    rw [hrank, isAtRank_natCast, hentry]

end Middle

section Quartiles

variable {quarters : Quartiles ℚ} {multiplier : ℚ}

theorem exists_quartiles (nonempty : values ≠ []) : ∃ quarters : Quartiles ℚ,
    quartiles values = some quarters ∧ quarters.q1 ≤ quarters.q2 ∧ quarters.q2 ≤ quarters.q3 ∧
      quarters.iqr = quarters.q3 - quarters.q1 := by
  obtain ⟨q1, hq1, -⟩ := exists_percentile (p := 25) nonempty (by norm_num) (by norm_num)
  obtain ⟨q2, hq2, -⟩ := exists_percentile (p := 50) nonempty (by norm_num) (by norm_num)
  obtain ⟨q3, hq3, -⟩ := exists_percentile (p := 75) nonempty (by norm_num) (by norm_num)
  refine ⟨⟨q1, q2, q3, q3 - q1⟩, ?_, ?_, ?_, rfl⟩
  · simp only [quartiles, Quantity.ofNat_rat, Nat.cast_ofNat, hq1, hq2, hq3]
    rfl
  · exact percentile_mono (by norm_num) hq1 hq2
  · exact percentile_mono (by norm_num) hq2 hq3

/-- What is found are the numbers beyond the bounds, with their places. -/
theorem exists_outliers (h : quartiles values = some quarters) (multiplier : ℚ) :
    ∃ report, outliers values multiplier = some report ∧ ∀ i v, (i, v) ∈ report.found ↔
      values[i]? = some v ∧ (v < quarters.q1 - multiplier * quarters.iqr ∨
        quarters.q3 + multiplier * quarters.iqr < v) := by
  refine ⟨_, by rw [outliers, h, Option.map_some], fun i v => ?_⟩
  simp only [List.mem_map, List.mem_filter, Prod.exists, Prod.mk.injEq, Quantity.isLess_rat,
    Bool.or_eq_true, decide_eq_true_eq, List.mem_zipIdx_iff_getElem?]
  constructor
  · rintro ⟨w, j, ⟨hplace, hbeyond⟩, rfl, rfl⟩
    exact ⟨hplace, hbeyond⟩
  · rintro ⟨hplace, hbeyond⟩
    exact ⟨v, i, ⟨hplace, hbeyond⟩, rfl, rfl⟩

end Quartiles

/-- Percentiles of exact numbers are numbers at ranks of the ascending list. There is one for every
percentage from zero to a hundred: at the least number, at the greatest one and at the median for
zero, a hundred and fifty, never less for a greater percentage, and whatever the order of the list.
So the quartiles are in order, and what lies between the outer two is no outlier. -/
theorem percentiles_rise_between_extremes (values : List ℚ) (nonempty : values ≠ []) :
    (∀ p, 0 ≤ p → p ≤ 100 → ∃ x, percentile values p = some x ∧
      IsAtRank (sorted values) (rankOf values.length p) x) ∧
    (∀ p q x y, p ≤ q → percentile values p = some x → percentile values q = some y → x ≤ y) ∧
    (∀ others, others.Perm values → ∀ p, percentile others p = percentile values p) ∧
    (∃ low high, IsLeast {v | v ∈ values} low ∧ IsGreatest {v | v ∈ values} high ∧
      least values = some low ∧ greatest values = some high ∧
      percentile values 0 = some low ∧ percentile values 100 = some high ∧
      ∀ p x, percentile values p = some x → low ≤ x ∧ x ≤ high) ∧
    percentile values 50 = median values ∧
    ∃ quarters : Quartiles ℚ, quartiles values = some quarters ∧
      quarters.q1 ≤ quarters.q2 ∧ quarters.q2 ≤ quarters.q3 ∧ 0 ≤ quarters.iqr ∧
      ∀ multiplier, 0 ≤ multiplier → ∃ report, outliers values multiplier = some report ∧
        (∀ i v, (i, v) ∈ report.found ↔ values[i]? = some v ∧
          (v < quarters.q1 - multiplier * quarters.iqr ∨
            quarters.q3 + multiplier * quarters.iqr < v)) ∧
        ∀ i v, (i, v) ∈ report.found → ¬ (quarters.q1 ≤ v ∧ v ≤ quarters.q3) := by
  refine ⟨fun p => exists_percentile nonempty, fun p q x y => percentile_mono,
    fun others => percentile_perm, ?_, percentile_fifty values, ?_⟩
  · obtain ⟨low, hlow, -⟩ := exists_percentile (p := 0) nonempty (by norm_num) (by norm_num)
    obtain ⟨high, hhigh, -⟩ := exists_percentile (p := 100) nonempty (by norm_num) (by norm_num)
    have hleast := isLeast_of_percentile hlow
    have hgreatest := isGreatest_of_percentile hhigh
    refine ⟨low, high, hleast, hgreatest, least_eq_some_iff.mpr hleast,
      greatest_eq_some_iff.mpr hgreatest, hlow, hhigh, fun p x hx => ?_⟩
    obtain ⟨hp, hp', -⟩ := percentile_eq_some_iff.mp hx
    exact ⟨percentile_mono hp hlow hx, percentile_mono hp' hx hhigh⟩
  · obtain ⟨quarters, hquarters, hfirst, hlast, hiqr⟩ := exists_quartiles nonempty
    have hnonneg : 0 ≤ quarters.iqr := by
      rw [hiqr, sub_nonneg]
      exact hfirst.trans hlast
    refine ⟨quarters, hquarters, hfirst, hlast, hnonneg, fun multiplier hmultiplier => ?_⟩
    obtain ⟨report, hreport, hfound⟩ := exists_outliers hquarters multiplier
    refine ⟨report, hreport, hfound, fun i v h hbetween => ?_⟩
    have hmargin := mul_nonneg hmultiplier hnonneg
    rcases ((hfound i v).mp h).2 with hbelow | habove
    · linarith only [hbelow, hbetween.1, hmargin]
    · linarith only [habove, hbetween.2, hmargin]

/-- A number far beyond the upper quartile, in a list of even length. -/
theorem four_numbers_with_outlier :
    let values : List ℚ := [40, 10, 400, 20]
    values ≠ [] ∧ percentile values 25 = some (35 / 2) ∧ percentile values 50 = some 30 ∧
    percentile values 50 = median values ∧
    ∃ quarters report, quartiles values = some quarters ∧
      outliers values (3 / 2) = some report ∧ report.found = [(2, 400)] ∧
      ¬ (quarters.q1 ≤ 400 ∧ 400 ≤ quarters.q3) := by
  intro values
  have nonempty : values ≠ [] := List.cons_ne_nil 40 [10, 400, 20]
  obtain ⟨-, -, -, -, hmedian, quarters, hquarters, -, -, -, hall⟩ :=
    percentiles_rise_between_extremes values nonempty
  obtain ⟨report, hreport, -, hbetween⟩ := hall (3 / 2) (by norm_num)
  have hfound : (outliers values (3 / 2)).map Outliers.found = some [(2, 400)] := by
    decide +kernel
  rw [hreport, Option.map_some, Option.some.injEq] at hfound
  refine ⟨nonempty, by decide +kernel, by decide +kernel, hmedian, quarters, report, hquarters,
    hreport, hfound, hbetween 2 400 ?_⟩
  rw [hfound]
  exact List.mem_singleton.mpr rfl

end Statistics

end TableTalk
