import TableTalk.Proofs.Magnitudes
import TableTalk.Proofs.Statistics.Percentiles
import TableTalk.Statistics.Slice

/-!
# Percent slices of exact numbers

The bound of a slice stands at a rank of the ascending numbers. At one end of the list, all
entries up to that rank are in the slice: their number is the whole part of the rank and
one more. If no number occurs twice, no other entry is in the slice.
-/

namespace TableTalk.Statistics

variable {numbers ordered taken left : List ℚ} {percent rank bound x y : ℚ} {side : Side}

section Ends

variable {i k : ℕ}

theorem lt_of_places (ascending : ordered.Pairwise (· < ·)) {i j : ℕ} (hx : ordered[i]? = some x)
    (hy : ordered[j]? = some y) (h : i < j) : x < y := by
  obtain ⟨hi, rfl⟩ := List.getElem?_eq_some_iff.mp hx
  obtain ⟨hj, rfl⟩ := List.getElem?_eq_some_iff.mp hy
  exact List.pairwise_iff_getElem.mp ascending i j hi hj h

/-- A number at a rank in front of a place is less than the entry there. -/
theorem IsAtRank.lt_entry (ascending : ordered.Pairwise (· < ·)) (hx : IsAtRank ordered rank x)
    (hy : ordered[i]? = some y) (h : rank < i) : x < y := by
  have hupper := (hx.bounds (ascending.imp le_of_lt)).2
  obtain ⟨nonneg, low, high, hlow, hhigh, rfl⟩ := hx
  rcases (Nat.ceil_le.mpr h.le).lt_or_eq with hlt | rfl
  · exact (hupper high hhigh).trans_lt (lt_of_places ascending hhigh hy hlt)
  · -- the entry is the next one, which is not reached
    obtain rfl := Option.some.inj (hhigh.symm.trans hy)
    have hstep : low < high := lt_of_places ascending hlow hhigh ((Nat.floor_lt nonneg).mpr h)
    have hpart : rank - ⌊rank⌋₊ < 1 := sub_lt_iff_lt_add'.mpr (Nat.lt_floor_add_one rank)
    have hless := mul_lt_of_lt_one_right (sub_pos.mpr hstep) hpart
    linarith only [hless]

/-- A number at a rank behind a place is greater than the entry there. -/
theorem IsAtRank.entry_lt (ascending : ordered.Pairwise (· < ·)) (hx : IsAtRank ordered rank x)
    (hy : ordered[i]? = some y) (h : (i : ℚ) < rank) : y < x := by
  have hlower := (hx.bounds (ascending.imp le_of_lt)).1
  obtain ⟨nonneg, low, high, hlow, hhigh, rfl⟩ := hx
  rcases (Nat.le_floor h.le).lt_or_eq with hlt | rfl
  · exact (lt_of_places ascending hy hlow hlt).trans_le (hlower low hlow)
  · -- the entry is the one before, which is left behind
    obtain rfl := Option.some.inj (hlow.symm.trans hy)
    have hstep : low < high := lt_of_places ascending hlow hhigh (Nat.lt_ceil.mpr h)
    exact lt_add_of_pos_right low (mul_pos (sub_pos.mpr hstep) (sub_pos.mpr h))

theorem exists_place_of_mem_take (h : x ∈ ordered.take k) : ∃ i < k, ordered[i]? = some x := by
  obtain ⟨i, hi, rfl⟩ := List.mem_take_iff_getElem.mp h
  exact ⟨i, by omega, List.getElem?_eq_getElem (by omega)⟩

theorem exists_place_of_mem_drop (h : x ∈ ordered.drop k) : ∃ i ≥ k, ordered[i]? = some x := by
  obtain ⟨i, hi, rfl⟩ := List.mem_drop_iff_getElem.mp h
  exact ⟨k + i, by omega, List.getElem?_eq_getElem (by omega)⟩

theorem countP_of_parts {p : ℚ → Bool} (perm : (taken ++ left).Perm numbers)
    (htaken : ∀ x ∈ taken, p x = true) (hleft : numbers.Nodup → ∀ x ∈ left, ¬ p x = true) :
    taken.length ≤ numbers.countP p ∧ (numbers.Nodup → numbers.countP p = taken.length) := by
  rw [← perm.countP_eq, List.countP_append, List.countP_eq_length.mpr htaken]
  refine ⟨Nat.le_add_right _ _, fun distinct => ?_⟩
  rw [List.countP_eq_zero.mpr (hleft distinct), Nat.add_zero]

end Ends

section Bounds

theorem pairwise_sorted_of_nodup (distinct : numbers.Nodup) :
    (sorted numbers).Pairwise (· < ·) :=
  List.Pairwise.imp₂ (fun _ _ hle hne => lt_of_le_of_ne hle hne) (pairwise_sorted numbers)
    ((sorted_perm numbers).nodup_iff.mpr distinct)

theorem rankOf_sub (count : ℕ) (p : ℚ) :
    rankOf count (100 - p) = (count - 1 : ℕ) - rankOf count p := by
  unfold rankOf
  ring

/-- How many of some numbers a slice holds at least, and exactly if they are distinct. -/
def sliceSize (count : ℕ) (percent : ℚ) : ℕ :=
  ⌊percent / 100 * (count - 1 : ℕ)⌋₊ + 1

theorem sliceSize_le (nonempty : numbers ≠ []) (greatest : percent ≤ 100) :
    sliceSize numbers.length percent ≤ numbers.length := by
  have hpos := List.length_pos_iff.mpr nonempty
  have hfloor : ⌊rankOf numbers.length percent⌋₊ ≤ numbers.length - 1 := by
    refine Nat.floor_le_of_le ?_
    rw [← rankOf_hundred]
    exact rankOf_mono _ greatest
  have hsize : sliceSize numbers.length percent = ⌊rankOf numbers.length percent⌋₊ + 1 := rfl
  omega

/-- The entries up to a rank are at most the number that stands there, and the entries behind it are
greater if none occurs twice. -/
theorem countP_isBeyond_bottom (nonempty : numbers ≠ []) (least : 0 ≤ percent)
    (greatest : percent ≤ 100)
    (h : IsAtRank (sorted numbers) (rankOf numbers.length percent) bound) :
    sliceSize numbers.length percent ≤ numbers.countP (isBeyond bound .bottom) ∧
      (numbers.Nodup →
        numbers.countP (isBeyond bound .bottom) = sliceSize numbers.length percent) := by
  have hsize := sliceSize_le nonempty greatest
  set size := sliceSize numbers.length percent with hdef
  have hlength : ((sorted numbers).take size).length = size := by
    rw [List.length_take, length_sorted, Nat.min_eq_left hsize]
  have hperm : ((sorted numbers).take size ++ (sorted numbers).drop size).Perm numbers := by
    rw [List.take_append_drop]
    exact sorted_perm numbers
  have hrank := rankOf_nonneg numbers.length least
  have htaken : ∀ x ∈ (sorted numbers).take size, isBeyond bound .bottom x = true := by
    intro x hx
    obtain ⟨i, hi, hplace⟩ := exists_place_of_mem_take hx
    have hle : x ≤ bound := (isAtRank_natCast.mpr hplace).mono (pairwise_sorted numbers) h
      ((Nat.le_floor_iff hrank).mp (Nat.lt_succ_iff.mp hi))
    simpa [isBeyond, Quantity.isAtMost_rat] using hle
  have hleft : numbers.Nodup →
      ∀ x ∈ (sorted numbers).drop size, ¬ isBeyond bound .bottom x = true := by
    intro distinct x hx
    obtain ⟨i, hi, hplace⟩ := exists_place_of_mem_drop hx
    have hless : bound < x :=
      h.lt_entry (pairwise_sorted_of_nodup distinct) hplace ((Nat.floor_lt hrank).mp hi)
    simpa [isBeyond, Quantity.isAtMost_rat] using hless
  have hparts := countP_of_parts hperm htaken hleft
  rwa [hlength] at hparts

/-- At the other end the bound stands at the rank that is as far from there, so that the same number
of entries is at least that great. -/
theorem countP_isBeyond_top (nonempty : numbers ≠ []) (least : 0 ≤ percent)
    (greatest : percent ≤ 100)
    (h : IsAtRank (sorted numbers) (rankOf numbers.length (100 - percent)) bound) :
    sliceSize numbers.length percent ≤ numbers.countP (isBeyond bound .top) ∧
      (numbers.Nodup →
        numbers.countP (isBeyond bound .top) = sliceSize numbers.length percent) := by
  have hsize := sliceSize_le nonempty greatest
  have hrank := rankOf_nonneg numbers.length least
  have hfloor := Nat.floor_le hrank
  have hnext := Nat.lt_floor_add_one (rankOf numbers.length percent)
  have hdef : sliceSize numbers.length percent = ⌊rankOf numbers.length percent⌋₊ + 1 := rfl
  rw [rankOf_sub] at h
  set size := sliceSize numbers.length percent
  have hlength : ((sorted numbers).drop (numbers.length - size)).length = size := by
    rw [List.length_drop, length_sorted]
    omega
  have hperm : ((sorted numbers).drop (numbers.length - size) ++
      (sorted numbers).take (numbers.length - size)).Perm numbers := by
    refine List.perm_append_comm.trans ?_
    rw [List.take_append_drop]
    exact sorted_perm numbers
  have htaken : ∀ x ∈ (sorted numbers).drop (numbers.length - size),
      isBeyond bound .top x = true := by
    intro x hx
    obtain ⟨i, hi, hplace⟩ := exists_place_of_mem_drop hx
    have hbehind : ((numbers.length - 1 : ℕ) : ℚ) ≤ i + ⌊rankOf numbers.length percent⌋₊ := by
      exact_mod_cast (by omega : numbers.length - 1 ≤ i + ⌊rankOf numbers.length percent⌋₊)
    have hle : bound ≤ x := h.mono (pairwise_sorted numbers) (isAtRank_natCast.mpr hplace) (by
      linarith only [hbehind, hfloor])
    simpa [isBeyond, Quantity.isAtMost_rat] using hle
  have hleft : numbers.Nodup →
      ∀ x ∈ (sorted numbers).take (numbers.length - size), ¬ isBeyond bound .top x = true := by
    intro distinct x hx
    obtain ⟨i, hi, hplace⟩ := exists_place_of_mem_take hx
    have hfront : (i : ℚ) + (⌊rankOf numbers.length percent⌋₊ + 1) ≤ (numbers.length - 1 : ℕ) := by
      exact_mod_cast (by omega : i + (⌊rankOf numbers.length percent⌋₊ + 1) ≤ numbers.length - 1)
    have hless : x < bound := h.entry_lt (pairwise_sorted_of_nodup distinct) hplace (by
      linarith only [hfront, hnext])
    simpa [isBeyond, Quantity.isAtMost_rat] using hless
  have hparts := countP_of_parts hperm htaken hleft
  rwa [hlength] at hparts

theorem sliceBound_eq_none (h : numbers = [] ∨ percent < 0 ∨ 100 < percent) (side : Side) :
    sliceBound numbers percent side = none := by
  cases side with
  | top =>
    refine percentile_eq_none ?_
    rw [Quantity.ofNat_rat]
    push_cast
    rintro ⟨hnonempty, hleast, hgreatest⟩
    rcases h with h | h | h
    · exact hnonempty h
    · linarith only [h, hgreatest]
    · linarith only [h, hleast]
  | bottom =>
    refine percentile_eq_none ?_
    rintro ⟨hnonempty, hleast, hgreatest⟩
    rcases h with h | h | h
    · exact hnonempty h
    · linarith only [h, hleast]
    · linarith only [h, hgreatest]

theorem exists_sliceBound (nonempty : numbers ≠ []) (least : 0 ≤ percent)
    (greatest : percent ≤ 100) (side : Side) :
    ∃ bound, sliceBound numbers percent side = some bound ∧
      sliceSize numbers.length percent ≤ numbers.countP (isBeyond bound side) ∧
      (numbers.Nodup →
        numbers.countP (isBeyond bound side) = sliceSize numbers.length percent) := by
  cases side with
  | top =>
    obtain ⟨bound, hbound, hrank⟩ :=
      @exists_percentile numbers (100 - percent) nonempty (by linarith) (by linarith)
    exact ⟨bound, hbound, countP_isBeyond_top nonempty least greatest hrank⟩
  | bottom =>
    obtain ⟨bound, hbound, hrank⟩ := exists_percentile nonempty least greatest
    exact ⟨bound, hbound, countP_isBeyond_bottom nonempty least greatest hrank⟩

end Bounds

section Rows

variable {ρ : Type} {measure : ρ → Option ℚ} {entries : List ρ} {entry other : ρ}

/-- Whether one number is at least as far toward a side as another. -/
def IsAsFar : Side → ℚ → ℚ → Prop
  | .top, x, y => y ≤ x
  | .bottom, x, y => x ≤ y

theorem isBeyond_of_isAsFar (h : isBeyond bound side y = true) (far : IsAsFar side x y) :
    isBeyond bound side x = true := by
  cases side with
  | top => exact decide_eq_true ((of_decide_eq_true h).trans far)
  | bottom => exact decide_eq_true (le_trans far (of_decide_eq_true h))

/-- A slice is a selection of entries that have a number, and with a number it takes all that are
as far. -/
theorem exists_selection (measure : ρ → Option ℚ) (percent : ℚ) (side : Side) (entries : List ρ) :
    ∃ taken : ρ → Bool, slice measure percent side entries = entries.filter taken ∧
      (∀ entry, taken entry = true → ∃ y, measure entry = some y) ∧
      ∀ entry other x y, taken entry = true → measure entry = some y → measure other = some x →
        IsAsFar side x y → taken other = true := by
  cases hbound : sliceBound (entries.filterMap measure) percent side with
  | none =>
    refine ⟨fun _ => false, ?_, by simp, by simp⟩
    rw [slice, hbound, List.filter_false]
  | some bound =>
    refine ⟨fun entry => (measure entry).any (isBeyond bound side), ?_, ?_, ?_⟩
    · rw [slice, hbound]
    · intro entry h
      obtain ⟨y, hy, -⟩ := (Option.any_eq_true _ _).mp h
      exact ⟨y, hy⟩
    · intro entry other x y h hy hx far
      simp only [hy, Option.any_some] at h
      simp only [hx, Option.any_some]
      exact isBeyond_of_isAsFar h far

theorem slice_eq_nil (h : sliceBound (entries.filterMap measure) percent side = none) :
    slice measure percent side entries = [] := by
  rw [slice, h]

theorem length_slice (h : sliceBound (entries.filterMap measure) percent side = some bound) :
    (slice measure percent side entries).length =
      (entries.filterMap measure).countP (isBeyond bound side) := by
  rw [slice, h, List.countP_filterMap, ← List.countP_eq_length_filter]
  refine List.countP_congr fun entry _ => ?_
  cases measure entry <;> rfl

/-- The exact number in a cell of a column. -/
def exactCell? (column : String) (row : Row) : Option ℚ :=
  if (row.value column).isNumeric then some (row.value column).amount else none

theorem exactCell?_eq_some_iff {column : String} {row : Row} : exactCell? column row = some x ↔
    (row.value column).isNumeric = true ∧ (row.value column).amount = x := by
  rw [exactCell?]
  split
  case isTrue h => simp only [h, true_and, Option.some.injEq]
  case isFalse h => simp only [h, false_and, reduceCtorEq]

/-- A percent slice of rows by exact numbers is a selection of the rows in their order. It takes
rows with a number only, and with one all that are as far toward its side. Of a percentage from zero
to a hundred it takes as many rows as there are whole ranks up to it, and more only if numbers occur
twice. Without numbers, and of any other percentage, it takes none. -/
theorem slices_keep_extreme_rows (rows : Dataset) (column : String) (percent : ℚ) (side : Side) :
    let numbers := rows.filterMap (exactCell? column)
    let kept := slice (exactCell? column) percent side rows
    let size := ⌊percent / 100 * (numbers.length - 1 : ℕ)⌋₊ + 1
    (∃ taken : Row → Bool, kept = rows.filter taken ∧
      (∀ row, taken row = true → (row.value column).isNumeric = true) ∧
      ∀ row other, taken row = true → (other.value column).isNumeric = true →
        IsAsFar side (other.value column).amount (row.value column).amount →
        taken other = true) ∧
    (numbers ≠ [] → 0 ≤ percent → percent ≤ 100 →
      size ≤ kept.length ∧ (numbers.Nodup → kept.length = size)) ∧
    (numbers = [] ∨ percent < 0 ∨ 100 < percent → kept = []) := by
  intro numbers kept size
  refine ⟨?_, fun nonempty least greatest => ?_, fun h => ?_⟩
  · obtain ⟨taken, hkept, hnumber, hfar⟩ := exists_selection (exactCell? column) percent side rows
    refine ⟨taken, hkept, fun row h => ?_, fun row other h hother far => ?_⟩
    · obtain ⟨y, hy⟩ := hnumber row h
      exact (exactCell?_eq_some_iff.mp hy).1
    · obtain ⟨y, hy⟩ := hnumber row h
      rw [(exactCell?_eq_some_iff.mp hy).2] at far
      exact hfar row other _ y h hy (exactCell?_eq_some_iff.mpr ⟨hother, rfl⟩) far
  · obtain ⟨bound, hbound, hcount⟩ := exists_sliceBound nonempty least greatest side
    rw [length_slice hbound]
    exact hcount
  · exact slice_eq_nil (sliceBound_eq_none h side)

/-- The upper half of three scores, beside one that is no number, ends at the one in the middle. -/
theorem upper_half_of_scores :
    let row (score : Value) : Row := .ofCells [("score", score)]
    let rows : Dataset := [row (.integer 3), row (.text "none"), row (.float 8.5), row (.integer 5)]
    let numbers := rows.filterMap (exactCell? "score")
    let kept := slice (exactCell? "score") 50 .top rows
    numbers ≠ [] ∧ numbers.Nodup ∧ kept = [row (.float 8.5), row (.integer 5)] ∧
    kept.length = ⌊(50 / 100 * (numbers.length - 1 : ℕ) : ℚ)⌋₊ + 1 := by
  intro row rows numbers kept
  have nonempty : numbers ≠ [] := by decide +kernel
  have distinct : numbers.Nodup := by decide +kernel
  obtain ⟨-, hsize, -⟩ := slices_keep_extreme_rows rows "score" 50 .top
  exact ⟨nonempty, distinct, by decide +kernel,
    (hsize nonempty (by norm_num) (by norm_num)).2 distinct⟩

end Rows

end TableTalk.Statistics
