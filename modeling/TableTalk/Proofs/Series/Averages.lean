import Mathlib.Algebra.BigOperators.Group.List.Basic
import Mathlib.Data.List.DropRight
import TableTalk.Proofs.Series.Neighbours
import TableTalk.Proofs.Statistics.Slices

/-!
# Running and rolling averages of exact numbers

In exact arithmetic a running total is the sum of the numbers up to its row and a running average
is their mean. A rolling average is the mean of the last of them, as many as the window holds,
and of all while there are fewer. A window as long as the table leaves none out, so its averages
are the running ones.
-/

namespace TableTalk.Series

variable {values : List ℚ} {window index : ℕ}

section Sums

theorem foldl_add_rat (total : ℚ) (values : List ℚ) :
    values.foldl (· + ·) total = total + values.sum := by
  induction values generalizing total with
  | nil => rw [List.foldl_nil, List.sum_nil, add_zero]
  | cons x values ih => rw [List.foldl_cons, ih, List.sum_cons, add_assoc]

theorem sum_rat (values : List ℚ) : Quantity.sum values = values.sum :=
  (foldl_add_rat 0 values).trans (zero_add values.sum)

theorem getElem?_totalsFrom (total : ℚ) (h : index < values.length) :
    (totalsFrom total values)[index]? = some (total + (values.take (index + 1)).sum) := by
  induction values generalizing total index with
  | nil => cases h
  | cons x values ih =>
    rw [totalsFrom, List.take_succ_cons, List.sum_cons, ← add_assoc]
    cases index with
    | zero => simp
    | succ index => exact ih (total + x) (Nat.lt_of_succ_lt_succ h)

/-- A running total is the sum up to its row. -/
theorem getElem?_runningTotals (h : index < values.length) :
    (runningTotals values)[index]? = some (values.take (index + 1)).sum := by
  rw [runningTotals, getElem?_totalsFrom _ h]
  exact congrArg some (zero_add _)

theorem length_runningTotals (values : List ℚ) : (runningTotals values).length = values.length :=
  length_totalsFrom _ values

/-- A running average is the mean up to its row. -/
theorem getElem?_runningAverages (h : index < values.length) :
    (runningAverages values)[index]? =
      some ((values.take (index + 1)).sum / (index + 1 : ℕ)) := by
  rw [runningAverages, List.getElem?_map, List.getElem?_zipIdx, getElem?_runningTotals h]
  rw [Option.map_some, Option.map_some, Nat.zero_add]
  rfl

/-- Running totals are multiples of the running averages. -/
theorem runningTotals_eq_mapIdx (values : List ℚ) : runningTotals values =
    (runningAverages values).mapIdx fun i average => ((i + 1 : ℕ) : ℚ) * average := by
  refine List.ext_getElem? fun i => ?_
  rw [List.getElem?_mapIdx]
  by_cases h : i < values.length
  · have hpos : ((i + 1 : ℕ) : ℚ) ≠ 0 := Nat.cast_ne_zero.mpr i.succ_ne_zero
    rw [getElem?_runningTotals h, getElem?_runningAverages h, Option.map_some,
      mul_div_cancel₀ _ hpos]
  · rw [List.getElem?_eq_none (by rw [length_runningTotals]; omega),
      List.getElem?_eq_none (by rw [length_runningAverages]; omega), Option.map_none]

end Sums

section Windows

/-- The last of the numbers up to a place, as many as a window holds. -/
def trailing (window index : ℕ) (values : List ℚ) : List ℚ :=
  (values.take (index + 1)).drop (index + 1 - max window 1)

theorem length_trailing (window : ℕ) (h : index < values.length) :
    (trailing window index values).length = min (max window 1) (index + 1) := by
  rw [trailing, List.length_drop, List.length_take, Nat.min_eq_left h]
  omega

theorem trailing_eq_take (h : index < window) :
    trailing window index values = values.take (index + 1) := by
  rw [trailing, show index + 1 - max window 1 = 0 by omega, List.drop_zero]

/-- A rolling average is the mean of the last numbers up to its row. -/
theorem getElem?_rollingAverages (window : ℕ) (h : index < values.length) :
    (rollingAverages window values)[index]? =
      some ((trailing window index values).sum / (trailing window index values).length) := by
  rw [rollingAverages, List.getElem?_map, List.getElem?_range h, Option.map_some]
  exact congrArg (fun sum => some (sum / _)) (sum_rat _)

theorem trailing_ne_nil (window : ℕ) (h : index < values.length) :
    trailing window index values ≠ [] := by
  rw [← List.length_pos_iff, length_trailing window h]
  omega

theorem rollingAverages_of_length_le (h : values.length ≤ window) :
    rollingAverages window values = runningAverages values := by
  refine List.ext_getElem? fun i => ?_
  by_cases within : i < values.length
  · rw [getElem?_rollingAverages window within, getElem?_runningAverages within,
      length_trailing window within, trailing_eq_take (by omega),
      show min (max window 1) (i + 1) = i + 1 by omega]
  · rw [List.getElem?_eq_none (by rw [length_rollingAverages]; omega),
      List.getElem?_eq_none (by rw [length_runningAverages]; omega)]

/-- The place of the first row in a window that ends at a place, calculated in words of 64 bits.
There is none if there is no next word. -/
def wordStart? (window index : UInt64) : Option UInt64 := do
  let next ← wordAfter? index 1
  pure ((wordBefore? next (max window 1)).getD 0)

theorem wordStart?_eq {window index : UInt64} (h : index.toNat + 1 < UInt64.size) :
    ∃ start, wordStart? window index = some start ∧
      start.toNat = index.toNat + 1 - max window.toNat 1 := by
  have hone : (1 : UInt64).toNat = 1 := rfl
  obtain ⟨next, hnext, hvalue⟩ := @wordAfter?_eq index 1 h
  rw [hone] at hvalue
  have hwindow : (max window 1).toNat = max window.toNat 1 := by rw [UInt64.toNat_max, hone]
  rw [wordStart?, hnext]
  refine ⟨_, rfl, ?_⟩
  by_cases hle : (max window 1).toNat ≤ next.toNat
  · obtain ⟨start, hstart, hplace⟩ := wordBefore?_eq hle
    rw [hstart, Option.getD_some, hplace, hvalue, hwindow]
  · have hnot : ¬max window 1 ≤ next := fun h => hle (UInt64.le_iff_toNat_le.mp h)
    rw [wordBefore?, if_neg hnot, Option.getD_none]
    change 0 = _
    omega

end Windows

section Rows

/-- The exact number in a cell, zero if there is none. -/
def exactOrZero (column : String) (row : Row) : ℚ :=
  (Statistics.exactCell? column row).getD 0

theorem cells_figures (target : String) {run : List Float → List Float}
    (h : ∀ values, (run values).length = values.length) (column : String) (rows : Dataset) :
    (figures target run column rows).map (fun row => row.value target) =
      (run (rows.map fun row => numberOrZero row column)).map .float :=
  cells_attach (by rw [List.length_map, h, List.length_map])

/-- In exact numbers, with zero for cells that are none, a rolling average is the mean of the last
cells up to its row, as many as the window holds and there are; a window of no cells holds one. The
steps in words of 64 bits find the first of them, and it is not behind the row. A window as long as
the table gives the running averages, and the running totals are these times the numbers of their
rows. The rows receive what the same series give in binary64. -/
theorem rolling_and_running_averages_agree (rows : Dataset) (column : String) (window : ℕ) :
    let values := rows.map (exactOrZero column)
    let floats := rows.map fun row => numberOrZero row column
    (rollingAverages window values).length = rows.length ∧
    (∀ i < rows.length, ∃ last : List ℚ, last <:+ values.take (i + 1) ∧ last ≠ [] ∧
      last.length = min (max window 1) (i + 1) ∧
      (rollingAverages window values)[i]? = some (last.sum / last.length) ∧
      (rows.length < UInt64.size → ∀ word : UInt64, word.toNat = window →
        ∃ start, wordStart? word (.ofNat i) = some start ∧ start.toNat ≤ i ∧
          last = (values.take (i + 1)).drop start.toNat)) ∧
    (rows.length ≤ window → rollingAverages window values = runningAverages values) ∧
    (runningTotals values).length = rows.length ∧
    (runningTotals values =
      (runningAverages values).mapIdx fun i average => ((i + 1 : ℕ) : ℚ) * average) ∧
    (rollingAverage column window rows).map (fun row => row.value "rolling_average") =
      (rollingAverages window floats).map .float ∧
    (runningAverage column none rows).map (fun row => row.value "running_average") =
      (runningAverages floats).map .float ∧
    (runningTotal column none rows).map (fun row => row.value "running_total") =
      (runningTotals floats).map .float := by
  intro values floats
  have hcount : values.length = rows.length := List.length_map _
  refine ⟨?_, fun i h => ?_, fun h => ?_, ?_, runningTotals_eq_mapIdx values,
    cells_figures _ (length_rollingAverages window) column rows,
    cells_figures _ length_runningAverages column rows,
    cells_figures _ (length_totalsFrom _) column rows⟩
  · rw [length_rollingAverages, hcount]
  · have within : i < values.length := by rwa [hcount]
    refine ⟨trailing window i values, List.drop_suffix _ _, trailing_ne_nil window within,
      length_trailing window within, getElem?_rollingAverages window within,
      fun fits word hword => ?_⟩
    have hindex : (UInt64.ofNat i).toNat = i := UInt64.toNat_ofNat_of_lt' (h.trans fits)
    obtain ⟨start, hstart, hplace⟩ := @wordStart?_eq word (.ofNat i) (by rw [hindex]; omega)
    rw [hindex, hword] at hplace
    exact ⟨start, hstart, by omega, by rw [hplace, trailing]⟩
  · exact rollingAverages_of_length_le (by rwa [hcount])
  · rw [length_runningTotals, hcount]

/-- Pairs of numbers and all numbers up to a row, one of which is no number. -/
theorem pairs_of_scores_averaged :
    let rows : Dataset := [.integer 3, .text "none", .float 8.5].map fun score =>
      .ofCells [("score", score)]
    let values := rows.map (exactOrZero "score")
    2 < rows.length ∧ rows.length < UInt64.size ∧ rows.length ≤ 2 ^ 64 - 1 ∧
    values = [3, 0, 17 / 2] ∧ rollingAverages 2 values = [3, 3 / 2, 17 / 4] ∧
    (∃ last : List ℚ, last <:+ values ∧ last.length = 2 ∧ last.sum / last.length = 17 / 4 ∧
      ∃ start, wordStart? 2 2 = some start ∧ last = values.drop start.toNat) ∧
    rollingAverages (2 ^ 64 - 1) values = runningAverages values ∧
    runningAverages values = [3, 3 / 2, 23 / 6] := by
  intro rows values
  have within : 2 < rows.length := by decide
  have fits : rows.length < UInt64.size := by decide
  have short : rows.length ≤ 2 ^ 64 - 1 := by decide
  have hrolling : rollingAverages 2 values = [3, 3 / 2, 17 / 4] := by decide +kernel
  obtain ⟨-, hlast, -⟩ := rolling_and_running_averages_agree rows "score" 2
  obtain ⟨-, -, hlong, -⟩ := rolling_and_running_averages_agree rows "score" (2 ^ 64 - 1)
  obtain ⟨last, hsuffix, -, hlength, hmean, hwords⟩ := hlast 2 within
  obtain ⟨start, hstart, -, hdrop⟩ := hwords fits 2 rfl
  have hmean : some (last.sum / last.length) = some (17 / 4) :=
    hmean.symm.trans (congrArg (·[2]?) hrolling)
  exact ⟨within, fits, short, by decide +kernel, hrolling,
    ⟨last, hsuffix, hlength, Option.some.inj hmean, start, hstart, hdrop⟩, hlong short,
    by decide +kernel⟩

end Rows

end TableTalk.Series
