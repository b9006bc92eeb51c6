import Mathlib.Data.List.Forall2
import TableTalk.Engine.Windowing
import TableTalk.Proofs.Rows
import TableTalk.Proofs.Sorting

/-!
# What window functions leave of rows

A window function arranges the rows and puts its figures into columns of its own.
Every row is there once afterwards, in the place that the order of the function gives
it, with all its other cells. A column of the function that a row did not have comes
after the others, and one that it had is filled where it stands.
-/

namespace TableTalk

namespace Series

/-- The values that are attached to rows are their cells in that column. -/
theorem cells_attach {target : String} {rows : Dataset} {values : List Value}
    (h : values.length = rows.length) :
    (attach target values rows).map (fun row => row.value target) = values := by
  induction rows generalizing values with
  | nil => exact (List.length_eq_zero_iff.mp h).symm
  | cons row rows ih =>
    obtain ⟨value, values, rfl⟩ := List.exists_cons_of_length_eq_add_one h
    rw [List.length_cons, List.length_cons, Nat.add_right_cancel_iff] at h
    have hvalue : (row.insert target value).value target = value := by
      rw [Row.value, Row.get?_insert, if_pos rfl, Option.getD_some]
    exact congrArg₂ List.cons hvalue (ih h)

theorem length_ranksAfter (gaps : Gaps) (previous : Value) (index current : ℕ)
    (values : List Value) :
    (ranksAfter gaps previous index current values).length = values.length := by
  induction values generalizing previous index current with
  | nil => rfl
  | cons value values ih => simp only [ranksAfter, List.length_cons, ih]

theorem length_ranks (gaps : Gaps) (values : List Value) :
    (ranks gaps values).length = values.length := by
  cases values with
  | nil => rfl
  | cons value values => rw [ranks, List.length_cons, length_ranksAfter, List.length_cons]

section Exact

variable {α : Type} [Quantity α]

theorem length_totalsFrom (total : α) (values : List α) :
    (totalsFrom total values).length = values.length := by
  induction values generalizing total with
  | nil => rfl
  | cons x values ih => rw [totalsFrom, List.length_cons, ih, List.length_cons]

theorem length_runningAverages (values : List α) :
    (runningAverages values).length = values.length := by
  rw [runningAverages, List.length_map, List.length_zipIdx, runningTotals, length_totalsFrom]

theorem length_rollingAverages (window : ℕ) (values : List α) :
    (rollingAverages window values).length = values.length := by
  rw [rollingAverages, List.length_map, List.length_range]

end Exact

end Series

namespace Row

end Row

namespace Engine

/-- A row with cells under some names after its own, and all other cells as they were. -/
structure Extends (names : List String) (source result : Row) : Prop where
  columns : result.columns = addColumns source.columns names
  kept : ∀ column, column ∉ names → result.get? column = source.get? column

namespace Extends

variable {names others : List String} {source middle result : Row}

theorem insert (source : Row) (name : String) (value : Value) :
    Extends [name] source (source.insert name value) where
  columns := Row.columns_insert source name value
  kept column h := by
    rw [List.mem_singleton] at h
    rw [Row.get?_insert, if_neg h]

theorem trans (first : Extends names source middle) (second : Extends others middle result) :
    Extends (names ++ others) source result where
  columns := by rw [second.columns, first.columns, addColumns_append]
  kept column h := by
    rw [List.mem_append, not_or] at h
    rw [second.kept column h.2, first.kept column h.1]

theorem attach (name : String) {rows : Dataset} {values : List Value}
    (h : values.length = rows.length) :
    List.Forall₂ (Extends [name]) rows (Series.attach name values rows) := by
  induction rows generalizing values with
  | nil => exact .nil
  | cons row rows ih =>
    obtain ⟨value, values, rfl⟩ := List.exists_cons_of_length_eq_add_one h
    rw [List.length_cons, List.length_cons, Nat.add_right_cancel_iff] at h
    exact .cons (insert row name value) (ih h)

end Extends

/-- The columns that a window function puts into rows. -/
def windowColumns : WindowFunction → List String
  | .rank => ["rank"]
  | .denseRank => ["dense_rank"]
  | .rowNumber => ["row_number"]
  | .runningTotal => ["running_total"]
  | .runningAvg => ["running_average"]
  | .rollingAvg => ["rolling_average"]
  | .lag => ["lag"]
  | .lead => ["lead"]
  | .percentile => ["percent_rank", "percentile"]
  | .percentRank => ["percent_rank"]
  | .ntile => ["ntile"]

section Windows

variable (column : String) (order : Option Series.Order) (direction : Direction) (rows : Dataset)

/-- The rows in the order in which a window function leaves them. -/
def windowArrangement : WindowFunction → Dataset
  | .rank | .denseRank | .rowNumber | .percentRank | .ntile => Series.sortRows column direction rows
  | .percentile => Series.sortRows column .ascending rows
  | .runningTotal | .runningAvg | .rollingAvg | .lag | .lead => Series.arrange order rows

theorem arrange_perm : (Series.arrange order rows).Perm rows := by
  cases order with
  | none => exact List.Perm.refl rows
  | some order => exact Listing.sort_perm _ rows

theorem windowArrangement_perm (function : WindowFunction) :
    (windowArrangement column order direction rows function).Perm rows := by
  cases function with
  | rank | denseRank | rowNumber | percentRank | ntile | percentile =>
    exact Listing.sort_perm _ rows
  | runningTotal | runningAvg | rollingAvg | lag | lead => exact arrange_perm order rows

theorem extends_rankInto (target : String) (gaps : Series.Gaps) (toValue : ℕ → Value) :
    List.Forall₂ (Extends [target]) (Series.sortRows column direction rows)
      (Series.rankInto target gaps toValue column direction rows) :=
  Extends.attach target (by rw [List.length_map, Series.length_ranks, List.length_map])

theorem extends_neighbour (target : String) (find : List Value → ℕ → ℕ → Option Value)
    (offset : ℕ) (default : Value) :
    List.Forall₂ (Extends [target]) (Series.arrange order rows)
      (Series.neighbour target find column offset default order rows) :=
  Extends.attach target (by rw [List.length_map, List.length_range])

theorem extends_figures (target : String) {run : List Float → List Float}
    (h : ∀ values, (run values).length = values.length) :
    List.Forall₂ (Extends [target]) rows (Series.figures target run column rows) :=
  Extends.attach target (by rw [List.length_map, h, List.length_map])

theorem extends_percentileRank :
    List.Forall₂ (Extends ["percent_rank", "percentile"]) (Series.sortRows column .ascending rows)
      (percentileRank column rows) := by
  have hrank := extends_rankInto column .ascending rows "percent_rank" .skipped
    (Series.percentRankOf rows.length)
  rw [percentileRank, List.forall₂_map_right_iff]
  exact hrank.imp fun source ranked h => h.trans (.insert ranked "percentile" _)

/-- A window function puts its columns into the rows as it arranges them. -/
theorem extends_applyWindow (options : Options) (function : WindowFunction) :
    List.Forall₂ (Extends (windowColumns function))
      (windowArrangement column order direction rows function)
      (applyWindow options function column order direction rows) := by
  cases function with
  | rank => exact extends_rankInto column direction rows _ _ _
  | denseRank => exact extends_rankInto column direction rows _ _ _
  | percentRank => exact extends_rankInto column direction rows _ _ _
  | percentile => exact extends_percentileRank column rows
  | rowNumber => exact Extends.attach _ (by rw [List.length_map, List.length_range]; rfl)
  | ntile => exact Extends.attach _ (by rw [List.length_map, List.length_range]; rfl)
  | lag => exact extends_neighbour column order rows _ _ _ _
  | lead => exact extends_neighbour column order rows _ _ _ _
  | runningTotal => exact extends_figures column _ _ (Series.length_totalsFrom _)
  | runningAvg => exact extends_figures column _ _ Series.length_runningAverages
  | rollingAvg => exact extends_figures column _ _ (Series.length_rollingAverages _)

/-- The rows of a dataset stand in an order, or as they stood if there is none. No row is lost where
infinite numbers leave the order open. -/
def Stands (order : Option Series.Order) (rows arranged : Dataset) : Prop :=
  match order with
  | none => arranged = rows
  | some order =>
    arranged = Series.sortRows order.column order.direction rows ∧ arranged.Perm rows ∧
      ((∀ row ∈ rows, (row.value order.column).isUnsized = false) →
        Series.IsStableSort order.column order.direction rows arranged)

end Windows

end Engine

end TableTalk
