import Mathlib.Data.UInt
import TableTalk.Proofs.Engine.Windows

/-!
# Cells of earlier and later rows

Looking ahead in a list is looking back in the reversed one, and whoever looks past an end
finds nothing. The cells are taken as they stood before any of them was put in, so a column
can receive cells of itself. In words of 64 bits a place in front of all rows has no word,
and a place behind all words is behind all rows.
-/

namespace TableTalk.Series

variable {index : ℕ}

section Entries

variable {α : Type} {entries : List α}

/-- Behind the other end of the list there is an entry just if there is one in front of this end. -/
theorem after?_eq_before?_reverse (h : index < entries.length) (offset : ℕ) :
    after? entries offset index =
      before? entries.reverse offset (entries.length - 1 - index) := by
  rw [after?, before?]
  by_cases within : index + offset < entries.length
  · have hback : entries.length - 1 - (entries.length - 1 - index - offset) = index + offset := by
      omega
    rw [if_pos (by omega), List.getElem?_reverse (by omega), hback]
  · rw [if_neg (by omega), List.getElem?_eq_none (by omega)]

end Entries

section Words

/-- The word some places before another one, unless it would be in front of all words. -/
def wordBefore? (index offset : UInt64) : Option UInt64 :=
  if offset ≤ index then some (index - offset) else none

/-- The word some places after another one, unless it would be behind all words. -/
def wordAfter? (index offset : UInt64) : Option UInt64 :=
  if index.toNat + offset.toNat < UInt64.size then some (index + offset) else none

theorem wordBefore?_eq {i j : UInt64} (h : j.toNat ≤ i.toNat) :
    ∃ place, wordBefore? i j = some place ∧ place.toNat = i.toNat - j.toNat := by
  have hle : j ≤ i := UInt64.le_iff_toNat_le.mpr h
  exact ⟨i - j, if_pos hle, UInt64.toNat_sub_of_le i j hle⟩

theorem wordAfter?_eq {i j : UInt64} (h : i.toNat + j.toNat < UInt64.size) :
    ∃ place, wordAfter? i j = some place ∧ place.toNat = i.toNat + j.toNat := by
  refine ⟨i + j, if_pos h, ?_⟩
  rw [UInt64.toNat_add]
  exact Nat.mod_eq_of_lt h

/-- The entry at a place that is calculated in words, or the default. -/
def entryAt (place? : Option UInt64) (source : List Value) (default : Value) : Value :=
  (place?.bind fun place => source[place.toNat]?).getD default

theorem entryAt_wordBefore? (source : List Value) (default : Value) (i offset : UInt64) :
    entryAt (wordBefore? i offset) source default =
      (before? source offset.toNat i.toNat).getD default := by
  rw [before?]
  by_cases h : offset.toNat ≤ i.toNat
  · obtain ⟨place, hplace, hvalue⟩ := wordBefore?_eq h
    rw [entryAt, hplace, Option.bind_some, hvalue, if_pos h]
  · have hnot : ¬offset ≤ i := fun hle => h (UInt64.le_iff_toNat_le.mp hle)
    rw [entryAt, wordBefore?, if_neg hnot, if_neg h]
    rfl

theorem entryAt_wordAfter? {source : List Value} (fits : source.length ≤ UInt64.size)
    (default : Value) (i offset : UInt64) :
    entryAt (wordAfter? i offset) source default =
      (after? source offset.toNat i.toNat).getD default := by
  rw [after?]
  by_cases h : i.toNat + offset.toNat < UInt64.size
  · obtain ⟨place, hplace, hvalue⟩ := wordAfter?_eq h
    rw [entryAt, hplace, Option.bind_some, hvalue]
  · rw [entryAt, wordAfter?, if_neg h, List.getElem?_eq_none (by omega)]
    rfl

end Words

section Rows

variable {rows : Dataset}

/-- The cells that are put in are found among the cells as they stood. -/
theorem cells_neighbour (target : String) (find : List Value → ℕ → ℕ → Option Value)
    (column : String) (offset : ℕ) (default : Value) (rows : Dataset) :
    (neighbour target find column offset default none rows).map (fun row => row.value target) =
      (List.range rows.length).map fun i =>
        (find (rows.map fun row => row.value column) offset i).getD default := by
  rw [neighbour]
  exact cells_attach (by rw [List.length_map, List.length_range])

theorem getElem?_cells_neighbour {target : String} {find : List Value → ℕ → ℕ → Option Value}
    (column : String) (offset : ℕ) (default : Value) (h : index < rows.length) :
    ((neighbour target find column offset default none rows).map
        fun row => row.value target)[index]? =
      some ((find (rows.map fun row => row.value column) offset index).getD default) := by
  rw [cells_neighbour, List.getElem?_map, List.getElem?_range h, Option.map_some]

/-- The cell of a later row is the cell of an earlier one in the reversed rows, row by row from the
other end. Of an earlier row it is the cell that stood in the column there, or the default where
there is no such row, also if the column is the one that receives the cells. The steps in words of
64 bits find the same cells, as long as a word counts the rows. -/
theorem lead_mirrors_lag (rows : Dataset) (column : String) (default : Value) (offset : ℕ) :
    let cells (target : String) (rows : Dataset) := rows.map fun row => row.value target
    let lagging := cells "lag" (lag column offset default none rows)
    let leading := cells "lead" (lead column offset default none rows)
    let mirrored := cells "lag" (lag column offset default none rows.reverse)
    lagging.length = rows.length ∧ leading.length = rows.length ∧
    (∀ i < rows.length, leading[i]? = mirrored[rows.length - 1 - i]?) ∧
    (∀ i < rows.length, lagging[i]? =
      if offset ≤ i then (cells column rows)[i - offset]? else some default) ∧
    (rows.length ≤ UInt64.size → ∀ word : UInt64, word.toNat = offset → ∀ i < rows.length,
      lagging[i]? = some (entryAt (wordBefore? (.ofNat i) word) (cells column rows) default) ∧
      leading[i]? = some (entryAt (wordAfter? (.ofNat i) word) (cells column rows) default)) := by
  intro cells lagging leading mirrored
  have hcount (rows : Dataset) : (cells column rows).length = rows.length := List.length_map _
  have hlag (i : ℕ) (h : i < rows.length) :
      lagging[i]? = some ((before? (cells column rows) offset i).getD default) :=
    getElem?_cells_neighbour column offset default h
  have hlead (i : ℕ) (h : i < rows.length) :
      leading[i]? = some ((after? (cells column rows) offset i).getD default) :=
    getElem?_cells_neighbour column offset default h
  refine ⟨?_, ?_, fun i h => ?_, fun i h => ?_, fun fits word hword i h => ?_⟩
  · simp only [lagging, cells, lag, cells_neighbour, List.length_map, List.length_range]
  · simp only [leading, cells, lead, cells_neighbour, List.length_map, List.length_range]
  · have hback : rows.length - 1 - i < rows.reverse.length := by
      rw [List.length_reverse]
      omega
    have hmirrored : mirrored[rows.length - 1 - i]? =
        some ((before? (cells column rows.reverse) offset (rows.length - 1 - i)).getD default) :=
      getElem?_cells_neighbour column offset default hback
    have hreverse : cells column rows.reverse = (cells column rows).reverse := List.map_reverse
    rw [hlead i h, hmirrored, hreverse, after?_eq_before?_reverse (by rwa [hcount]), hcount]
  · rw [hlag i h, before?]
    split
    case isTrue hle =>
      rw [List.getElem?_eq_getElem (by rw [hcount]; omega), Option.getD_some]
    case isFalse => rw [Option.getD_none]
  · have hindex : (UInt64.ofNat i).toNat = i := UInt64.toNat_ofNat_of_lt' (h.trans_le fits)
    constructor
    · rw [hlag i h, entryAt_wordBefore?, hindex, hword]
    · rw [hlead i h, entryAt_wordAfter? (by rwa [hcount]), hindex, hword]

/-- Cells move on by one row within their own column. As far ahead as the greatest word reaches
there is no row. -/
theorem own_column_moves_on :
    let rows : Dataset := [4, 5, 6].map fun n => .ofCells [("lag", count n)]
    let own (rows : Dataset) := rows.map fun row => row.value "lag"
    let ahead := (lead "lag" (2 ^ 64 - 1) .null none rows).map fun row => row.value "lead"
    2 < rows.length ∧ rows.length ≤ UInt64.size ∧ (-1 : UInt64).toNat = 2 ^ 64 - 1 ∧
    own (lag "lag" 1 .null none rows) = [.null, count 4, count 5] ∧
    (own (lag "lag" 1 .null none rows))[2]? = (own rows)[1]? ∧
    ahead = [.null, .null, .null] ∧
    ahead[2]? = some (entryAt (wordAfter? 2 (-1)) (own rows) .null) := by
  intro rows own ahead
  have within : 2 < rows.length := by decide
  have fits : rows.length ≤ UInt64.size := by decide
  have word : (-1 : UInt64).toNat = 2 ^ 64 - 1 := by decide
  obtain ⟨-, -, -, hcells, -⟩ := lead_mirrors_lag rows "lag" .null 1
  obtain ⟨-, -, -, -, hwords⟩ := lead_mirrors_lag rows "lag" .null (2 ^ 64 - 1)
  exact ⟨within, fits, word, by decide +kernel, (hcells 2 within).trans (if_pos (by decide)),
    by decide +kernel, (hwords fits (-1) word 2 within).2⟩

end Rows

end TableTalk.Series
