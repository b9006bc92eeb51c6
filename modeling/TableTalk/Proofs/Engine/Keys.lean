import TableTalk.Proofs.Engine.Groups
import TableTalk.Proofs.Engine.Shape

/-!
# What groups take from their first rows

The key of a group is made from its first row: the bucket of its date, and its cells
under the columns of the grouping. All rows of the group lie in the same bucket and
have cells of the same display, but the cells themselves may differ.
-/

namespace TableTalk.Engine

/-- The cells that a group takes from its first row. -/
def keyRow (period : Option Period) (columns : List String) (first : Row) : Row :=
  Row.ofCells (groupCells period columns first)

/-- The group of the rows of a key. -/
def groupOf (period : Option Period) (columns : List String) (rows : Dataset) (k : List String) :
    RowGroup :=
  rowGroup period columns ⟨k, rowsOf (keyTuple period columns) rows k⟩

section Key

variable {period : Option Period} {columns : List String} {column dates : String}
  {interval : Interval} {first row : Row}

theorem columns_keyRow (period : Option Period) (columns : List String) (first : Row) :
    (keyRow period columns first).columns = keyColumns period columns := by
  rw [keyRow, Row.columns_ofCells, columns_groupCells, keyColumns]

theorem mem_keyColumns :
    column ∈ keyColumns period columns ↔
      (period.isSome = true ∧ column = Planning.periodColumn) ∨ column ∈ columns := by
  rw [keyColumns, mem_addColumns, List.mem_append]
  cases period <;> simp

theorem get?_keyRow_of_mem (h : column ∈ columns) :
    (keyRow period columns first).get? column = some (first.value column) := by
  rw [keyRow, Row.ofCells, groupCells, Row.insertAll_append, Row.get?_insertAll_map _ h]

theorem get?_keyRow_period (h : Planning.periodColumn ∉ columns) :
    (keyRow (some (dates, interval)) columns first).get? Planning.periodColumn =
      some (.text (interval.keyOf (first.value dates))) := by
  have habsent : Planning.periodColumn ∉
      (columns.map fun column => (column, first.value column)).map Prod.fst := by
    rwa [List.map_map, List.map_id'' (f := Prod.fst ∘ fun column => (column, first.value column))
      fun _ => rfl]
  rw [keyRow, Row.ofCells, groupCells, Row.insertAll_append, Row.get?_insertAll_of_notMem _ habsent]
  change (Row.empty.insert Planning.periodColumn _).get? Planning.periodColumn = _
  rw [Row.get?_insert, if_pos rfl]

theorem display_eq_of_keyTuple (names : column ∈ columns)
    (h : keyTuple period columns first = keyTuple period columns row) :
    (first.value column).display = (row.value column).display := by
  have hcells := (List.append_inj' h (by rw [List.length_map, List.length_map])).2
  exact List.map_inj_left.mp hcells column names

theorem bucket_eq_of_keyTuple
    (h : keyTuple (some (dates, interval)) columns first =
      keyTuple (some (dates, interval)) columns row) :
    interval.keyOf (first.value dates) = interval.keyOf (row.value dates) :=
  (List.cons.inj h).1

end Key

section Groups

variable {state next : State} {columns : List String} {time : Option TimeAnalysis}
  {period : Option Period} {rows : Dataset} {k : List String}

theorem rows_groupOf :
    (groupOf period columns rows k).rows = rowsOf (keyTuple period columns) rows k := rfl

theorem keyTuple_of_mem_rowsOf {key : Row → List String} {row : Row} (h : row ∈ rowsOf key rows k) :
    key row = k :=
  of_decide_eq_true (List.mem_filter.mp h).2

/-- A key that occurs has a first row, from which its group takes its cells. -/
theorem exists_first_of_key (occurs : ∃ row ∈ rows, keyTuple period columns row = k) :
    ∃ first, (rowsOf (keyTuple period columns) rows k).head? = some first ∧
      keyTuple period columns first = k ∧
      (groupOf period columns rows k).key = keyRow period columns first := by
  obtain ⟨row, hrow, hkey⟩ := occurs
  have hmem : row ∈ rowsOf (keyTuple period columns) rows k :=
    List.mem_filter.mpr ⟨hrow, decide_eq_true hkey⟩
  obtain ⟨first, rest, hrows⟩ := List.exists_cons_of_ne_nil (List.ne_nil_of_mem hmem)
  have hfirst : first ∈ rowsOf (keyTuple period columns) rows k := hrows ▸ List.mem_cons_self
  refine ⟨first, by rw [hrows, List.head?_cons], keyTuple_of_mem_rowsOf hfirst, ?_⟩
  rw [groupOf, rowGroup, hrows]
  rfl

/-- Grouping makes one group for every key that occurs, in the order of the keys. -/
theorem exists_keys_of_group (h : group state columns time = .ok next) :
    ∃ (period : Option Period) (keys : List (List String)),
      let rows := state.working.output
      let key := keyTuple period columns
      settlePeriod state rows time = .ok period ∧
      (∀ k, k ∈ keys ↔ ∃ row ∈ rows, key row = k) ∧
      (keys.flatMap (rowsOf key rows)).Perm rows ∧
      next = { state with working := .groups (keys.map (groupOf period columns rows)) } := by
  obtain ⟨-, period, hperiod, rfl⟩ := group_eq_ok.mp h
  have hsplit := splitsBy_groupBy period columns state.working.output
  refine ⟨period, _, hperiod, hsplit.occurring, ?_, ?_⟩
  · have hcomplete := hsplit.complete
    rwa [List.flatMap_def, hsplit.rowsByKey, ← List.flatMap_def] at hcomplete
  · congr 2
    rw [List.map_map]
    refine List.map_congr_left fun entries hentries => ?_
    rw [Function.comp_apply, groupOf, rowsOf, ← groupKey_eq_keyTuple,
      ← Grouping.entries_of_mem_groupBy hentries]

end Groups

end TableTalk.Engine
