import TableTalk.Proofs.Listing
import TableTalk.Row

/-!
# Columns and cells of rows

Inserting a cell changes the columns of a row in a way that does not depend on
the values, and it changes the cell of its own column only. Rows that are built
by the same insertions therefore have the same columns.
-/

namespace TableTalk

/-- Some columns with one more at the end, unless it is there. -/
def addColumn (columns : List String) (column : String) : List String :=
  if column ∈ columns then columns else columns ++ [column]

/-- Some columns with more of them, one after the other. -/
def addColumns (columns names : List String) : List String :=
  names.foldl addColumn columns

theorem addColumns_cons (columns : List String) (name : String) (names : List String) :
    addColumns columns (name :: names) = addColumns (addColumn columns name) names := rfl

theorem addColumns_append (columns names others : List String) :
    addColumns columns (names ++ others) = addColumns (addColumns columns names) others :=
  List.foldl_append

theorem mem_addColumn {columns : List String} {column name : String} :
    column ∈ addColumn columns name ↔ column ∈ columns ∨ column = name := by
  rw [addColumn]
  split
  case isTrue h =>
    constructor
    · exact Or.inl
    · rintro (hmem | rfl)
      · exact hmem
      · exact h
  case isFalse => rw [List.mem_append, List.mem_singleton]

theorem mem_addColumns {columns names : List String} {column : String} :
    column ∈ addColumns columns names ↔ column ∈ columns ∨ column ∈ names := by
  induction names generalizing columns with
  | nil => simp [addColumns]
  | cons name names ih => rw [addColumns_cons, ih, mem_addColumn, List.mem_cons, or_assoc]

/-- Starting from none, every name is taken once, in the order in which it is first seen. -/
theorem addColumns_nil (names : List String) : addColumns [] names = names.eraseDups := by
  induction names using List.reverseRecOn with
  | nil => rfl
  | append_singleton names name ih =>
    rw [addColumns_append, ih, List.eraseDups_append]
    change addColumn names.eraseDups name = _
    by_cases h : name ∈ names
    · rw [addColumn, if_pos (List.mem_eraseDups.mpr h)]
      simp [h, List.removeAll]
    · rw [addColumn, if_neg (mt List.mem_eraseDups.mp h)]
      simp [h, List.removeAll, List.eraseDups_cons]

theorem insertCell_names (name : String) (value : Value) (cells : List (String × Value)) :
    (insertCell name value cells).map Prod.fst = addColumn (cells.map Prod.fst) name := by
  induction cells with
  | nil => simp [insertCell, addColumn]
  | cons cell cells ih =>
    by_cases h : cell.1 = name
    · simp [insertCell, addColumn, h]
    · rw [insertCell, if_neg h, List.map_cons, ih]
      have hne : name ≠ cell.1 := fun he => h he.symm
      simp only [addColumn, List.map_cons, List.mem_cons, hne, false_or]
      split <;> rfl

theorem insertCell_of_notMem {name : String} {value : Value} {cells : List (String × Value)}
    (absent : name ∉ cells.map Prod.fst) :
    insertCell name value cells = cells ++ [(name, value)] := by
  induction cells with
  | nil => rfl
  | cons cell cells ih =>
    rw [List.map_cons, List.mem_cons, not_or] at absent
    rw [insertCell, if_neg (Ne.symm absent.1), ih absent.2]
    rfl

theorem lookup_insertCell (name other : String) (value : Value) (cells : List (String × Value)) :
    (insertCell name value cells).lookup other =
      if other = name then some value else cells.lookup other := by
  induction cells with
  | nil => exact Listing.lookup_cons_eq other (name, value) []
  | cons cell cells ih =>
    by_cases h : cell.1 = name
    · rw [insertCell, if_pos h, Listing.lookup_cons_eq, Listing.lookup_cons_eq, h]
      split <;> rfl
    · rw [insertCell, if_neg h]
      exact Listing.lookup_cons_of_ne h ih

/-- The value that an insertion replaces is the one that was found under the name. -/
theorem exchangeCell_fst (name : String) (value : Value) (cells : List (String × Value)) :
    (exchangeCell name value cells).1 = cells.lookup name := by
  induction cells with
  | nil => rfl
  | cons cell cells ih =>
    rw [exchangeCell, Listing.lookup_cons_eq]
    by_cases h : cell.1 = name
    · rw [if_pos h, if_pos h.symm]
    · rw [if_neg h, if_neg (Ne.symm h)]
      exact ih

namespace Row

theorem columns_nodup (row : Row) : row.columns.Nodup := row.distinct

theorem hasColumn_iff {row : Row} {column : String} :
    row.hasColumn column = true ↔ column ∈ row.columns := by
  rw [hasColumn, List.contains_iff_mem]

theorem columns_insert (row : Row) (column : String) (value : Value) :
    (row.insert column value).columns = addColumn row.columns column :=
  insertCell_names column value row.cells

theorem insertAll_nil (row : Row) : row.insertAll [] = row := rfl

theorem insertAll_cons (row : Row) (cell : String × Value) (cells : List (String × Value)) :
    row.insertAll (cell :: cells) = (row.insert cell.1 cell.2).insertAll cells := rfl

theorem insertAll_append (row : Row) (cells others : List (String × Value)) :
    row.insertAll (cells ++ others) = (row.insertAll cells).insertAll others :=
  List.foldl_append

theorem columns_insertAll (row : Row) (cells : List (String × Value)) :
    (row.insertAll cells).columns = addColumns row.columns (cells.map Prod.fst) := by
  induction cells generalizing row with
  | nil => rfl
  | cons cell cells ih => rw [insertAll_cons, ih, columns_insert, List.map_cons, addColumns_cons]

theorem columns_ofCells (cells : List (String × Value)) :
    (ofCells cells).columns = addColumns [] (cells.map Prod.fst) :=
  columns_insertAll empty cells

theorem columns_project (row : Row) (columns : List String) :
    (row.project columns).columns = addColumns [] columns := by
  rw [project, columns_ofCells, List.map_map]
  congr 1
  exact List.map_id' columns

theorem get?_insert (row : Row) (column other : String) (value : Value) :
    (row.insert column value).get? other = if other = column then some value else row.get? other :=
  lookup_insertCell column other value row.cells

theorem get?_insertAll_of_notMem {column : String} {cells : List (String × Value)} (row : Row)
    (absent : column ∉ cells.map Prod.fst) :
    (row.insertAll cells).get? column = row.get? column := by
  induction cells generalizing row with
  | nil => rfl
  | cons cell cells ih =>
    rw [List.map_cons, List.mem_cons, not_or] at absent
    rw [insertAll_cons, ih _ absent.2, get?_insert, if_neg absent.1]

/-- Of several values that are inserted under one name, the last one stays. -/
theorem get?_insertAll_of_last {column : String} {value : Value}
    {before after : List (String × Value)} (row : Row) (absent : column ∉ after.map Prod.fst) :
    (row.insertAll (before ++ (column, value) :: after)).get? column = some value := by
  rw [insertAll_append, insertAll_cons, get?_insertAll_of_notMem _ absent, get?_insert, if_pos rfl]

/-- Values that are inserted under different names all stay. -/
theorem get?_insertAll_of_mem {column : String} {value : Value} {cells : List (String × Value)}
    (row : Row) (distinct : (cells.map Prod.fst).Nodup) (h : (column, value) ∈ cells) :
    (row.insertAll cells).get? column = some value := by
  obtain ⟨before, after, rfl⟩ := List.append_of_mem h
  rw [List.map_append, List.map_cons] at distinct
  refine get?_insertAll_of_last row fun hafter => ?_
  exact (List.nodup_cons.mp (List.nodup_append.mp distinct).2.1).1 hafter

theorem get?_insertAll_map {column : String} {columns : List String} {f : String → Value} (row : Row)
    (h : column ∈ columns) :
    (row.insertAll (columns.map fun name => (name, f name))).get? column = some (f column) := by
  induction columns generalizing row with
  | nil => cases h
  | cons name columns ih =>
    rw [List.map_cons, insertAll_cons]
    by_cases hrest : column ∈ columns
    · exact ih _ hrest
    · obtain rfl := (List.mem_cons.mp h).resolve_right hrest
      rw [get?_insertAll_of_notMem _ (by simpa using hrest), get?_insert, if_pos rfl]

theorem get?_of_notMem {row : Row} {column : String} (h : column ∉ row.columns) :
    row.get? column = none := by
  refine List.lookup_eq_none_iff.mpr fun cell hcell => ?_
  exact bne_iff_ne.mpr fun he => h (he ▸ List.mem_map_of_mem hcell)

theorem get?_eq_some_iff {row : Row} {column : String} {value : Value} :
    row.get? column = some value ↔ (column, value) ∈ row.cells := by
  constructor
  · intro h
    obtain ⟨before, after, hcells, -⟩ := List.lookup_eq_some_iff.mp h
    exact hcells ▸ List.mem_append_right _ List.mem_cons_self
  · intro h
    obtain ⟨before, after, hcells⟩ := List.append_of_mem h
    have hdistinct := row.distinct
    rw [hcells, List.map_append, List.map_cons, List.nodup_append] at hdistinct
    have hbefore : before.lookup column = none := by
      refine List.lookup_eq_none_iff.mpr fun cell hcell => ?_
      have hne := hdistinct.2.2 _ (List.mem_map_of_mem hcell) _ List.mem_cons_self
      exact bne_iff_ne.mpr (Ne.symm hne)
    rw [get?, hcells, List.lookup_append, hbefore, Option.none_or, Listing.lookup_cons_eq,
      if_pos rfl]

theorem mem_columns_of_get? {row : Row} {column : String} {value : Value}
    (h : row.get? column = some value) : column ∈ row.columns :=
  List.mem_map_of_mem (f := Prod.fst) (get?_eq_some_iff.mp h)

theorem eq_of_cells {row other : Row} (h : row.cells = other.cells) : row = other := by
  cases row
  cases other
  congr

theorem exchange_eq (row : Row) (column : String) (value : Value) :
    row.exchange column value = (row.get? column, row.insert column value) :=
  Prod.ext (exchangeCell_fst column value row.cells)
    (eq_of_cells (exchangeCell_snd column value row.cells))

/-- The cells of a row that are written onto another one stand in front of the cells there. -/
theorem get?_insertAll_cells (row other : Row) (column : String) :
    (row.insertAll other.cells).get? column = (other.get? column).or (row.get? column) := by
  obtain ⟨cells, distinct⟩ := other
  change (row.insertAll cells).get? column = (cells.lookup column).or (row.get? column)
  induction cells generalizing row with
  | nil => rfl
  | cons cell cells ih =>
    rw [List.map_cons, List.nodup_cons] at distinct
    rw [insertAll_cons, ih _ distinct.2, get?_insert, Listing.lookup_cons_eq]
    by_cases h : column = cell.1
    · have hnone : cells.lookup column = none :=
        @get?_of_notMem ⟨cells, distinct.2⟩ column (h ▸ distinct.1)
      rw [if_pos h, if_pos h, hnone]
      rfl
    · rw [if_neg h, if_neg h]

/-- A projection keeps the values of its columns. -/
theorem value_project {column : String} {columns : List String} (row : Row) (h : column ∈ columns) :
    (row.project columns).value column = row.value column := by
  rw [value, project, ofCells, get?_insertAll_map empty h, Option.getD_some]

/-- Cells with different columns are the cells of the row that is built from them. -/
theorem cells_insertAll_of_nodup {cells : List (String × Value)} (row : Row)
    (distinct : ((row.cells ++ cells).map Prod.fst).Nodup) :
    (row.insertAll cells).cells = row.cells ++ cells := by
  induction cells generalizing row with
  | nil => rw [insertAll_nil, List.append_nil]
  | cons cell cells ih =>
    have hcells : (row.insert cell.1 cell.2).cells = row.cells ++ [cell] := by
      refine insertCell_of_notMem fun hmem => ?_
      rw [List.map_append, List.map_cons, List.nodup_append] at distinct
      exact distinct.2.2 cell.1 hmem cell.1 List.mem_cons_self rfl
    rw [insertAll_cons, ih _ (by rwa [hcells, List.append_assoc]), hcells, List.append_assoc]
    rfl

theorem cells_ofCells {cells : List (String × Value)} (distinct : (cells.map Prod.fst).Nodup) :
    (ofCells cells).cells = cells :=
  cells_insertAll_of_nodup empty distinct

end Row

end TableTalk
