import TableTalk.Proofs.Cleaning.Samples
import TableTalk.Proofs.Rows

/-!
# Columns of datasets that were cleaned

Every cleaned row has all columns of the dataset, and each of its cells is the
cell of the row under that column, cleaned on its own. A second pass over the rows
therefore sees the same columns with cleaned cells.
-/

namespace TableTalk

namespace Row

variable {columns : List String} {f g : String → Value}

theorem cells_ofCells_map (distinct : columns.Nodup) :
    (ofCells (columns.map fun column => (column, f column))).cells =
      columns.map fun column => (column, f column) := by
  refine cells_ofCells ?_
  rwa [List.map_map, show Prod.fst ∘ (fun column => (column, f column)) = id from rfl, List.map_id]

theorem columns_ofCells_map (distinct : columns.Nodup) :
    (ofCells (columns.map fun column => (column, f column))).columns = columns := by
  rw [Row.columns, cells_ofCells_map distinct, List.map_map]
  exact List.map_id columns

theorem get?_ofCells_map {column : String} (distinct : columns.Nodup) (h : column ∈ columns) :
    (ofCells (columns.map fun column => (column, f column))).get? column = some (f column) := by
  obtain ⟨before, after, rfl⟩ := List.append_of_mem h
  have hafter : column ∉ (after.map fun column => (column, f column)).map Prod.fst := by
    rw [List.map_map, show Prod.fst ∘ (fun column => (column, f column)) = id from rfl, List.map_id]
    exact (List.nodup_cons.mp (List.nodup_append.mp distinct).2.1).1
  rw [List.map_append, List.map_cons]
  exact get?_insertAll_of_last empty hafter

theorem ofCells_map_inj (distinct : columns.Nodup) :
    ofCells (columns.map fun column => (column, f column)) =
        ofCells (columns.map fun column => (column, g column)) ↔
      ∀ column ∈ columns, f column = g column := by
  constructor
  · intro h column hcolumn
    have hget := congrArg (fun row : Row => row.get? column) h
    simpa only [get?_ofCells_map distinct hcolumn, Option.some.injEq] using hget
  · intro h
    congr 1
    exact List.map_congr_left fun column hcolumn => by rw [h column hcolumn]

end Row

namespace Cleaning

variable {options : CleanOptions} {rows : Dataset} {column : String} {kind : ColumnKind}

theorem nodup_columnsOf (rows : Dataset) : (columnsOf rows).Nodup :=
  Listing.nodup_eraseDups _

/-- Rows that all have the same columns have no others together. -/
theorem columnsOf_of_same {columns : List String} (distinct : columns.Nodup) (some : rows ≠ [])
    (same : ∀ row ∈ rows, row.columns = columns) : columnsOf rows = columns := by
  cases rows with
  | nil => exact absurd rfl some
  | cons row rows =>
    have hrest : (rows.flatMap Row.columns).removeAll columns = [] := by
      rw [List.removeAll, List.filter_eq_nil_iff]
      intro column hcolumn
      obtain ⟨other, hother, hin⟩ := List.mem_flatMap.mp hcolumn
      rw [same other (by simp [hother])] at hin
      simpa using hin
    rw [columnsOf, List.flatMap_cons, same row (by simp), List.eraseDups_append, hrest,
      Listing.eraseDups_of_nodup distinct]
    exact List.append_nil columns

/-- The kind that cleaning sees in a column. -/
def kindOf (options : CleanOptions) (rows : Dataset) (column : String) : ColumnKind :=
  (profile options rows column).type.kind

/-- What cleaning makes of the cell of a row. -/
def cleaned (options : CleanOptions) (rows : Dataset) (row : Row) (column : String) : Outcome :=
  cleanCell options (kindOf options rows column) (row.value column)

theorem cleanRow_profiles (row : Row) (columns : List String) :
    cleanRow options (columns.map (profile options rows)) row =
      columns.map fun column => (column, cleaned options rows row column) := by
  rw [cleanRow, List.map_map]
  rfl

/-- What cleaning makes of a row. -/
def cleanedRow (options : CleanOptions) (rows : Dataset) (row : Row) : Row :=
  Row.ofCells ((columnsOf rows).map fun column => (column, (cleaned options rows row column).value))

theorem rows_clean (options : CleanOptions) (rows : Dataset) :
    (clean options rows).rows = rows.map (cleanedRow options rows) := by
  rw [clean]
  dsimp only
  rw [List.map_map]
  refine List.map_congr_left fun row _ => ?_
  rw [Function.comp_apply, cleanRow_profiles, List.map_map]
  rfl

theorem forall_mem_rows_clean {p : Row → Prop} :
    (∀ row ∈ (clean options rows).rows, p row) ↔
      ∀ row ∈ rows, p (cleanedRow options rows row) := by
  rw [rows_clean]
  exact List.forall_mem_map

theorem columns_cleanedRow (row : Row) :
    (cleanedRow options rows row).columns = columnsOf rows :=
  Row.columns_ofCells_map (nodup_columnsOf rows)

theorem get?_cleanedRow (row : Row) (h : column ∈ columnsOf rows) :
    (cleanedRow options rows row).get? column = some (cleaned options rows row column).value :=
  Row.get?_ofCells_map (nodup_columnsOf rows) h

/-- Cleaning keeps the columns of a dataset. -/
theorem columnsOf_clean (options : CleanOptions) (some : rows ≠ []) :
    columnsOf (clean options rows).rows = columnsOf rows := by
  rw [rows_clean]
  refine columnsOf_of_same (nodup_columnsOf rows) (by simpa using some) fun row hrow => ?_
  obtain ⟨row, -, rfl⟩ := List.mem_map.mp hrow
  exact columns_cleanedRow row

/-- What cleaning does to the cells of all rows. -/
def changes (options : CleanOptions) (rows : Dataset) : List Change :=
  rows.flatMap fun row => (columnsOf rows).map fun column => (cleaned options rows row column).change

theorem report_clean (options : CleanOptions) (rows : Dataset) :
    (clean options rows).report =
      { totalRows := rows.length
        totalColumns := (columnsOf rows).length
        nullsFound := (changes options rows).count .nulled
        typeConversions := (changes options rows).count .converted
        textNormalized := (changes options rows).count .normalized } := by
  have hchanges : (rows.map (cleanRow options ((columnsOf rows).map (profile options rows)))).flatMap
      (fun cells => cells.map fun cell => cell.2.change) = changes options rows := by
    rw [List.flatMap_map, changes]
    refine List.flatMap_congr fun row _ => ?_
    rw [cleanRow_profiles, List.map_map]
    rfl
  rw [clean]
  simp only [hchanges]

theorem count_changes_eq_zero {change : Change} : (changes options rows).count change = 0 ↔
    ∀ row ∈ rows, ∀ column ∈ columnsOf rows,
      (cleaned options rows row column).change ≠ change := by
  rw [List.count_eq_zero]
  simp only [changes, List.mem_flatMap, List.mem_map, not_exists, not_and]

theorem typeConversions_eq_zero : (clean options rows).report.typeConversions = 0 ↔
    ∀ row ∈ rows, ∀ column ∈ columnsOf rows,
      (cleaned options rows row column).change ≠ .converted := by
  rw [report_clean]
  exact count_changes_eq_zero

theorem textNormalized_eq_zero : (clean options rows).report.textNormalized = 0 ↔
    ∀ row ∈ rows, ∀ column ∈ columnsOf rows,
      (cleaned options rows row column).change ≠ .normalized := by
  rw [report_clean]
  exact count_changes_eq_zero

/-- A second pass keeps the rows if it keeps their cells. -/
theorem rows_clean_clean_iff (options : CleanOptions) (some : rows ≠ []) :
    (clean options (clean options rows).rows).rows = (clean options rows).rows ↔
      ∀ row ∈ rows, ∀ column ∈ columnsOf rows,
        (cleaned options (clean options rows).rows (cleanedRow options rows row) column).value =
          (cleaned options rows row column).value := by
  have hcolumns := columnsOf_clean options some
  rw [rows_clean options (clean options rows).rows]
  conv_lhs => rhs; rw [← List.map_id (clean options rows).rows]
  rw [List.map_inj_left, forall_mem_rows_clean]
  refine forall₂_congr fun row _ => ?_
  rw [cleanedRow, hcolumns, id_eq]
  exact Row.ofCells_map_inj (nodup_columnsOf rows)

/-- A second pass cleans what the first pass has made of a cell. -/
theorem cleaned_again (others : Dataset) (row : Row) (h : column ∈ columnsOf rows) :
    cleaned options others (cleanedRow options rows row) column =
      cleanCell options (kindOf options others column) (cleaned options rows row column).value := by
  rw [cleaned, Row.value, get?_cleanedRow row h, Option.getD_some]

section Sample

/-- Rows without a column have no part in its sample, as if their cell were missing. -/
theorem sample_eq (options : CleanOptions) (rows : Dataset) (column : String) :
    sample options rows column =
      ((rows.map fun row => row.value column).filter fun value => !options.isNullLike value).take
        (max options.sampleSize 1) := by
  have hnull : options.isNullLike .null = true := rfl
  rw [sample]
  congr 1
  induction rows with
  | nil => rfl
  | cons row rows ih =>
    rw [List.filterMap_cons, List.map_cons, List.filter_cons, ← ih, Row.value]
    cases row.get? column with
    | none => rw [Option.getD_none, hnull]; rfl
    | some value => rw [Option.getD_some, List.filter_cons]

theorem present_of_mem_sample {value : Value} (h : value ∈ sample options rows column) :
    options.isNullLike value = false := by
  have hmem := (List.mem_filter.mp (List.mem_of_mem_take h)).2
  simpa using hmem

/-- Unless texts are normalized, a second pass samples the cells that the first one has cleaned. -/
theorem sample_clean (h : column ∈ columnsOf rows)
    (unnormalized : options.normalizeText = false ∨ isFree (kindOf options rows column) = false) :
    sample options (clean options rows).rows column =
      recleaned options (kindOf options rows column) (sample options rows column) := by
  rw [sample_eq, sample_eq, rows_clean, recleaned, List.map_take, List.map_map]
  congr 1
  have hcells : rows.map ((fun row => row.value column) ∘ cleanedRow options rows) =
      (rows.map fun row => row.value column).map fun value =>
        (cleanCell options (kindOf options rows column) value).value := by
    rw [List.map_map]
    refine List.map_congr_left fun row _ => ?_
    rw [Function.comp_apply, Row.value, get?_cleanedRow row h]
    rfl
  rw [hcells, List.filter_map]
  congr 1
  refine List.filter_congr fun value _ => ?_
  rw [Function.comp_apply]
  cases hvalue : options.isNullLike value with
  | true => rw [cleanCell_of_nullLike _ hvalue]; rfl
  | false => rw [isNullLike_cleanCell hvalue unnormalized]

/-- Unless texts are normalized, a second pass sees the same kinds, but it can take whole numbers
for truth values and numbers for whole numbers. -/
theorem kindOf_clean_cases (h : column ∈ columnsOf rows)
    (unnormalized : options.normalizeText = false ∨ isFree (kindOf options rows column) = false) :
    kindOf options (clean options rows).rows column = kindOf options rows column ∨
      kindOf options rows column = .integer ∧
        kindOf options (clean options rows).rows column = .boolean ∨
      kindOf options rows column = .number ∧
        kindOf options (clean options rows).rows column = .integer := by
  have hsample := sample_clean h unnormalized
  cases hinfer : options.inferTypes with
  | false => exact Or.inl (by simp [kindOf, profile, hinfer])
  | true =>
    have hkind (others : Dataset) :
        kindOf options others column = (detect (sample options others column)).kind := by
      rw [kindOf, profile, hinfer, if_pos rfl]
    rw [hkind] at unnormalized hsample
    rw [hkind, hkind, hsample]
    exact kind_recleaned_cases (fun value hvalue => present_of_mem_sample hvalue) unnormalized

end Sample

end Cleaning

end TableTalk
