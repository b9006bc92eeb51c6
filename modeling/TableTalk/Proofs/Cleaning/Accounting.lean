import TableTalk.Proofs.Cleaning.Columns

/-!
# What the report accounts for

The report of a cleaning can be read off the rows before and after it: every change
that is counted is one kind of difference between a cell and what it was cleaned to, and
every difference is counted once. A missing text becomes null and counts as such only.
-/

namespace TableTalk

namespace Listing

/-- The names of a list, each once, in the order in which they are first seen. -/
structure FirstSeen (names found : List String) : Prop where
  distinct : found.Nodup
  mem_iff : ∀ name, name ∈ found ↔ name ∈ names
  ordered : found.Pairwise fun a b => names.idxOf a < names.idxOf b

theorem firstSeen_eraseDups (names : List String) : FirstSeen names names.eraseDups := by
  refine ⟨nodup_eraseDups names, fun name => List.mem_eraseDups, ?_⟩
  induction names using List.reverseRecOn with
  | nil => exact .nil
  | append_singleton names name ih =>
    have hkept : ∀ a ∈ names.eraseDups, (names ++ [name]).idxOf a = names.idxOf a := fun a ha =>
      List.idxOf_append_of_mem (List.mem_eraseDups.mp ha)
    have hearlier : names.eraseDups.Pairwise fun a b =>
        (names ++ [name]).idxOf a < (names ++ [name]).idxOf b :=
      ih.imp_of_mem fun ha hb hlt => by rwa [hkept _ ha, hkept _ hb]
    by_cases hseen : name ∈ names
    · have hnone : [name].removeAll names = [] := by simp [List.removeAll, hseen]
      rwa [List.eraseDups_append, hnone, List.eraseDups_nil, List.append_nil]
    · have hnew : ([name].removeAll names).eraseDups = [name] := by
        simp [List.removeAll, hseen, List.eraseDups_cons]
      rw [List.eraseDups_append, hnew, List.pairwise_append]
      refine ⟨hearlier, List.pairwise_singleton _ _, fun a ha b hb => ?_⟩
      obtain rfl := List.mem_singleton.mp hb
      rw [hkept a ha, List.idxOf_append_of_notMem hseen]
      exact (List.idxOf_lt_length_iff.mpr (List.mem_eraseDups.mp ha)).trans_le
        (Nat.le_add_right _ _)

end Listing

namespace Cleaning

variable {options : CleanOptions} {rows : Dataset} {kind : ColumnKind} {value : Value}

/-- Whether a cell is absent or missing. -/
def IsMissing (options : CleanOptions) (cell : Option Value) : Prop :=
  ∀ value, cell = some value → options.isNullLike value = true

/-- A text that was read as a value of another kind. -/
def becameTyped (before after : Value) : Bool :=
  before.text?.isSome && after.text?.isNone && !after.isNull

/-- A text that was tidied. -/
def becameOther (before after : Value) : Bool :=
  before.text?.isSome && after.text?.isSome && before != after

/-- The number of cells under some columns that differ in a way from the cells of other rows. -/
def countCells (differs : Value → Value → Bool) (columns : List String) (rows others : Dataset) :
    Nat :=
  ((rows.zip others).map fun (row, other) =>
    columns.countP fun column => differs (row.value column) (other.value column)).sum

/-- How a kind of change shows in the values before and after it. -/
def shows (before after : Value) : Change → Bool
  | .kept => after == before && !after.isNull
  | .nulled => after.isNull
  | .converted => becameTyped before after
  | .normalized => becameOther before after

/-- Every change shows in the values of the cell, and no other does. -/
theorem shows_iff (change : Change) :
    shows value (cleanCell options kind value).value change = true ↔
      (cleanCell options kind value).change = change := by
  cases hmissing : options.isNullLike value with
  | true =>
    rw [cleanCell_of_nullLike kind hmissing]
    cases change <;> simp [shows, becameTyped, becameOther, Value.isNull, Value.text?]
  | false =>
    cases htext : value.text? with
    | none =>
      have hvalue : value.isNull = false := isNull_of_present hmissing
      rw [cleanCell_of_text_none kind hmissing htext]
      cases change <;> simp [shows, becameTyped, becameOther, hvalue, htext]
    | some raw =>
      obtain rfl := Value.text?_eq_some_iff.mp htext
      rw [cleanCell_text kind hmissing]
      cases htyped : typed? kind raw with
      | some typed =>
        have hnone : typed.text? = none := text_of_typed htyped
        have hpresent : options.isNullLike typed = false := isNullLike_of_typed htyped
        have hne : (typed == .text raw) = false := by
          rw [beq_eq_false_iff_ne]
          rintro rfl
          cases hnone
        rw [cleanText_of_typed htyped]
        cases change <;>
          simp [shows, becameTyped, becameOther, htext, hnone, hne, isNull_of_present hpresent]
      | none =>
        by_cases htidy : tidied options kind raw = raw
        · rw [cleanText_of_tidy htyped htidy]
          cases change <;> simp [shows, becameTyped, becameOther, Value.text?, Value.isNull]
        · rw [cleanText_of_untidy htyped htidy]
          cases change <;>
            simp [shows, becameTyped, becameOther, Value.text?, Value.isNull, htidy, Ne.symm htidy]

theorem value_cleanedRow (row : Row) {column : String} (h : column ∈ columnsOf rows) :
    (cleanedRow options rows row).value column = (cleaned options rows row column).value := by
  rw [Row.value, get?_cleanedRow row h, Option.getD_some]

/-- Changes can be counted in the rows before and after them. -/
theorem count_changes (options : CleanOptions) (rows : Dataset) (change : Change) :
    (changes options rows).count change =
      countCells (fun before after => shows before after change) (columnsOf rows) rows
        (clean options rows).rows := by
  have hrow (row : Row) :
      ((columnsOf rows).map fun column => (cleaned options rows row column).change).count change =
        (columnsOf rows).countP fun column =>
          shows (row.value column) ((cleanedRow options rows row).value column) change := by
    rw [List.count, List.countP_map]
    refine List.countP_congr fun column hcolumn => ?_
    rw [Function.comp_apply, beq_iff_eq, value_cleanedRow row hcolumn]
    exact (shows_iff change).symm
  have hrows (some : Dataset) :
      (some.flatMap fun row =>
          (columnsOf rows).map fun column => (cleaned options rows row column).change).count change =
        countCells (fun before after => shows before after change) (columnsOf rows) some
          (some.map (cleanedRow options rows)) := by
    induction some with
    | nil => rfl
    | cons row some ih =>
      rw [List.flatMap_cons, List.count_append, ih, hrow, countCells, countCells, List.map_cons,
        List.zip_cons_cons, List.map_cons, List.sum_cons]
  rw [rows_clean]
  exact hrows rows

/-- What becomes of the cells of a row. -/
structure Accounted (options : CleanOptions) (columns : List String) (row out : Row) : Prop where
  columns_eq : out.columns = columns
  null_iff : ∀ column ∈ columns, out.value column = .null ↔ IsMissing options (row.get? column)
  kept : ∀ column value, row.get? column = some value → value.text? = none →
    options.isNullLike value = false → out.value column = value

/-- Only missing cells become null. -/
theorem value_cleanCell_eq_null_iff :
    (cleanCell options kind value).value = .null ↔ options.isNullLike value = true := by
  cases hmissing : options.isNullLike value with
  | true => rw [cleanCell_of_nullLike kind hmissing]; simp
  | false =>
    have hchange : (cleanCell options kind value).change ≠ .nulled := by
      cases value with
      | text raw =>
        rw [cleanCell_text kind hmissing, cleanText]
        split
        · rintro ⟨⟩
        · dsimp only
          split <;> rintro ⟨⟩
      | null | boolean | integer | float | date =>
        rw [cleanCell_of_text_none kind hmissing rfl]
        rintro ⟨⟩
    refine iff_of_false (fun hnull => hchange ((shows_iff .nulled).mp ?_)) Bool.false_ne_true
    rw [shows, hnull, Value.isNull]

theorem value_eq_null_iff (row : Row) {column : String} (h : column ∈ columnsOf rows) :
    (cleanedRow options rows row).value column = .null ↔ IsMissing options (row.get? column) := by
  rw [value_cleanedRow row h, cleaned, value_cleanCell_eq_null_iff, Row.value]
  cases row.get? column with
  | none => simp [IsMissing, CleanOptions.isNullLike]
  | some value => simp [IsMissing]

theorem accounted_cleanedRow {row : Row} (h : row ∈ rows) :
    Accounted options (columnsOf rows) row (cleanedRow options rows row) := by
  refine ⟨columns_cleanedRow row, fun column hcolumn => value_eq_null_iff row hcolumn, ?_⟩
  intro column value hcell htext hpresent
  have hcolumn : column ∈ columnsOf rows := List.mem_eraseDups.mpr
    (List.mem_flatMap.mpr ⟨row, h, Row.mem_columns_of_get? hcell⟩)
  rw [value_cleanedRow row hcolumn, cleaned, Row.value, hcell, Option.getD_some,
    cleanCell_of_text_none _ hpresent htext]

/-- The report accounts for the cells that cleaning has changed, each once and by its kind. -/
theorem report_accounts_for_changes (options : CleanOptions) (rows : Dataset) :
    ∃ columns, Listing.FirstSeen (rows.flatMap Row.columns) columns ∧
      List.Forall₂ (Accounted options columns) rows (clean options rows).rows ∧
      (clean options rows).report.nullsFound =
        countCells (fun _ after => after.isNull) columns rows (clean options rows).rows ∧
      (clean options rows).report.typeConversions =
        countCells becameTyped columns rows (clean options rows).rows ∧
      (clean options rows).report.textNormalized =
        countCells becameOther columns rows (clean options rows).rows := by
  refine ⟨columnsOf rows, Listing.firstSeen_eraseDups _, ?_, ?_⟩
  · rw [rows_clean, List.forall₂_map_right_iff, List.forall₂_same]
    exact fun row hrow => accounted_cleanedRow hrow
  · rw [report_clean]
    exact ⟨count_changes options rows .nulled, count_changes options rows .converted,
      count_changes options rows .normalized⟩

/-- A name that is missing, written as a text. -/
def unknownName : Dataset := [Row.ofCells [("name", .text "N/A")]]

/-- A missing text is no text any more, but it is no conversion either. -/
theorem missing_text_is_no_conversion :
    (clean {} unknownName).report.typeConversions ≠
      countCells (fun before after => before.text?.isSome && after.text?.isNone) ["name"]
        unknownName (clean {} unknownName).rows := by
  decide +kernel

end Cleaning

end TableTalk
