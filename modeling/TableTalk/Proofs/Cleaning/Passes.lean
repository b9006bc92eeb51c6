import TableTalk.Proofs.Cleaning.Columns

/-!
# Passes over datasets that were cleaned

A second pass finds nothing to change unless it meets a text that the first pass
has normalized into something else than a settled text, or a text among numbers
that it takes for truth values.
-/

namespace TableTalk.Cleaning

variable {options : CleanOptions} {rows : Dataset} {first second : ColumnKind} {raw : String}

/-- What a text that is not missing needs so that a second pass leaves it alone: normalized texts
are settled then, and no word for a truth value stands among whole numbers that are taken for truth
values. -/
def Lasts (options : CleanOptions) (first second : ColumnKind) (raw : String) : Prop :=
  (options.normalizeText = true → isFree first = true →
    Settled options second (normalizeText raw)) ∧
  (first = .integer → second = .boolean → typed? .integer raw = none → typed? .boolean raw = none)

/-- A text that is not normalized is settled once it was tidied. -/
theorem settled_tidied {kind : ColumnKind} (present : options.isNullLike (.text raw) = false)
    (unnormalized : options.normalizeText = false ∨ isFree kind = false)
    (none : typed? kind raw = none) : Settled options kind (tidied options kind raw) := by
  cases kind with
  | email | url | id =>
    exact ⟨(isNullLike_trim options raw).trans present, rfl, Text.trim_trim raw⟩
  | text | category | unknown =>
    have hplain : options.normalizeText = false := unnormalized.resolve_right nofun
    rw [tidied_of_plain rfl hplain]
    exact ⟨present, none, tidied_of_plain rfl hplain⟩
  | number | integer | float | date | boolean | null => exact ⟨present, none, rfl⟩

/-- The kinds that two passes can see in a column whose texts are not normalized. -/
theorem settled_tidied_iff (present : options.isNullLike (.text raw) = false)
    (kinds : options.normalizeText = false ∨ isFree first = false →
      second = first ∨ first = .integer ∧ second = .boolean ∨ first = .number ∧ second = .integer) :
    (typed? first raw = none → Settled options second (tidied options first raw)) ↔
      Lasts options first second raw := by
  by_cases hnormal : options.normalizeText = true ∧ isFree first = true
  · obtain ⟨hnormal, hfree⟩ := hnormal
    rw [tidied_of_isFree hfree hnormal]
    constructor
    · intro h
      refine ⟨fun _ _ => h (typed?_of_isFree hfree), ?_⟩
      rintro rfl
      cases hfree
    · intro h _
      exact h.1 hnormal hfree
  · have hplain : options.normalizeText = false ∨ isFree first = false := by
      rwa [not_and_or, Bool.not_eq_true, Bool.not_eq_true] at hnormal
    have hlasts : Lasts options first second raw ↔ (first = .integer → second = .boolean →
        typed? .integer raw = none → typed? .boolean raw = none) :=
      and_iff_right fun h hfree => absurd ⟨h, hfree⟩ hnormal
    rw [hlasts]
    rcases kinds hplain with rfl | ⟨rfl, rfl⟩ | ⟨rfl, rfl⟩
    · refine iff_of_true (settled_tidied present hplain) ?_
      rintro rfl hother
      cases hother
    · constructor
      · intro h _ _ hnone
        exact (h hnone).2.1
      · intro h hnone
        exact ⟨present, h rfl rfl hnone, rfl⟩
    · refine iff_of_true (fun hnone => ⟨present, ?_, rfl⟩) (fun h => by cases h)
      simp only [typed?, Option.map_eq_none_iff] at hnone ⊢
      exact hnone

/-- A second pass is without effect just if it leaves every cell as the first has made it. -/
theorem clean_clean_iff_stays (options : CleanOptions) (some : rows ≠ []) :
    ((clean options (clean options rows).rows).rows = (clean options rows).rows ∧
        (clean options (clean options rows).rows).report.typeConversions = 0 ∧
        (clean options (clean options rows).rows).report.textNormalized = 0) ↔
      ∀ row ∈ rows, ∀ column ∈ columnsOf rows, Stays options (kindOf options rows column)
        (kindOf options (clean options rows).rows column) (row.value column) := by
  have hagain (row : Row) {column : String} (hcolumn : column ∈ columnsOf rows) :=
    @cleaned_again options rows column (clean options rows).rows row hcolumn
  -- the rows, the conversions and the normalizations are compared cell by cell
  rw [rows_clean_clean_iff options some, typeConversions_eq_zero, textNormalized_eq_zero,
    columnsOf_clean options some, forall_mem_rows_clean, forall_mem_rows_clean]
  constructor
  · rintro ⟨hvalues, hconverted, hnormalized⟩ row hrow column hcolumn
    have hvalue := hvalues row hrow column hcolumn
    have hconvert := hconverted row hrow column hcolumn
    have hnormalize := hnormalized row hrow column hcolumn
    rw [hagain row hcolumn] at hvalue hconvert hnormalize
    exact ⟨hvalue, hconvert, hnormalize⟩
  · intro h
    refine ⟨?_, ?_, ?_⟩ <;> intro row hrow column hcolumn <;> rw [hagain row hcolumn]
    · exact (h row hrow column hcolumn).1
    · exact (h row hrow column hcolumn).2.1
    · exact (h row hrow column hcolumn).2.2

/-- A second pass over a dataset is without effect just if all texts of the dataset last. -/
theorem clean_clean_iff (options : CleanOptions) (rows : Dataset) :
    ((clean options (clean options rows).rows).rows = (clean options rows).rows ∧
        (clean options (clean options rows).rows).report.typeConversions = 0 ∧
        (clean options (clean options rows).rows).report.textNormalized = 0) ↔
      ∀ row ∈ rows, ∀ column ∈ columnsOf rows, ∀ raw, row.value column = .text raw →
        options.isNullLike (.text raw) = false →
          Lasts options (kindOf options rows column)
            (kindOf options (clean options rows).rows column) raw := by
  by_cases hempty : rows = []
  · subst hempty
    exact iff_of_true ⟨rfl, rfl, rfl⟩ (by simp)
  rw [clean_clean_iff_stays options hempty]
  refine forall₂_congr fun row _ => forall₂_congr fun column hcolumn => ?_
  rw [stays_iff]
  refine forall₂_congr fun raw hraw => ?_
  rw [hraw]
  refine forall_congr' fun hpresent => ?_
  exact settled_tidied_iff hpresent (kindOf_clean_cases hcolumn)

/-- A number in tags: free text that normalizing makes a numeral of. -/
def taggedNumber : Dataset := [Row.ofCells [("n", .text "<b>5</b>")]]

theorem clean_clean_taggedNumber :
    ¬((clean {} (clean {} taggedNumber).rows).rows = (clean {} taggedNumber).rows ∧
      (clean {} (clean {} taggedNumber).rows).report.typeConversions = 0 ∧
      (clean {} (clean {} taggedNumber).rows).report.textNormalized = 0) := by
  have hconverted : (clean {} (clean {} taggedNumber).rows).report.typeConversions = 1 := by
    decide +kernel
  rintro ⟨-, hnone, -⟩
  rw [hconverted] at hnone
  cases hnone

end TableTalk.Cleaning
