import TableTalk.Proofs.Cleaning.Columns

/-!
# Rows in another order

A tally counts the cells of a sample without regard to their order. Where every column is
sampled in full, rows in another order give samples in another order, so the same kinds
are seen and every row is cleaned as before. Cleaning then commutes with reordering.
-/

namespace TableTalk

/-- The entries at some places, in the order of the places. -/
def reorder {α : Type} (order : List Nat) (entries : List α) : List α :=
  order.filterMap fun place => entries[place]?

section Reorder

variable {α β : Type} {order : List Nat} {entries : List α}

theorem reorder_map (order : List Nat) (f : α → β) (entries : List α) :
    reorder order (entries.map f) = (reorder order entries).map f := by
  simp only [reorder, List.getElem?_map, List.map_filterMap]

theorem reorder_range (entries : List α) :
    reorder (List.range entries.length) entries = entries := by
  induction entries with
  | nil => rfl
  | cons entry entries ih =>
    rw [reorder, List.length_cons, List.range_succ_eq_map, List.filterMap_cons,
      List.filterMap_map]
    exact congrArg (entry :: ·) ih

/-- All places in some order take every entry once. -/
theorem reorder_perm (all : order.Perm (List.range entries.length)) :
    (reorder order entries).Perm entries := by
  have hperm : (reorder order entries).Perm (reorder (List.range entries.length) entries) :=
    all.filterMap _
  rwa [reorder_range] at hperm

end Reorder

namespace Cleaning

variable {options : CleanOptions} {rows others : Dataset} {columns : List String}
  {sampled other : List Value}

theorem ofSample_perm (h : sampled.Perm other) : Tally.ofSample sampled = Tally.ofSample other := by
  have hdisplays : (sampled.map Value.display).eraseDups.length =
      (other.map Value.display).eraseDups.length := by
    refine List.Perm.length_eq ((List.perm_ext_iff_of_nodup (Listing.nodup_eraseDups _)
      (Listing.nodup_eraseDups _)).mpr fun text => ?_)
    rw [List.mem_eraseDups, List.mem_eraseDups]
    exact (h.map Value.display).mem_iff
  simp only [Tally.ofSample, h.length_eq, h.countP_eq, hdisplays]

theorem detect_perm (h : sampled.Perm other) : detect sampled = detect other := by
  rw [detect, detect, ofSample_perm h]

/-- The number of cells of a column that are not missing. -/
def presentCells (options : CleanOptions) (rows : Dataset) (column : String) : Nat :=
  rows.countP fun row => !options.isNullLike (row.value column)

/-- A column with few cells is sampled in full. -/
theorem sample_of_few {column : String}
    (few : presentCells options rows column ≤ max options.sampleSize 1) :
    sample options rows column =
      (rows.map fun row => row.value column).filter fun value => !options.isNullLike value := by
  rw [sample_eq, List.take_of_length_le]
  rwa [← List.countP_eq_length_filter, List.countP_map]

theorem profile_perm {column : String} (h : rows.Perm others)
    (few : presentCells options rows column ≤ max options.sampleSize 1) :
    profile options rows column = profile options others column := by
  have hcount : presentCells options rows column = presentCells options others column :=
    h.countP_eq _
  have hsample : (sample options rows column).Perm (sample options others column) := by
    rw [sample_of_few few, sample_of_few (hcount ▸ few)]
    exact (h.map _).filter _
  rw [profile, profile, detect_perm hsample]

theorem columnsOf_perm (h : rows.Perm others) (same : ∀ row ∈ rows, row.columns = columns) :
    columnsOf rows = columnsOf others := by
  cases rows with
  | nil => rw [List.nil_perm.mp h]
  | cons row rows =>
    have hsome : others ≠ [] := by
      rintro rfl
      exact absurd h (List.not_perm_cons_nil)
    have hdistinct : columns.Nodup := by
      rw [← same row List.mem_cons_self]
      exact row.distinct
    rw [columnsOf_of_same hdistinct (List.cons_ne_nil _ _) same,
      columnsOf_of_same hdistinct hsome fun other hother => same other (h.mem_iff.mpr hother)]

/-- Rows in another order are cleaned in the same way. -/
structure CleansAlike (options : CleanOptions) (rows others : Dataset) : Prop where
  columns : columnsOf rows = columnsOf others
  profiles : ∀ column ∈ columnsOf rows, profile options rows column = profile options others column

theorem cleansAlike_perm (h : rows.Perm others) (same : ∀ row ∈ rows, row.columns = columns)
    (few : ∀ column ∈ columns, presentCells options rows column ≤ max options.sampleSize 1) :
    CleansAlike options rows others := by
  refine ⟨columnsOf_perm h same, fun column hcolumn => profile_perm h (few column ?_)⟩
  obtain ⟨row, hrow, hin⟩ := List.mem_flatMap.mp (List.mem_eraseDups.mp hcolumn)
  exact same row hrow ▸ hin

namespace CleansAlike

theorem cleaned (h : CleansAlike options rows others) (row : Row) {column : String}
    (hcolumn : column ∈ columnsOf rows) :
    cleaned options rows row column = Cleaning.cleaned options others row column := by
  rw [Cleaning.cleaned, Cleaning.cleaned, kindOf, kindOf, h.profiles column hcolumn]

theorem cleanedRow (h : CleansAlike options rows others) :
    cleanedRow options rows = Cleaning.cleanedRow options others := by
  funext row
  rw [Cleaning.cleanedRow, Cleaning.cleanedRow, ← h.columns]
  congr 1
  exact List.map_congr_left fun column hcolumn => by rw [h.cleaned row hcolumn]

theorem map_profile (h : CleansAlike options rows others) :
    (clean options rows).profiles = (clean options others).profiles := by
  show (columnsOf rows).map _ = (columnsOf others).map _
  rw [← h.columns]
  exact List.map_congr_left h.profiles

/-- The report counts rows, columns and changes without regard to the order of the rows. -/
theorem report (h : CleansAlike options rows others) (perm : rows.Perm others) :
    (clean options rows).report = (clean options others).report := by
  have hchanges : (changes options rows).Perm (changes options others) := by
    rw [changes, changes, ← h.columns]
    refine (perm.flatMap_right _).trans (List.Perm.of_eq ?_)
    refine List.flatMap_congr fun row _ => List.map_congr_left fun column hcolumn => ?_
    rw [h.cleaned row hcolumn]
  simp only [report_clean, perm.length_eq, h.columns, hchanges.count_eq]

end CleansAlike

/-- Where all rows have the same columns, and every column is sampled in full, cleaning commutes
with reordering the rows. -/
theorem clean_reorder (options : CleanOptions) (columns : List String) (rows : Dataset)
    (order : List Nat) (all : order.Perm (List.range rows.length))
    (same : ∀ row ∈ rows, row.columns = columns)
    (few : ∀ column ∈ columns, presentCells options rows column ≤ max options.sampleSize 1) :
    (clean options (reorder order rows)).rows = reorder order (clean options rows).rows ∧
    (clean options (reorder order rows)).profiles = (clean options rows).profiles ∧
    (clean options (reorder order rows)).report = (clean options rows).report := by
  have hperm : rows.Perm (reorder order rows) := (reorder_perm all).symm
  have halike : CleansAlike options rows (reorder order rows) := cleansAlike_perm hperm same few
  refine ⟨?_, halike.map_profile.symm, (halike.report hperm).symm⟩
  rw [rows_clean, rows_clean, ← halike.cleanedRow, reorder_map]

/-- Three visits, one of them without a day. -/
def visits : Dataset :=
  [Row.ofCells [("day", .text "2024-01-05"), ("guests", .text "12")],
    Row.ofCells [("day", .text "n/a"), ("guests", .text "few")],
    Row.ofCells [("day", .text "2024-01-03"), ("guests", .text "7")]]

theorem visits_reordered :
    let options : CleanOptions := { sampleSize := 3 }
    ([2, 0, 1].Perm (List.range visits.length) ∧
      (∀ row ∈ visits, row.columns = ["day", "guests"]) ∧
      ∀ column ∈ ["day", "guests"],
        presentCells options visits column ≤ max options.sampleSize 1) ∧
    (clean options (reorder [2, 0, 1] visits)).rows =
      reorder [2, 0, 1] (clean options visits).rows ∧
    (clean options (reorder [2, 0, 1] visits)).profiles = (clean options visits).profiles ∧
    (clean options (reorder [2, 0, 1] visits)).report = (clean options visits).report := by
  intro options
  have hall : [2, 0, 1].Perm (List.range visits.length) := by decide
  have hsame : ∀ row ∈ visits, row.columns = ["day", "guests"] := by decide
  have hfew : ∀ column ∈ ["day", "guests"],
      presentCells options visits column ≤ max options.sampleSize 1 := by decide +kernel
  exact ⟨⟨hall, hsame, hfew⟩, clean_reorder options ["day", "guests"] visits _ hall hsame hfew⟩

end Cleaning

end TableTalk
