import Mathlib.Data.List.Forall2
import TableTalk.Delimited
import TableTalk.Proofs.Rows

/-!
# Rows of delimited text

Every record after the first becomes a row, in order. Its fields are inserted one after the other
under the names of the header, and a row has a column once. So a field is kept unless its name
stands in the header again further behind, and all fields are kept just if no name is repeated.
-/

namespace TableTalk.Delimited

variable {header record : List String} {body : List (List String)}

/-- The row of a record. -/
def rowOf (header record : List String) : Row :=
  .ofCells (header.zip (record.map .text))

/-- What a row has of a record: every name once, as it is first seen, with the field under its last
occurrence. These are all fields in their order just if no name is repeated. -/
structure KeepsLast (header record : List String) (row : Row) : Prop where
  columns : row.columns = header.eraseDups
  last : ∀ i name field, header[i]? = some name → record[i]? = some field →
    name ∉ header.drop (i + 1) → row.get? name = some (.text field)
  whole_iff : row.cells = header.zip (record.map .text) ↔ header.Nodup

section Records

variable (even : record.length = header.length)
include even

theorem map_fst_zip_fields : (header.zip (record.map Value.text)).map Prod.fst = header :=
  List.map_fst_zip (Nat.le_of_eq (even.symm.trans (List.length_map _).symm))

theorem columns_rowOf : (rowOf header record).columns = header.eraseDups := by
  rw [rowOf, Row.columns_ofCells, map_fst_zip_fields even, addColumns_nil]

theorem get?_rowOf {i : ℕ} {name field : String} (hname : header[i]? = some name)
    (hfield : record[i]? = some field) (last : name ∉ header.drop (i + 1)) :
    (rowOf header record).get? name = some (.text field) := by
  obtain ⟨hi, rfl⟩ := List.getElem?_eq_some_iff.mp hname
  obtain ⟨hi', rfl⟩ := List.getElem?_eq_some_iff.mp hfield
  have hnames := map_fst_zip_fields even
  have hlength : i < (header.zip (record.map Value.text)).length := by
    rwa [← List.length_map Prod.fst, hnames]
  have hsplit := List.drop_eq_getElem_cons hlength
  rw [List.getElem_zip, List.getElem_map] at hsplit
  rw [rowOf, Row.ofCells, ← List.take_append_drop i (header.zip (record.map Value.text)), hsplit]
  refine Row.get?_insertAll_of_last _ ?_
  rwa [List.map_drop, hnames]

theorem cells_rowOf_iff :
    (rowOf header record).cells = header.zip (record.map .text) ↔ header.Nodup := by
  constructor
  · intro h
    have hdistinct := (rowOf header record).distinct
    rwa [h, map_fst_zip_fields even] at hdistinct
  · intro distinct
    exact Row.cells_ofCells (by rwa [map_fst_zip_fields even])

theorem keepsLast_rowOf : KeepsLast header record (rowOf header record) where
  columns := columns_rowOf even
  last _ _ _ := get?_rowOf even
  whole_iff := cells_rowOf_iff even

end Records

theorem rowsOf_eq_ok (even : ∀ record ∈ body, record.length = header.length) (count : ℕ) :
    rowsOf header count body = .ok (body.map (rowOf header)) := by
  induction body generalizing count with
  | nil => rfl
  | cons record body ih =>
    obtain ⟨hrecord, hbody⟩ := List.forall_mem_cons.mp even
    rw [rowsOf, if_pos hrecord, ih hbody]
    rfl

theorem read_eq_rowsOf (delimiter : Char) (text : String) :
    read delimiter text =
      rowsOf ((records delimiter text).headD []) 0 (records delimiter text).tail := by
  rw [read]
  cases records delimiter text <;> rfl

/-- If all records of a text have as many fields as the header, there is a row for every one of them,
in order, and it has the field under the last occurrence of every name. No field is lost just if the
header has no name twice. -/
theorem rows_keep_last_fields (delimiter : Char) (text : String) :
    let header := (records delimiter text).headD []
    let body := (records delimiter text).tail
    (∀ record ∈ body, record.length = header.length) →
      ∃ rows, read delimiter text = .ok rows ∧ List.Forall₂ (KeepsLast header) body rows := by
  intro header body even
  refine ⟨_, (read_eq_rowsOf delimiter text).trans (rowsOf_eq_ok even 0), ?_⟩
  rw [List.forall₂_map_right_iff, List.forall₂_same]
  exact fun record h => keepsLast_rowOf (even record h)

/-- Of two prices under one name the second is kept, in the place of the first. -/
theorem second_price_kept :
    let text := "price;item;price\n1;\"a;b\";2\n"
    let header := ["price", "item", "price"]
    let record := ["1", "a;b", "2"]
    records ';' text = [header, record] ∧ record.length = header.length ∧
    "price" ∉ header.drop 3 ∧ ¬header.Nodup ∧
    ∃ row, read ';' text = .ok [row] ∧ row.columns = ["price", "item"] ∧
      row.get? "price" = some (.text "2") ∧ row.cells ≠ header.zip (record.map .text) := by
  intro text header record
  have hrecords : records ';' text = [header, record] := by decide +kernel
  have even : record.length = header.length := rfl
  have last : "price" ∉ header.drop 3 := by decide
  have repeated : ¬header.Nodup := by decide
  obtain ⟨rows, hread, hrows⟩ := rows_keep_last_fields ';' text (by
    rw [hrecords]
    exact List.forall_mem_singleton.mpr even)
  rw [hrecords, List.headD_cons, List.tail_cons, List.forall₂_cons_left_iff] at hrows
  obtain ⟨row, rest, hrow, hrest, rfl⟩ := hrows
  obtain rfl := List.forall₂_nil_left_iff.mp hrest
  exact ⟨hrecords, even, last, repeated, row, hread, hrow.columns, hrow.last 2 _ _ rfl rfl last,
    mt hrow.whole_iff.mp repeated⟩

/-- The first field of a record with a repeated name is in no cell of its row. -/
theorem repeated_name_loses_field :
    let text := "a,a\n1,2\n"
    let row : Row := .ofCells [("a", .text "2")]
    records ',' text = [["a", "a"], ["1", "2"]] ∧ read ',' text = .ok [row] ∧
    row.size ≠ 2 ∧ Value.text "1" ∉ row.cells.map Prod.snd := by
  decide +kernel

end TableTalk.Delimited
