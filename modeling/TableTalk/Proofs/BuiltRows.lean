import TableTalk.Proofs.Json.Rows

/-!
# Rows and what was inserted

However a row is built, out of pairs, from a document, as a projection of another row, and by more
insertions, it is what some insertions one after the other make of the empty row. Which ones these
are is kept in a log that knows nothing of rows, and the log says what the row holds: its columns in
the order in which they first occur, each with the value that occurs last.
-/

namespace TableTalk.Row

/-- What can be done to a row, or in its place. -/
inductive Edit
  /-- Puts a value under a column. -/
  | insert (column : String) (value : Value)
  /-- Starts again with pairs. -/
  | pairs (cells : List (String × Value))
  /-- Goes on with a projection. -/
  | project (columns : List String)
  /-- Starts again with the members of a document. -/
  | decode (document : Json)

/-- The row after an edit; nothing if a document cannot be read as a row. -/
def edit? (row : Row) : Edit → Option Row
  | .insert column value => some (row.exchange column value).2
  | .pairs cells => some (ofCells cells)
  | .project columns => some (row.project columns)
  | .decode document => read? document

/-- The row that edits make of the empty one. -/
def build? (edits : List Edit) : Option Row :=
  edits.foldlM edit? empty

/-- The value that a log has last under a name. -/
def lastIn (log : List (String × Value)) (name : String) : Option Value :=
  log.reverse.lookup name

/-- The log of insertions after an edit. -/
def Edit.log? (log : List (String × Value)) : Edit → Option (List (String × Value))
  | .insert column value => some (log ++ [(column, value)])
  | .pairs cells => some cells
  | .project columns => some (columns.map fun column => (column, (lastIn log column).getD .null))
  | .decode document => (Document.members? document).bind readCells?

theorem get?_ofCells (log : List (String × Value)) (column : String) :
    (ofCells log).get? column = lastIn log column := by
  induction log using List.reverseRecOn with
  | nil => rfl
  | append_singleton log cell ih =>
    have hinsert : ofCells (log ++ [cell]) = (ofCells log).insert cell.1 cell.2 :=
      insertAll_append empty log [cell]
    rw [hinsert, get?_insert, ih, lastIn, lastIn, List.reverse_concat, Listing.lookup_cons_eq]

/-- An edit does to a row what it does to the log of its insertions. -/
theorem edit?_ofCells (log : List (String × Value)) (e : Edit) :
    (ofCells log).edit? e = (e.log? log).map ofCells := by
  cases e with
  | insert column value =>
    rw [edit?, exchange_eq, Edit.log?, Option.map_some]
    exact congrArg some (insertAll_append empty log [(column, value)]).symm
  | pairs cells => rfl
  | project columns =>
    rw [edit?, Edit.log?, Option.map_some, project]
    simp only [value, get?_ofCells]
  | decode document =>
    rw [edit?, Edit.log?, read?]
    cases Document.members? document with
    | none => rfl
    | some members => exact Option.map_eq_bind.symm

/-- Edits do to a row what they do to the log of its insertions. -/
theorem foldlM_edit?_ofCells (log : List (String × Value)) (edits : List Edit) :
    edits.foldlM edit? (ofCells log) = (edits.foldlM Edit.log? log).map ofCells := by
  induction edits generalizing log with
  | nil => rfl
  | cons e edits ih =>
    rw [List.foldlM_cons, List.foldlM_cons, edit?_ofCells]
    cases e.log? log with
    | none => rfl
    | some next => exact ih next

theorem build?_eq_some_iff {edits : List Edit} {row : Row} :
    build? edits = some row ↔ ∃ log, edits.foldlM Edit.log? [] = some log ∧ ofCells log = row := by
  rw [build?, ← Option.map_eq_some_iff]
  exact iff_of_eq (congrArg (· = some row) (foldlM_edit?_ofCells [] edits))

/-- Rows are maps that keep the order of insertion. Whatever was done to build one, no column occurs
twice, the columns stand in the order in which they were first inserted, and each has the value that
was inserted last. An insertion gives back the value that it replaces; it leaves the other cells
alone, and the columns too unless its own is new and goes to the end. A projection has just the
columns that it names, each once, with the value of the row or null.

As a JSON value a row without dates and numbers that are not finite comes back as it was. Through a
JSON text its columns come back in their order, each with what its own value comes back as, and so
the row is the same just if the reader takes no float in it for another one. -/
theorem rows_keep_order_of_insertion {edits : List Edit} {row : Row}
    (built : build? edits = some row) :
    (∃ log, edits.foldlM Edit.log? [] = some log ∧
      row.columns = (log.map Prod.fst).eraseDups ∧
      ∀ column, row.get? column = lastIn log column) ∧
    row.columns.Nodup ∧
    (∀ column value, ∃ next, row.exchange column value = (row.get? column, next) ∧
      next.get? column = some value ∧
      (∀ other, other ≠ column → next.get? other = row.get? other) ∧
      next.columns = if column ∈ row.columns then row.columns else row.columns ++ [column]) ∧
    (∀ columns, (row.project columns).columns = columns.eraseDups ∧
      ∀ column ∈ columns,
        (row.project columns).get? column = some ((row.get? column).getD .null)) ∧
    (∀ back, row.throughJson = some back → back.columns = row.columns ∧
      ∀ column, back.get? column = (row.get? column).bind Value.throughJson) ∧
    ((∀ cell ∈ row.cells, cell.2.IsKept) →
      read? row.toJson.asWritten = some row ∧
      (row.throughJson = some row ↔ ∀ column x, row.get? column = some (.float x) →
        Json.read? (Json.floatText x) = some (.float x))) := by
  refine ⟨?_, row.columns_nodup, fun column value => ?_, fun columns => ⟨?_, fun column hmem => ?_⟩,
    fun back hback => ?_, fun kept => ⟨?_, ?_⟩⟩
  · obtain ⟨log, hlog, rfl⟩ := build?_eq_some_iff.mp built
    refine ⟨log, hlog, ?_, get?_ofCells log⟩
    rw [columns_ofCells, addColumns_nil]
  · refine ⟨row.insert column value, row.exchange_eq column value, ?_, fun other hother => ?_,
      row.columns_insert column value⟩
    · rw [get?_insert, if_pos rfl]
    · rw [get?_insert, if_neg hother]
  · rw [columns_project, addColumns_nil]
  · exact get?_insertAll_map empty hmem
  · rw [throughJson_eq] at hback
    exact columns_of_eachValue? hback
  · exact (carries_asWritten.restores_row row).mpr kept
  · rw [throughJson_eq, eachValue?_eq_self_iff]
    constructor
    · intro h column x hx
      have hmem := get?_eq_some_iff.mp hx
      exact ((Value.throughJson_eq_self_iff _).mp (h _ hmem)).2 x rfl
    · rintro h ⟨column, value⟩ hmem
      refine (Value.throughJson_eq_self_iff _).mpr ⟨kept _ hmem, ?_⟩
      rintro x rfl
      exact h column x (get?_eq_some_iff.mpr hmem)

/-- Edits of every kind, with names that come again. -/
def sampleEdits : List Edit :=
  [.pairs [("z", .null)], .decode (.object [("a", .int 1), ("b", .null), ("a", .text "x")]),
    .insert "c" (.float 2.5), .project ["c", "a", "d", "c"], .insert "a" (.boolean true)]

theorem edited_row_comes_back :
    let row := ofCells [("c", .float 2.5), ("a", .boolean true), ("d", .null)]
    build? sampleEdits = some row ∧ row.columns = ["c", "a", "d"] ∧ row.columns.Nodup ∧
      row.throughJson = some row := by
  intro row
  have hbuilt : build? sampleEdits = some row := by decide +kernel
  obtain ⟨-, distinct, -, -, -, htext⟩ := rows_keep_order_of_insertion hbuilt
  have hcells : row.cells = [("c", .float 2.5), ("a", .boolean true), ("d", .null)] := rfl
  have hfinite : Decimal.isFinite 2.5 = true := by decide +kernel
  have hkept : ∀ cell ∈ row.cells, cell.2.IsKept := by
    simp [hcells, Value.IsKept, hfinite]
  refine ⟨hbuilt, rfl, distinct, (htext hkept).2.mpr fun column x hx => ?_⟩
  have hmem := get?_eq_some_iff.mp hx
  obtain ⟨-, rfl⟩ : column = "c" ∧ x = 2.5 := by simpa [hcells] using hmem
  exact (Value.throughJson_float hfinite).mp (by decide +kernel)

/-- The reader can take a float for another one, and then its row does not come back. -/
theorem float_taken_for_another :
    let row := ofCells [("x", .float 97.15278068976325)]
    build? [.pairs [("x", .float 97.15278068976325)]] = some row ∧
    (∀ cell ∈ row.cells, cell.2.IsKept) ∧
    row.toJson.compact = "\x7b\"x\":97.15278068976325\x7d" ∧
    row.throughJson = some (ofCells [("x", .float 97.15278068976323)]) ∧
    row.throughJson ≠ some row := by
  intro row
  have hback : row.throughJson = some (ofCells [("x", .float 97.15278068976323)]) := by
    decide +kernel
  refine ⟨rfl, ?_, by decide +kernel, hback, ?_⟩
  · have hfinite : Decimal.isFinite 97.15278068976325 = true := by decide +kernel
    have hcells : row.cells = [("x", .float 97.15278068976325)] := rfl
    simp [hcells, Value.IsKept, hfinite]
  · rw [hback]
    decide +kernel

end TableTalk.Row
