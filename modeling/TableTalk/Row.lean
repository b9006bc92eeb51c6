import TableTalk.Value

/-!
# Rows

A row maps column names to values and keeps its columns in the order in which
they were first inserted. No name occurs twice: inserting under a name that is
there replaces its value in place.
-/

namespace TableTalk

/-- The cell list with `value` under `name`, in the place of the cell that has the name or at the
end. -/
def insertCell (name : String) (value : Value) : List (String × Value) → List (String × Value)
  | [] => [(name, value)]
  | cell :: cells =>
    if cell.1 = name then (name, value) :: cells else cell :: insertCell name value cells

theorem mem_names_insertCell {name other : String} {value : Value}
    {cells : List (String × Value)} :
    other ∈ (insertCell name value cells).map Prod.fst ↔
      other = name ∨ other ∈ cells.map Prod.fst := by
  induction cells with
  | nil => simp [insertCell]
  | cons cell cells ih =>
    by_cases h : cell.1 = name
    · simp only [insertCell, List.map_cons, List.mem_cons, h]
      grind
    · simp only [insertCell, if_neg h, List.map_cons, List.mem_cons, ih]
      grind

theorem nodup_insertCell (name : String) (value : Value) (cells : List (String × Value))
    (distinct : (cells.map Prod.fst).Nodup) :
    ((insertCell name value cells).map Prod.fst).Nodup := by
  induction cells with
  | nil => simp [insertCell]
  | cons cell cells ih =>
    simp only [List.map_cons, List.nodup_cons] at distinct
    by_cases h : cell.1 = name
    · simp only [insertCell, if_pos h, List.map_cons, List.nodup_cons]
      exact h ▸ distinct
    · simp only [insertCell, if_neg h, List.map_cons, List.nodup_cons, mem_names_insertCell]
      exact ⟨fun hmem => hmem.elim h distinct.1, ih distinct.2⟩

/-- Inserts a cell as `insertCell` does, and gives back the value that stood in its place. -/
def exchangeCell (name : String) (value : Value) :
    List (String × Value) → Option Value × List (String × Value)
  | [] => (none, [(name, value)])
  | cell :: cells =>
    if cell.1 = name then (some cell.2, (name, value) :: cells)
    else
      let (replaced, cells) := exchangeCell name value cells
      (replaced, cell :: cells)

theorem exchangeCell_snd (name : String) (value : Value) (cells : List (String × Value)) :
    (exchangeCell name value cells).2 = insertCell name value cells := by
  induction cells with
  | nil => rfl
  | cons cell cells ih =>
    rw [exchangeCell, insertCell]
    split
    · rfl
    · exact congrArg (cell :: ·) ih

/-- Cells in column order, each column once. -/
structure Row where
  cells : List (String × Value)
  distinct : (cells.map Prod.fst).Nodup
deriving DecidableEq

/-- The rows of a table or of a result. -/
abbrev Dataset := List Row

namespace Row

/-- The row without cells. -/
def empty : Row := ⟨[], .nil⟩

instance : Inhabited Row := ⟨empty⟩

/-- The value under a column, if the row has it. -/
def get? (row : Row) (column : String) : Option Value :=
  row.cells.lookup column

/-- The value under a column, null if the row lacks it. -/
def value (row : Row) (column : String) : Value :=
  (row.get? column).getD .null

/-- The column names in order. -/
def columns (row : Row) : List String :=
  row.cells.map Prod.fst

/-- Whether the row has a column. -/
def hasColumn (row : Row) (column : String) : Bool :=
  row.columns.contains column

/-- The number of cells. -/
def size (row : Row) : Nat :=
  row.cells.length

/-- Puts a value under a column, in place if the row has the column, else at the end. -/
def insert (row : Row) (column : String) (value : Value) : Row :=
  ⟨insertCell column value row.cells, nodup_insertCell column value row.cells row.distinct⟩

/-- Inserts a value and gives back the one that it replaces. -/
def exchange (row : Row) (column : String) (value : Value) : Option Value × Row :=
  ((exchangeCell column value row.cells).1, ⟨(exchangeCell column value row.cells).2, by
    rw [exchangeCell_snd]
    exact nodup_insertCell column value row.cells row.distinct⟩)

/-- Inserts cells one after the other. -/
def insertAll (row : Row) (cells : List (String × Value)) : Row :=
  cells.foldl (fun row cell => row.insert cell.1 cell.2) row

/-- The row that results from inserting cells in order. -/
def ofCells (cells : List (String × Value)) : Row :=
  empty.insertAll cells

/-- Changes every value, looking at its column. -/
def mapValues (f : String → Value → Value) (row : Row) : Row :=
  ⟨row.cells.map fun cell => (cell.1, f cell.1 cell.2), by
    simpa [Function.comp_def] using row.distinct⟩

/-- The row with exactly these columns, null where it had none. -/
def project (row : Row) (columns : List String) : Row :=
  ofCells (columns.map fun column => (column, row.value column))

/-- The row as a JSON object. -/
def toJson (row : Row) : Json :=
  .object (row.cells.map fun cell => (cell.1, cell.2.toJson))

/-- Reads the cells of a row from the members of a document. -/
def readCells? {δ : Type} [Document δ] : List (Document.Key × δ) → Option (List (String × Value))
  | [] => some []
  | (.name name, node) :: members => do
    let value ← Value.read? node
    let cells ← readCells? members
    pure ((name, value) :: cells)
  | (.position _, _) :: _ => none

/-- Reads a row, whose values stand under the names of columns; the last value under a name
counts. -/
def read? {δ : Type} [Document δ] (node : δ) : Option Row := do
  let members ← Document.members? node
  let cells ← readCells? members
  pure (ofCells cells)

end Row

end TableTalk
