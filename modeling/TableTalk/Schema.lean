import TableTalk.Cleaning.Kind
import TableTalk.Json.Document
import TableTalk.Row

/-!
# Schemas

Tables, or collections, with their columns, or fields. A column is a name alone
or a name with a declared type. Questions see the columns of all tables as one
list, in which the first declaration of a name counts.
-/

namespace TableTalk

/-- A column and its declared type. -/
structure Column where
  name : String
  declaredType : Option String := none
deriving DecidableEq, Inhabited

/-- A table and its columns. -/
structure Table where
  name : String
  columns : List Column
deriving DecidableEq, Inhabited

/-- The tables that can be asked about. -/
structure Schema where
  tables : List Table := []
deriving DecidableEq, Inhabited

/-- The kind that the declared type stands for. -/
def Column.kind? (column : Column) : Option ColumnKind :=
  column.declaredType.map ColumnKind.ofDeclared

namespace Schema

/-- One table with columns of no declared type. -/
def singleTable (name : String) (columns : List String) : Schema :=
  ⟨[⟨name, columns.map fun column => ⟨column, none⟩⟩]⟩

/-- One table with the columns of all rows, in the order in which they are first seen. -/
def ofRows (name : String) (rows : Dataset) : Schema :=
  singleTable name (rows.flatMap Row.columns).eraseDups

/-- The columns of all tables. -/
def allColumns (schema : Schema) : List Column :=
  schema.tables.flatMap Table.columns

/-- The names of the columns of all tables, each once. -/
def columnNames (schema : Schema) : List String :=
  (schema.allColumns.map Column.name).eraseDups

/-- The first column with a name. -/
def column? (schema : Schema) (name : String) : Option Column :=
  schema.allColumns.find? fun column => column.name == name

/-- The kind declared for a column. -/
def kind? (schema : Schema) (name : String) : Option ColumnKind :=
  (schema.column? name).bind Column.kind?

/-- Whether there are no columns. -/
def isEmpty (schema : Schema) : Bool :=
  schema.tables.all fun table => table.columns.isEmpty

end Schema

section Reading

variable {δ : Type} [Document δ]

/-- A column from its content: a text, or a record with a name and perhaps a type. -/
def Column.ofContent? (content : Content) : Option Column :=
  match content.text? with
  | some name => some ⟨name, none⟩
  | none => do
    let record ← Record.ofNamed? [["name"], ["type"]] content
    let name ← record.required "name" Document.text?
    let declaredType ← record.withDefault "type" none (Document.nullable Document.text?)
    pure ⟨name, declaredType⟩

/-- Reads a column. -/
def Column.read? (node : δ) : Option Column :=
  (Document.content? node).bind ofContent?

/-- Reads a table. -/
def Table.read? (node : δ) : Option Table := do
  let record ← Record.read? [["name", "collection"], ["columns", "fields"]] node
  let name ← record.required "name" Document.text?
  let columns ← record.withDefault "columns" [] (Document.list? Column.read?)
  pure ⟨name, columns⟩

/-- Reads a schema. -/
def Schema.read? (node : δ) : Option Schema := do
  let record ← Record.read? [["tables", "collections"]] node
  let tables ← record.withDefault "tables" [] (Document.list? Table.read?)
  pure ⟨tables⟩

end Reading

/-- The column as a JSON object. -/
def Column.toJson (column : Column) : Json :=
  .object
    (("name", .text column.name) ::
      match column.declaredType with
      | some type => [("type", .text type)]
      | none => [])

/-- The table as a JSON object. -/
def Table.toJson (table : Table) : Json :=
  .object [("name", .text table.name), ("columns", .ofList Column.toJson table.columns)]

/-- The schema as a JSON object. -/
def Schema.toJson (schema : Schema) : Json :=
  .object [("tables", .ofList Table.toJson schema.tables)]

end TableTalk
