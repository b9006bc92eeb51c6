import TableTalk.Document.Basic

/-!
# Records

A record is read from named members, where unknown names are passed over and a
known name may occur only once, or from a list that gives the fields in order.
-/

namespace TableTalk

/-- The names under which a field may occur; the first is its own. -/
abbrev FieldNames := List String

/-- The fields of a record that are present, under their own names. -/
structure Record (δ : Type) where
  /-- Whether the fields were given in order and without names. -/
  byPosition : Bool
  fields : List (String × δ)

namespace Record

variable {δ : Type}

/-- The names of the field that a key picks. -/
def fieldOf? (names : List FieldNames) : Document.Key → Option FieldNames
  | .name key => names.find? fun field => field.contains key
  | .position index => names[index]?

/-- The own name of the field that a key picks. -/
def ownName? (names : List FieldNames) (key : Document.Key) : Option String :=
  (fieldOf? names key).bind List.head?

/-- Keeps the members with known names; fails if one field is given twice. -/
def ofMembers? (names : List FieldNames) : List (Document.Key × δ) → Option (List (String × δ))
  | [] => some []
  | (key, node) :: members => do
    let rest ← ofMembers? names members
    match ownName? names key with
    | some name => if (rest.map Prod.fst).contains name then none else some ((name, node) :: rest)
    | none => some rest

/-- Names the items of a list; fails if there are more items than fields. -/
def ofItems? (names : List FieldNames) (items : List δ) : Option (List (String × δ)) :=
  if names.length < items.length then none
  else some ((names.filterMap List.head?).zip items)

/-- Reads the fields of a record that are given by name. -/
def ofNamed? [Document δ] (names : List FieldNames) (node : δ) : Option (Record δ) := do
  let members ← Document.members? node
  let fields ← ofMembers? names members
  pure ⟨false, fields⟩

/-- Reads the fields of a record with these names. -/
def read? [Document δ] (names : List FieldNames) (node : δ) : Option (Record δ) :=
  match Document.fields? node with
  | some items => (ofItems? names items).map (⟨true, ·⟩)
  | none => ofNamed? names node

/-- The field under a name. -/
def field? (record : Record δ) (name : String) : Option δ :=
  record.fields.lookup name

/-- A field that has to be there. -/
def required (record : Record δ) (name : String) (decode : δ → Option α) : Option α :=
  (record.field? name).bind decode

/-- A field that may be missing. -/
def withDefault (record : Record δ) (name : String) (default : α) (decode : δ → Option α) :
    Option α :=
  match record.field? name with
  | some node => decode node
  | none => some default

/-- A field that may be null, or missing where fields are named. -/
def optional [Document δ] (record : Record δ) (name : String) (decode : δ → Option α) :
    Option (Option α) :=
  match record.field? name with
  | some node => Document.nullable decode node
  | none => if record.byPosition then none else some none

end Record

end TableTalk
