import Mathlib.Data.List.Basic
import TableTalk.Decimal.Binary64
import TableTalk.Json.Document

/-!
# What JSON documents carry

The text of a document has no spelling for a number that is not finite and writes
null in its place. All else is carried over, and so it is when a part of a document is
kept as content until its kind is known. Both ways are the same to the readers of
records: what a reader makes of a value that was written is decided for both at once.
-/

namespace TableTalk

namespace Json

mutual

/-- The tree that the text of a document has. -/
def asWritten : Json → Json
  | float x => if Decimal.isFinite x then .float x else .null
  | array items => .array (itemsAsWritten items)
  | object members => .object (membersAsWritten members)
  | unreadable => .null
  | other => other

def itemsAsWritten : List Json → List Json
  | [] => []
  | item :: items => asWritten item :: itemsAsWritten items

def membersAsWritten : List (String × Json) → List (String × Json)
  | [] => []
  | (name, value) :: members => (name, asWritten value) :: membersAsWritten members

end

mutual

/-- The content that is kept of a document. -/
def contentOf : Json → Content
  | null | unreadable => .null
  | bool b => .bool b
  | int n => wholeContent n
  | float x => if Decimal.isFinite x then .float x else .null
  | text s => .text s
  | array items => .sequence (itemContentsOf items)
  | object members => .mapping (memberContentsOf members)

def itemContentsOf : List Json → List Content
  | [] => []
  | item :: items => contentOf item :: itemContentsOf items

def memberContentsOf : List (String × Json) → List (Content × Content)
  | [] => []
  | (name, value) :: members => (.text name, contentOf value) :: memberContentsOf members

end

theorem itemsAsWritten_eq (items : List Json) : itemsAsWritten items = items.map asWritten := by
  induction items with
  | nil => rfl
  | cons item items ih => rw [itemsAsWritten, ih, List.map_cons]

theorem membersAsWritten_eq (members : List (String × Json)) :
    membersAsWritten members = members.map fun member => (member.1, asWritten member.2) := by
  induction members with
  | nil => rfl
  | cons member members ih => rw [membersAsWritten, ih, List.map_cons]

theorem itemContentsOf_eq (items : List Json) : itemContentsOf items = items.map contentOf := by
  induction items with
  | nil => rfl
  | cons item items ih => rw [itemContentsOf, ih, List.map_cons]

theorem memberContentsOf_eq (members : List (String × Json)) :
    memberContentsOf members =
      members.map fun member => (Content.text member.1, contentOf member.2) := by
  induction members with
  | nil => rfl
  | cons member members ih => rw [memberContentsOf, ih, List.map_cons]

mutual

/-- A document that was written can be kept as content. -/
theorem content?_asWritten : ∀ json : Json, content? (asWritten json) = some (contentOf json)
  | null | bool _ | int _ | text _ | unreadable => rfl
  | float x => by
    rw [asWritten, contentOf]
    split <;> rfl
  | array items => by
    rw [asWritten, contentOf, content?, itemContents?_asWritten items, Option.map_some]
  | object members => by
    rw [asWritten, contentOf, content?, memberContents?_asWritten members, Option.map_some]

theorem itemContents?_asWritten :
    ∀ items : List Json, itemContents? (itemsAsWritten items) = some (itemContentsOf items)
  | [] => rfl
  | item :: items => by
    rw [itemsAsWritten, itemContents?, content?_asWritten item, itemContents?_asWritten items]
    rfl

theorem memberContents?_asWritten : ∀ members : List (String × Json),
    memberContents? (membersAsWritten members) = some (memberContentsOf members)
  | [] => rfl
  | (name, value) :: members => by
    rw [membersAsWritten, memberContents?, content?_asWritten value,
      memberContents?_asWritten members]
    rfl

end

/-- Whether the value is written as null. -/
def isWrittenNull : Json → Bool
  | null | unreadable => true
  | float x => !Decimal.isFinite x
  | _ => false

end Json

theorem Content.members?_mapping (contentOf : Json → Content) (members : List (String × Json)) :
    (Content.mapping (members.map fun member => (.text member.1, contentOf member.2))).members? =
      some (members.map fun member => (.name member.1, contentOf member.2)) := by
  rw [Content.members?]
  induction members with
  | nil => rfl
  | cons member members ih =>
    rw [List.map_cons, List.mapM_cons, ih]
    rfl

/-- A way in which documents are carried from a writer to a reader: every value is seen as what it
was written as. -/
structure Carries {δ : Type} [Document δ] (carry : Json → δ) : Prop where
  isNull : ∀ json, Document.isNull (carry json) = json.isWrittenNull
  bool : ∀ b, Document.bool? (carry (.bool b)) = some b
  natural : ∀ n : Nat, Document.natural? (carry (.ofNat n)) = some n
  float : ∀ x, Document.float? (carry (.float x)) = if Decimal.isFinite x then some x else none
  text : ∀ s, Document.text? (carry (.text s)) = some s
  key : ∀ s, Document.key? (carry (.text s)) = some (.name s)
  items : ∀ items, Document.items? (carry (.array items)) = some (items.map carry)
  fields : ∀ members, Document.fields? (carry (.object members)) = none
  members : ∀ members, Document.members? (carry (.object members)) =
    some (members.map fun member => (.name member.1, carry member.2))
  content : ∀ json, Document.content? (carry json) = some json.contentOf

theorem carries_asWritten : Carries Json.asWritten where
  isNull json := by
    cases json with
    | float x =>
      rw [Json.asWritten, Json.isWrittenNull]
      split <;> simp_all [Document.isNull, Json.isNull]
    | _ => rfl
  bool _ := rfl
  natural n := by
    change (if 0 ≤ (n : Int) then some (n : Int).toNat else none) = some n
    rw [if_pos (Int.natCast_nonneg n), Int.toNat_natCast]
  float x := by
    rw [Json.asWritten]
    split <;> rfl
  text _ := rfl
  key _ := rfl
  items items := congrArg some (Json.itemsAsWritten_eq items)
  fields _ := rfl
  members members := by
    rw [Json.asWritten, Json.membersAsWritten_eq]
    change some (List.map _ (List.map _ members)) = _
    rw [List.map_map]
    rfl
  content := Json.content?_asWritten

theorem carries_contentOf : Carries Json.contentOf where
  isNull json := by
    cases json with
    | float x =>
      rw [Json.contentOf, Json.isWrittenNull]
      split <;> simp_all [Document.isNull, Content.isNull]
    | int n =>
      rw [Json.contentOf, Json.wholeContent]
      split <;> rfl
    | _ => rfl
  bool _ := rfl
  natural n := by
    rw [Json.ofNat, Json.contentOf, Json.wholeContent, if_pos (Int.natCast_nonneg n)]
    rfl
  float x := by
    rw [Json.contentOf]
    split <;> rfl
  text _ := rfl
  key _ := rfl
  items items := congrArg some (Json.itemContentsOf_eq items)
  fields _ := rfl
  members members := by
    rw [Json.contentOf, Json.memberContentsOf_eq]
    exact Content.members?_mapping Json.contentOf members
  content _ := rfl

section Records

variable {δ : Type}

/-- Keys that are the own names of fields, each given once. -/
def OwnNames (names : List FieldNames) (keys : List String) : Prop :=
  keys.Nodup ∧ ∀ key ∈ keys, Record.ownName? names (.name key) = some key

instance (names : List FieldNames) (keys : List String) : Decidable (OwnNames names keys) :=
  inferInstanceAs (Decidable (_ ∧ _))

theorem ofMembers?_of_own {names : List FieldNames} {members : List (String × δ)}
    (own : OwnNames names (members.map Prod.fst)) :
    Record.ofMembers? names (members.map fun member => (.name member.1, member.2)) =
      some members := by
  induction members with
  | nil => rfl
  | cons member members ih =>
    obtain ⟨distinct, found⟩ := own
    rw [List.map_cons, List.nodup_cons] at distinct
    have hrest := ih ⟨distinct.2, fun key hkey => found key (List.mem_cons_of_mem _ hkey)⟩
    have habsent : (members.map Prod.fst).contains member.1 = false := by simpa using distinct.1
    have hown : Record.ownName? names (.name member.1) = some member.1 :=
      found member.1 List.mem_cons_self
    simp only [List.map_cons, Record.ofMembers?, hrest, hown, Option.bind_eq_bind,
      Option.bind_some, habsent, Bool.false_eq_true, ↓reduceIte]

/-- The record of the members of an object. -/
def Record.carried (carry : Json → δ) (members : List (String × Json)) : Record δ :=
  ⟨false, members.map fun member => (member.1, carry member.2)⟩

theorem Record.field?_carried (carry : Json → δ) (members : List (String × Json)) (name : String) :
    (Record.carried carry members).field? name = (members.lookup name).map carry := by
  rw [Record.field?, Record.carried]
  induction members with
  | nil => rfl
  | cons member members ih =>
    rw [List.map_cons, List.lookup_cons, List.lookup_cons, ih]
    split <;> rfl

section Fields

variable {α : Type} (carry : Json → δ) (members : List (String × Json)) (name : String)
  (decode : δ → Option α)

@[simp]
theorem Record.required_carried :
    (Record.carried carry members).required name decode =
      (members.lookup name).bind fun json => decode (carry json) := by
  rw [Record.required, Record.field?_carried, Option.bind_map]
  rfl

@[simp]
theorem Record.withDefault_carried (default : α) :
    (Record.carried carry members).withDefault name default decode =
      match members.lookup name with
      | some json => decode (carry json)
      | none => some default := by
  rw [Record.withDefault, Record.field?_carried]
  cases members.lookup name <;> rfl

@[simp]
theorem Record.optional_carried [Document δ] :
    (Record.carried carry members).optional name decode =
      match members.lookup name with
      | some json => Document.nullable decode (carry json)
      | none => some none := by
  rw [Record.optional, Record.field?_carried]
  cases members.lookup name <;> rfl

end Fields

variable [Document δ] {carry : Json → δ} (carries : Carries carry) {names : List FieldNames}
  {members : List (String × Json)} {keys : List String}
include carries

theorem Carries.ofNamed?_object (own : OwnNames names keys) (named : members.map Prod.fst = keys) :
    Record.ofNamed? names (carry (.object members)) = some (.carried carry members) := by
  have hfields : Record.ofMembers? names
      (members.map fun member => (.name member.1, carry member.2)) =
        some (members.map fun member => (member.1, carry member.2)) := by
    have hnames : (members.map fun member => (member.1, carry member.2)).map Prod.fst = keys :=
      List.map_map.trans named
    have h := ofMembers?_of_own (hnames ▸ own)
    rwa [List.map_map] at h
  simp only [Record.ofNamed?, carries.members, Option.bind_eq_bind, Option.bind_some, hfields,
    Option.pure_def, Record.carried]

theorem Carries.read?_object (own : OwnNames names keys) (named : members.map Prod.fst = keys) :
    Record.read? names (carry (.object members)) = some (.carried carry members) := by
  rw [Record.read?, carries.fields]
  exact carries.ofNamed?_object own named

end Records

section Restoring

variable {δ : Type} [Document δ] {carry : Json → δ} {α : Type}

/-- Reading gives back just those values that meet a condition. -/
def Restores (carry : Json → δ) (encode : α → Json) (decode : δ → Option α) (kept : α → Prop) :
    Prop :=
  ∀ a, decode (carry (encode a)) = some a ↔ kept a

variable (carries : Carries carry)
include carries

theorem Carries.restores_text : Restores carry .text Document.text? fun _ => True := fun s =>
  iff_true_intro (carries.text s)

theorem Carries.restores_float :
    Restores carry .float Document.float? fun x => Decimal.isFinite x = true := by
  intro x
  rw [carries.float]
  split <;> simp_all

theorem Carries.named (table : List (String × α)) {name : String} {a : α}
    (found : table.lookup name = some a) : Document.named? table (carry (.text name)) = some a := by
  rw [Document.named?, Document.name?, carries.text]
  exact found

theorem Carries.restores_named {table : List (String × α)} {name : α → String}
    (found : ∀ a, table.lookup (name a) = some a) :
    Restores carry (fun a => .text (name a)) (Document.named? table) fun _ => True := fun a =>
  iff_true_intro (carries.named table (found a))

theorem Carries.restores_list {encode : α → Json} {decode : δ → Option α} {kept : α → Prop}
    (restores : Restores carry encode decode kept) :
    Restores carry (Json.ofList encode) (Document.list? decode) fun as => ∀ a ∈ as, kept a := by
  intro as
  rw [Document.list?, Json.ofList, carries.items, Option.bind_some, List.map_map]
  induction as with
  | nil => simp
  | cons a as ih =>
    simp only [List.map_cons, List.mapM_cons, Option.bind_eq_bind, Option.bind_eq_some_iff,
      Option.pure_def, Option.some.injEq, List.cons.injEq, List.forall_mem_cons, ← ih,
      ← restores a, Function.comp_apply]
    constructor
    · rintro ⟨first, hfirst, rest, hrest, rfl, rfl⟩
      exact ⟨hfirst, hrest⟩
    · rintro ⟨hfirst, hrest⟩
      exact ⟨a, hfirst, as, hrest, rfl, rfl⟩

theorem Carries.restores_option {encode : α → Json} {decode : δ → Option α} {kept : α → Prop}
    (shown : ∀ a, (encode a).isWrittenNull = false) (restores : Restores carry encode decode kept) :
    Restores carry (Json.ofOption encode) (Document.nullable decode) fun a => ∀ b ∈ a, kept b := by
  intro a
  cases a with
  | none => simp [Document.nullable, Json.ofOption, carries.isNull, Json.isWrittenNull]
  | some a =>
    simp [Document.nullable, Json.ofOption, carries.isNull, shown, restores a]

theorem Carries.optional_text (a : Option String) :
    Document.nullable Document.text? (carry (Json.ofOption .text a)) = some a :=
  (carries.restores_option (fun _ => rfl) carries.restores_text a).mpr fun _ _ => trivial

end Restoring

end TableTalk
