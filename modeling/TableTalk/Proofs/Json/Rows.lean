import TableTalk.Proofs.Calendar.Written
import TableTalk.Proofs.Json.Intents
import TableTalk.Proofs.Json.Numbers
import TableTalk.Proofs.Rows

/-!
# Rows in documents

A row is an object in a document, with a member for every column. As a tree it comes back as it was
written, unless it holds a date or a number that is not finite. Through the text of a document it
goes cell by cell: every cell comes back just as its value would come back alone, and for a float
that depends on what the reader makes of its digits.
-/

namespace TableTalk

namespace Json.Reader

variable {rest : List Char} {n : NumberText}

/-- What begins neither with a gap nor with a bracket is a value without parts. -/
theorem value?_scalar {c : Char} {cs : List Char} (gap : isGap c = false) (array : c ≠ '[')
    (object : c ≠ '\x7b') (fuel depth : ℕ) :
    value? (fuel + 1) depth (c :: cs) = scalar? (c :: cs) := by
  have hskip : skipGap (c :: cs) = c :: cs := by
    rw [skipGap, List.dropWhile_cons_of_neg (by simp [gap])]
  rw [value?, hskip]
  split
  case h_1 h => exact absurd (List.cons.inj h).1 array
  case h_2 h => exact absurd (List.cons.inj h).1 object
  case h_3 => rfl

/-- A number is read where it stands in a document. -/
theorem value?_number (written : n.IsWritten) (ends : Ends rest) (fuel depth : ℕ) :
    value? (fuel + 1) depth (n.text ++ rest) = some (n.value, rest) := by
  have hnumber := NumberText.number?_text written ends
  obtain ⟨c, cs, hcons, hc⟩ : ∃ c cs, n.text ++ rest = c :: cs ∧ (c = '-' ∨ c.isDigit = true) := by
    obtain ⟨c, cs, hwhole⟩ := List.exists_cons_of_ne_nil written.whole.nonempty
    have hdigit : c.isDigit = true := written.whole.plain c (hwhole ▸ List.mem_cons_self)
    rw [NumberText.text]
    split
    · exact ⟨'-', n.body ++ rest, rfl, Or.inl rfl⟩
    · exact ⟨c, _, by rw [NumberText.body, hwhole]; rfl, Or.inr hdigit⟩
  have hother (d : Char) (minus : d ≠ '-') (digit : d.isDigit = false) : c ≠ d := by
    rcases hc with rfl | hc
    · exact minus.symm
    · exact Calendar.ne_of_isDigit hc digit
  have hgap : isGap c = false := by
    simp [isGap, hother ' ' (by decide) (by decide), hother '\t' (by decide) (by decide),
      hother '\n' (by decide) (by decide), hother '\r' (by decide) (by decide)]
  rw [hcons] at hnumber ⊢
  rw [value?_scalar hgap (hother _ (by decide) (by decide)) (hother _ (by decide) (by decide)),
    scalar?, hnumber]
  · rfl
  all_goals
    intro other h
    exact absurd (List.cons.inj h).1 (hother _ (by decide) (by decide))

theorem value?_null (rest : List Char) (fuel depth : ℕ) :
    value? (fuel + 1) depth ("null".toList ++ rest) = some (.null, rest) :=
  (value?_scalar rfl (by decide) (by decide) fuel depth).trans rfl

theorem value?_bool (b : Bool) (rest : List Char) (fuel depth : ℕ) :
    value? (fuel + 1) depth ((compact (.bool b)).toList ++ rest) = some (.bool b, rest) := by
  cases b
  · exact (value?_scalar rfl (by decide) (by decide) fuel depth).trans rfl
  · exact (value?_scalar rfl (by decide) (by decide) fuel depth).trans rfl

end Json.Reader

namespace Value

open Json (Ends compact)
open Json.Reader (value?)

/-- What the text of a value is read as. -/
def reading (value : Value) : Json :=
  (Json.read? value.toJson.compact).getD .unreadable

/-- The text of a value is read alike alone and in front of what may stand behind it. -/
theorem value?_reading (value : Value) {rest : List Char} (ends : Ends rest) (fuel depth : ℕ) :
    value? (fuel + 1) depth (value.toJson.compact.toList ++ rest) = some (value.reading, rest) := by
  have hread : ∃ json, ∀ {rest : List Char}, Ends rest → ∀ fuel depth,
      value? (fuel + 1) depth (value.toJson.compact.toList ++ rest) = some (json, rest) := by
    cases value with
    | null => exact ⟨.null, fun _ => Json.Reader.value?_null _⟩
    | boolean b => exact ⟨.bool b, fun _ => Json.Reader.value?_bool b _⟩
    | integer i =>
      rw [toJson, compact, Json.toList_toString]
      exact ⟨_, Json.Reader.value?_number (Json.isWritten_wholeText i.toInt)⟩
    | float x =>
      rw [toJson, compact, Json.floatText]
      split
      case isTrue =>
        obtain ⟨n, htext, hwritten, -⟩ := Json.exists_jsonText x
        rw [htext]
        exact ⟨n.value, Json.Reader.value?_number hwritten⟩
      case isFalse => exact ⟨.null, fun _ => Json.Reader.value?_null _⟩
    | text s => exact ⟨.text s, fun _ => Json.Reader.value?_quote s _⟩
    | date t => exact ⟨.text t.text, fun _ => Json.Reader.value?_quote t.text _⟩
  obtain ⟨json, hjson⟩ := hread
  have halone := hjson Json.ends_nil
  rw [List.append_nil] at halone
  have hreading : value.reading = json := by
    rw [reading, Json.read?, halone]
    rfl
  rw [hreading]
  exact hjson ends fuel depth

theorem read?_compact (value : Value) : Json.read? value.toJson.compact = some value.reading := by
  have halone := value.value?_reading Json.ends_nil
  simp only [List.append_nil] at halone
  rw [Json.read?, halone]
  rfl

theorem throughJson_eq (value : Value) : value.throughJson = read? value.reading := by
  rw [throughJson, read?_compact, Option.bind_some]

theorem reading_integer (i : Int64) : (integer i).reading = .int i.toInt := by
  have hnumber := Json.Reader.value?_number (Json.isWritten_wholeText i.toInt) Json.ends_nil
  rw [Json.value_wholeText, List.append_nil] at hnumber
  rw [reading, toJson, Json.read?, compact, Json.toList_toString, hnumber]
  rfl

theorem reading_text (s : String) : (text s).reading = .text s := by
  rw [reading, toJson, Json.read?_compact_text, Option.getD_some]

theorem reading_date (t : Calendar.Timestamp) : (date t).reading = .text t.text := by
  rw [reading, toJson, Json.read?_compact_text, Option.getD_some]

/-- What is neither a float nor a date comes back from its text. -/
theorem throughJson_of_not_float {value : Value} (kept : value.IsKept)
    (whole : ∀ x, value ≠ float x) : value.throughJson = some value := by
  have hreading : value.reading = value.toJson.asWritten := by
    cases value with
    | null => rfl
    | boolean b => cases b <;> rfl
    | integer i => exact reading_integer i
    | float x => exact absurd rfl (whole x)
    | text s => exact reading_text s
    | date t => exact reading_date t
  rw [throughJson_eq, hreading]
  exact (carries_asWritten.restores_value value).mpr kept

/-- A finite float comes back as a float or not at all, since its text has a fraction or an
exponent. -/
theorem throughJson_float {x y : Float} (finite : Decimal.isFinite x = true) :
    (float x).throughJson = some (float y) ↔ Json.read? (Json.floatText x) = some (.float y) := by
  obtain ⟨n, htext, hwritten, hfloat⟩ := Json.exists_jsonText x
  have hnumber := Json.Reader.value?_number hwritten Json.ends_nil
  rw [List.append_nil, ← htext] at hnumber
  have hread : Json.read? (Json.floatText x) = some n.value := by
    rw [Json.floatText, if_pos finite, Json.read?, hnumber]
    rfl
  have hthrough : (float x).throughJson = read? n.value := by
    rw [throughJson, toJson, compact, hread, Option.bind_some]
  rw [hread, hthrough, Json.NumberText.value, if_pos hfloat]
  cases n.float? with
  | none => exact iff_of_false (fun h => by cases h) (fun h => by cases h)
  | some z => simp [read?, Document.content?, Json.content?, ofContent?]

theorem throughJson_infinite {x : Float} (infinite : Decimal.isFinite x = false) :
    (float x).throughJson = some null := by
  rw [throughJson, toJson, compact, Json.floatText, if_neg (Bool.eq_false_iff.mp infinite)]
  rfl

/-- A value comes back from its text unless it is a date or a float that is not finite or that the
reader takes for another one. -/
theorem throughJson_eq_self_iff (value : Value) : value.throughJson = some value ↔
    value.IsKept ∧ ∀ x, value = float x → Json.read? (Json.floatText x) = some (.float x) := by
  cases value with
  | float x =>
    simp only [IsKept, float.injEq, forall_eq']
    cases finite : Decimal.isFinite x
    · rw [throughJson_infinite finite]
      exact iff_of_false (fun h => by cases h) fun h => Bool.false_ne_true h.1
    · rw [throughJson_float finite, and_iff_right rfl]
  | date t =>
    rw [throughJson_date]
    exact iff_of_false (fun h => by cases h) fun h => h.1
  | _ =>
    refine iff_of_true (throughJson_of_not_float trivial fun x h => ?_) ⟨trivial, fun x h => ?_⟩
    all_goals cases h

end Value

namespace Row

open Json (Ends compact escaped quote)
open Json.Reader (members? quoted? skipGap word?)

/-- A column with its value, as it stands in an object. -/
def memberText (cell : String × Value) : List Char :=
  (quote cell.1).toList ++ ':' :: cell.2.toJson.compact.toList

theorem compactMembers_eq (members : List (String × Json)) :
    Json.compactMembers members =
      members.map fun member => quote member.1 ++ ":" ++ compact member.2 := by
  induction members with
  | nil => rfl
  | cons member members ih => rw [Json.compactMembers, ih, List.map_cons]

theorem toList_compact (row : Row) : row.toJson.compact.toList =
    '\x7b' :: ([','].intercalate (row.cells.map memberText) ++ ['\x7d']) := by
  have hmembers : (Json.compactMembers (row.cells.map fun cell => (cell.1, cell.2.toJson))).map
      String.toList = row.cells.map memberText := by
    rw [compactMembers_eq, List.map_map, List.map_map]
    refine List.map_congr_left fun cell _ => ?_
    simp [memberText]
  rw [toJson, compact, String.toList_append, String.toList_append, String.toList_intercalate,
    hmembers]
  rfl

/-- A member is read up to what stands behind it. -/
theorem members?_member (cell : String × Value) {after : List Char} (ends : Ends after)
    (fuel depth : ℕ) : members? (fuel + 2) depth (memberText cell ++ after) =
      match skipGap after with
      | ',' :: rest => do
        let (members, rest) ← members? (fuel + 1) depth rest
        pure ((some cell.1, cell.2.reading) :: members, rest)
      | '\x7d' :: rest => pure ([(some cell.1, cell.2.reading)], rest)
      | _ => none := by
  have htext : memberText cell ++ after = '"' :: (cell.1.toList.flatMap escaped ++
      '"' :: ':' :: (cell.2.toJson.compact.toList ++ after)) := by
    simp [memberText, quote]
  have hname := Json.Reader.quoted?_escaped cell.1.toList
    (':' :: (cell.2.toJson.compact.toList ++ after))
  rw [String.ofList_toList] at hname
  have hvalue := cell.2.value?_reading ends fuel depth
  have hquote : word? "\"" (skipGap (memberText cell ++ after)) = some
      (cell.1.toList.flatMap escaped ++ '"' :: ':' :: (cell.2.toJson.compact.toList ++ after)) := by
    rw [htext]
    rfl
  have hcolon : word? ":" (skipGap (':' :: (cell.2.toJson.compact.toList ++ after))) =
      some (cell.2.toJson.compact.toList ++ after) := rfl
  have hread := Json.Reader.members?.eq_def (fuel + 2) depth (memberText cell ++ after)
  simp only [hquote, hname, hcolon, hvalue, Option.bind_eq_bind, Option.bind_some] at hread
  exact hread

theorem members?_last (cell : String × Value) (fuel depth : ℕ) (rest : List Char) :
    members? (fuel + 2) depth (memberText cell ++ '\x7d' :: rest) =
      some ([(some cell.1, cell.2.reading)], rest) := by
  have ends : Ends ('\x7d' :: rest) := by simp [Ends]
  have hgap : skipGap ('\x7d' :: rest) = '\x7d' :: rest := rfl
  rw [members?_member cell ends, hgap]
  rfl

theorem members?_comma (cell : String × Value) {fuel depth : ℕ} {rest after : List Char}
    {members : List (Option String × Json)}
    (others : members? (fuel + 1) depth rest = some (members, after)) :
    members? (fuel + 2) depth (memberText cell ++ ',' :: rest) =
      some ((some cell.1, cell.2.reading) :: members, after) := by
  have ends : Ends (',' :: rest) := by simp [Ends]
  have hgap : skipGap (',' :: rest) = ',' :: rest := rfl
  rw [members?_member cell ends, hgap]
  simp only [others, Option.bind_eq_bind, Option.bind_some]
  rfl

/-- The members of an object are read one after the other, with fuel for each and the end. -/
theorem members?_cells (cell : String × Value) (cells : List (String × Value)) {fuel : ℕ}
    (enough : cells.length + 1 < fuel) (depth : ℕ) (rest : List Char) :
    members? fuel depth ([','].intercalate ((cell :: cells).map memberText) ++ '\x7d' :: rest) =
      some ((cell :: cells).map fun cell => (some cell.1, cell.2.reading), rest) := by
  induction cells generalizing cell fuel with
  | nil =>
    obtain ⟨fuel, rfl⟩ := Nat.exists_eq_add_of_le' enough
    have htext : [','].intercalate ([cell].map memberText) = memberText cell := by simp
    rw [htext]
    exact members?_last cell fuel depth rest
  | cons next cells ih =>
    obtain ⟨fuel, rfl⟩ : ∃ less, fuel = less + 2 := ⟨fuel - 2, by omega⟩
    have hothers := ih next (Nat.lt_of_succ_lt_succ enough)
    have htext : [','].intercalate ((cell :: next :: cells).map memberText) ++ '\x7d' :: rest =
        memberText cell ++ ',' :: ([','].intercalate ((next :: cells).map memberText) ++
          '\x7d' :: rest) := by
      simp [List.intercalate_cons_cons]
    rw [htext]
    exact members?_comma cell hothers

theorem length_le_members (cells : List (String × Value)) :
    cells.length ≤ ([','].intercalate (cells.map memberText)).length := by
  induction cells with
  | nil => exact Nat.zero_le _
  | cons cell cells ih =>
    have hcell : 1 ≤ (memberText cell).length := List.length_pos_iff.mpr (by simp [memberText])
    cases cells with
    | nil => simpa using hcell
    | cons next cells =>
      rw [List.map_cons, List.map_cons, List.intercalate_cons_cons, ← List.map_cons,
        List.length_append, List.length_append, List.length_cons]
      omega

theorem objectOf_named (members : List (String × Json)) :
    Json.Reader.objectOf (members.map fun member => (some member.1, member.2)) =
      .object members := by
  have hmembers : (members.map fun member => (some member.1, member.2)).mapM
      (fun member => member.1.map fun name => (name, member.2)) = some members := by
    induction members with
    | nil => rfl
    | cons member members ih => simp [ih]
  rw [Json.Reader.objectOf, hmembers]

/-- An object with at least one member is read where it stands. -/
theorem value?_cells (cell : String × Value) (cells : List (String × Value)) {fuel : ℕ}
    (enough : cells.length + 1 < fuel) (rest : List Char) :
    Json.Reader.value? (fuel + 1) 0
        ('\x7b' :: ([','].intercalate ((cell :: cells).map memberText) ++ '\x7d' :: rest)) =
      some (.object ((cell :: cells).map fun cell => (cell.1, cell.2.reading)), rest) := by
  have hmembers := members?_cells cell cells enough 1 rest
  obtain ⟨text, htext⟩ : ∃ text,
      [','].intercalate ((cell :: cells).map memberText) ++ '\x7d' :: rest = '"' :: text := by
    cases cells <;> simp [memberText, quote, List.intercalate_cons_cons]
  have hnamed := objectOf_named ((cell :: cells).map fun cell => (cell.1, cell.2.reading))
  rw [List.map_map] at hnamed
  have hobject : skipGap ('\x7b' :: '"' :: text) = '\x7b' :: '"' :: text := rfl
  have hquote : skipGap ('"' :: text) = '"' :: text := rfl
  rw [htext] at hmembers ⊢
  rw [Json.Reader.value?, hobject]
  simp only [hquote]
  change (members? fuel 1 ('"' :: text)).map _ = _
  rw [hmembers, Option.map_some]
  exact congrArg (fun json => some (json, rest)) hnamed

/-- The text of a row is an object with what the values are read as, each alone. -/
theorem read?_compact (row : Row) : Json.read? row.toJson.compact =
    some (.object (row.cells.map fun cell => (cell.1, cell.2.reading))) := by
  rw [Json.read?, toList_compact]
  obtain ⟨cells, distinct⟩ := row
  cases cells with
  | nil => rfl
  | cons cell cells =>
    have hlength := length_le_members (cell :: cells)
    have henough : cells.length + 1 < 2 * ('\x7b' ::
        ([','].intercalate ((cell :: cells).map memberText) ++ ['\x7d'])).length + 1 := by
      rw [List.length_cons] at hlength
      rw [List.length_cons, List.length_append]
      omega
    simp only [value?_cells cell cells henough [], Option.bind_eq_bind, Option.bind_some]
    rfl

/-- The cells with what becomes of each value, if none is lost. -/
def eachCell? (f : Value → Option Value) (cells : List (String × Value)) :
    Option (List (String × Value)) :=
  cells.mapM fun cell => (f cell.2).map fun value => (cell.1, value)

/-- The row with what becomes of each value, if none is lost. -/
def eachValue? (f : Value → Option Value) (row : Row) : Option Row :=
  (eachCell? f row.cells).map ofCells

section EachValue

variable {f : Value → Option Value} {cells others : List (String × Value)}

theorem eachCell?_cons_eq_some_iff {cell : String × Value} :
    eachCell? f (cell :: cells) = some others ↔ ∃ value rest, f cell.2 = some value ∧
      eachCell? f cells = some rest ∧ others = (cell.1, value) :: rest := by
  simp only [eachCell?, List.mapM_cons, Option.bind_eq_bind, Option.bind_eq_some_iff,
    Option.map_eq_some_iff, Option.pure_def, Option.some.injEq]
  constructor
  · rintro ⟨_, ⟨value, hvalue, rfl⟩, rest, hrest, rfl⟩
    exact ⟨value, rest, hvalue, hrest, rfl⟩
  · rintro ⟨value, rest, hvalue, hrest, rfl⟩
    exact ⟨_, ⟨value, hvalue, rfl⟩, rest, hrest, rfl⟩

theorem names_of_eachCell? (h : eachCell? f cells = some others) :
    others.map Prod.fst = cells.map Prod.fst := by
  induction cells generalizing others with
  | nil =>
    obtain rfl := Option.some.inj h
    rfl
  | cons cell cells ih =>
    obtain ⟨value, rest, -, hrest, rfl⟩ := eachCell?_cons_eq_some_iff.mp h
    rw [List.map_cons, List.map_cons, ih hrest]

theorem lookup_of_eachCell? (h : eachCell? f cells = some others) (name : String) :
    others.lookup name = (cells.lookup name).bind f := by
  induction cells generalizing others with
  | nil =>
    obtain rfl := Option.some.inj h
    rfl
  | cons cell cells ih =>
    obtain ⟨value, rest, hvalue, hrest, rfl⟩ := eachCell?_cons_eq_some_iff.mp h
    rw [Listing.lookup_cons_eq, Listing.lookup_cons_eq, ih hrest]
    split
    · exact hvalue.symm
    · rfl

theorem eachCell?_eq_self_iff :
    eachCell? f cells = some cells ↔ ∀ cell ∈ cells, f cell.2 = some cell.2 := by
  induction cells with
  | nil => simp [eachCell?]
  | cons cell cells ih =>
    rw [eachCell?_cons_eq_some_iff, List.forall_mem_cons, ← ih]
    constructor
    · rintro ⟨value, rest, hvalue, hrest, hcells⟩
      obtain ⟨hcell, rfl⟩ := List.cons.inj hcells
      exact ⟨hvalue.trans (congrArg (fun cell => some cell.2) hcell.symm), hrest⟩
    · rintro ⟨hvalue, hrest⟩
      exact ⟨cell.2, cells, hvalue, hrest, rfl⟩

variable {row other : Row}

theorem eachValue?_eq_some_iff :
    row.eachValue? f = some other ↔ eachCell? f row.cells = some other.cells := by
  rw [eachValue?, Option.map_eq_some_iff]
  constructor
  · rintro ⟨cells, hcells, rfl⟩
    rw [cells_ofCells (names_of_eachCell? hcells ▸ row.distinct), hcells]
  · exact fun h => ⟨other.cells, h, eq_of_cells (cells_ofCells other.distinct)⟩

/-- The columns stay, and a column has what becomes of its value. -/
theorem columns_of_eachValue? (h : row.eachValue? f = some other) :
    other.columns = row.columns ∧ ∀ column, other.get? column = (row.get? column).bind f :=
  have hcells := eachValue?_eq_some_iff.mp h
  ⟨names_of_eachCell? hcells, lookup_of_eachCell? hcells⟩

theorem eachValue?_eq_self_iff :
    row.eachValue? f = some row ↔ ∀ cell ∈ row.cells, f cell.2 = some cell.2 := by
  rw [eachValue?_eq_some_iff, eachCell?_eq_self_iff]

end EachValue

/-- The row that is read back from the JSON text of another. -/
def throughJson (row : Row) : Option Row :=
  (Json.read? row.toJson.compact).bind read?

theorem readCells?_named {δ : Type} [Document δ] (members : List (String × δ)) :
    readCells? (members.map fun member => (Document.Key.name member.1, member.2)) =
      members.mapM fun member => (Value.read? member.2).map fun value => (member.1, value) := by
  induction members with
  | nil => rfl
  | cons member members ih =>
    rw [List.map_cons, readCells?, ih, List.mapM_cons]
    cases Value.read? member.2 <;> rfl

/-- An object with a member for every column is read value by value. -/
theorem read?_members {δ : Type} [Document δ] {node : δ} (carry : Value → δ) (row : Row)
    (members : Document.members? node =
      some (row.cells.map fun cell => (Document.Key.name cell.1, carry cell.2))) :
    read? node = row.eachValue? fun value => Value.read? (carry value) := by
  have hcells := readCells?_named (row.cells.map fun cell => (cell.1, carry cell.2))
  rw [List.map_map, List.mapM_map] at hcells
  rw [read?, members, Option.bind_eq_bind, Option.bind_some]
  change (readCells? (row.cells.map _)).bind _ = _
  rw [eachValue?, eachCell?]
  exact Option.map_eq_bind.symm.trans (congrArg (Option.map ofCells) hcells)

theorem throughJson_eq (row : Row) : row.throughJson = row.eachValue? Value.throughJson := by
  have hmembers : Document.members?
      (Json.object (row.cells.map fun cell => (cell.1, cell.2.reading))) =
        some (row.cells.map fun cell => (Document.Key.name cell.1, cell.2.reading)) :=
    congrArg some List.map_map
  rw [throughJson, read?_compact, Option.bind_some, read?_members Value.reading row hmembers]
  exact congrArg row.eachValue? (funext fun value => value.throughJson_eq.symm)

end Row

/-- A row comes back from a document unless it holds a date or a number that is not finite. -/
theorem Carries.restores_row {δ : Type} [Document δ] {carry : Json → δ} (carries : Carries carry) :
    Restores carry Row.toJson Row.read? fun row => ∀ cell ∈ row.cells, cell.2.IsKept := by
  intro row
  have hmembers : Document.members? (carry row.toJson) =
      some (row.cells.map fun cell => (Document.Key.name cell.1, carry cell.2.toJson)) := by
    rw [Row.toJson, carries.members, List.map_map]
    rfl
  rw [Row.read?_members (fun value => carry value.toJson) row hmembers, Row.eachValue?_eq_self_iff]
  exact forall₂_congr fun cell _ => carries.restores_value cell.2

end TableTalk
