import TableTalk.Proofs.Cleaning.Accounting
import TableTalk.Proofs.Cleaning.ReadableForms

/-!
# What becomes of the texts that are counted for a kind

Numerals are counted by the reader that converts them. Dates and truth values are counted by
their shape too, and some texts of the right shape are not read: they stay texts in a column of
their own kind. They are the forms of dates that are not readable, and words with a long s.
-/

namespace TableTalk.Cleaning

open TableTalk.Text (Scanner isBlank)
open TableTalk.Text.Scanner (Reads)

section Words

variable {word part : List Char} {text : String}

/-- The spellings of a word in any case. -/
def casings (word : List Char) : Language Char :=
  {part | List.Forall₂ (fun expected c => matchesLetter expected c = true) word part}

theorem reads_anyCase (word : List Char) : Reads (anyCase word) (casings word) := by
  induction word with
  | nil =>
    have hnil : casings [] = 1 := by
      ext part
      exact List.forall₂_nil_left_iff.trans (Language.mem_one part).symm
    exact hnil ▸ Scanner.reads_pure ()
  | cons expected word ih =>
    have hcons : casings (expected :: word) =
        Scanner.runs (· = 1) (matchesLetter expected) * casings word := by
      ext part
      rw [Language.mem_mul]
      constructor
      · intro h
        obtain ⟨c, rest, hc, hrest, rfl⟩ := List.forall₂_cons_left_iff.mp h
        exact ⟨[c], ⟨rfl, by simpa using hc⟩, rest, hrest, rfl⟩
      · rintro ⟨head, ⟨hlength, hall⟩, rest, hrest, rfl⟩
        obtain ⟨c, rfl⟩ := List.length_eq_one_iff.mp hlength
        exact List.Forall₂.cons (hall c (by simp)) hrest
    exact hcons ▸ (Scanner.reads_one (matchesLetter expected)).bind fun _ => ih

/-- The words for truth values. -/
def truthWords : List String := ["true", "false", "yes", "no", "1", "0", "y", "n"]

theorem looksBoolean_iff : looksBoolean text = true ↔
    ∃ word ∈ truthWords, text.toList ∈ casings word.toList := by
  rw [looksBoolean, Scanner.fits_oneOf, List.any_map, List.any_eq_true]
  exact exists_congr fun word => and_congr_right fun _ => Scanner.fits_iff (reads_anyCase _) text

theorem isSome_boolean?_iff : (boolean? text).isSome = true ↔
    Text.lowerAscii (Text.trim text) ∈ truthWords := by
  have hwords : truthWords.Perm (["true", "yes", "y", "1"] ++ ["false", "no", "n", "0"]) := by decide
  rw [hwords.mem_iff, List.mem_append, boolean?]
  split
  case isTrue htrue => exact iff_of_true rfl (Or.inl (List.contains_iff_mem.mp htrue))
  case isFalse htrue =>
    rw [List.contains_iff_mem] at htrue
    split
    case isTrue hfalse => exact iff_of_true rfl (Or.inr (List.contains_iff_mem.mp hfalse))
    case isFalse hfalse =>
      rw [List.contains_iff_mem] at hfalse
      exact iff_of_false Bool.false_ne_true (not_or.mpr ⟨htrue, hfalse⟩)

/-- A long s counts as a letter s, but is not lowered to one. -/
theorem map_toLower_of_mem_casings (h : part ∈ casings word) (kelvin : 'k' ∉ word)
    (long : 'ſ' ∉ part) : part.map Char.toLower = word := by
  induction h with
  | nil => rfl
  | cons hc _ ih =>
    simp only [matchesLetter, Bool.or_eq_true, Bool.and_eq_true, beq_iff_eq] at hc
    rw [List.map_cons, ih (fun h => kelvin (List.mem_cons_of_mem _ h))
      (fun h => long (List.mem_cons_of_mem _ h))]
    rcases hc with (hc | ⟨-, rfl⟩) | ⟨rfl, -⟩
    · rw [hc]
    · exact absurd List.mem_cons_self long
    · exact absurd List.mem_cons_self kelvin

/-- A word that is counted as a truth value is one, unless it has a long s. -/
theorem boolean?_of_looksBoolean (trimmed : Text.trim text = text) (h : looksBoolean text = true) :
    (boolean? text).isSome = true ↔ 'ſ' ∉ text.toList := by
  obtain ⟨word, hword, hcasing⟩ := looksBoolean_iff.mp h
  rw [isSome_boolean?_iff, trimmed]
  constructor
  · intro hmem hlong
    have hnone : ∀ word ∈ truthWords, 'ſ' ∉ word.toList := by decide +kernel
    refine hnone _ hmem ?_
    rw [Text.lowerAscii, String.toList_ofList]
    exact List.mem_map.mpr ⟨'ſ', hlong, by decide⟩
  · intro hlong
    have hkelvin : ∀ word ∈ truthWords, 'k' ∉ word.toList := by decide +kernel
    rw [Text.lowerAscii, map_toLower_of_mem_casings hcasing (hkelvin word hword) hlong,
      String.ofList_toList]
    exact hword

end Words

section Counted

variable {options : CleanOptions} {rows : Dataset} {kind : ColumnKind} {raw : String}

/-- Whether a value is one that texts of a kind are read as. -/
def isReading : ColumnKind → Value → Bool
  | .date, .date _ | .boolean, .boolean _ | .integer, .integer _ | .number, .float _ => true
  | _, _ => false

/-- The trimmed texts that have the shape of a date or truth value and are none. -/
def IsUnread (kind : ColumnKind) (text : String) : Prop :=
  match kind with
  | .date => ∃ form : DateForm, form.chars = text.toList ∧ ¬form.Readable
  | .boolean => 'ſ' ∈ text.toList
  | _ => False

theorem stripWhile_trim (raw : String) :
    Text.stripWhile isBlank (Text.trim raw).toList = (Text.trim raw).toList := by
  rw [Text.trim, String.toList_ofList, Text.stripWhile_stripWhile]

theorem typed?_date_of_counted (counted : countsAsDate (.text raw) = true) :
    IsUnread .date (Text.trim raw) ∧ typed? .date raw = none ∨
      ¬IsUnread .date (Text.trim raw) ∧ ∃ t, typed? .date raw = some (.date t) := by
  have htyped : typed? .date raw = (Calendar.read? (Text.trim raw)).map .date := rfl
  have hreadable {form : DateForm} (hform : form.chars = (Text.trim raw).toList) :=
    read?_form ((stripWhile_trim raw).trans hform.symm)
  rw [htyped]
  cases hread : Calendar.read? (Text.trim raw) with
  | none =>
    rw [countsAsDate, looksLikeDate, hread, Option.isSome_none, Bool.or_false,
      datePatterns_fit_iff] at counted
    obtain ⟨form, hform⟩ := counted
    refine Or.inl ⟨⟨form, hform, fun h => ?_⟩, rfl⟩
    have hsome := (hreadable hform).mpr h
    rw [hread] at hsome
    cases hsome
  | some t =>
    refine Or.inr ⟨?_, t, rfl⟩
    rintro ⟨form, hform, hunreadable⟩
    exact hunreadable ((hreadable hform).mp (by rw [hread]; rfl))

theorem typed?_boolean_of_counted (counted : countsAsBoolean (.text raw) = true) :
    IsUnread .boolean (Text.trim raw) ∧ typed? .boolean raw = none ∨
      ¬IsUnread .boolean (Text.trim raw) ∧ ∃ b, typed? .boolean raw = some (.boolean b) := by
  have htyped : typed? .boolean raw = (boolean? (Text.trim raw)).map .boolean := rfl
  have hlong := boolean?_of_looksBoolean (Text.trim_trim raw) counted
  rw [htyped, IsUnread]
  cases hread : boolean? (Text.trim raw) with
  | none =>
    rw [hread, Option.isSome_none, Bool.false_eq_true, false_iff, not_not] at hlong
    exact Or.inl ⟨hlong, rfl⟩
  | some b => exact Or.inr ⟨hlong.mp (by rw [hread]; rfl), b, rfl⟩

theorem typed?_integer_of_counted (counted : countsAsInteger (.text raw) = true) :
    ∃ i, typed? .integer raw = some (.integer i) := by
  have htyped : typed? .integer raw = (numeral? (Text.trim raw)).map Numeral.integerValue := rfl
  rw [countsAsInteger] at counted
  cases hread : numeral? (Text.trim raw) with
  | none =>
    rw [hread] at counted
    cases counted
  | some numeral =>
    rw [hread, Option.any_some] at counted
    rw [htyped, hread, Option.map_some, Numeral.integerValue, if_pos counted]
    exact ⟨_, rfl⟩

theorem typed?_number_of_counted (counted : countsAsNumeric (.text raw) = true) :
    ∃ x, typed? .number raw = some (.float x) := by
  have htyped : typed? .number raw =
      (numeral? (Text.trim raw)).map fun numeral => .float numeral.value := rfl
  rw [countsAsNumeric] at counted
  obtain ⟨numeral, hread⟩ := Option.isSome_iff_exists.mp counted
  rw [htyped, hread]
  exact ⟨_, rfl⟩

/-- A counted text is converted, unless it is one of those that are not read. -/
theorem typed?_of_counted {recognizer : Recognizer}
    (reads : recognizer ∈ [.date, .boolean, .integer, .number])
    (counted : recognizer.accepts (.text raw) = true) :
    IsUnread recognizer.kind (Text.trim raw) ∧ typed? recognizer.kind raw = none ∨
      ¬IsUnread recognizer.kind (Text.trim raw) ∧
        ∃ value, typed? recognizer.kind raw = some value ∧ isReading recognizer.kind value = true := by
  simp only [List.mem_cons, List.not_mem_nil, or_false] at reads
  rcases reads with rfl | rfl | rfl | rfl
  · dsimp only [Recognizer.date] at counted ⊢
    rcases typed?_date_of_counted counted with hunread | ⟨hread, t, ht⟩
    · exact Or.inl hunread
    · exact Or.inr ⟨hread, .date t, ht, rfl⟩
  · dsimp only [Recognizer.boolean] at counted ⊢
    rcases typed?_boolean_of_counted counted with hunread | ⟨hread, b, hb⟩
    · exact Or.inl hunread
    · exact Or.inr ⟨hread, .boolean b, hb, rfl⟩
  · dsimp only [Recognizer.integer] at counted ⊢
    obtain ⟨i, hi⟩ := typed?_integer_of_counted counted
    exact Or.inr ⟨id, .integer i, hi, rfl⟩
  · dsimp only [Recognizer.number] at counted ⊢
    obtain ⟨x, hx⟩ := typed?_number_of_counted counted
    exact Or.inr ⟨id, .float x, hx, rfl⟩

/-- What becomes of the cell of a row that is counted for the kind of its column. -/
def Converted (kind : ColumnKind) (raw : String) (after : Value) : Prop :=
  IsUnread kind (Text.trim raw) ∧ after = .text raw ∨
    ¬IsUnread kind (Text.trim raw) ∧ isReading kind after = true

/-- In a column of dates, truth values or numbers, a text of the sample that was counted for the
kind becomes a value of it, unless it is one of those that are not read: then it stays. -/
theorem counted_texts_convert_unless_unread (options : CleanOptions) (rows : Dataset)
    {recognizer : Recognizer} (reads : recognizer ∈ [.date, .boolean, .integer, .number])
    {profile : Profile} (detected : profile ∈ (clean options rows).profiles)
    (same : profile.type.kind = recognizer.kind) :
    List.Forall₂ (fun before after => ∀ raw, before.get? profile.column = some (.text raw) →
        .text raw ∈ sample options rows profile.column → recognizer.accepts (.text raw) = true →
        Converted recognizer.kind raw (after.value profile.column))
      rows (clean options rows).rows := by
  obtain ⟨column, hcolumn, rfl⟩ := List.mem_map.mp detected
  have hkind : kindOf options rows column = recognizer.kind := same
  rw [rows_clean, List.forall₂_map_right_iff, List.forall₂_same]
  intro row _ raw hcell hsample haccepts
  have hpresent : options.isNullLike (.text raw) = false := present_of_mem_sample hsample
  have hvalue : row.value column = .text raw := by rw [Row.value]; exact hcell ▸ rfl
  change Converted recognizer.kind raw ((cleanedRow options rows row).value column)
  rw [value_cleanedRow row hcolumn, cleaned, hkind, hvalue, cleanCell_text _ hpresent]
  rcases typed?_of_counted reads haccepts with ⟨hunread, hnone⟩ | ⟨hread, value, hsome, hreading⟩
  · have htidy : tidied options recognizer.kind raw = raw := by
      simp only [List.mem_cons, List.not_mem_nil, or_false] at reads
      rcases reads with rfl | rfl | rfl | rfl <;> rfl
    rw [cleanText_of_tidy hnone htidy]
    exact Or.inl ⟨hunread, rfl⟩
  · rw [cleanText_of_typed hsome]
    exact Or.inr ⟨hread, hreading⟩

/-- A day, and a moment without seconds in front of its offset. -/
def departures : Dataset :=
  [Row.ofCells [("at", .text "2024-01-15")], Row.ofCells [("at", .text "2024-01-15T10:30Z")]]

theorem departures_convert :
    let profile : Profile := ⟨"at", ⟨.date, 1.0⟩⟩
    (Recognizer.date ∈ [Recognizer.date, .boolean, .integer, .number] ∧
      profile ∈ (clean {} departures).profiles ∧ profile.type.kind = Recognizer.date.kind) ∧
    List.Forall₂ (fun before after => ∀ raw, before.get? profile.column = some (.text raw) →
        .text raw ∈ sample {} departures profile.column →
        Recognizer.date.accepts (.text raw) = true →
        Converted Recognizer.date.kind raw (after.value profile.column))
      departures (clean {} departures).rows := by
  intro profile
  have hreads : Recognizer.date ∈ [Recognizer.date, .boolean, .integer, .number] := by simp
  have hdetected : profile ∈ (clean {} departures).profiles := by decide +kernel
  have hsame : profile.type.kind = Recognizer.date.kind := rfl
  exact ⟨⟨hreads, hdetected, hsame⟩,
    counted_texts_convert_unless_unread {} departures hreads hdetected hsame⟩

/-- Both texts are counted as dates, and one of them stays a text. -/
theorem departure_stays_text :
    (clean {} departures).profiles = [⟨"at", ⟨.date, 1.0⟩⟩] ∧
      (sample {} departures "at").countP countsAsDate = 2 ∧
      (clean {} departures).rows.map (fun row => row.value "at") =
        [.date (.ofDate ⟨2024, 1, 15, by decide⟩), .text "2024-01-15T10:30Z"] := by
  decide +kernel

end Counted

end TableTalk.Cleaning
