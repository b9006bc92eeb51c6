import TableTalk.Cleaning.Dataset
import TableTalk.Proofs.Decimal.Words
import TableTalk.Proofs.Text.Trimming
import TableTalk.Proofs.Values

/-!
# Cells that are cleaned twice

What a second pass does to a cell depends on what the first pass has made of it.
Values that are not texts stay, and so do missing values. Only a text that is
still a text after the first pass can change again: the second pass may take it
for a missing value or for a value of the kind that it sees in the column, or may
find something to tidy.
-/

namespace TableTalk.Value

theorem text?_eq_some_iff {value : Value} {raw : String} :
    value.text? = some raw ↔ value = .text raw := by
  cases value with
  | text other => simp [text?]
  | null | boolean | integer | float | date => simp [text?]

end TableTalk.Value

namespace TableTalk.Cleaning

variable {options : CleanOptions} {kind first second : ColumnKind} {raw : String} {value : Value}

theorem isNaN_of_isFinite {x : Float} (h : Decimal.isFinite x = true) :
    Decimal.isNaN x = false := by
  rw [Decimal.isFinite, decide_eq_true_iff] at h
  rw [Decimal.isNaN, decide_eq_false_iff_not]
  omega

/-- Numerals stand for finite numbers. -/
theorem isFinite_of_numeral {numeral : Numeral} (h : numeral? raw = some numeral) :
    Decimal.isFinite numeral.value = true := by
  simp only [numeral?] at h
  split at h
  · cases h
  obtain ⟨value, -, h⟩ := Option.bind_eq_some_iff.mp h
  split at h
  · cases h
  rename_i hfinite
  have hfinite : Decimal.isFinite value = true := by simpa using hfinite
  split at h
  · split at h
    · cases h
    · obtain rfl := Option.some.inj h
      exact Decimal.isFinite_neg hfinite
  · obtain rfl := Option.some.inj h
    exact hfinite

theorem isNaN_of_numeral {numeral : Numeral} (h : numeral? raw = some numeral) :
    Decimal.isNaN numeral.value = false :=
  isNaN_of_isFinite (isFinite_of_numeral h)

theorem isNullLike_integerValue {numeral : Numeral} (h : numeral? raw = some numeral) :
    options.isNullLike numeral.integerValue = false := by
  rw [Numeral.integerValue]
  split
  · rfl
  · exact isNaN_of_numeral h

theorem isNullLike_trim (options : CleanOptions) (raw : String) :
    options.isNullLike (.text (Text.trim raw)) = options.isNullLike (.text raw) := by
  rw [CleanOptions.isNullLike, CleanOptions.isNullLike, Text.trim_trim]

theorem isNull_of_present (present : options.isNullLike value = false) : value.isNull = false := by
  cases value with
  | null => cases present
  | boolean | integer | float | text | date => rfl

/-- What a text is converted to is not missing. -/
theorem isNullLike_of_typed (h : typed? kind raw = some value) :
    options.isNullLike value = false := by
  cases kind with
  | integer =>
    simp only [typed?, Option.map_eq_some_iff] at h
    obtain ⟨numeral, hnumeral, rfl⟩ := h
    exact isNullLike_integerValue hnumeral
  | number | float =>
    simp only [typed?, Option.map_eq_some_iff] at h
    obtain ⟨numeral, hnumeral, rfl⟩ := h
    exact isNaN_of_numeral hnumeral
  | date | boolean =>
    simp only [typed?, Option.map_eq_some_iff] at h
    obtain ⟨parsed, -, rfl⟩ := h
    rfl
  | id | email | url | text | category | unknown | null => cases h

/-- What a text is converted to is not an infinite number or NaN. -/
theorem isUnsized_of_typed (h : typed? kind raw = some value) : value.isUnsized = false := by
  cases kind with
  | integer =>
    simp only [typed?, Option.map_eq_some_iff] at h
    obtain ⟨numeral, hnumeral, rfl⟩ := h
    rw [Numeral.integerValue]
    split
    · rfl
    · rw [Value.isUnsized, isFinite_of_numeral hnumeral, Bool.not_true]
  | number | float =>
    simp only [typed?, Option.map_eq_some_iff] at h
    obtain ⟨numeral, hnumeral, rfl⟩ := h
    rw [Value.isUnsized, isFinite_of_numeral hnumeral, Bool.not_true]
  | date | boolean =>
    simp only [typed?, Option.map_eq_some_iff] at h
    obtain ⟨parsed, -, rfl⟩ := h
    rfl
  | id | email | url | text | category | unknown | null => cases h

/-- What a text is converted to is no text. -/
theorem text_of_typed (h : typed? kind raw = some value) : value.text? = none := by
  cases kind with
  | integer =>
    simp only [typed?, Option.map_eq_some_iff] at h
    obtain ⟨numeral, -, rfl⟩ := h
    rw [Numeral.integerValue]
    split <;> rfl
  | number | float | date | boolean =>
    simp only [typed?, Option.map_eq_some_iff] at h
    obtain ⟨parsed, -, rfl⟩ := h
    rfl
  | id | email | url | text | category | unknown | null => cases h

theorem cleanCell_of_nullLike (kind : ColumnKind) (h : options.isNullLike value = true) :
    cleanCell options kind value = ⟨.null, .nulled⟩ :=
  if_pos h

theorem cleanCell_of_text_none (kind : ColumnKind) (h : options.isNullLike value = false)
    (none : value.text? = none) : cleanCell options kind value = ⟨value, .kept⟩ := by
  cases value with
  | text raw => cases none
  | null | boolean | integer | float | date =>
    simp only [cleanCell, h, Bool.false_eq_true, ↓reduceIte]

theorem cleanCell_text (kind : ColumnKind) (h : options.isNullLike (.text raw) = false) :
    cleanCell options kind (.text raw) = cleanText options kind raw := by
  rw [cleanCell, h, if_neg Bool.false_ne_true]

theorem cleanText_of_typed (h : typed? kind raw = some value) :
    cleanText options kind raw = ⟨value, .converted⟩ := by
  rw [cleanText, h]

theorem cleanText_of_tidy (none : typed? kind raw = none) (tidy : tidied options kind raw = raw) :
    cleanText options kind raw = ⟨.text raw, .kept⟩ := by
  simp only [cleanText, none, tidy, ↓reduceIte]

theorem cleanText_of_untidy (none : typed? kind raw = none) (untidy : tidied options kind raw ≠ raw) :
    cleanText options kind raw = ⟨.text (tidied options kind raw), .normalized⟩ := by
  simp only [cleanText, none, untidy, ↓reduceIte]

theorem cleanText_value (h : typed? kind raw = none) :
    (cleanText options kind raw).value = .text (tidied options kind raw) := by
  simp only [cleanText, h]
  split
  case isTrue htidy => rw [htidy]
  case isFalse => rfl

/-- Cleaning takes NaN for a missing value, so a cell that is not infinite has a place among the
values afterwards. -/
theorem isUnsized_cleanCell (options : CleanOptions) (kind : ColumnKind)
    (finite : value.isInfinite = false) :
    (cleanCell options kind value).value.isUnsized = false := by
  cases hnull : options.isNullLike value with
  | true => rw [cleanCell_of_nullLike kind hnull]; rfl
  | false =>
    cases value with
    | text raw =>
      rw [cleanCell_text kind hnull]
      cases htyped : typed? kind raw with
      | none => rw [cleanText_value htyped]; rfl
      | some value => rw [cleanText_of_typed htyped]; exact isUnsized_of_typed htyped
    | float x =>
      rw [cleanCell_of_text_none kind hnull rfl]
      have hnumber : Decimal.isNaN x = false := hnull
      simpa [Value.isInfinite, Value.isUnsized, hnumber] using finite
    | null | boolean | integer | date =>
      rw [cleanCell_of_text_none kind hnull rfl]
      rfl

/-- A text that a column of some kind takes as it is: it is not missing, not converted, and tidy. -/
def Settled (options : CleanOptions) (kind : ColumnKind) (text : String) : Prop :=
  options.isNullLike (.text text) = false ∧ typed? kind text = none ∧
    tidied options kind text = text

/-- A second pass leaves a cell as the first pass has made it. -/
def Stays (options : CleanOptions) (first second : ColumnKind) (value : Value) : Prop :=
  let once := (cleanCell options first value).value
  let again := cleanCell options second once
  again.value = once ∧ again.change ≠ .converted ∧ again.change ≠ .normalized

theorem stays_of_text_none (first second : ColumnKind) (h : options.isNullLike value = false)
    (none : value.text? = none) : Stays options first second value := by
  simp [Stays, cleanCell_of_text_none first h none, cleanCell_of_text_none second h none]

/-- The second pass meets a text that was tidied: it stays just if it is settled then. -/
theorem again_text_iff {text : String} :
    ((cleanCell options kind (.text text)).value = .text text ∧
      (cleanCell options kind (.text text)).change ≠ .converted ∧
      (cleanCell options kind (.text text)).change ≠ .normalized) ↔ Settled options kind text := by
  cases hnull : options.isNullLike (.text text) with
  | true => simp [cleanCell_of_nullLike kind hnull, Settled, hnull]
  | false =>
    rw [cleanCell_text kind hnull, Settled, hnull]
    cases htyped : typed? kind text with
    | some value => simp [cleanText_of_typed htyped]
    | none =>
      by_cases htidy : tidied options kind text = text <;> simp [cleanText, htyped, htidy]

/-- Only a text that is not converted can change in the second pass. -/
theorem stays_iff : Stays options first second value ↔
    ∀ raw, value = .text raw → options.isNullLike value = false → typed? first raw = none →
      Settled options second (tidied options first raw) := by
  cases hnull : options.isNullLike value with
  | true =>
    have hagain : cleanCell options second .null = ⟨.null, .nulled⟩ :=
      cleanCell_of_nullLike second rfl
    simp [Stays, cleanCell_of_nullLike first hnull, hagain]
  | false =>
    cases htext : value.text? with
    | none =>
      refine iff_of_true (stays_of_text_none first second hnull htext) ?_
      rintro raw rfl
      cases htext
    | some raw =>
      obtain rfl := Value.text?_eq_some_iff.mp htext
      cases htyped : typed? first raw with
      | some converted =>
        refine iff_of_true ?_ (by rintro other ⟨⟩ - h; rw [htyped] at h; cases h)
        have hkept : options.isNullLike converted = false := isNullLike_of_typed htyped
        simp [Stays, cleanCell_text first hnull, cleanText_of_typed htyped,
          cleanCell_of_text_none second hkept (text_of_typed htyped)]
      | none =>
        simp only [Stays, cleanCell_text first hnull, cleanText_value htyped, again_text_iff]
        constructor
        · rintro h other ⟨⟩ - -
          exact h
        · intro h
          exact h raw rfl trivial htyped

end TableTalk.Cleaning
