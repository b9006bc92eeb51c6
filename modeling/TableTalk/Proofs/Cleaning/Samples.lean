import TableTalk.Proofs.Cleaning.Detection

/-!
# Samples of columns that were cleaned

Cells of most kinds are converted to values of the kind or are trimmed, and the
recognizer of the kind accepts them again. Only whole numbers can be taken for
truth values then, and numbers for whole numbers.
-/

namespace TableTalk.Cleaning

variable {options : CleanOptions} {kind : ColumnKind} {sample : List Value} {test : Value → Bool}

/-- The cells of a sample after they were cleaned. -/
def recleaned (options : CleanOptions) (kind : ColumnKind) (sample : List Value) : List Value :=
  sample.map fun value => (cleanCell options kind value).value

theorem length_recleaned : (recleaned options kind sample).length = sample.length :=
  List.length_map _

/-- The kinds of columns whose texts are free. -/
def isFree : ColumnKind → Bool
  | .text | .category | .unknown => true
  | _ => false

section Free

variable {raw : String} (free : isFree kind = true)

include free

/-- Free texts are not converted. -/
theorem typed?_of_isFree : typed? kind raw = none := by
  cases kind with
  | text | category | unknown => rfl
  | number | integer | float | date | boolean | id | email | url | null => cases free

theorem tidied_of_isFree (normalizes : options.normalizeText = true) :
    tidied options kind raw = normalizeText raw := by
  cases kind with
  | text | category | unknown => exact if_pos normalizes
  | number | integer | float | date | boolean | id | email | url | null => cases free

theorem tidied_of_plain (plain : options.normalizeText = false) :
    tidied options kind raw = raw := by
  cases kind with
  | text | category | unknown => exact if_neg (by simp [plain])
  | number | integer | float | date | boolean | id | email | url | null => cases free

end Free

/-- Texts that are not normalized are trimmed at most. -/
theorem tidied_cases (raw : String)
    (unnormalized : options.normalizeText = false ∨ isFree kind = false) :
    tidied options kind raw = raw ∨ tidied options kind raw = Text.trim raw := by
  cases kind with
  | email | url | id => exact Or.inr rfl
  | text | category | unknown =>
    exact Or.inl (tidied_of_plain rfl (unnormalized.resolve_right nofun))
  | number | integer | float | date | boolean | null => exact Or.inl rfl

/-- A cell that is not normalized stays, is converted, or is trimmed. -/
theorem cleanCell_cases {value : Value} (present : options.isNullLike value = false)
    (unnormalized : options.normalizeText = false ∨ isFree kind = false) :
    (cleanCell options kind value).value = value ∨
      ∃ raw, value = .text raw ∧
        ((∃ converted, typed? kind raw = some converted ∧
          (cleanCell options kind value).value = converted) ∨
        (cleanCell options kind value).value = .text (Text.trim raw)) := by
  cases value with
  | text raw =>
    rw [cleanCell_text kind present]
    cases htyped : typed? kind raw with
    | some converted =>
      exact Or.inr ⟨raw, rfl, Or.inl ⟨converted, htyped, by rw [cleanText_of_typed htyped]⟩⟩
    | none =>
      rw [cleanText_value htyped]
      rcases tidied_cases raw unnormalized with h | h
      · exact Or.inl (by rw [h])
      · exact Or.inr ⟨raw, rfl, Or.inr (by rw [h])⟩
  | null | boolean | integer | float | date =>
    exact Or.inl (by rw [cleanCell_of_text_none kind present rfl])

/-- Cells that are not missing are not missing after they were cleaned. -/
theorem isNullLike_cleanCell {value : Value} (present : options.isNullLike value = false)
    (unnormalized : options.normalizeText = false ∨ isFree kind = false) :
    options.isNullLike (cleanCell options kind value).value = false := by
  rcases cleanCell_cases present unnormalized with h | ⟨raw, rfl, ⟨converted, htyped, h⟩ | h⟩
  · rw [h, present]
  · rw [h, isNullLike_of_typed htyped]
  · rw [h, isNullLike_trim, present]

section Accepts

variable {recognizer : Recognizer}

theorem accepts_trim (h : recognizer ∈ Recognizer.all) (raw : String) :
    recognizer.accepts (.text (Text.trim raw)) = recognizer.accepts (.text raw) := by
  simp only [Recognizer.all, List.mem_cons, List.not_mem_nil, or_false] at h
  rcases h with rfl | rfl | rfl | rfl | rfl | rfl | rfl <;>
    simp only [Recognizer.date, Recognizer.email, Recognizer.url, Recognizer.boolean,
      Recognizer.id, Recognizer.integer, Recognizer.number, countsAsDate, countsAsText,
      countsAsBoolean, countsAsInteger, countsAsNumeric, Text.trim_trim]

theorem kind_of_accepts_boolean {b : Bool} (h : recognizer ∈ Recognizer.all)
    (accepts : recognizer.accepts (.boolean b) = true) : recognizer.kind = .boolean := by
  simp only [Recognizer.all, List.mem_cons, List.not_mem_nil, or_false] at h
  rcases h with rfl | rfl | rfl | rfl | rfl | rfl | rfl
  case inr.inr.inr.inl => rfl
  all_goals cases accepts

theorem kind_of_accepts_float {x : Float} (h : recognizer ∈ Recognizer.all)
    (accepts : recognizer.accepts (.float x) = true) :
    recognizer.kind = .integer ∨ recognizer.kind = .number := by
  simp only [Recognizer.all, List.mem_cons, List.not_mem_nil, or_false] at h
  rcases h with rfl | rfl | rfl | rfl | rfl | rfl | rfl
  case inr.inr.inr.inr.inr.inl => exact Or.inl rfl
  case inr.inr.inr.inr.inr.inr => exact Or.inr rfl
  all_goals cases accepts

theorem kind_of_accepts_integer {i : Int64} (h : recognizer ∈ Recognizer.all)
    (accepts : recognizer.accepts (.integer i) = true) :
    recognizer.kind = .boolean ∨ recognizer.kind = .integer ∨ recognizer.kind = .number := by
  simp only [Recognizer.all, List.mem_cons, List.not_mem_nil, or_false] at h
  rcases h with rfl | rfl | rfl | rfl | rfl | rfl | rfl
  case inr.inr.inr.inl => exact Or.inl rfl
  case inr.inr.inr.inr.inr.inl => exact Or.inr (Or.inl rfl)
  case inr.inr.inr.inr.inr.inr => exact Or.inr (Or.inr rfl)
  all_goals cases accepts

end Accepts

/-- A recognizer that accepts no converted value accepts no more than before. -/
theorem countP_recleaned_le {recognizer : Recognizer} (h : recognizer ∈ Recognizer.all)
    (present : ∀ value ∈ sample, options.isNullLike value = false)
    (unnormalized : options.normalizeText = false ∨ isFree kind = false)
    (fails : ∀ raw converted, typed? kind raw = some converted →
      recognizer.accepts converted = false) :
    (recleaned options kind sample).countP recognizer.accepts ≤
      sample.countP recognizer.accepts := by
  rw [recleaned, List.countP_map]
  refine List.countP_mono_left fun value hvalue haccepts => ?_
  rw [Function.comp_apply] at haccepts
  rcases cleanCell_cases (present value hvalue) unnormalized with
    hcell | ⟨raw, rfl, ⟨converted, htyped, hcell⟩ | hcell⟩
  · rwa [hcell] at haccepts
  · rw [hcell, fails raw converted htyped] at haccepts
    cases haccepts
  · rwa [hcell, accepts_trim h] at haccepts

/-- A recognizer that accepts what the texts it accepts are converted to accepts no less. -/
theorem countP_le_recleaned {recognizer : Recognizer} (h : recognizer ∈ Recognizer.all)
    (present : ∀ value ∈ sample, options.isNullLike value = false)
    (unnormalized : options.normalizeText = false ∨ isFree kind = false)
    (passes : ∀ raw converted, typed? kind raw = some converted →
      recognizer.accepts (.text raw) = true → recognizer.accepts converted = true) :
    sample.countP recognizer.accepts ≤
      (recleaned options kind sample).countP recognizer.accepts := by
  rw [recleaned, List.countP_map]
  refine List.countP_mono_left fun value hvalue haccepts => ?_
  rw [Function.comp_apply]
  rcases cleanCell_cases (present value hvalue) unnormalized with
    hcell | ⟨raw, rfl, ⟨converted, htyped, hcell⟩ | hcell⟩
  · rwa [hcell]
  · rw [hcell]
    exact passes raw converted htyped haccepts
  · rwa [hcell, accepts_trim h]

/-- A cleaned sample has its kind again, or that of a recognizer in front that accepts converted
values. -/
theorem kind_recleaned (recognizer : Recognizer) (before after : List Recognizer)
    (split : Recognizer.all = before ++ recognizer :: after)
    (present : ∀ value ∈ sample, options.isNullLike value = false)
    (unnormalized : options.normalizeText = false ∨ isFree recognizer.kind = false)
    (passes : ∀ raw converted, typed? recognizer.kind raw = some converted →
      recognizer.accepts (.text raw) = true → recognizer.accepts converted = true)
    (h : (detect sample).kind = recognizer.kind) :
    (detect (recleaned options recognizer.kind sample)).kind = recognizer.kind ∨
      ∃ earlier ∈ before,
        (∃ raw converted, typed? recognizer.kind raw = some converted ∧
          earlier.accepts converted = true) ∧
        (detect (recleaned options recognizer.kind sample)).kind = earlier.kind := by
  have hmem : recognizer ∈ Recognizer.all := by simp [split]
  rcases kind_detect_again before after split length_recleaned.symm
    (countP_le_recleaned hmem present unnormalized passes) h with
    hkind | ⟨earlier, hin, hmore, hkind⟩
  · exact Or.inl hkind
  · refine Or.inr ⟨earlier, hin, ?_, hkind⟩
    by_contra hnone
    have hearlier : earlier ∈ Recognizer.all := by simp [split, hin]
    have hle := countP_recleaned_le hearlier present unnormalized
      (fun raw converted htyped => by
        rw [← Bool.not_eq_true]
        exact fun haccepts => hnone ⟨raw, converted, htyped, haccepts⟩)
    omega

theorem boolean_of_typed {raw : String} {converted : Value}
    (h : typed? .boolean raw = some converted) : ∃ b, converted = .boolean b := by
  simp only [typed?, Option.map_eq_some_iff] at h
  obtain ⟨b, -, rfl⟩ := h
  exact ⟨b, rfl⟩

theorem date_of_typed {raw : String} {converted : Value}
    (h : typed? .date raw = some converted) : ∃ t, converted = .date t := by
  simp only [typed?, Option.map_eq_some_iff] at h
  obtain ⟨t, -, rfl⟩ := h
  exact ⟨t, rfl⟩

theorem float_of_typed {raw : String} {converted : Value}
    (h : typed? .number raw = some converted) : ∃ x, converted = .float x := by
  simp only [typed?, Option.map_eq_some_iff] at h
  obtain ⟨numeral, -, rfl⟩ := h
  exact ⟨numeral.value, rfl⟩

/-- In a column of whole numbers those that are too large become fractions. -/
theorem number_of_typed {raw : String} {converted : Value}
    (h : typed? .integer raw = some converted) :
    (∃ i, converted = .integer i) ∨ ∃ x, converted = .float x := by
  simp only [typed?, Option.map_eq_some_iff] at h
  obtain ⟨numeral, -, rfl⟩ := h
  rw [Numeral.integerValue]
  split
  · exact Or.inl ⟨_, rfl⟩
  · exact Or.inr ⟨_, rfl⟩

section Kinds

variable (present : ∀ value ∈ sample, options.isNullLike value = false)

include present

theorem kind_recleaned_date (h : (detect sample).kind = .date) :
    (detect (recleaned options .date sample)).kind = .date := by
  have hpasses : ∀ raw converted, typed? .date raw = some converted →
      Recognizer.date.accepts (.text raw) = true → Recognizer.date.accepts converted = true := by
    intro raw converted htyped _
    obtain ⟨t, rfl⟩ := date_of_typed htyped
    rfl
  rcases kind_recleaned .date [] [.email, .url, .boolean, .id, .integer, .number] rfl present
    (Or.inr rfl) hpasses h with hkind | ⟨earlier, hin, -⟩
  · exact hkind
  · cases hin

theorem kind_recleaned_boolean (h : (detect sample).kind = .boolean) :
    (detect (recleaned options .boolean sample)).kind = .boolean := by
  have hpasses : ∀ raw converted, typed? .boolean raw = some converted →
      Recognizer.boolean.accepts (.text raw) = true →
      Recognizer.boolean.accepts converted = true := by
    intro raw converted htyped _
    obtain ⟨b, rfl⟩ := boolean_of_typed htyped
    rfl
  have hsplit : Recognizer.all =
      [Recognizer.date, Recognizer.email, Recognizer.url] ++
        Recognizer.boolean :: [Recognizer.id, Recognizer.integer, Recognizer.number] := rfl
  rcases kind_recleaned .boolean _ _ hsplit present (Or.inr rfl) hpasses h with
    hkind | ⟨earlier, hin, ⟨raw, converted, htyped, haccepts⟩, hkind⟩
  · exact hkind
  · obtain ⟨b, rfl⟩ := boolean_of_typed htyped
    have hmem : earlier ∈ Recognizer.all := hsplit ▸ List.mem_append_left _ hin
    exact hkind.trans (kind_of_accepts_boolean hmem haccepts)

/-- Trimmed texts are recognized as before. -/
theorem kind_recleaned_trimmed (trims : kind = .email ∨ kind = .url ∨ kind = .id)
    (h : (detect sample).kind = kind) : (detect (recleaned options kind sample)).kind = kind := by
  have hnone : ∀ raw, typed? kind raw = none := by
    intro raw
    rcases trims with rfl | rfl | rfl <;> rfl
  have hagain (recognizer : Recognizer) (before after : List Recognizer)
      (split : Recognizer.all = before ++ recognizer :: after)
      (hrecognizer : recognizer.kind = kind) :
      (detect (recleaned options kind sample)).kind = kind := by
    subst hrecognizer
    have hkept : isFree recognizer.kind = false := by rcases trims with h | h | h <;> rw [h] <;> rfl
    rcases kind_recleaned recognizer before after split present (Or.inr hkept)
      (fun raw converted htyped => by rw [hnone] at htyped; cases htyped) h with
      hkind | ⟨earlier, -, ⟨raw, converted, htyped, -⟩, -⟩
    · exact hkind
    · rw [hnone] at htyped
      cases htyped
  rcases trims with rfl | rfl | rfl
  · exact hagain .email [.date] [.url, .boolean, .id, .integer, .number] rfl rfl
  · exact hagain .url [.date, .email] [.boolean, .id, .integer, .number] rfl rfl
  · exact hagain .id [.date, .email, .url, .boolean] [.integer, .number] rfl rfl

/-- Whole numbers are detected as such again, unless ones and zeros make truth values of them. -/
theorem kind_recleaned_integer (h : (detect sample).kind = .integer) :
    (detect (recleaned options .integer sample)).kind = .integer ∨
      (detect (recleaned options .integer sample)).kind = .boolean := by
  have hpasses : ∀ raw converted, typed? .integer raw = some converted →
      Recognizer.integer.accepts (.text raw) = true →
      Recognizer.integer.accepts converted = true := by
    intro raw converted htyped hwhole
    simp only [typed?, Option.map_eq_some_iff] at htyped
    obtain ⟨numeral, hnumeral, rfl⟩ := htyped
    rw [Recognizer.integer] at hwhole
    have hintegral : numeral.integral = true := by simpa [countsAsInteger, hnumeral] using hwhole
    rw [Numeral.integerValue, hintegral]
    rfl
  have hsplit : Recognizer.all =
      [Recognizer.date, Recognizer.email, Recognizer.url, Recognizer.boolean, Recognizer.id] ++
        Recognizer.integer :: [Recognizer.number] := rfl
  rcases kind_recleaned .integer _ _ hsplit present (Or.inr rfl) hpasses h with
    hkind | ⟨earlier, hin, ⟨raw, converted, htyped, haccepts⟩, hkind⟩
  · exact Or.inl hkind
  · have hmem : earlier ∈ Recognizer.all := hsplit ▸ List.mem_append_left _ hin
    have hnumber : earlier.kind ≠ .number := by
      intro hearlier
      have hmap := List.mem_map_of_mem (f := Recognizer.kind) hin
      rw [hearlier] at hmap
      revert hmap
      decide
    rcases number_of_typed htyped with ⟨i, rfl⟩ | ⟨x, rfl⟩
    · rcases kind_of_accepts_integer hmem haccepts with hb | hi | hn
      · exact Or.inr (hkind.trans hb)
      · exact Or.inl (hkind.trans hi)
      · exact absurd hn hnumber
    · rcases kind_of_accepts_float hmem haccepts with hi | hn
      · exact Or.inl (hkind.trans hi)
      · exact absurd hn hnumber

/-- Numbers are detected as such again, or as whole numbers. -/
theorem kind_recleaned_number (h : (detect sample).kind = .number) :
    (detect (recleaned options .number sample)).kind = .number ∨
      (detect (recleaned options .number sample)).kind = .integer := by
  have hpasses : ∀ raw converted, typed? .number raw = some converted →
      Recognizer.number.accepts (.text raw) = true →
      Recognizer.number.accepts converted = true := by
    intro raw converted htyped _
    obtain ⟨x, rfl⟩ := float_of_typed htyped
    rfl
  have hsplit : Recognizer.all =
      [Recognizer.date, Recognizer.email, Recognizer.url, Recognizer.boolean, Recognizer.id,
        Recognizer.integer] ++ Recognizer.number :: [] := rfl
  rcases kind_recleaned .number _ _ hsplit present (Or.inr rfl) hpasses h with
    hkind | ⟨earlier, hin, ⟨raw, converted, htyped, haccepts⟩, hkind⟩
  · exact Or.inl hkind
  · obtain ⟨x, rfl⟩ := float_of_typed htyped
    have hmem : earlier ∈ Recognizer.all := hsplit ▸ List.mem_append_left _ hin
    rcases kind_of_accepts_float hmem haccepts with hi | hn
    · exact Or.inr (hkind.trans hi)
    · exact Or.inl (hkind.trans hn)

/-- Nothing is changed in columns of free text that is not normalized. -/
theorem recleaned_free (free : isFree kind = true) (unnormalized : options.normalizeText = false) :
    recleaned options kind sample = sample := by
  rw [recleaned]
  conv_rhs => rw [← List.map_id sample]
  refine List.map_congr_left fun value hvalue => ?_
  have hpresent := present value hvalue
  cases value with
  | text raw =>
    rw [cleanCell_text kind hpresent, cleanText_value (typed?_of_isFree free),
      tidied_of_plain free unnormalized]
    rfl
  | null | boolean | integer | float | date =>
    rw [cleanCell_of_text_none kind hpresent rfl]
    rfl

/-- Unless texts are normalized, cleaning a sample keeps its kind, but whole numbers can be taken
for truth values and numbers for whole numbers. -/
theorem kind_recleaned_cases
    (unnormalized : options.normalizeText = false ∨ isFree (detect sample).kind = false) :
    (detect (recleaned options (detect sample).kind sample)).kind = (detect sample).kind ∨
      (detect sample).kind = .integer ∧
        (detect (recleaned options (detect sample).kind sample)).kind = .boolean ∨
      (detect sample).kind = .number ∧
        (detect (recleaned options (detect sample).kind sample)).kind = .integer := by
  cases hkind : (detect sample).kind with
  | date => exact Or.inl (kind_recleaned_date present hkind)
  | boolean => exact Or.inl (kind_recleaned_boolean present hkind)
  | email => exact Or.inl (kind_recleaned_trimmed present (Or.inl rfl) hkind)
  | url => exact Or.inl (kind_recleaned_trimmed present (Or.inr (Or.inl rfl)) hkind)
  | id => exact Or.inl (kind_recleaned_trimmed present (Or.inr (Or.inr rfl)) hkind)
  | integer =>
    rcases kind_recleaned_integer present hkind with h | h
    · exact Or.inl h
    · exact Or.inr (Or.inl ⟨rfl, h⟩)
  | number =>
    rcases kind_recleaned_number present hkind with h | h
    · exact Or.inl h
    · exact Or.inr (Or.inr ⟨rfl, h⟩)
  | text | category | unknown =>
    rw [hkind] at unnormalized
    have hplain : options.normalizeText = false := unnormalized.resolve_right nofun
    rw [recleaned_free present rfl hplain, hkind]
    exact Or.inl rfl
  | null =>
    by_cases hempty : sample = []
    · subst hempty
      exact Or.inl kind_detect_nil
    · exact absurd hkind (kind_detect_ne (by decide) (by decide) hempty)
  | float =>
    have hempty : sample ≠ [] := by
      rintro rfl
      rw [kind_detect_nil] at hkind
      cases hkind
    exact absurd hkind (kind_detect_ne (by decide) (by decide) hempty)

end Kinds

end TableTalk.Cleaning
