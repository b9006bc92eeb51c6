import TableTalk.Proofs.Cleaning.Accounting
import TableTalk.Proofs.Decimal.Integers

/-!
# Whole numbers that are cleaned

A text of a whole number becomes the whole number in a column of whole numbers, as long
as it is below the bound, and the number nearest to it otherwise. Different whole numbers
therefore become different values unless they have the same nearest number, which takes at
least 54 bits. Words for missing values are an exception of their own.
-/

namespace TableTalk

namespace Cleaning

open Decimal (SignedDigits IsNearest IsInt64)
open Text (isBlank)

/-- A whole number of 64 bits is written without zeros in front of other digits. -/
structure IsPlain (written : SignedDigits) : Prop where
  range : IsInt64 written.value
  alone_of_zero : written.digits.head? = some '0' → written.digits.length = 1

theorem IsPlain.isNearest {written : SignedDigits} (h : IsPlain written) :
    IsNearest written.value written.number :=
  written.isNearest_number h.range.natAbs_le

section Numerals

variable {written : SignedDigits}

/-- Nothing is skipped in the text of a whole number. -/
theorem eq_false_of_mem_text {p : Char → Bool} (sign : p '-' = false)
    (digit : ∀ c, c.isDigit = true → p c = false) : ∀ c ∈ written.text.toList, p c = false := by
  intro c hc
  rcases SignedDigits.mem_text hc with rfl | hdigit
  · exact sign
  · exact digit c hdigit

theorem stripWhile_text : Text.stripWhile isBlank written.text.toList = written.text.toList :=
  Text.stripWhile_of_none (eq_false_of_mem_text rfl fun _ => Calendar.not_isBlank_of_isDigit)

theorem trim_text : Text.trim written.text = written.text := by
  rw [Text.trim, stripWhile_text, String.ofList_toList]

theorem parenthesized?_text : parenthesized? written.text.toList = none := by
  have hhead : (written.text.toList.head? == some '(') = false :=
    beq_eq_false_iff_ne.mpr fun h =>
      written.not_mem_text (by decide) (by decide) (List.mem_of_head? h)
  rw [parenthesized?, hhead]
  rfl

theorem withoutPercent_text : withoutPercent written.text.toList = written.text.toList := by
  have hlast : (written.text.toList.getLast? == some '%') = false :=
    beq_eq_false_iff_ne.mpr fun h =>
      written.not_mem_text (by decide) (by decide) (List.mem_of_getLast? h)
  rw [withoutPercent, stripWhile_text, hlast, if_neg Bool.false_ne_true]
  exact Text.dropEndWhile_of_none
    (eq_false_of_mem_text rfl fun _ => Calendar.not_isBlank_of_isDigit)

theorem filter_text :
    written.text.toList.filter (fun c => !isSeparator c) = written.text.toList := by
  refine List.filter_eq_self.mpr fun c hc => ?_
  rw [eq_false_of_mem_text (p := isSeparator) (by decide) (fun c hdigit => ?_) c hc]
  · rfl
  · rw [← Bool.not_eq_true, isSeparator, List.contains_iff_mem]
    intro h
    have hnone : ∀ d ∈ [',', '_', '$', '€', '£', '¥', '₹'], d.isDigit = false := by simp
    rw [hnone c h] at hdigit
    cases hdigit

theorem dropWhile_isSign : written.text.toList.dropWhile isSign = written.digits := by
  have hdigits : written.digits.dropWhile isSign = written.digits :=
    Text.dropWhile_of_none fun c hc => by
      have hdigit := written.plain c hc
      simp [isSign, Calendar.ne_of_isDigit hdigit (d := '+') rfl,
        Calendar.ne_of_isDigit hdigit (d := '-') rfl]
  rw [SignedDigits.text, Decimal.signedText, String.toList_ofList]
  split
  · rw [List.dropWhile_cons_of_pos rfl, hdigits]
  · exact hdigits

theorem isCode_text (plain : IsPlain written) : isCode written.text.toList = false := by
  rw [isCode, dropWhile_isSign, ← Bool.not_eq_true, Bool.and_eq_true, Bool.and_eq_true,
    decide_eq_true_iff, beq_iff_eq]
  rintro ⟨⟨-, hmany⟩, hzero⟩
  rw [plain.alone_of_zero hzero] at hmany
  exact absurd hmany (lt_irrefl 1)

theorem decimal?_text (plain : IsPlain written) :
    decimal? written.text.toList = some written.number := by
  rw [← written.map_sign_unsigned? plain.range.natAbs_le, SignedDigits.text, Decimal.signedText,
    String.toList_ofList]
  cases written.negative with
  | true => simp [decimal?]
  | false =>
    obtain ⟨c, rest, hdigits⟩ := List.exists_cons_of_ne_nil written.some
    have hdigit := written.plain c (hdigits ▸ List.mem_cons_self)
    have hminus := Calendar.ne_of_isDigit hdigit (d := '-') rfl
    have hplus := Calendar.ne_of_isDigit hdigit (d := '+') rfl
    simp [decimal?, hdigits, hminus, hplus]

/-- The text of a whole number is the numeral of its nearest number. -/
theorem numeral?_text (plain : IsPlain written) :
    numeral? written.text = some ⟨written.number, isIntegral written.number⟩ := by
  simp [numeral?, stripWhile_text, parenthesized?_text, withoutPercent_text, filter_text,
    isCode_text plain, decimal?_text plain, plain.isNearest.finite]

end Numerals

section Cells

variable {options : CleanOptions} {kind : ColumnKind} {written other : SignedDigits} {x : Float}
  {i : ℤ}

/-- Whether a number is kept as a whole number depends on the whole number that it is nearest to. -/
theorem isIntegral_iff (h : IsNearest i x) : isIntegral x = true ↔ i.natAbs < integralBound := by
  have hbound : integralBound < 2 ^ 53 := by decide
  rw [isIntegral, h.isWhole, Bool.true_and, decide_eq_true_iff]
  rcases Nat.lt_or_ge i.natAbs (2 ^ 53) with hlt | hge
  · rw [h.natAbs_truncate hlt]
  · have hle := h.le_natAbs_truncate hge
    omega

section Present

variable (plain : IsPlain written) (present : options.isNullLike (.text written.text) = false)

include plain present

theorem value_cleanCell_number :
    (cleanCell options .number (.text written.text)).value = .float written.number := by
  have htyped : typed? .number written.text = some (.float written.number) := by
    rw [typed?, trim_text, numeral?_text plain]
    rfl
  rw [cleanCell_text _ present, cleanText_of_typed htyped]

theorem value_cleanCell_integer :
    (cleanCell options .integer (.text written.text)).value =
      if written.value.natAbs < integralBound then .integer (Int64.ofInt written.value)
      else .float written.number := by
  have htyped : typed? .integer written.text =
      some (if written.value.natAbs < integralBound then .integer (Int64.ofInt written.value)
        else .float written.number) := by
    rw [typed?, trim_text, numeral?_text plain, Option.map_some, Numeral.integerValue]
    simp only [isIntegral_iff plain.isNearest]
    split
    case isTrue hsmall =>
      have hbound : integralBound < 2 ^ 53 := by decide
      have hfits := Decimal.fitsSignificand_of_lt (hsmall.trans hbound)
      rw [(plain.isNearest.toInt64_eq_ofInt_iff plain.range).mpr (Or.inl hfits)]
    case isFalse => rfl
  rw [cleanCell_text _ present, cleanText_of_typed htyped]

end Present

section Apart

variable (plain : IsPlain written) (plain' : IsPlain other) (apart : written.value ≠ other.value)

include plain plain' apart

/-- What is nearest to two different whole numbers is what both texts are read as, and it is too
large to be kept as a whole number. -/
theorem numbers_eq_of_shared (hx : IsNearest written.value x) (hx' : IsNearest other.value x) :
    written.number = x ∧ other.number = x ∧ integralBound ≤ other.value.natAbs := by
  have hbound : integralBound < 2 ^ 53 := by decide
  obtain ⟨hle, hle'⟩ := hx.le_natAbs_of_ne hx' apart
  have hne : (written.value : ℚ) ≠ 0 := Int.cast_ne_zero.mpr (by omega)
  have hne' : (other.value : ℚ) ≠ 0 := Int.cast_ne_zero.mpr (by omega)
  exact ⟨plain.isNearest.eq_of_ne_zero hx hne, plain'.isNearest.eq_of_ne_zero hx' hne', by omega⟩

theorem float_number_eq_iff : Value.float written.number = .float other.number ↔
    ∃ x, IsNearest written.value x ∧ IsNearest other.value x ∧
      Value.float written.number = .float x := by
  constructor
  · intro heq
    have hsame := Value.float.inj heq
    exact ⟨written.number, plain.isNearest, hsame ▸ plain'.isNearest, rfl⟩
  · rintro ⟨x, hx, hx', -⟩
    obtain ⟨hnumber, hnumber', -⟩ := numbers_eq_of_shared plain plain' apart hx hx'
    rw [hnumber, hnumber']

/-- Different whole numbers become one value just if they have the same nearest number. -/
theorem value_cleanCell_eq_iff (numeric : kind = .integer ∨ kind = .number)
    (present : options.isNullLike (.text written.text) = false)
    (present' : options.isNullLike (.text other.text) = false) :
    (cleanCell options kind (.text written.text)).value =
        (cleanCell options kind (.text other.text)).value ↔
      ∃ x, IsNearest written.value x ∧ IsNearest other.value x ∧
        (cleanCell options kind (.text written.text)).value = .float x := by
  rcases numeric with rfl | rfl
  · rw [value_cleanCell_integer plain present, value_cleanCell_integer plain' present']
    -- each of the two is kept as a whole number or not
    split <;> split
    case isTrue.isTrue =>
      refine iff_of_false (fun heq => apart ?_) ?_
      · have hsame := congrArg Int64.toInt (Value.integer.inj heq)
        rwa [Int64.toInt_ofInt_of_le plain.range.1 plain.range.2,
          Int64.toInt_ofInt_of_le plain'.range.1 plain'.range.2] at hsame
      · rintro ⟨x, -, -, heq⟩
        cases heq
    case isTrue.isFalse =>
      refine iff_of_false (by rintro ⟨⟩) ?_
      rintro ⟨x, -, -, heq⟩
      cases heq
    case isFalse.isTrue hsmall =>
      refine iff_of_false (by rintro ⟨⟩) ?_
      rintro ⟨x, hx, hx', -⟩
      exact absurd hsmall (numbers_eq_of_shared plain plain' apart hx hx').2.2.not_gt
    case isFalse.isFalse => exact float_number_eq_iff plain plain' apart
  · rw [value_cleanCell_number plain present, value_cleanCell_number plain' present']
    exact float_number_eq_iff plain plain' apart

end Apart

end Cells

section Rows

theorem column_kind_of_mem_profiles {options : CleanOptions} {rows : Dataset} {profile : Profile}
    (h : profile ∈ (clean options rows).profiles) :
    profile.column ∈ columnsOf rows ∧
      profile.type.kind = kindOf options rows profile.column := by
  obtain ⟨column, hcolumn, rfl⟩ := List.mem_map.mp h
  exact ⟨hcolumn, rfl⟩

/-- A cell of a row is the text of a whole number. -/
structure HoldsInteger (row : Row) (column : String) (written : SignedDigits) : Prop where
  cell : row.get? column = some (.text written.text)
  plain : IsPlain written

theorem HoldsInteger.value_cleanedRow {options : CleanOptions} {rows : Dataset} {row : Row}
    {column : String} {written : SignedDigits} (h : HoldsInteger row column written)
    (known : column ∈ columnsOf rows) :
    (cleanedRow options rows row).value column =
      (cleanCell options (kindOf options rows column) (.text written.text)).value := by
  rw [Cleaning.value_cleanedRow row known, cleaned, Row.value, h.cell, Option.getD_some]

/-- In a column of whole numbers or numbers, different whole numbers of 64 bits become different
values, with two exceptions. Both may be words for missing values, and both become null. Or both
have the same nearest number, which both become; that takes numbers of at least 54 bits. -/
theorem integers_stay_apart_unless_rounded (options : CleanOptions) (rows : Dataset)
    {profile : Profile} (detected : profile ∈ (clean options rows).profiles)
    (numeric : profile.type.kind = .integer ∨ profile.type.kind = .number) {i j : ℕ}
    {first second : Row} (hfirst : rows[i]? = some first) (hsecond : rows[j]? = some second)
    {written other : SignedDigits} (holds : HoldsInteger first profile.column written)
    (holds' : HoldsInteger second profile.column other) (apart : written.value ≠ other.value) :
    ∃ out out', (clean options rows).rows[i]? = some out ∧
      (clean options rows).rows[j]? = some out' ∧
      (out.value profile.column = out'.value profile.column ↔
        options.isNullLike (.text written.text) = true ∧
            options.isNullLike (.text other.text) = true ∧ out.value profile.column = .null ∨
          options.isNullLike (.text written.text) = false ∧
            options.isNullLike (.text other.text) = false ∧
              ∃ x, IsNearest written.value x ∧ IsNearest other.value x ∧
                out.value profile.column = .float x) ∧
      ∀ x, IsNearest written.value x → IsNearest other.value x →
        2 ^ 53 ≤ written.value.natAbs ∧ 2 ^ 53 ≤ other.value.natAbs := by
  obtain ⟨hcolumn, hkind⟩ := column_kind_of_mem_profiles detected
  rw [hkind] at numeric
  refine ⟨cleanedRow options rows first, cleanedRow options rows second, ?_, ?_, ?_,
    fun x hx hx' => hx.le_natAbs_of_ne hx' apart⟩
  · rw [rows_clean, List.getElem?_map, hfirst, Option.map_some]
  · rw [rows_clean, List.getElem?_map, hsecond, Option.map_some]
  rw [holds.value_cleanedRow hcolumn, holds'.value_cleanedRow hcolumn]
  have hnull (text : String) :
      (cleanCell options (kindOf options rows profile.column) (.text text)).value = .null ↔
        options.isNullLike (.text text) = true := value_cleanCell_eq_null_iff
  cases hpresent : options.isNullLike (.text written.text) <;>
    cases hpresent' : options.isNullLike (.text other.text)
  case false.false =>
    have hiff := value_cleanCell_eq_iff holds.plain holds'.plain apart numeric hpresent hpresent'
    simpa using hiff
  case false.true =>
    rw [(hnull other.text).mpr hpresent', hnull, hpresent]
    simp
  case true.false =>
    rw [(hnull written.text).mpr hpresent, eq_comm, hnull, hpresent']
    simp
  case true.true =>
    rw [(hnull written.text).mpr hpresent, (hnull other.text).mpr hpresent']
    simp

/-- Two long identifiers next to each other, and a short one. -/
def identified : Dataset :=
  [.ofCells [("id", .text "9007199254740993")], .ofCells [("id", .text "9007199254740992")],
    .ofCells [("id", .text "-12")]]

def oddId : SignedDigits := .ofInt 9007199254740993

def evenId : SignedDigits := .ofInt 9007199254740992

def shortId : SignedDigits := .ofInt (-12)

theorem holdsInteger_identified :
    HoldsInteger (.ofCells [("id", .text "9007199254740993")]) "id" oddId ∧
      HoldsInteger (.ofCells [("id", .text "9007199254740992")]) "id" evenId ∧
      HoldsInteger (.ofCells [("id", .text "-12")]) "id" shortId :=
  ⟨⟨by decide +kernel, ⟨by decide, by decide⟩, by decide +kernel⟩,
    ⟨by decide +kernel, ⟨by decide, by decide⟩, by decide +kernel⟩,
    ⟨by decide +kernel, ⟨by decide, by decide⟩, by decide +kernel⟩⟩

/-- The short identifier stays apart from the long ones. -/
theorem short_id_stays_apart :
    let profile : Profile := ⟨"id", ⟨.number, 1.0⟩⟩
    (profile ∈ (clean {} identified).profiles ∧ profile.type.kind = .number ∧
      identified[0]? = some (.ofCells [("id", .text "9007199254740993")]) ∧
      identified[2]? = some (.ofCells [("id", .text "-12")]) ∧
      HoldsInteger (.ofCells [("id", .text "9007199254740993")]) profile.column oddId ∧
      HoldsInteger (.ofCells [("id", .text "-12")]) profile.column shortId ∧
      oddId.value ≠ shortId.value) ∧
    ∃ out out', (clean {} identified).rows[0]? = some out ∧
      (clean {} identified).rows[2]? = some out' ∧ out.value "id" ≠ out'.value "id" := by
  intro profile
  obtain ⟨hodd, -, hshort⟩ := holdsInteger_identified
  have detected : profile ∈ (clean {} identified).profiles := by decide +kernel
  have apart : oddId.value ≠ shortId.value := by decide
  refine ⟨⟨detected, rfl, rfl, rfl, hodd, hshort, apart⟩, ?_⟩
  obtain ⟨out, out', hout, hout', hiff, hlarge⟩ :=
    @integers_stay_apart_unless_rounded {} identified profile detected (Or.inr rfl) 0 2 _ _ rfl rfl
      oddId shortId hodd hshort apart
  refine ⟨out, out', hout, hout', fun heq => ?_⟩
  rcases hiff.mp heq with ⟨hnull, -⟩ | ⟨-, -, x, hx, hx', -⟩
  · revert hnull
    decide +kernel
  · have hle := (hlarge x hx hx').2
    revert hle
    decide

/-- The two long identifiers are cleaned to one number. -/
theorem long_ids_merge :
    (⟨"id", ⟨.number, 1.0⟩⟩ : Profile) ∈ (clean {} identified).profiles ∧
      HoldsInteger (.ofCells [("id", .text "9007199254740993")]) "id" oddId ∧
      HoldsInteger (.ofCells [("id", .text "9007199254740992")]) "id" evenId ∧
      oddId.value ≠ evenId.value ∧
      (clean {} identified).rows.map (fun row => row.value "id") =
        [.float 9007199254740992.0, .float 9007199254740992.0, .float (-12.0)] :=
  ⟨by decide +kernel, holdsInteger_identified.1, holdsInteger_identified.2.1, by decide,
    by decide +kernel⟩

/-- Codes for missing numbers are whole numbers that become one value. -/
example : (clean { nullTokens := ["-1", "-2"] }
    [.ofCells [("age", .text "-1")], .ofCells [("age", .text "-2")],
      .ofCells [("age", .text "30")]]).rows.map (fun row => row.value "age") =
    [.null, .null, .integer 30] := by
  decide +kernel

end Rows

end Cleaning

end TableTalk
