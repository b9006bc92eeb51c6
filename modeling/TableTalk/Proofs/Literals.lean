import TableTalk.Proofs.Decimal.Integers
import TableTalk.Proofs.Text.Scanning
import TableTalk.Proofs.Vocabulary

/-!
# Whole numbers in comparisons

The number in a comparison is read by way of its nearest number. Without a point it
always stands for a whole number, but for the one that is written only if that is one of
at most 53 bits times a power of two. Digits of other scripts are found, and then not read.
-/

namespace TableTalk.Question

open Decimal (SignedDigits IsNearest IsInt64 FitsSignificand signedText)
open Text (isWordDigit)
open Text.Scanner (Yields yields_pure yields_some yields_text)

variable {found : Comparison} {condition : Condition} {columns : List String} {threshold : Float}

/-- Digits of any script, perhaps with a point and further digits. -/
structure IsNumeral (text : String) (whole fraction : List Char) : Prop where
  some : whole ≠ []
  digits : ∀ c ∈ whole, isWordDigit c = true
  eq : text = String.ofList (whole ++ fraction)
  point : fraction = [] ∨ '.' ∈ fraction

/-- A numeral with or without a minus sign in front. -/
def IsSigned (text : String) : Prop :=
  ∃ sign numeral whole fraction, (sign = "-" ∨ sign = "") ∧ IsNumeral numeral whole fraction ∧
    text = sign ++ numeral

theorem yields_number :
    Yields number fun text => ∃ whole fraction, IsNumeral text whole fraction := by
  refine (yields_some isWordDigit).bind fun whole hwhole => ?_
  have some : whole ≠ [] := List.ne_nil_of_length_pos hwhole.1
  have hfraction : Yields (Text.Scanner.either
      (do
        let _ ← Text.Scanner.text "."
        let places ← Text.Scanner.digits
        pure ('.' :: places))
      (Text.Scanner.done [])) fun fraction => fraction = [] ∨ '.' ∈ fraction := by
    refine Yields.either (.skip fun _ => .skip fun places => ?_) ?_
    · exact yields_pure (Or.inr List.mem_cons_self)
    · exact yields_pure (Or.inl rfl)
  exact hfraction.bind fun fraction hpoint =>
    yields_pure ⟨whole, fraction, some, hwhole.2, rfl, hpoint⟩

theorem yields_comparisonPattern :
    Yields comparisonPattern fun found => IsSigned found.number := by
  have hsign : Yields (Text.Scanner.either (Text.Scanner.text "-")
      (Text.Scanner.done "")) fun sign => sign = "-" ∨ sign = "" := by
    refine Yields.either (fun cursor value last h => Or.inl ?_) ?_
    · exact yields_text "-" cursor value last h
    · exact yields_pure (Or.inr rfl)
  refine .skip fun _ => .skip fun _ => .skip fun _ => .skip fun _ => .skip fun _ => .skip fun _ =>
    .skip fun _ => hsign.bind fun sign hsign => yields_number.bind fun text hnumeral =>
    .skip fun _ => yields_pure ?_
  obtain ⟨whole, fraction, hnumeral⟩ := hnumeral
  exact ⟨sign, text, whole, fraction, hsign, hnumeral, rfl⟩

/-- A number without a point that is read at all is a whole number in ASCII digits. -/
theorem exists_written {number : String} (signed : IsSigned number)
    (point : '.' ∉ number.toList) (read : (literal? number).isSome = true) :
    ∃ written : SignedDigits, number = written.text := by
  obtain ⟨sign, text, whole, fraction, hsign, hnumeral, rfl⟩ := signed
  obtain rfl : fraction = [] := by
    refine hnumeral.point.resolve_right fun hmem => point ?_
    rw [hnumeral.eq, String.toList_append, String.toList_ofList]
    simp [hmem]
  have htext : sign ++ text = signedText (sign == "-") whole := by
    rw [hnumeral.eq, List.append_nil, signedText, ← String.toList_inj, String.toList_append,
      String.toList_ofList, String.toList_ofList]
    rcases hsign with rfl | rfl <;> rfl
  rw [htext] at read ⊢
  rw [literal?, Option.isSome_map, Decimal.read?_signedText hnumeral.some hnumeral.digits,
    Option.isSome_map] at read
  have plain := Decimal.isDigits_of_unsigned? hnumeral.digits read
  exact ⟨⟨sign == "-", whole, hnumeral.some, plain⟩, rfl⟩

theorem literal?_text (written : SignedDigits) (range : IsInt64 written.value) :
    literal? written.text = some (.integer (Decimal.toInt64 written.number)) := by
  have hnearest := written.isNearest_number range.natAbs_le
  have hpoint : '.' ∉ written.text.toList := written.not_mem_text (by decide) (by decide)
  rw [literal?, written.read?_text range.natAbs_le, Option.map_some, hnearest.isWhole]
  simp [hpoint]

theorem literal?_of_comparison? (h : comparison? columns threshold found = some condition) :
    literal? found.number = some condition.value := by
  simp only [comparison?, Option.bind_eq_bind, Option.bind_eq_some_iff, Option.pure_def,
    Option.some.injEq] at h
  obtain ⟨_, -, _, -, value, hvalue, rfl⟩ := h
  exact hvalue

/-- The filters of a question are the conditions of the comparisons in it. Where a whole number of
64 bits is written without a point, the value is what its nearest number is cut back to. It is the
number that is written just if that is one of at most 53 bits times a power of two, or the greatest
one of all. -/
theorem whole_literals_taken_exactly_iff (question : String) (schema : Schema) (threshold : Float) :
    let places := Text.findAll comparisonPattern (scanned question)
    (read question schema threshold).filters =
        places.filterMap (fun place => comparison? schema.columnNames threshold place.value) ∧
      ∀ place ∈ places, ∀ condition,
        comparison? schema.columnNames threshold place.value = some condition →
        '.' ∉ place.value.number.toList →
        (∃ written : SignedDigits, place.value.number = written.text) ∧
        ∀ written : SignedDigits, place.value.number = written.text → IsInt64 written.value →
          ∃ x, IsNearest written.value x ∧ condition.value = .integer (Decimal.toInt64 x) ∧
            (condition.value = .integer (Int64.ofInt written.value) ↔
              FitsSignificand written.value ∨ written.value = 2 ^ 63 - 1) := by
  intro places
  refine ⟨filters_read question schema threshold, ?_⟩
  intro place hplace condition hcondition hpoint
  have hliteral := literal?_of_comparison? hcondition
  have hsigned : IsSigned place.value.number := yields_comparisonPattern.of_mem_findAll hplace
  refine ⟨exists_written hsigned hpoint (hliteral ▸ rfl), fun written hwritten range => ?_⟩
  have hnearest := written.isNearest_number range.natAbs_le
  rw [hwritten, literal?_text written range] at hliteral
  have hvalue := (Option.some.inj hliteral).symm
  refine ⟨written.number, hnearest, hvalue, ?_⟩
  rw [hvalue, Value.integer.injEq]
  exact hnearest.toInt64_eq_ofInt_iff range

theorem short_id_taken_exactly :
    let schema : Schema := .singleTable "shop" ["id"]
    let places := Text.findAll comparisonPattern (scanned "show orders with id = -12")
    let written : SignedDigits := .ofInt (-12)
    ∃ place ∈ places, ∃ condition,
      comparison? schema.columnNames Matching.defaultThreshold place.value = some condition ∧
      '.' ∉ place.value.number.toList ∧ place.value.number = written.text ∧
      IsInt64 written.value ∧ condition.value = .integer (-12) := by
  intro schema places written
  have hplaces : (places.map fun place => (place.value.number,
      (comparison? schema.columnNames Matching.defaultThreshold place.value).isSome)) =
      [("-12", true)] := by decide +kernel
  obtain ⟨place, hplace, hshape⟩ := List.mem_map.mp (hplaces ▸ List.mem_singleton_self _)
  obtain ⟨hnumber, hsome⟩ := Prod.mk.inj hshape
  obtain ⟨condition, hcondition⟩ := Option.isSome_iff_exists.mp hsome
  have hpoint : '.' ∉ place.value.number.toList := by
    rw [hnumber]
    decide
  have hwritten : place.value.number = written.text := hnumber.trans (by decide +kernel)
  have hvalue : written.value = -12 := SignedDigits.value_ofInt (-12)
  have range : IsInt64 written.value := by
    rw [hvalue]
    exact ⟨by decide, by decide⟩
  refine ⟨place, hplace, condition, hcondition, hpoint, hwritten, range, ?_⟩
  obtain ⟨x, -, -, hiff⟩ :=
    ((whole_literals_taken_exactly_iff _ schema _).2 place hplace condition hcondition hpoint).2
      written hwritten range
  rw [hvalue] at hiff
  exact hiff.mpr (Or.inl (Decimal.fitsSignificand_of_lt (by decide)))

/-- Where a long number is asked for, the one in front of it is looked for. -/
theorem long_id_taken_for_another :
    let schema : Schema := .singleTable "shop" ["id"]
    let question := "id = 9007199254740993"
    (Text.findAll comparisonPattern (scanned question)).map (fun place => place.value.number) =
        ["9007199254740993"] ∧
      (read question schema Matching.defaultThreshold).filters =
        [⟨"id", .eq, .integer 9007199254740992⟩] := by
  decide +kernel

end TableTalk.Question
