import TableTalk.Json.Writer
import TableTalk.Json.Number
import TableTalk.Proofs.Calendar.Shapes
import TableTalk.Proofs.Decimal.Places
import TableTalk.Proofs.Text.Trimming

/-!
# Numbers in documents

Every number of a document is written by the grammar of JSON: a whole part without leading zeros,
and a fraction or an exponent behind it if the number is a float. The reader takes such a text to
its end wherever it stands in a document. What number it makes of the digits is another matter.
-/

namespace TableTalk

open Calendar (IsDigits Stops)

namespace Decimal

variable {n : ℕ} {run : List Char} {s : Scaled} {tie : Tie}

/-- Digits of which the first is not zero. -/
structure IsNumeral (run : List Char) : Prop where
  nonempty : run ≠ []
  plain : IsDigits run
  leading : run.head? ≠ some '0'

theorem isDigits_digitText (n : ℕ) : IsDigits (digitText n) :=
  fun _ => isDigit_of_mem_digitText

theorem head?_digitText_ne (pos : 0 < n) : (digitText n).head? ≠ some '0' := by
  induction n using Nat.strongRecOn with
  | ind n ih =>
    rw [digitText, Nat.toDigits_eq_if (by decide)]
    split
    case isTrue hsmall =>
      have hdigits : ∀ d < 10, 0 < d → d.digitChar ≠ '0' := by decide
      simpa using hdigits n hsmall pos
    case isFalse hlarge =>
      rw [List.head?_append_of_ne_nil _ Nat.toDigits_ne_nil]
      exact ih (n / 10) (by omega) (by omega)

theorem isNumeral_digitText (pos : 0 < n) : IsNumeral (digitText n) where
  nonempty := Nat.toDigits_ne_nil
  plain := isDigits_digitText n
  leading := head?_digitText_ne pos

/-- Digits may be dropped from the end, as long as some are left. -/
theorem IsNumeral.front {front : List Char} (h : IsNumeral run) (some : front ≠ [])
    (begins : front <+: run) : IsNumeral front := by
  obtain ⟨dropped, rfl⟩ := begins
  refine ⟨some, fun c hc => h.plain c (List.mem_append_left dropped hc), ?_⟩
  have hleading := h.leading
  rwa [List.head?_append_of_ne_nil _ some] at hleading

theorem Digits.isNumeral_text {d : Digits} (pos : 0 < d.digits) : IsNumeral d.text := by
  have hfull := isNumeral_digitText pos
  refine hfull.front ?_ (List.rdropWhile_prefix (· == '0') _)
  intro hnil
  have hzeros : ∀ c ∈ digitText d.digits, (c == '0') = true := List.rdropWhile_eq_nil_iff.mp hnil
  obtain ⟨c, cs, hchars⟩ := List.exists_cons_of_ne_nil hfull.nonempty
  have hc := hzeros c (hchars ▸ List.mem_cons_self)
  exact hfull.leading (by rw [hchars, List.head?_cons, beq_iff_eq.mp hc])

theorem Scaled.interval_low_pos (pos : 0 < s.significand) : 0 < s.interval.low := by
  refine Nat.mul_pos ?_ (Nat.pow_pos (by decide))
  split <;> omega

theorem Interval.pos_of_holds {i : Interval} {scale : ℕ} (low : 0 < i.low) (pos : 0 < scale)
    (h : i.holds n scale = true) : 0 < n := by
  have hbound : 0 < i.low * scale := Nat.mul_pos low pos
  have hpoint : 0 < n * i.denominator := by
    unfold Interval.holds at h
    dsimp only at h
    split at h <;>
    · rw [Bool.and_eq_true, decide_eq_true_eq] at h
      omega
  exact Nat.pos_of_mul_pos_right hpoint

theorem Interval.onGrid_pos {i : Interval} {point : ℤ} {count digits : ℕ} (low : 0 < i.low)
    (h : i.onGrid tie point count = some digits) : 0 < digits := by
  simp only [Interval.onGrid] at h
  split at h
  case h_1 hbelow _ | h_2 hbelow _ =>
    have hpos := Interval.pos_of_holds (Nat.mul_pos low (Nat.pow_pos (by decide))) one_pos hbelow
    grind
  case h_3 => grind
  case h_4 => cases h

/-- The fewest digits of a number other than zero are not zero. -/
theorem shortest_pos (pos : 0 < s.significand) : 0 < (shortest tie s).digits := by
  rw [shortest]
  split
  case h_1 digits count hfound =>
    split
    · exact one_pos
    · obtain ⟨k, -, hk⟩ := List.exists_of_findSome?_eq_some hfound
      obtain ⟨found, hgrid, heq⟩ := Option.map_eq_some_iff.mp hk
      obtain ⟨rfl, -⟩ := Prod.mk.inj heq
      exact Interval.onGrid_pos (Scaled.interval_low_pos pos) hgrid
  case h_2 => exact pos

end Decimal

namespace Json

open Decimal (IsNumeral)

/-- What stands behind a value in an object: nothing more, the next member, or the end. -/
def Ends (rest : List Char) : Prop :=
  ∀ c ∈ rest.head?, c = ',' ∨ c = '\x7d'

theorem ends_nil : Ends [] := by
  intro c hc
  cases hc

theorem Ends.stops {rest : List Char} (h : Ends rest) : Stops Char.isDigit rest := by
  intro c hc
  rcases h c hc with rfl | rfl <;> rfl

/-- A whole part, without a zero in front of other digits. -/
structure IsWhole (run : List Char) : Prop where
  nonempty : run ≠ []
  plain : IsDigits run
  alone_of_zero : run.head? = some '0' → run = ['0']

namespace NumberText

variable {n : NumberText} {rest : List Char}

def fractionText (fraction : Option (List Char)) : List Char :=
  fraction.elim [] ('.' :: ·)

def exponentText (exponent : Option (Bool × List Char)) : List Char :=
  exponent.elim [] fun e => 'e' :: (if e.1 then '-' else '+') :: e.2

/-- The text of a number without its sign. -/
def body (n : NumberText) : List Char :=
  n.whole ++ (fractionText n.fraction ++ exponentText n.exponent)

def text (n : NumberText) : List Char :=
  if n.negative then '-' :: n.body else n.body

/-- The pieces are digits, as the grammar has them. -/
structure IsWritten (n : NumberText) : Prop where
  whole : IsWhole n.whole
  fraction : ∀ run ∈ n.fraction, run ≠ [] ∧ IsDigits run
  exponent : ∀ e ∈ n.exponent, e.2 ≠ [] ∧ IsDigits e.2

theorem spanDigits_append {run : List Char} (plain : IsDigits run) (stops : Stops Char.isDigit rest) :
    Decimal.spanDigits (run ++ rest) = (run, rest) := by
  rw [Decimal.spanDigits, Calendar.takeWhile_append plain stops,
    Calendar.dropWhile_append plain stops]

theorem whole?_append {run : List Char} (h : IsWhole run) (stops : Stops Char.isDigit rest) :
    whole? (run ++ rest) = some (run, rest) := by
  rw [whole?, spanDigits_append h.plain stops]
  obtain ⟨c, cs, rfl⟩ := List.exists_cons_of_ne_nil h.nonempty
  cases cs with
  | nil => simp
  | cons d cs =>
    have hc : c ≠ '0' := by
      rintro rfl
      cases h.alone_of_zero rfl
    simp [hc]

/-- Digits that are read are some. -/
theorem spanDigits_some {run : List Char} (some : run ≠ []) (plain : IsDigits run)
    (stops : Stops Char.isDigit rest) :
    ∃ c cs, run = c :: cs ∧ Decimal.spanDigits (c :: (cs ++ rest)) = (c :: cs, rest) := by
  obtain ⟨c, cs, rfl⟩ := List.exists_cons_of_ne_nil some
  exact ⟨c, cs, rfl, spanDigits_append plain stops⟩

theorem numberSign_text (h : n.IsWritten) (rest : List Char) :
    numberSign (n.text ++ rest) = (n.negative, n.body ++ rest) := by
  rw [text]
  split
  case isTrue hnegative => rw [hnegative]; rfl
  case isFalse hpositive =>
    obtain ⟨c, cs, hwhole⟩ := List.exists_cons_of_ne_nil h.whole.nonempty
    have hdigit : c.isDigit = true := h.whole.plain c (hwhole ▸ List.mem_cons_self)
    have hc : c ≠ '-' := Calendar.ne_of_isDigit hdigit rfl
    rw [Bool.eq_false_iff.mpr hpositive, body, hwhole, List.cons_append, List.cons_append,
      numberSign]
    simp [hc]

theorem stops_exponentText (exponent : Option (Bool × List Char)) (ends : Ends rest) :
    Stops Char.isDigit (exponentText exponent ++ rest) := by
  cases exponent with
  | none => exact ends.stops
  | some e => exact Calendar.stops_cons.mpr rfl

theorem stops_fractionText (fraction : Option (List Char)) (stops : Stops Char.isDigit rest) :
    Stops Char.isDigit (fractionText fraction ++ rest) := by
  cases fraction with
  | none => exact stops
  | some run => exact Calendar.stops_cons.mpr rfl

theorem exponent?_text {exponent : Option (Bool × List Char)}
    (h : ∀ e ∈ exponent, e.2 ≠ [] ∧ IsDigits e.2) (ends : Ends rest) :
    exponent? (exponentText exponent ++ rest) = some (exponent, rest) := by
  cases exponent with
  | none =>
    cases rest with
    | nil => rfl
    | cons c rest => rcases ends c rfl with rfl | rfl <;> rfl
  | some e =>
    obtain ⟨negative, digits⟩ := e
    obtain ⟨some, plain⟩ := h _ rfl
    obtain ⟨c, cs, rfl, hspan⟩ := spanDigits_some some plain ends.stops
    have hsign : exponentSign ((if negative then '-' else '+') :: (c :: cs ++ rest)) =
        (negative, c :: cs ++ rest) := by
      cases negative <;> rfl
    show exponent? ('e' :: (if negative then '-' else '+') :: (c :: cs ++ rest)) = _
    rw [exponent?, hsign]
    simp [hspan]

theorem fraction?_text {fraction : Option (List Char)}
    (h : ∀ run ∈ fraction, run ≠ [] ∧ IsDigits run) (exponent : Option (Bool × List Char))
    (ends : Ends rest) :
    fraction? (fractionText fraction ++ (exponentText exponent ++ rest)) =
      some (fraction, exponentText exponent ++ rest) := by
  cases fraction with
  | none =>
    cases exponent with
    | none =>
      cases rest with
      | nil => rfl
      | cons c rest => rcases ends c rfl with rfl | rfl <;> rfl
    | some e => rfl
  | some run =>
    obtain ⟨some, plain⟩ := h _ rfl
    obtain ⟨c, cs, rfl, hspan⟩ := spanDigits_some some plain (stops_exponentText exponent ends)
    show fraction? ('.' :: c :: (cs ++ (exponentText exponent ++ rest))) = _
    rw [fraction?, hspan]

/-- A number is read to its end. -/
theorem number?_text (h : n.IsWritten) (ends : Ends rest) :
    number? (n.text ++ rest) = some (n, rest) := by
  have hwhole := whole?_append h.whole
    (stops_fractionText n.fraction (stops_exponentText n.exponent ends))
  have hbody : n.body ++ rest =
      n.whole ++ (fractionText n.fraction ++ (exponentText n.exponent ++ rest)) := by
    rw [body, List.append_assoc, List.append_assoc]
  rw [number?, numberSign_text h, hbody]
  simp only [hwhole, fraction?_text h.fraction n.exponent ends, exponent?_text h.exponent ends,
    Option.bind_eq_bind, Option.bind_some, Option.pure_def]

end NumberText

section Floats

open Decimal (positional jsonText)
open NumberText (fractionText exponentText)

variable {digits : List Char} {x : Float}

theorem isDigits_append {run other : List Char} (plain : IsDigits run) (plainOther : IsDigits other) :
    IsDigits (run ++ other) :=
  List.forall_mem_append.mpr ⟨plain, plainOther⟩

theorem isDigits_zeros (count : ℕ) : IsDigits (List.replicate count '0') := by
  intro c hc
  rw [List.eq_of_mem_replicate hc]
  rfl

/-- More digits may stand behind a numeral. -/
theorem isWhole_append {more : List Char} (h : IsNumeral digits) (plain : IsDigits more) :
    IsWhole (digits ++ more) where
  nonempty hnil := h.nonempty (List.append_eq_nil_iff.mp hnil).1
  plain := isDigits_append h.plain plain
  alone_of_zero hzero := by
    rw [List.head?_append_of_ne_nil _ h.nonempty] at hzero
    exact absurd hzero h.leading

/-- Wherever the point is put, there are digits on both sides of it, or it is left out. -/
theorem exists_positional (h : IsNumeral digits) (point : ℤ) :
    ∃ whole fraction, positional digits point = whole ++ fractionText fraction ∧ IsWhole whole ∧
      ∀ run ∈ fraction, run ≠ [] ∧ IsDigits run := by
  rw [positional]
  split
  case isTrue =>
    refine ⟨['0'], some (List.replicate (-point).toNat '0' ++ digits), rfl, ?_, ?_⟩
    · exact ⟨List.cons_ne_nil _ _, by simp [IsDigits], fun _ => rfl⟩
    · rintro run ⟨⟩
      exact ⟨by simp [h.nonempty], isDigits_append (isDigits_zeros _) h.plain⟩
  case isFalse hpoint =>
    split
    case isTrue =>
      exact ⟨_, none, (List.append_nil _).symm, isWhole_append h (isDigits_zeros _), by simp⟩
    case isFalse hshort =>
      have hsome : digits.take point.toNat ≠ [] := by
        rw [Ne, List.take_eq_nil_iff, not_or]
        exact ⟨by omega, h.nonempty⟩
      have hfront := h.front hsome (List.take_prefix _ digits)
      refine ⟨digits.take point.toNat, some (digits.drop point.toNat), rfl, ?_, ?_⟩
      · simpa using isWhole_append hfront (List.forall_mem_nil _)
      · rintro run ⟨⟩
        refine ⟨?_, h.plain.drop _⟩
        rw [Ne, List.drop_eq_nil_iff]
        omega

theorem signed_body {n : NumberText} {cs : List Char} (negative : n.negative = Decimal.isNegative x)
    (body : cs = n.body) : (Decimal.signed x cs).toList = n.text := by
  rw [Decimal.signed, String.toList_ofList, NumberText.text, negative, body]

theorem isWritten_zero (negative : Bool) :
    NumberText.IsWritten ⟨negative, ['0'], some ['0'], none⟩ where
  whole := ⟨List.cons_ne_nil _ _, isDigits_zeros 1, fun _ => rfl⟩
  fraction run h := by
    obtain rfl := Option.some.inj h
    exact ⟨List.cons_ne_nil _ _, isDigits_zeros 1⟩
  exponent e h := by cases h

/-- A float is written with a fraction or an exponent, so that it is not taken for a whole
number. -/
theorem exists_jsonText (x : Float) :
    ∃ n : NumberText, (jsonText x).toList = n.text ∧ n.IsWritten ∧
      (n.fraction.isSome || n.exponent.isSome) = true := by
  rw [jsonText]
  split
  case isTrue =>
    exact ⟨⟨Decimal.isNegative x, ['0'], some ['0'], none⟩, signed_body rfl rfl,
      isWritten_zero _, rfl⟩
  case isFalse hzero =>
    have hpos : 0 < (Decimal.shortest .toEven (Decimal.scaled x)).digits :=
      Decimal.shortest_pos (Nat.pos_of_ne_zero hzero)
    have hnumeral := Decimal.Digits.isNumeral_text hpos
    generalize Decimal.shortest .toEven (Decimal.scaled x) = d at hnumeral ⊢
    dsimp only
    split
    case isTrue =>
      obtain ⟨whole, fraction, hpositional, hwhole, hfraction⟩ :=
        exists_positional hnumeral d.point
      rw [hpositional]
      cases fraction with
      | none =>
        have hpoint : (whole ++ fractionText none).contains '.' = false := by
          rw [List.contains_eq_mem, decide_eq_false_iff_not]
          intro hmem
          exact Calendar.ne_of_isDigit (hwhole.plain '.' (by simpa [fractionText] using hmem)) rfl rfl
        rw [if_neg (Bool.eq_false_iff.mp hpoint)]
        refine ⟨⟨Decimal.isNegative x, whole, some ['0'], none⟩, signed_body rfl ?_,
          ⟨hwhole, (isWritten_zero false).fraction, (isWritten_zero false).exponent⟩, rfl⟩
        simp [NumberText.body, fractionText, exponentText]
      | some run =>
        have hpoint : (whole ++ fractionText (some run)).contains '.' = true := by
          simp [fractionText]
        rw [if_pos hpoint]
        refine ⟨⟨Decimal.isNegative x, whole, some run, none⟩, signed_body rfl ?_,
          ⟨hwhole, hfraction, (isWritten_zero false).exponent⟩, rfl⟩
        simp [NumberText.body, exponentText]
    case isFalse =>
      obtain ⟨whole, fraction, hpositional, hwhole, hfraction⟩ := exists_positional hnumeral 1
      refine ⟨⟨Decimal.isNegative x, whole, fraction,
        some (decide (d.point - 1 < 0), Decimal.digitText (d.point - 1).natAbs)⟩,
        signed_body rfl ?_, ⟨hwhole, hfraction, ?_⟩, Bool.or_true _⟩
      · rw [hpositional]
        simp [NumberText.body, exponentText]
      · intro e he
        obtain rfl := Option.some.inj he
        exact ⟨Nat.toDigits_ne_nil, Decimal.isDigits_digitText _⟩

end Floats

section Wholes

/-- The digits of a whole number, with its sign. -/
def wholeText (i : ℤ) : NumberText :=
  ⟨decide (i < 0), Decimal.digitText i.natAbs, none, none⟩

theorem toList_toString (i : ℤ) : (toString i).toList = (wholeText i).text := by
  have hbody : (wholeText i).body = Decimal.digitText i.natAbs := List.append_nil _
  have hdigits (n : ℕ) : n.repr.toList = Decimal.digitText n := Nat.toList_repr
  rw [Int.toString_eq_repr, Int.repr_eq_if, NumberText.text, hbody]
  by_cases hi : 0 ≤ i
  · have hnegative : (wholeText i).negative = false := decide_eq_false (by omega)
    have habs : i.toNat = i.natAbs := by omega
    rw [if_pos hi, hnegative, if_neg Bool.false_ne_true, hdigits, habs]
  · have hnegative : (wholeText i).negative = true := decide_eq_true (by omega)
    have habs : (-i).toNat = i.natAbs := by omega
    rw [if_neg hi, hnegative, if_pos rfl, String.toList_append, hdigits, habs]
    rfl

theorem isWritten_wholeText (i : ℤ) : (wholeText i).IsWritten where
  whole := by
    by_cases hi : i.natAbs = 0
    · rw [wholeText, hi]
      exact (isWritten_zero false).whole
    · have h := Decimal.isNumeral_digitText (Nat.pos_of_ne_zero hi)
      exact ⟨h.nonempty, h.plain, fun hzero => absurd hzero h.leading⟩
  fraction _ h := by cases h
  exponent _ h := by cases h

/-- A whole number in 64 bits is read back from its digits. -/
theorem value_wholeText (i : Int64) : (wholeText i.toInt).value = .int i.toInt := by
  have hdigits : Decimal.digitsValue (Decimal.digitText i.toInt.natAbs) = i.toInt.natAbs :=
    Nat.ofDigitChars_ten_toDigits
  have hlow : -2 ^ 63 ≤ i.toInt := i.minValue_le_toInt
  have hhigh : i.toInt ≤ 2 ^ 63 - 1 := i.toInt_le
  have hfits : ¬ maxSignificand < i.toInt.natAbs := by
    rw [maxSignificand, Nat.pow_eq]
    omega
  rw [NumberText.value, wholeText]
  simp only [hdigits, Option.isSome_none, Bool.or_false, Bool.false_eq_true, ↓reduceIte,
    if_neg hfits, Bool.not_eq_true', decide_eq_false_iff_not]
  by_cases hi : i.toInt < 0
  · have hzero : i.toInt.natAbs ≠ 0 := by omega
    have hsmall : i.toInt.natAbs ≤ Nat.pow 2 63 := by
      rw [Nat.pow_eq]
      omega
    have hvalue : -(i.toInt.natAbs : ℤ) = i.toInt := by omega
    rw [if_neg (not_not.mpr hi), if_neg hzero, if_pos hsmall, hvalue]
  · have hvalue : (i.toInt.natAbs : ℤ) = i.toInt := by omega
    rw [if_pos hi, hvalue]

end Wholes

end Json

end TableTalk
