import TableTalk.Decimal.Notation
import TableTalk.Proofs.Decimal.Exact

/-!
# Numbers in tables have four places

The spelling of a finite number in tables is a spelling of its sign and of the number
of ten-thousandths next to it, without the zeros at the end. Signs and numbers of
ten-thousandths can be read back from it, so two numbers are spelled alike exactly if
they have the same sign and round to the same number of ten-thousandths.
-/

namespace TableTalk.Decimal

/-- Ten-thousandths below one, as four digits. -/
def places (n : ℕ) : List Char :=
  List.replicate (4 - (digitText (n % 10 ^ 4)).length) '0' ++ digitText (n % 10 ^ 4)

/-- What follows the whole part of some ten-thousandths: a point and the places without the zeros
at their end, or nothing. -/
def fractionText (n : ℕ) : List Char :=
  if (places n).rdropWhile (· == '0') = [] then []
  else '.' :: (places n).rdropWhile (· == '0')

def unitsText (n : ℕ) : List Char :=
  digitText (n / 10 ^ 4) ++ fractionText n

/-- The ten-thousandths next to a number without its sign, the even ones if there are two. -/
def tenThousandths (q : ℚ) : ℕ :=
  roundHalfEven (q.num.natAbs * 10 ^ 4) q.den

/-- Digits with a sign in front if the number is negative. -/
def signedText (negative : Bool) (digits : List Char) : String :=
  String.ofList (if negative then '-' :: digits else digits)

section Spelling

variable {m n : ℕ}

theorem isDigit_of_mem_digitText {c : Char} (h : c ∈ digitText n) : c.isDigit = true :=
  Nat.isDigit_of_mem_toDigits (by decide) (by decide) h

theorem length_places (n : ℕ) : (places n).length = 4 := by
  have hle : (digitText (n % 10 ^ 4)).length ≤ 4 :=
    (Nat.length_toDigits_le_iff (by decide) (by decide)).mpr (Nat.mod_lt n (by decide))
  rw [places, List.length_append, List.length_replicate, Nat.sub_add_cancel hle]

theorem isDigit_of_mem_places {c : Char} (h : c ∈ places n) : c.isDigit = true := by
  rcases List.mem_append.mp h with h | h
  · rw [List.eq_of_mem_replicate h]
    rfl
  · exact isDigit_of_mem_digitText h

theorem ofDigitChars_places (n : ℕ) : Nat.ofDigitChars 10 (places n) 0 = n % 10 ^ 4 := by
  rw [places, Nat.ofDigitChars_append, Nat.ofDigitChars_replicate_zero, Nat.mul_zero, digitText,
    Nat.ofDigitChars_ten_toDigits]

/-- The places are those that are kept and zeros, whose count is known. -/
theorem places_eq_append (n : ℕ) : places n = (places n).rdropWhile (· == '0') ++
    List.replicate (4 - ((places n).rdropWhile (· == '0')).length) '0' := by
  have hsplit := List.rdropWhile_append_rtakeWhile (p := (· == '0')) (l := places n)
  have hzeros : (places n).rtakeWhile (· == '0') =
      List.replicate (4 - ((places n).rdropWhile (· == '0')).length) '0' := by
    have hlength := congrArg List.length hsplit
    rw [List.length_append, length_places] at hlength
    refine List.eq_replicate_iff.mpr ⟨by omega, fun c hc => ?_⟩
    exact beq_iff_eq.mp (List.mem_rtakeWhile_imp (p := (· == '0')) hc)
  rw [← hzeros, hsplit]

theorem places_eq_of_trimmed
    (h : (places m).rdropWhile (· == '0') = (places n).rdropWhile (· == '0')) :
    places m = places n := by
  rw [places_eq_append m, places_eq_append n, h]

theorem fractionText_eq_nil_or (n : ℕ) :
    fractionText n = [] ∨ ∃ places, fractionText n = '.' :: places := by
  unfold fractionText
  split
  · exact Or.inl rfl
  · exact Or.inr ⟨_, rfl⟩

theorem mod_eq_of_fractionText (h : fractionText m = fractionText n) :
    m % 10 ^ 4 = n % 10 ^ 4 := by
  have htrimmed : (places m).rdropWhile (· == '0') = (places n).rdropWhile (· == '0') := by
    unfold fractionText at h
    split at h <;> split at h
    case isTrue.isTrue hm hn => rw [hm, hn]
    case isFalse.isFalse => exact (List.cons.inj h).2
    all_goals cases h
  rw [← ofDigitChars_places, ← ofDigitChars_places, places_eq_of_trimmed htrimmed]

/-- The whole part ends where the digits end. -/
theorem takeWhile_unitsText (n : ℕ) :
    (unitsText n).takeWhile Char.isDigit = digitText (n / 10 ^ 4) := by
  rw [unitsText, List.takeWhile_append_of_pos fun c hc => isDigit_of_mem_digitText hc]
  rcases fractionText_eq_nil_or n with h | ⟨places, h⟩
  · rw [h, List.takeWhile_nil, List.append_nil]
  · rw [h, List.takeWhile_cons_of_neg (by decide), List.append_nil]

theorem unitsText_inj (h : unitsText m = unitsText n) : m = n := by
  -- the whole part is what the digits in front are, and what is left of the text is the fraction
  have hwhole : digitText (m / 10 ^ 4) = digitText (n / 10 ^ 4) := by
    rw [← takeWhile_unitsText, ← takeWhile_unitsText, h]
  have hdiv : m / 10 ^ 4 = n / 10 ^ 4 := by
    rw [← Nat.ofDigitChars_ten_toDigits (n := m / 10 ^ 4),
      ← Nat.ofDigitChars_ten_toDigits (n := n / 10 ^ 4)]
    exact congrArg (fun digits => Nat.ofDigitChars 10 digits 0) hwhole
  have hmod : m % 10 ^ 4 = n % 10 ^ 4 := by
    apply mod_eq_of_fractionText
    rw [unitsText, unitsText, hwhole] at h
    exact List.append_cancel_left h
  rw [← Nat.div_add_mod m (10 ^ 4), hdiv, hmod, Nat.div_add_mod]

theorem head?_unitsText_ne (n : ℕ) : (unitsText n).head? ≠ some '-' := by
  obtain ⟨c, rest, hdigits⟩ :=
    List.exists_cons_of_ne_nil (Nat.toDigits_ne_nil (b := 10) (n := n / 10 ^ 4))
  have hdigit : c.isDigit = true := isDigit_of_mem_digitText (n := n / 10 ^ 4) (by
    rw [digitText, hdigits]
    exact List.mem_cons_self)
  rw [unitsText, digitText, hdigits]
  intro h
  obtain rfl := Option.some.inj h
  exact absurd hdigit (by decide)

theorem signedText_unitsText_inj {s t : Bool}
    (h : signedText s (unitsText m) = signedText t (unitsText n)) : s = t ∧ m = n := by
  have hlist := String.ofList_inj.mp h
  -- no digits begin with a sign
  cases s <;> cases t
  · exact ⟨rfl, unitsText_inj hlist⟩
  · exact absurd (congrArg List.head? hlist) (head?_unitsText_ne m)
  · exact absurd (congrArg List.head? hlist).symm (head?_unitsText_ne n)
  · exact ⟨rfl, unitsText_inj (List.cons.inj hlist).2⟩

theorem unitsText_mul (n : ℕ) : unitsText (n * 10 ^ 4) = digitText n := by
  have hfraction : fractionText (n * 10 ^ 4) = [] := by
    have hplaces : places (n * 10 ^ 4) = ['0', '0', '0', '0'] := by
      rw [places, Nat.mul_mod_left]
      rfl
    rw [fractionText, hplaces]
    rfl
  rw [unitsText, hfraction, List.append_nil, Nat.mul_div_cancel n (by decide)]

theorem rdropWhile_append_zeros (text : List Char) (k : ℕ) :
    (text ++ List.replicate k '0').rdropWhile (· == '0') = text.rdropWhile (· == '0') := by
  rw [List.rdropWhile, List.reverse_append, List.reverse_replicate, List.dropWhile_append_of_pos,
    List.rdropWhile]
  intro c hc
  rw [List.eq_of_mem_replicate hc]
  rfl

theorem rdropWhile_append_of_getLast {p : Char → Bool} {text : List Char} (whole : List Char)
    (hne : text ≠ []) (h : ¬ p (text.getLast hne) = true) :
    (whole ++ text).rdropWhile p = whole ++ text := by
  refine List.rdropWhile_eq_self_iff.mpr fun _ => ?_
  rwa [List.getLast_append_of_ne_nil _ hne]

theorem rdropWhile_point {whole kept : List Char} (hwhole : '.' ∉ whole)
    (hlast : ∀ hne : kept ≠ [], kept.getLast hne ≠ '0' ∧ kept.getLast hne ≠ '.') :
    ((whole ++ '.' :: kept).rdropWhile (· == '0')).rdropWhile (· == '.') =
      whole ++ if kept = [] then [] else '.' :: kept := by
  by_cases hnil : kept = []
  · subst hnil
    rw [if_pos rfl, List.rdropWhile_concat_neg _ _ _ (by decide),
      List.rdropWhile_concat_pos _ _ _ (by decide), List.append_nil]
    refine List.rdropWhile_eq_self_iff.mpr fun hne hpoint => hwhole ?_
    rw [← beq_iff_eq.mp hpoint]
    exact List.getLast_mem hne
  · obtain ⟨hzero, hpoint⟩ := hlast hnil
    have hsplit : whole ++ '.' :: kept = (whole ++ ['.']) ++ kept := List.append_cons _ _ _
    have hkeep {c : Char} (hne : kept.getLast hnil ≠ c) :
        ((whole ++ ['.']) ++ kept).rdropWhile (· == c) = (whole ++ ['.']) ++ kept :=
      rdropWhile_append_of_getLast _ hnil fun he => hne (beq_iff_eq.mp he)
    rw [if_neg hnil, hsplit, hkeep hzero, hkeep hpoint]

/-- The zeros at the end are taken off, and the point if nothing is left after it. -/
theorem rdropWhile_places {whole : List Char} (hwhole : '.' ∉ whole) (n : ℕ) :
    ((whole ++ '.' :: places n).rdropWhile (· == '0')).rdropWhile (· == '.') =
      whole ++ fractionText n := by
  have hzeros : (whole ++ '.' :: places n).rdropWhile (· == '0') =
      (whole ++ '.' :: (places n).rdropWhile (· == '0')).rdropWhile (· == '0') := by
    conv_lhs => rw [places_eq_append n, ← List.cons_append, ← List.append_assoc,
      rdropWhile_append_zeros]
  rw [hzeros, fractionText]
  refine rdropWhile_point hwhole fun hne => ⟨?_, ?_⟩
  · intro hzero
    exact List.rdropWhile_last_not _ _ hne (beq_iff_eq.mpr hzero)
  · intro hpoint
    have hdigit := isDigit_of_mem_places
      ((List.rdropWhile_prefix _ _).subset (List.getLast_mem hne))
    rw [hpoint] at hdigit
    exact absurd hdigit (by decide)

theorem roundHalfEven_eq_or (n d : ℕ) :
    (roundHalfEven n d = n / d ∧ 2 * (n % d) ≤ d) ∨
      (roundHalfEven n d = n / d + 1 ∧ d ≤ 2 * (n % d)) := by
  unfold roundHalfEven
  dsimp only
  split
  · exact Or.inl ⟨rfl, by omega⟩
  · split
    · rcases Nat.mod_two_eq_zero_or_one (n / d) with h | h
      · exact Or.inl ⟨by omega, by omega⟩
      · exact Or.inr ⟨by omega, by omega⟩
    · exact Or.inr ⟨rfl, by omega⟩

/-- The number next to a quotient is within a half of it. -/
theorem roundHalfEven_bounds {d : ℕ} (n : ℕ) (hd : 0 < d) :
    2 * n ≤ 2 * (roundHalfEven n d * d) + d ∧ 2 * (roundHalfEven n d * d) ≤ 2 * n + d := by
  have hsplit := Nat.div_add_mod' n d
  have hmod := Nat.mod_lt n hd
  rcases roundHalfEven_eq_or n d with ⟨h, hlow⟩ | ⟨h, hhigh⟩
  · rw [h]
    omega
  · have hmul : (n / d + 1) * d = n / d * d + d := Nat.succ_mul _ _
    rw [h, hmul]
    omega

theorem roundHalfEven_mul {d : ℕ} (n : ℕ) (hd : 0 < d) : roundHalfEven (n * d) d = n := by
  rw [roundHalfEven, Nat.mul_mod_left, Nat.mul_div_cancel n hd]
  exact if_pos hd

theorem roundHalfEven_mul_mul {k : ℕ} (n d : ℕ) (hk : 0 < k) :
    roundHalfEven (n * k) (d * k) = roundHalfEven n d := by
  have hlt : 2 * (n % d * k) < d * k ↔ 2 * (n % d) < d := by
    rw [← Nat.mul_assoc, Nat.mul_lt_mul_right hk]
  have heq : 2 * (n % d * k) = d * k ↔ 2 * (n % d) = d := by
    rw [← Nat.mul_assoc, Nat.mul_right_cancel_iff hk]
  simp only [roundHalfEven, Nat.mul_div_mul_right _ _ hk, Nat.mul_mod_mul_right, hlt, heq]

/-- The rounded quotient depends on the quotient alone. -/
theorem roundHalfEven_congr {m e n d : ℕ} (hd : 0 < d) (he : 0 < e) (h : n * e = m * d) :
    roundHalfEven n d = roundHalfEven m e := by
  rw [← roundHalfEven_mul_mul n d he, h, Nat.mul_comm d e, roundHalfEven_mul_mul m e hd]

theorem abs_eq_div (q : ℚ) : |q| = q.num.natAbs / q.den := by
  rw [Rat.abs_def, Rat.divInt_eq_div, Int.cast_natCast, Int.cast_natCast]

theorem tenThousandths_intCast (i : ℤ) : tenThousandths i = i.natAbs * 10 ^ 4 := by
  rw [tenThousandths, Rat.num_intCast, Rat.den_intCast]
  nth_rewrite 1 [← Nat.mul_one (i.natAbs * 10 ^ 4)]
  exact roundHalfEven_mul _ one_pos

theorem abs_sub_tenThousandths_le (q : ℚ) : |(|q| * 10 ^ 4 - tenThousandths q)| ≤ 1 / 2 := by
  have hbounds : 2 * (q.num.natAbs * 10 ^ 4) ≤ 2 * (tenThousandths q * q.den) + q.den ∧
      2 * (tenThousandths q * q.den) ≤ 2 * (q.num.natAbs * 10 ^ 4) + q.den :=
    roundHalfEven_bounds _ q.den_pos
  have hpos : (0 : ℚ) < q.den := Nat.cast_pos.mpr q.den_pos
  qify at hbounds
  rw [abs_eq_div q, Nat.cast_natAbs, Int.cast_abs, div_mul_eq_mul_div, div_sub' hpos.ne', abs_div,
    abs_of_pos hpos, div_le_iff₀ hpos, abs_le]
  constructor
  · linarith only [hbounds.2]
  · linarith only [hbounds.1]

end Spelling

section Tables

variable {x : Float}

theorem denominator_pos (x : Float) : 0 < (scaled x).denominator :=
  Nat.pow_pos two_pos

/-- The ten-thousandths are those of the significand with its exponent. -/
theorem tenThousandths_exact (finite : isFinite x = true) :
    tenThousandths (exact x) =
      roundHalfEven ((scaled x).numerator * 10 ^ 4) (scaled x).denominator := by
  have hpos : ((scaled x).denominator : ℚ) ≠ 0 := Nat.cast_ne_zero.mpr (denominator_pos x).ne'
  have habs : |exact x| = (scaled x).numerator / (scaled x).denominator := by
    rw [exact, if_pos finite]
    dsimp only
    rw [Rat.mkRat_eq_div, Int.cast_natCast]
    split
    · rw [abs_neg, abs_div, Nat.abs_cast, Nat.abs_cast]
    · rw [abs_div, Nat.abs_cast, Nat.abs_cast]
  have hcross : (exact x).num.natAbs * (scaled x).denominator =
      (scaled x).numerator * (exact x).den := by
    rw [abs_eq_div, div_eq_div_iff (Nat.cast_ne_zero.mpr (exact x).den_ne_zero) hpos] at habs
    exact_mod_cast habs
  refine roundHalfEven_congr (exact x).den_pos (denominator_pos x) ?_
  rw [Nat.mul_right_comm, hcross, Nat.mul_right_comm]

theorem tenThousandths_of_whole (finite : isFinite x = true)
    (whole : (scaled x).numerator % (scaled x).denominator = 0) :
    tenThousandths (exact x) = (scaled x).numerator / (scaled x).denominator * 10 ^ 4 := by
  have hdiv := Nat.div_mul_cancel (Nat.dvd_of_mod_eq_zero whole)
  rw [tenThousandths_exact finite]
  nth_rewrite 1 [← hdiv]
  rw [Nat.mul_right_comm, roundHalfEven_mul _ (denominator_pos x)]

theorem fixedText_zero (finite : isFinite x = true)
    (whole : (scaled x).numerator % (scaled x).denominator = 0) :
    fixedText 0 x = signedText (isNegative x) (unitsText (tenThousandths (exact x))) := by
  have hword : word? x = none := if_pos finite
  have hdiv := Nat.div_mul_cancel (Nat.dvd_of_mod_eq_zero whole)
  have hunits : roundHalfEven (scaled x).numerator (scaled x).denominator =
      (scaled x).numerator / (scaled x).denominator := by
    nth_rewrite 1 [← hdiv]
    exact roundHalfEven_mul _ (denominator_pos x)
  rw [tenThousandths_of_whole finite whole, unitsText_mul, fixedText, hword]
  dsimp only
  rw [if_pos rfl, Nat.pow_eq, Nat.pow_zero, Nat.mul_one, Nat.div_one, hunits]
  rfl

theorem fixedText_four (finite : isFinite x = true) :
    let units := tenThousandths (exact x)
    fixedText 4 x =
      signedText (isNegative x) (digitText (units / 10 ^ 4) ++ '.' :: places units) := by
  have hword : word? x = none := if_pos finite
  rw [fixedText, hword, tenThousandths_exact finite]
  rfl

/-- The spelling of a finite number in tables is that of its sign and its ten-thousandths. -/
theorem tableText_eq (finite : isFinite x = true) :
    tableText x = signedText (isNegative x) (unitsText (tenThousandths (exact x))) := by
  rw [tableText, finite, Bool.not_true, if_neg Bool.false_ne_true]
  split
  case isTrue h =>
    have hwhole : isWhole x = true := (Bool.and_eq_true_iff.mp (Bool.and_eq_true_iff.mp h).1).1
    rw [isWhole, finite, Bool.true_and] at hwhole
    exact fixedText_zero finite (beq_iff_eq.mp hwhole)
  case isFalse =>
    have hpoint : '.' ∉ digitText (tenThousandths (exact x) / 10 ^ 4) := fun h =>
      absurd (isDigit_of_mem_digitText h) (by decide)
    have htrim (text : List Char) :
        ((text.reverse.dropWhile (· == '0')).dropWhile (· == '.')).reverse =
          (text.rdropWhile (· == '0')).rdropWhile (· == '.') := by
      rw [List.rdropWhile, List.rdropWhile, List.reverse_reverse]
    rw [fixedText_four finite, signedText, String.toList_ofList]
    dsimp only
    rw [htrim, signedText]
    cases isNegative x with
    | false =>
      simp only [Bool.false_eq_true, ↓reduceIte]
      rw [rdropWhile_places hpoint, unitsText]
    | true =>
      have hsigned : '.' ∉ '-' :: digitText (tenThousandths (exact x) / 10 ^ 4) := by
        simpa using hpoint
      simp only [↓reduceIte, ← List.cons_append]
      rw [rdropWhile_places hsigned, unitsText, List.cons_append]

end Tables

end TableTalk.Decimal
