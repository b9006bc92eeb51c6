import TableTalk.Value

/-!
# How far the order of values is an order

A value that is not an infinite number or NaN has a place: its kind, and its size
or spelling within the kind. Of two such values the order compares the places, so
among them it is a total preorder. Infinite numbers and NaN are ordered by their
kind alone and tie with every number. A tie with one of them says nothing about
sizes, and this is the only way in which the order is not transitive.
-/

namespace TableTalk.Value

/-- Whether the value is an infinite number or NaN. -/
def isUnsized : Value → Bool
  | float x => !Decimal.isFinite x
  | _ => false

/-- Whether the value is an infinite number. -/
def isInfinite : Value → Bool
  | float x => !Decimal.isFinite x && !Decimal.isNaN x
  | _ => false

/-- The size of a value within its kind. -/
def size : Value → Int
  | boolean b => b.toNat
  | integer i => Decimal.totalKey (Float.ofInt i.toInt)
  | float x => Decimal.totalKey x
  | date t => t.key
  | _ => 0

/-- The spelling of a value within its kind. -/
def spelling : Value → String
  | text s => s
  | _ => ""

/-- Compares the places of values: kind, then size, then spelling. -/
def comparePlaces : Value → Value → Ordering :=
  compareLex (compareOn rank) (compareLex (compareOn size) (compareOn spelling))

instance : Std.TransCmp comparePlaces :=
  inferInstanceAs (Std.TransCmp (compareLex _ (compareLex _ _)))

variable {a b c : Value}

theorem isNumeric_iff : a.isNumeric = true ↔ a.rank = 2 ∧ a.isUnsized = false := by
  cases a <;> simp [isNumeric, number?, rank, isUnsized]

theorem compare_of_rank_ne (h : a.rank ≠ b.rank) : compare a b = Ord.compare a.rank b.rank := by
  cases a <;> cases b <;> first | exact absurd rfl h | simp [compare, compareMixed, number?]

theorem rank_of_isUnsized (h : a.isUnsized = true) : a.rank = 2 := by
  cases a <;> first | rfl | simp [isUnsized] at h

theorem number?_of_isUnsized (h : a.isUnsized = true) : a.number? = none := by
  cases a <;> simp_all [isUnsized, number?]

/-- An infinite number or NaN is ordered by its kind. -/
theorem compare_of_isUnsized (h : a.isUnsized = true ∨ b.isUnsized = true) :
    compare a b = Ord.compare a.rank b.rank := by
  have hmixed : compare a b = compareMixed a b := by
    cases a <;> cases b <;> first | rfl | simp [isUnsized] at h
  rw [hmixed, compareMixed]
  rcases h with h | h
  · rw [number?_of_isUnsized h]
  · rw [number?_of_isUnsized h]
    cases a.number? <;> rfl

theorem comparePlaces_of_rank_ne (h : a.rank ≠ b.rank) :
    comparePlaces a b = Ord.compare a.rank b.rank := by
  have hne : Ord.compare a.rank b.rank ≠ .eq := fun he => h (Nat.compare_eq_eq.mp he)
  rw [comparePlaces, compareLex, compareOn]
  cases hc : Ord.compare a.rank b.rank with
  | eq => exact absurd hc hne
  | lt => rfl
  | gt => rfl

/-- All other values are ordered by their places. -/
theorem compare_of_places (ha : a.isUnsized = false) (hb : b.isUnsized = false) :
    compare a b = comparePlaces a b := by
  by_cases hrank : a.rank = b.rank
  · have hplaces : comparePlaces a b =
        (Ord.compare a.size b.size).then (Ord.compare a.spelling b.spelling) := by
      simp [comparePlaces, compareLex, compareOn, hrank]
    rw [hplaces]
    cases a <;> cases b <;>
      simp_all [rank, isUnsized, compare, compareMixed, number?, size, spelling]
    case boolean.boolean x y => cases x <;> cases y <;> rfl
    case date.date => rfl
  · rw [compare_of_rank_ne hrank, comparePlaces_of_rank_ne hrank]

/-- The order compares places or kinds. -/
theorem compare_cases (a b : Value) :
    compare a b = comparePlaces a b ∨ compare a b = Ord.compare a.rank b.rank := by
  cases ha : a.isUnsized with
  | true => exact Or.inr (compare_of_isUnsized (Or.inl ha))
  | false =>
    cases hb : b.isUnsized with
    | true => exact Or.inr (compare_of_isUnsized (Or.inr hb))
    | false => exact Or.inl (compare_of_places ha hb)

theorem compare_self (a : Value) : compare a a = .eq := by
  rcases compare_cases a a with h | h
  · rw [h]
    exact Std.ReflCmp.compare_self
  · rw [h]
    exact Std.ReflCmp.compare_self

theorem compare_swap (a b : Value) : compare b a = (compare a b).swap := by
  cases ha : a.isUnsized with
  | true =>
    rw [compare_of_isUnsized (Or.inl ha), compare_of_isUnsized (Or.inr ha)]
    exact Std.OrientedCmp.eq_swap
  | false =>
    cases hb : b.isUnsized with
    | true =>
      rw [compare_of_isUnsized (Or.inl hb), compare_of_isUnsized (Or.inr hb)]
      exact Std.OrientedCmp.eq_swap
    | false =>
      rw [compare_of_places ha hb, compare_of_places hb ha]
      exact Std.OrientedCmp.eq_swap

/-- A value is never at most one of a lower kind. -/
theorem rank_le_of_compare (h : (compare a b).isLE = true) : a.rank ≤ b.rank := by
  by_cases hrank : a.rank = b.rank
  · exact Nat.le_of_eq hrank
  · rw [compare_of_rank_ne hrank] at h
    exact Nat.isLE_compare.mp h

theorem compare_of_rank_lt (h : a.rank < b.rank) : compare a b = .lt := by
  rw [compare_of_rank_ne (Nat.ne_of_lt h)]
  exact Nat.compare_eq_lt.mpr h

/-- A number ties with an infinite number or NaN. -/
theorem compare_of_isNumeric (hb : b.isUnsized = true) (ha : a.isNumeric = true) :
    compare a b = .eq ∧ compare b a = .eq := by
  have hrank : a.rank = b.rank := by rw [(isNumeric_iff.mp ha).1, rank_of_isUnsized hb]
  rw [compare_of_isUnsized (Or.inr hb), compare_of_isUnsized (Or.inl hb), hrank]
  exact ⟨Nat.compare_eq_eq.mpr rfl, Nat.compare_eq_eq.mpr rfl⟩

/-- The order is transitive, unless two numbers in the wrong order both tie with an infinite number
or NaN between them. -/
theorem compare_trans_iff (a b c : Value) :
    ((compare a b).isLE = true → (compare b c).isLE = true → (compare a c).isLE = true) ↔
      ¬ (b.isUnsized = true ∧ a.isNumeric = true ∧ c.isNumeric = true ∧ compare a c = .gt) := by
  constructor
  · rintro htrans ⟨hb, ha, hc, hgt⟩
    have hle := htrans (by rw [(compare_of_isNumeric hb ha).1]; rfl)
      (by rw [(compare_of_isNumeric hb hc).2]; rfl)
    rw [hgt] at hle
    cases hle
  · intro hordered hab hbc
    have hrankA := rank_le_of_compare hab
    have hrankC := rank_le_of_compare hbc
    rcases Nat.lt_or_ge a.rank c.rank with hlt | hge
    · rw [compare_of_rank_lt hlt]
      rfl
    -- from here on all three values are of one kind
    cases ha : a.isUnsized with
    | true =>
      rw [compare_of_isUnsized (Or.inl ha), Nat.isLE_compare]
      exact Nat.le_trans hrankA hrankC
    | false =>
      cases hc : c.isUnsized with
      | true =>
        rw [compare_of_isUnsized (Or.inr hc), Nat.isLE_compare]
        exact Nat.le_trans hrankA hrankC
      | false =>
        cases hb : b.isUnsized with
        | true =>
          have hrank := rank_of_isUnsized hb
          have hnumA : a.isNumeric = true := isNumeric_iff.mpr ⟨by omega, ha⟩
          have hnumC : c.isNumeric = true := isNumeric_iff.mpr ⟨by omega, hc⟩
          rw [Ordering.isLE_iff_ne_gt]
          exact fun hgt => hordered ⟨hb, hnumA, hnumC, hgt⟩
        | false =>
          rw [compare_of_places ha hb] at hab
          rw [compare_of_places hb hc] at hbc
          rw [compare_of_places ha hc]
          exact Std.TransCmp.isLE_trans hab hbc

/-- Ties carry over, unless two numbers that do not tie both tie with an infinite number or NaN. -/
theorem tie_trans_iff (a b c : Value) :
    (compare a b = .eq → compare b c = .eq → compare a c = .eq) ↔
      ¬ (b.isUnsized = true ∧ a.isNumeric = true ∧ c.isNumeric = true ∧ compare a c ≠ .eq) := by
  constructor
  · rintro htrans ⟨hb, ha, hc, hne⟩
    exact hne (htrans (compare_of_isNumeric hb ha).1 (compare_of_isNumeric hb hc).2)
  · intro htied hab hbc
    have hba : compare b a = .eq := by rw [compare_swap a b, hab]; rfl
    have hcb : compare c b = .eq := by rw [compare_swap b c, hbc]; rfl
    cases hac : compare a c with
    | eq => rfl
    | gt =>
      have htrans := (compare_trans_iff a b c).mpr fun ⟨hb, ha, hc, _⟩ =>
        htied ⟨hb, ha, hc, by rw [hac]; decide⟩
      rw [hab, hbc, hac] at htrans
      cases htrans rfl rfl
    | lt =>
      have htrans := (compare_trans_iff c b a).mpr fun ⟨hb, hc, ha, _⟩ =>
        htied ⟨hb, ha, hc, by rw [hac]; decide⟩
      rw [hcb, hba, compare_swap a c, hac] at htrans
      cases htrans rfl rfl

/-- The order of values is reflexive and turns around with its sides, and it is transitive except
across an infinite number or NaN: that ties with every number, and numbers on its two sides need
not be in order. Ties carry over with the same exception. -/
theorem compare_total_preorder_iff (a b c : Value) :
    compare a a = .eq ∧ compare b a = (compare a b).swap ∧
    (((compare a b).isLE = true → (compare b c).isLE = true → (compare a c).isLE = true) ↔
      ¬ (b.isUnsized = true ∧ a.isNumeric = true ∧ c.isNumeric = true ∧ compare a c = .gt)) ∧
    ((compare a b = .eq → compare b c = .eq → compare a c = .eq) ↔
      ¬ (b.isUnsized = true ∧ a.isNumeric = true ∧ c.isNumeric = true ∧ compare a c ≠ .eq)) :=
  ⟨compare_self a, compare_swap a b, compare_trans_iff a b c, tie_trans_iff a b c⟩

/-- Infinity ties with 2 and with 1, which do not tie. -/
theorem compare_infinity_breaks_order :
    let infinity : Value := float (Float.ofBits 0x7FF0000000000000)
    ¬ ((compare (integer 2) infinity).isLE = true → (compare infinity (integer 1)).isLE = true →
      (compare (integer 2) (integer 1)).isLE = true) ∧
    ¬ (compare (integer 2) infinity = .eq → compare infinity (integer 1) = .eq →
      compare (integer 2) (integer 1) = .eq) := by
  decide +kernel

end TableTalk.Value
