import Mathlib.Algebra.Order.Field.Rat
import Mathlib.Tactic.Linarith
import Mathlib.Tactic.NormNum
import TableTalk.Proofs.Matching.EditDistance
import TableTalk.Proofs.Matching.Matches

/-!
# The best match of a term

A column of the normal form of the term is an exact match wherever it stands. Otherwise the
columns are gone through once with the best one so far, and what is left in the end is the
first of the columns with the highest score among all that qualify. This holds of the binary
numbers that scores are calculated in as it holds of exact ones, and exact scores lie between
zero and one.
-/

namespace TableTalk.Matching

variable {α : Type} [Quantity α] {form term candidate : String} {threshold value : α}
  {kind : MatchKind} {column : String} {columns before : List String}

/-- The score of a column that is no exact match, and the tier it is scored in: the first of the
three that applies. Both names are normal forms. -/
inductive Scored (term candidate : String) : α → MatchKind → Prop
  | synonym {word : String} (h : word ∈ synonymsOf term)
    (part : word.toList <:+: candidate.toList) :
    Scored term candidate (Quantity.ratio 95 100) .synonym
  | contains (apart : ∀ word ∈ synonymsOf term, ¬ word.toList <:+: candidate.toList)
    (part : term.toList <:+: candidate.toList ∨ candidate.toList <:+: term.toList) :
    Scored term candidate (Quantity.ratio 85 100) .contains
  | fuzzy (apart : ∀ word ∈ synonymsOf term, ¬ word.toList <:+: candidate.toList)
    (neither : ¬ (term.toList <:+: candidate.toList ∨ candidate.toList <:+: term.toList)) :
    Scored term candidate (similarity term candidate) .fuzzy

theorem scored_iff : Scored term candidate value kind ↔ score term candidate = (value, kind) := by
  have hsynonym : (synonymsOf term).any (Text.contains candidate) = true ↔
      ∃ word ∈ synonymsOf term, word.toList <:+: candidate.toList := by
    simp only [List.any_eq_true, Text.contains_iff_isInfix]
  have hcontains : (Text.contains candidate term || Text.contains term candidate) = true ↔
      term.toList <:+: candidate.toList ∨ candidate.toList <:+: term.toList := by
    simp only [Bool.or_eq_true, Text.contains_iff_isInfix]
  unfold score
  constructor
  · intro h
    cases h with
    | synonym h part => rw [if_pos (hsynonym.mpr ⟨_, h, part⟩)]
    | contains apart part =>
      rw [if_neg fun h => ?_, if_pos (hcontains.mpr part)]
      obtain ⟨word, hword, hpart⟩ := hsynonym.mp h
      exact apart word hword hpart
    | fuzzy apart neither =>
      rw [if_neg fun h => ?_, if_neg fun h => neither (hcontains.mp h)]
      obtain ⟨word, hword, hpart⟩ := hsynonym.mp h
      exact apart word hword hpart
  · intro h
    by_cases hany : (synonymsOf term).any (Text.contains candidate) = true
    · rw [if_pos hany] at h
      cases h
      obtain ⟨word, hword, hpart⟩ := hsynonym.mp hany
      exact .synonym hword hpart
    · have apart : ∀ word ∈ synonymsOf term, ¬ word.toList <:+: candidate.toList :=
        fun word hword hpart => hany (hsynonym.mpr ⟨word, hword, hpart⟩)
      rw [if_neg hany] at h
      by_cases hpart : (Text.contains candidate term || Text.contains term candidate) = true
      · rw [if_pos hpart] at h
        cases h
        exact .contains apart (hcontains.mp hpart)
      · rw [if_neg hpart] at h
        cases h
        exact .fuzzy apart fun h => hpart (hcontains.mpr h)

/-- A column that has a name may be taken with its score if that is above zero and reaches the
threshold. -/
structure Qualifies (form : String) (threshold : α) (column : String) (value : α)
    (kind : MatchKind) : Prop where
  named : normalForm column ≠ ""
  scored : Scored form (normalForm column) value kind
  positive : Quantity.isLess (Quantity.ofNat 0) value = true
  reaches : Quantity.isAtMost threshold value = true

theorem Qualifies.value_eq {other : α} {otherKind : MatchKind}
    (h : Qualifies form threshold column value kind)
    (hother : Qualifies form threshold column other otherKind) : other = value := by
  have hscore := scored_iff.mp h.scored
  rw [scored_iff.mp hother.scored] at hscore
  exact (Prod.mk.inj hscore).1

/-- The first of the columns with the highest score among those that qualify, if any does. -/
inductive IsBest (form : String) (threshold : α) (columns : List String) :
    Option (ColumnMatch α) → Prop
  | none (h : ∀ column ∈ columns, ∀ value kind, ¬ Qualifies form threshold column value kind) :
    IsBest form threshold columns none
  | some (before after : List String) {column : String} {value : α} {kind : MatchKind}
    (split : columns = before ++ column :: after)
    (qualifies : Qualifies form threshold column value kind)
    (above : ∀ other ∈ before, ∀ less lower, Qualifies form threshold other less lower →
      Quantity.isLess less value = true)
    (atLeast : ∀ other ∈ after, ∀ less lower, Qualifies form threshold other less lower →
      Quantity.isLess value less = false) :
    IsBest form threshold columns (some ⟨column, value, kind⟩)

theorem IsBest.unique {found other : Option (ColumnMatch α)}
    (h : IsBest form threshold columns found) (hother : IsBest form threshold columns other) :
    found = other := by
  cases h with
  | none hnone =>
    cases hother with
    | none => rfl
    | some _ _ split qualifies => exact absurd qualifies (hnone _ (by rw [split]; simp) _ _)
  | some before after split qualifies above atLeast =>
    cases hother with
    | none hnone => exact absurd qualifies (hnone _ (by rw [split]; simp) _ _)
    | some _ _ splitOther qualifiesOther aboveOther atLeastOther =>
      rcases Listing.places_cases (split.symm.trans splitOther) with ⟨-, rfl⟩ | ⟨hfront, hafter⟩ |
        ⟨hfront, hafter⟩
      · have hscore := scored_iff.mp qualifies.scored
        rw [scored_iff.mp qualifiesOther.scored] at hscore
        obtain ⟨rfl, rfl⟩ := Prod.mk.inj hscore
        rfl
      · have hless := aboveOther _ hfront _ _ qualifies
        rw [atLeast _ hafter _ _ qualifiesOther] at hless
        cases hless
      · have hless := above _ hfront _ _ qualifiesOther
        rw [atLeastOther _ hafter _ _ qualifies] at hless
        cases hless

/-- What a term is matched with: nothing if the term has no normal form, else the first column of
this normal form, and only if there is none the best of the columns that qualify. -/
inductive IsMatched (term : String) (threshold : α) (columns : List String) :
    Option (ColumnMatch α) → Prop
  | nameless (h : normalForm term = "") : IsMatched term threshold columns none
  | exact {before after : List String} {column : String} (named : normalForm term ≠ "")
    (split : columns = before ++ column :: after) (same : normalForm column = normalForm term)
    (first : ∀ other ∈ before, normalForm other ≠ normalForm term) :
    IsMatched term threshold columns (some ⟨column, Quantity.ofNat 1, .exact⟩)
  | scored {found : Option (ColumnMatch α)} (named : normalForm term ≠ "")
    (inexact : ∀ column ∈ columns, normalForm column ≠ normalForm term)
    (best : IsBest (normalForm term) threshold columns found) :
    IsMatched term threshold columns found

theorem IsMatched.unique {found other : Option (ColumnMatch α)}
    (h : IsMatched term threshold columns found) (hother : IsMatched term threshold columns other) :
    found = other := by
  cases h with
  | nameless hname =>
    cases hother with
    | nameless => rfl
    | exact named => exact absurd hname named
    | scored named => exact absurd hname named
  | exact named split same first =>
    cases hother with
    | nameless hname => exact absurd hname named
    | exact _ splitOther sameOther firstOther =>
      rcases Listing.places_cases (split.symm.trans splitOther) with ⟨-, rfl⟩ | ⟨hfront, -⟩ |
        ⟨hfront, -⟩
      · rfl
      · exact absurd same (firstOther _ hfront)
      · exact absurd sameOther (first _ hfront)
    | scored _ inexact => exact absurd same (inexact _ (by rw [split]; simp))
  | scored named inexact best =>
    cases hother with
    | nameless hname => exact absurd hname named
    | exact _ split same => exact absurd same (inexact _ (by rw [split]; simp))
    | scored _ _ bestOther => exact best.unique bestOther

/-- The comparisons order what they compare: numbers that are at least something are above or below
every number that is comparable at all, or tie with it. -/
class Ordered (α : Type) [Quantity α] : Prop where
  isLess_trans {x y z : α} : Quantity.isLess x y = true → Quantity.isLess y z = true →
    Quantity.isLess x z = true
  isLess_of_not_above {least x y z : α} : Quantity.isAtMost least x = true →
    Quantity.isLess y x = false → Quantity.isLess y z = true → Quantity.isLess x z = true

instance : Ordered Float where
  isLess_trans := Decimal.isLess_trans
  isLess_of_not_above {least x y z} hleast hxy hyz := by
    change Decimal.isAtMost least x = true at hleast
    change Decimal.isLess y x = false at hxy
    change Decimal.isLess y z = true at hyz
    change Decimal.isLess x z = true
    rw [Decimal.isAtMost_iff] at hleast
    rw [Decimal.isLess_iff] at hyz ⊢
    rw [← Bool.not_eq_true, Decimal.isLess_iff] at hxy
    refine ⟨hleast.2.1, hyz.2.1, ?_⟩
    have hle := Int.not_lt.mp fun h => hxy ⟨hyz.1, hleast.2.1, h⟩
    omega

instance : Ordered ℚ where
  isLess_trans hxy hyz :=
    decide_eq_true ((of_decide_eq_true hxy).trans (of_decide_eq_true hyz))
  isLess_of_not_above _ hxy hyz :=
    decide_eq_true ((not_lt.mp (of_decide_eq_false hxy)).trans_lt (of_decide_eq_true hyz))

section Run

variable {best : Option (ColumnMatch α)}

/-- A column that is not above the best so far changes nothing. -/
theorem IsBest.keep (h : IsBest form threshold before best)
    (below : ∀ value kind, Qualifies form threshold column value kind →
      ∃ standing, best = .some standing ∧ Quantity.isLess standing.score value = false) :
    IsBest form threshold (before ++ [column]) best := by
  cases h with
  | none hnone =>
    apply IsBest.none
    intro other hother value kind hqualifies
    rcases List.mem_append.mp hother with hother | hother
    · exact hnone other hother value kind hqualifies
    · rw [List.mem_singleton] at hother
      subst hother
      obtain ⟨standing, hstanding, -⟩ := below value kind hqualifies
      cases hstanding
  | some front after split qualifies above atLeast =>
    refine IsBest.some front (after ++ [column]) ?_ qualifies above ?_
    · rw [split, List.append_assoc, List.cons_append]
    intro other hother less lower hqualifies
    rcases List.mem_append.mp hother with hother | hother
    · exact atLeast other hother less lower hqualifies
    · rw [List.mem_singleton] at hother
      subst hother
      obtain ⟨standing, hstanding, hless⟩ := below less lower hqualifies
      obtain rfl := Option.some.inj hstanding
      exact hless

variable [Ordered α]

/-- A column that is above the best so far is above all columns before it. -/
theorem IsBest.replace (h : IsBest form threshold before best)
    (qualifies : Qualifies form threshold column value kind)
    (above : ∀ standing, best = .some standing → Quantity.isLess standing.score value = true) :
    IsBest form threshold (before ++ [column]) (.some ⟨column, value, kind⟩) := by
  refine IsBest.some before [] rfl qualifies ?_ fun _ h => by cases h
  intro other hother less lower hqualifies
  cases h with
  | none hnone => exact absurd hqualifies (hnone other hother less lower)
  | some _ _ split standing first last =>
    have hvalue := above _ rfl
    rw [split, List.mem_append, List.mem_cons] at hother
    rcases hother with hother | rfl | hother
    · exact Ordered.isLess_trans (first other hother less lower hqualifies) hvalue
    · rw [standing.value_eq hqualifies]
      exact hvalue
    · exact Ordered.isLess_of_not_above hqualifies.reaches (last other hother less lower hqualifies)
        hvalue

theorem isBest_better (h : IsBest form threshold before best) (column : String) :
    IsBest form threshold (before ++ [column]) (better form threshold best column) := by
  unfold better
  dsimp only
  by_cases hnamed : normalForm column = ""
  · rw [if_pos (beq_iff_eq.mpr hnamed)]
    exact h.keep fun value kind hqualifies => absurd hnamed hqualifies.named
  rw [if_neg fun h => hnamed (beq_iff_eq.mp h)]
  obtain ⟨value, kind, hscore⟩ : ∃ value kind,
      (score form (normalForm column) : α × MatchKind) = (value, kind) := ⟨_, _, rfl⟩
  rw [hscore]
  dsimp only
  by_cases hbetter : (Quantity.isAtMost threshold value &&
      Quantity.isLess ((best.map ColumnMatch.score).getD (Quantity.ofNat 0)) value) = true
  · rw [if_pos hbetter]
    rw [Bool.and_eq_true] at hbetter
    have hpositive : Quantity.isLess (Quantity.ofNat 0) value = true := by
      cases h with
      | none _ => exact hbetter.2
      | some _ _ _ standing => exact Ordered.isLess_trans standing.positive hbetter.2
    refine h.replace ⟨hnamed, scored_iff.mpr hscore, hpositive, hbetter.1⟩ ?_
    rintro standing rfl
    exact hbetter.2
  · rw [if_neg hbetter]
    refine h.keep fun other otherKind hqualifies => ?_
    have hother := scored_iff.mp hqualifies.scored
    rw [hscore] at hother
    obtain ⟨rfl, rfl⟩ := Prod.mk.inj hother
    rw [Bool.and_eq_true, not_and, Bool.not_eq_true] at hbetter
    have hless := hbetter hqualifies.reaches
    -- without a best so far the score would have to be above zero only
    cases best with
    | none =>
      rw [Option.map_none, Option.getD_none, hqualifies.positive] at hless
      cases hless
    | some standing => exact ⟨standing, rfl, hless⟩

theorem isBest_foldl_better (h : IsBest form threshold before best) (columns : List String) :
    IsBest form threshold (before ++ columns) (columns.foldl (better form threshold) best) := by
  induction columns generalizing before best with
  | nil => rwa [List.append_nil]
  | cons column columns ih =>
    rw [List.foldl_cons, List.append_cons]
    exact ih (isBest_better h column)

theorem isMatched_bestMatch (term : String) (threshold : α) (columns : List String) :
    IsMatched term threshold columns (bestMatch term columns threshold) := by
  unfold bestMatch
  dsimp only
  by_cases hnamed : normalForm term = ""
  · rw [if_pos (beq_iff_eq.mpr hnamed)]
    exact .nameless hnamed
  rw [if_neg fun h => hnamed (beq_iff_eq.mp h)]
  cases hfind : columns.find? fun column => normalForm column == normalForm term with
  | some column =>
    obtain ⟨hsame, before, after, hsplit, hfirst⟩ := List.find?_eq_some_iff_append.mp hfind
    refine .exact hnamed hsplit (beq_iff_eq.mp hsame) fun other hother he => ?_
    have hne := hfirst other hother
    rw [beq_iff_eq.mpr he] at hne
    cases hne
  | none =>
    have hstart : IsBest (normalForm term) threshold [] none := .none fun _ h => by cases h
    refine .scored hnamed (fun column hcolumn he => ?_) (isBest_foldl_better hstart columns)
    exact List.find?_eq_none.mp hfind column hcolumn (beq_iff_eq.mpr he)

theorem isMatched_iff (threshold : α) (found : Option (ColumnMatch α)) :
    IsMatched term threshold columns found ↔ found = bestMatch term columns threshold := by
  constructor
  · exact fun h => h.unique (isMatched_bestMatch term threshold columns)
  · intro h
    rw [h]
    exact isMatched_bestMatch term threshold columns

end Run

section Bounds

/-- Texts are never further apart than the longer one is long. -/
theorem similarity_bounds (a b : String) :
    0 ≤ (similarity a b : ℚ) ∧ (similarity a b : ℚ) ≤ 1 := by
  unfold similarity
  dsimp only
  by_cases hempty : max (Text.charCount a) (Text.charCount b) = 0
  · rw [if_pos hempty]
    show (0 : ℚ) ≤ ((1 : ℕ) : ℚ) ∧ ((1 : ℕ) : ℚ) ≤ 1
    norm_num
  · rw [if_neg hempty]
    have hdistance := editDistance_le a.toList b.toList
    change _ ≤ max (Text.charCount a) (Text.charCount b) at hdistance
    generalize editDistance a.toList b.toList = distance at hdistance ⊢
    generalize max (Text.charCount a) (Text.charCount b) = longest at hempty hdistance ⊢
    show (0 : ℚ) ≤ ((1 : ℕ) : ℚ) - (distance : ℚ) / (longest : ℚ) ∧
      ((1 : ℕ) : ℚ) - (distance : ℚ) / (longest : ℚ) ≤ 1
    have hshare : (distance : ℚ) / longest ≤ 1 :=
      div_le_one_of_le₀ (by exact_mod_cast hdistance) (Nat.cast_nonneg longest)
    have hnonneg : 0 ≤ (distance : ℚ) / longest :=
      div_nonneg (Nat.cast_nonneg distance) (Nat.cast_nonneg longest)
    rw [Nat.cast_one]
    constructor <;> linarith

theorem score_bounds (term candidate : String) :
    0 ≤ (score term candidate : ℚ × MatchKind).1 ∧
      (score term candidate : ℚ × MatchKind).1 ≤ 1 := by
  unfold score
  split
  · show (0 : ℚ) ≤ ((95 : ℕ) : ℚ) / ((100 : ℕ) : ℚ) ∧ ((95 : ℕ) : ℚ) / ((100 : ℕ) : ℚ) ≤ 1
    norm_num
  · split
    · show (0 : ℚ) ≤ ((85 : ℕ) : ℚ) / ((100 : ℕ) : ℚ) ∧ ((85 : ℕ) : ℚ) / ((100 : ℕ) : ℚ) ≤ 1
      norm_num
    · exact similarity_bounds term candidate

theorem IsMatched.score_bounds {threshold : ℚ} {found : ColumnMatch ℚ}
    (h : IsMatched term threshold columns (some found)) : 0 ≤ found.score ∧ found.score ≤ 1 := by
  cases h with
  | exact =>
    show (0 : ℚ) ≤ ((1 : ℕ) : ℚ) ∧ ((1 : ℕ) : ℚ) ≤ 1
    norm_num
  | scored _ _ best =>
    cases best with
    | @some _ _ column _ _ _ qualifies =>
      have hbounds := Matching.score_bounds (normalForm term) (normalForm column)
      rw [scored_iff.mp qualifies.scored] at hbounds
      exact hbounds

end Bounds

/-- A term is matched with the first column of its own normal form, and if there is none with the
first of the columns of the highest score among all that qualify; a term without a normal form is
matched with none. This is so for exact scores and for the binary numbers that scores are calculated
in. Exact scores lie between zero and one, and what is found is one of the columns. -/
theorem matched_with_first_highest (term : String) (columns : List String) :
    (∀ (threshold : ℚ) (found : Option (ColumnMatch ℚ)),
      IsMatched term threshold columns found ↔ found = bestMatch term columns threshold) ∧
    (∀ (threshold : Float) (found : Option (ColumnMatch Float)),
      IsMatched term threshold columns found ↔ found = bestMatch term columns threshold) ∧
    (∀ threshold : ℚ,
      let found := bestMatch term columns threshold
      (found.map ColumnMatch.column).toList ⊆ columns ∧
        0 ≤ (found.map ColumnMatch.score).getD 0 ∧ (found.map ColumnMatch.score).getD 0 ≤ 1) ∧
    (∀ candidate : String, 0 ≤ (score (normalForm term) candidate : ℚ × MatchKind).1 ∧
      (score (normalForm term) candidate : ℚ × MatchKind).1 ≤ 1) := by
  refine ⟨isMatched_iff, isMatched_iff, fun threshold => ?_, score_bounds (normalForm term)⟩
  have hmatched := isMatched_bestMatch term threshold columns
  cases hfound : bestMatch term columns threshold with
  | none => exact ⟨List.nil_subset columns, le_rfl, zero_le_one⟩
  | some found =>
    rw [hfound] at hmatched
    have hcolumn := mem_of_bestMatch hfound
    exact ⟨List.cons_subset.mpr ⟨hcolumn, List.nil_subset columns⟩, hmatched.score_bounds⟩

end TableTalk.Matching
