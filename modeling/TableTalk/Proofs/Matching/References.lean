import TableTalk.Proofs.Matching.Matches

/-!
# References at different thresholds

What a token may refer to does not depend on the threshold, which only decides whether
it does. Two thresholds therefore give the same references unless a token reaches one
of them and not the other, and even then if its column has been found before.
-/

namespace TableTalk.Matching

open Decimal (isLess isAtMost)

variable {token question : String} {columns : List String} {threshold low high : Float}
  {reference : Reference}

/-- A token refers to the column that it matches, unless it is too short, a stop word, or a word of
analysis that does not match exactly. -/
theorem reference?_eq_some_iff (within : isAtMost threshold (Quantity.ofNat 1) = true) :
    reference? columns threshold token = some reference ↔
      (2 ≤ Text.charCount token ∧ isStopWord token = false) ∧
        ∃ found, bestMatch token columns threshold = some found ∧
          (queryVocabulary.contains token = true → found.kind = .exact) ∧
          ⟨found.column, token, found.score, found.kind⟩ = reference := by
  have hskipped : (decide (Text.charCount token < 2) || isStopWord token) = true ↔
      ¬ (2 ≤ Text.charCount token ∧ isStopWord token = false) := by
    rw [Bool.or_eq_true, decide_eq_true_eq, not_and_or, Nat.not_le, Bool.not_eq_false]
  unfold reference?
  simp only [Option.bind_eq_bind, Option.pure_def]
  by_cases hread : 2 ≤ Text.charCount token ∧ isStopWord token = false
  case neg =>
    rw [if_pos (hskipped.mpr hread)]
    exact iff_of_false (by simp) fun h => hread h.1
  case pos =>
    rw [if_neg fun h => hskipped.mp h hread, Option.bind_eq_some_iff, and_iff_right hread]
    refine exists_congr fun found => and_congr_right fun hfound => ?_
    have hdropped : (found.kind != .exact && queryVocabulary.contains token) = true ↔
        ¬ (queryVocabulary.contains token = true → found.kind = .exact) := by
      rw [Bool.and_eq_true, bne_iff_ne, Classical.not_imp, and_comm]
    -- whatever is matched reaches the threshold, so that looking at its score again drops nothing
    have hless : isLess found.score threshold = false :=
      Decimal.isLess_eq_false_of_isAtMost (reaches_bestMatch within hfound)
    simp only [hless, Bool.false_eq_true, ↓reduceIte]
    by_cases hanalysis : queryVocabulary.contains token = true → found.kind = .exact
    · rw [if_neg fun h => hdropped.mp h hanalysis, Option.some.injEq, and_iff_right hanalysis]
    · rw [if_pos (hdropped.mpr hanalysis)]
      exact iff_of_false (by simp) fun h => hanalysis h.1

/-- At any threshold, a token refers to the column that it matches, and a word of analysis only
where it matches exactly. -/
theorem exists_bestMatch_of_reference? (h : reference? columns threshold token = some reference) :
    reference.term = token ∧ ∃ found, bestMatch token columns threshold = some found ∧
      found.column = reference.column ∧ found.kind = reference.kind ∧
      (queryVocabulary.contains token = true → reference.kind = .exact) := by
  unfold reference? at h
  split at h
  · simp at h
  · simp only [Option.bind_eq_bind, Option.bind_eq_some_iff, Option.pure_def] at h
    obtain ⟨found, hfound, h⟩ := h
    split at h
    · simp at h
    case isFalse hanalysis =>
      split at h
      · simp at h
      · obtain rfl := Option.some.inj h
        refine ⟨rfl, found, hfound, rfl, rfl, fun hword => ?_⟩
        rw [hword, Bool.and_true, bne_iff_ne, not_not] at hanalysis
        exact hanalysis

/-- At a higher threshold a token makes the reference that it makes at a lower one, if the score
allows. -/
theorem reference?_filter (columns : List String) (token : String)
    (le : isAtMost low high = true) (within : isAtMost high (Quantity.ofNat 1) = true) :
    reference? columns high token =
      (reference? columns low token).filter fun r => isAtMost high r.score := by
  refine Option.ext fun reference => ?_
  rw [Option.filter_eq_some_iff, reference?_eq_some_iff within,
    reference?_eq_some_iff (Decimal.isAtMost_trans le within),
    bestMatch_filter token columns le within]
  constructor
  · rintro ⟨hread, found, hfound, hanalysis, rfl⟩
    rw [Option.filter_eq_some_iff] at hfound
    exact ⟨⟨hread, found, hfound.1, hanalysis, rfl⟩, hfound.2⟩
  · rintro ⟨⟨hread, found, hfound, hanalysis, rfl⟩, hreaches⟩
    exact ⟨hread, found, Option.filter_eq_some_iff.mpr ⟨hfound, hreaches⟩, hanalysis, rfl⟩

/-- The references that the tokens of a question make when any score is good enough, in order. A
column may be found several times. -/
def possibleReferences (question : String) (columns : List String) : List Reference :=
  (tokens question).filterMap (reference? columns (Quantity.ofNat 0))

/-- A threshold between zero and one. -/
structure IsThreshold (threshold : Float) : Prop where
  least : isAtMost (Quantity.ofNat 0) threshold = true
  within : isAtMost threshold (Quantity.ofNat 1) = true

/-- At a threshold, a question refers to the columns that it may refer to with scores that reach the
threshold, each by the first token that does. -/
theorem references_eq (question : String) (columns : List String) (h : IsThreshold threshold) :
    references question columns threshold =
      Listing.distinctBy Reference.column
        ((possibleReferences question columns).filter fun r => isAtMost threshold r.score) := by
  have hfilter : reference? columns threshold = fun token =>
      (reference? columns (Quantity.ofNat 0) token).filter fun r => isAtMost threshold r.score :=
    funext fun token => reference?_filter columns token h.least h.within
  rw [references, possibleReferences, List.filter_filterMap, hfilter]

/-- Two thresholds give the same references exactly if every token that reaches one of them only
finds a column that a token before it finds at both. -/
theorem references_eq_iff (question : String) (columns : List String) (hlow : IsThreshold low)
    (hhigh : IsThreshold high) :
    references question columns low = references question columns high ↔
      ∀ before r after, possibleReferences question columns = before ++ r :: after →
        isAtMost low r.score ≠ isAtMost high r.score →
        ∃ earlier ∈ before, earlier.column = r.column ∧ isAtMost low earlier.score = true ∧
          isAtMost high earlier.score = true := by
  rw [references_eq question columns hlow, references_eq question columns hhigh]
  exact Listing.distinctBy_filter_eq_iff

end TableTalk.Matching
