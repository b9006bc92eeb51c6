import TableTalk.Proofs.Reading

/-!
# What a word is matched with

A word is matched with a column of its own normal form whenever there is one, and then
only is the match exact. All other matches have the highest score among the columns, so
a threshold does not change which column is found: it only decides whether the column
that is found is good enough.
-/

namespace TableTalk

namespace Decimal

variable {x y z : Float}

theorem isLess_iff :
    isLess x y = true ↔ isNaN x = false ∧ isNaN y = false ∧ numberKey x < numberKey y := by
  simp [isLess, and_assoc]

theorem isAtMost_iff :
    isAtMost x y = true ↔ isNaN x = false ∧ isNaN y = false ∧ numberKey x ≤ numberKey y := by
  simp [isAtMost, and_assoc]

theorem isLess_trans (hxy : isLess x y = true) (hyz : isLess y z = true) : isLess x z = true := by
  rw [isLess_iff] at *
  exact ⟨hxy.1, hyz.2.1, Int.lt_trans hxy.2.2 hyz.2.2⟩

theorem isAtMost_trans (hxy : isAtMost x y = true) (hyz : isAtMost y z = true) :
    isAtMost x z = true := by
  rw [isAtMost_iff] at *
  exact ⟨hxy.1, hyz.2.1, Int.le_trans hxy.2.2 hyz.2.2⟩

theorem isLess_eq_false_of_isAtMost (h : isAtMost x y = true) : isLess y x = false := by
  rw [isAtMost_iff] at h
  rw [Bool.eq_false_iff, ne_eq, isLess_iff]
  exact fun hless => absurd hless.2.2 (Int.not_lt.mpr h.2.2)

end Decimal

namespace Matching

open Decimal (isLess isAtMost isLess_iff isAtMost_iff)

variable {term : String} {columns : List String}

section Exact

variable {α : Type} [Quantity α] {threshold : α} {best : Option (ColumnMatch α)}
  {found : ColumnMatch α}

theorem kind_score (term candidate : String) :
    (score term candidate : α × MatchKind).2 ≠ .exact := by
  unfold score
  split
  · exact MatchKind.noConfusion
  · split
    · exact MatchKind.noConfusion
    · exact MatchKind.noConfusion

/-- What a column is better by is a score, which is no exact match. -/
theorem kind_of_better {column : String} (h : better term threshold best column = some found) :
    found.kind ≠ .exact ∨ best = some found := by
  rw [better] at h
  dsimp only at h
  split at h
  · exact Or.inr h
  · split at h
    · exact Or.inl (Option.some.inj h ▸ kind_score _ _)
    · exact Or.inr h

theorem kind_of_foldl_better (h : columns.foldl (better term threshold) best = some found) :
    found.kind ≠ .exact ∨ best = some found := by
  induction columns generalizing best with
  | nil => exact Or.inr h
  | cons column columns ih =>
    rw [List.foldl_cons] at h
    rcases ih h with hkind | hbest
    · exact Or.inl hkind
    · exact kind_of_better hbest

/-- A match is exact if some column has the normal form of the word, wherever it stands among the
columns, and then the column that is found has this normal form. -/
theorem exact_bestMatch_iff (h : bestMatch term columns threshold = some found) :
    (found.kind = .exact ↔ normalForm found.column = normalForm term) ∧
      (normalForm found.column = normalForm term ↔
        ∃ column ∈ columns, normalForm column = normalForm term) := by
  have hmem := mem_of_bestMatch h
  unfold bestMatch at h
  dsimp only at h
  split at h
  · cases h
  · split at h
    case h_1 column hfind =>
      have hsame : normalForm column = normalForm term := by
        simpa only [beq_iff_eq] using List.find?_some hfind
      rw [← Option.some.inj h] at hmem ⊢
      exact ⟨iff_of_true rfl hsame, iff_of_true hsame ⟨column, hmem, hsame⟩⟩
    case h_2 hfind =>
      have hnone : ∀ column ∈ columns, normalForm column ≠ normalForm term := by
        simpa only [List.find?_eq_none, beq_iff_eq] using hfind
      have hkind : found.kind ≠ .exact := (kind_of_foldl_better h).resolve_right (by simp)
      exact ⟨iff_of_false hkind (hnone _ hmem),
        iff_of_false (hnone _ hmem) fun ⟨column, hcolumn, he⟩ => hnone column hcolumn he⟩

end Exact

section Thresholds

variable {low high : Float} {best : Option (ColumnMatch Float)} {column : String}

/-- Whether a score is high enough for a threshold. -/
def reaches (threshold : Float) (found : ColumnMatch Float) : Bool :=
  isAtMost threshold found.score

/-- Raising the threshold can only drop the best match so far. What is dropped is below the higher
threshold, and so below any score that reaches it. -/
theorem better_filter (le : isAtMost low high = true)
    (positive : ∀ m, best = some m → isLess (Quantity.ofNat 0) m.score = true) :
    better term high (best.filter (reaches high)) column =
      (better term low best column).filter (reaches high) := by
  unfold better
  dsimp only
  split
  · rfl
  · generalize (score term (normalForm column) : Float × MatchKind) = scored
    obtain ⟨value, kind⟩ := scored
    change (if (isAtMost high value && isLess _ value) = true then _ else _) =
      Option.filter _ (if (isAtMost low value && isLess _ value) = true then _ else _)
    cases best with
    | none =>
      simp only [Option.filter_none, Option.map_none, Option.getD_none, Bool.and_eq_true]
      grind [isLess_iff, isAtMost_iff, reaches]
    | some m =>
      have hm := positive m rfl
      cases hreaches : reaches high m
      all_goals
        simp only [Option.filter_some, hreaches, Option.map_some, Option.getD_some,
          Bool.and_eq_true]
        grind [isLess_iff, isAtMost_iff, reaches]

theorem positive_better {m : ColumnMatch Float}
    (positive : ∀ m, best = some m → isLess (Quantity.ofNat 0) m.score = true)
    (h : better term low best column = some m) : isLess (Quantity.ofNat 0) m.score = true := by
  unfold better at h
  dsimp only at h
  split at h
  · exact positive m h
  · split at h
    case isTrue hbetter =>
      rw [Bool.and_eq_true] at hbetter
      rw [← Option.some.inj h]
      cases hbest : best with
      | none =>
        rw [hbest] at hbetter
        exact hbetter.2
      | some standing =>
        rw [hbest] at hbetter
        exact Decimal.isLess_trans (positive standing hbest) hbetter.2
    case isFalse => exact positive m h

theorem foldl_better_filter (le : isAtMost low high = true)
    (positive : ∀ m, best = some m → isLess (Quantity.ofNat 0) m.score = true) :
    columns.foldl (better term high) (best.filter (reaches high)) =
      (columns.foldl (better term low) best).filter (reaches high) := by
  induction columns generalizing best with
  | nil => rfl
  | cons column columns ih =>
    rw [List.foldl_cons, better_filter le positive, List.foldl_cons]
    exact ih fun m h => positive_better positive h

/-- A higher threshold, up to the score of an exact match, finds the column that a lower one finds
if its score is high enough, and none otherwise. -/
theorem bestMatch_filter (term : String) (columns : List String) (le : isAtMost low high = true)
    (within : isAtMost high (Quantity.ofNat 1) = true) :
    bestMatch term columns high = (bestMatch term columns low).filter (reaches high) := by
  unfold bestMatch
  dsimp only
  split
  · rfl
  · split
    case h_1 column _ =>
      have hreaches : reaches high ⟨column, Quantity.ofNat 1, .exact⟩ = true := within
      rw [Option.filter_some, if_pos hreaches]
    case h_2 =>
      have positive : ∀ m : ColumnMatch Float, none = some m →
          isLess (Quantity.ofNat 0) m.score = true := fun m h => by cases h
      rw [← foldl_better_filter le positive, Option.filter_none]

/-- Whatever is found is good enough for the threshold. -/
theorem reaches_bestMatch {threshold : Float} {found : ColumnMatch Float}
    (within : isAtMost threshold (Quantity.ofNat 1) = true)
    (h : bestMatch term columns threshold = some found) : reaches threshold found = true := by
  have le : isAtMost threshold threshold = true := by
    rw [isAtMost_iff] at within ⊢
    exact ⟨within.1, within.1, Int.le_refl _⟩
  rw [bestMatch_filter term columns le within, Option.filter_eq_some_iff] at h
  exact h.2

end Thresholds

end Matching

end TableTalk
