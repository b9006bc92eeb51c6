import TableTalk.Options
import TableTalk.Prompt
import TableTalk.Proofs.Hearing
import TableTalk.Proofs.Matching.References

/-!
# Hints beside an intent

A prompt tells the intent of a question, read at the threshold of the options, and hints
on its columns, which are always found at the default threshold. The hints are those of
the columns that the intent refers to as long as no column is found at one of the two
thresholds alone.
-/

namespace TableTalk

namespace Prompt

open Decimal (isAtMost)
open Matching (Hint IsThreshold defaultThreshold possibleReferences)

variable {options : Options}

theorem isThreshold_iff {threshold : Float} :
    IsThreshold threshold ↔ isAtMost 0.0 threshold = true ∧ isAtMost threshold 1.0 = true := by
  have hzero : (0.0 : Float) = Quantity.ofNat 0 := by decide +kernel
  have hone : (1.0 : Float) = Quantity.ofNat 1 := by decide +kernel
  rw [hzero, hone]
  exact ⟨fun h => ⟨h.least, h.within⟩, fun h => ⟨h.1, h.2⟩⟩

theorem isThreshold_of_valid (valid : options.fault? = none) :
    IsThreshold options.matchThreshold := by
  unfold Options.fault? at valid
  split at valid
  · cases valid
  · next h => exact isThreshold_iff.mpr (by simpa using h)

theorem isThreshold_default : IsThreshold defaultThreshold :=
  isThreshold_iff.mpr (by decide +kernel)

theorem map_reference_hints (question : String) (columns : List String) :
    (Matching.hints question columns).map Hint.reference =
      Matching.references question columns defaultThreshold := by
  rw [Matching.hints, List.map_map]
  exact List.map_id _

/-- The hints of a prompt are those of the columns that its intent refers to, in order, with their
terms, scores and kinds of match, exactly if every reference whose score reaches only one of the
threshold of the options and the default threshold comes after one to the same column whose score
reaches both. -/
theorem hints_agree_iff (valid : options.fault? = none) (question : String) (schema : Schema) :
    let prompt := Prompt.ofQuestion question schema options.matchThreshold
    prompt.hints.map Hint.reference = prompt.intent.references ↔
      ∀ before r after, possibleReferences question schema.columnNames = before ++ r :: after →
        isAtMost defaultThreshold r.score ≠ isAtMost options.matchThreshold r.score →
        ∃ earlier ∈ before, earlier.column = r.column ∧
          isAtMost defaultThreshold earlier.score = true ∧
          isAtMost options.matchThreshold earlier.score = true := by
  simp only [ofQuestion]
  rw [map_reference_hints, Question.references_read]
  exact Matching.references_eq_iff question schema.columnNames isThreshold_default
    (isThreshold_of_valid valid)

/-- A synonym is good enough for a threshold of nine tenths. -/
theorem stars_hint_agrees :
    let options : Options := { matchThreshold := 0.9 }
    let prompt := Prompt.ofQuestion "average stars" (.singleTable "reviews" ["rating", "price"])
      options.matchThreshold
    options.fault? = none ∧ prompt.hints.length = 1 ∧
      prompt.hints.map Hint.reference = prompt.intent.references := by
  intro options prompt
  have valid : options.fault? = none := by decide +kernel
  have halike : (possibleReferences "average stars" ["rating", "price"]).all (fun r =>
      isAtMost defaultThreshold r.score == isAtMost options.matchThreshold r.score) = true := by
    decide +kernel
  refine ⟨valid, by decide +kernel, (hints_agree_iff valid _ _).mpr fun before r after h hne => ?_⟩
  have hr : r ∈ possibleReferences "average stars" ["rating", "price"] := by
    have hlist : possibleReferences "average stars" ["rating", "price"] = before ++ r :: after := h
    rw [hlist]
    exact List.mem_append_right before List.mem_cons_self
  exact absurd (beq_iff_eq.mp (List.all_eq_true.mp halike r hr)) hne

/-- A hint stands beside an intent that refers to no column, as a name that contains the word is
good enough for the default threshold only. -/
theorem created_hint_strays :
    let options : Options := { matchThreshold := 0.9 }
    let prompt := Prompt.ofQuestion "show what was created"
      (.singleTable "events" ["created_at", "price"]) options.matchThreshold
    options.fault? = none ∧ prompt.hints.map Hint.reference ≠ prompt.intent.references := by
  decide +kernel

end Prompt

end TableTalk
