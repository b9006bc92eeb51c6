import TableTalk.Proofs.Completion
import TableTalk.Proofs.Hearing

/-!
# Columns of calculations that name none

A calculation without a column right after its keyword takes one of the columns that the
question refers to, but none by which the rows are grouped. The choice is made when the
question is read and stands when groups are taken over from the turn before: such a
group may then be the column that has been chosen. In all other cases the column of a
calculation that names none is no group and no column of dates.
-/

namespace TableTalk.Question

variable {intent : Intent} {column : String}

/-- Columns of groups and dates are no candidates. -/
theorem not_reserved_of_mem_candidates (h : column ∈ candidates intent) :
    column ∉ intent.groupBy ∧ intent.timeColumn ≠ some column := by
  have hfree : column ∈ intent.columnNames.filter fun c =>
      !(intent.groupBy ++ intent.timeColumn.toList).contains c := by
    unfold candidates at h
    dsimp only at h
    split at h
    · exact h
    · exact (List.mem_filter.mp h).1
  have hreserved := (List.mem_filter.mp hfree).2
  rw [Bool.not_eq_true', List.contains_eq_mem, decide_eq_false_iff_not, List.mem_append, not_or,
    Option.mem_toList] at hreserved
  exact hreserved

/-- The calculations of a turn have been offered the candidates of the question by itself and then
those that there are with what is taken over. -/
theorem aggregations_merge_read (question : String) (schema : Schema) (threshold : Float)
    (previous : Intent) :
    let current := read question schema threshold
    let merged := merge current (some previous)
    merged.aggregations = (askedAggregations question schema threshold).map fun asked =>
      fillAggregation (candidates merged) (fillAggregation (candidates current) asked) := by
  dsimp only
  have hcurrent := aggregations_read question schema threshold
  generalize read question schema threshold = current at hcurrent ⊢
  rw [merge_some]
  by_cases hinherited : (takeOver current previous).inheritedContext = true
  case pos =>
    rw [if_pos hinherited]
    calc (takeOver current previous).aggregations.map
          (fillAggregation (candidates (takeOver current previous)))
        = ((askedAggregations question schema threshold).map
            (fillAggregation (candidates current))).map
              (fillAggregation (candidates (takeOver current previous))) := by
          rw [← hcurrent]
          rfl
      _ = _ := by
          rw [List.map_map]
          rfl
  case neg =>
    rw [if_neg hinherited,
      takeOver_eq_self_of_not_inherited ((Bool.not_eq_true _).mp hinherited), hcurrent]
    exact List.map_congr_left fun asked _ => (fillAggregation_fillAggregation _ asked).symm

theorem column_fillAggregation (free : List String) (a : Aggregation) :
    (fillAggregation free a).column =
      if a.function = .count then a.column else a.column <|> free.head? := by
  unfold fillAggregation
  split <;> rfl

/-- A calculation without a column takes the first candidate of the question, or else the first one
that there is with what is taken over; counting takes none. -/
theorem column_fillAggregation_twice {free more : List String} {asked : Aggregation}
    (isOpen : asked.column = none) :
    (fillAggregation more (fillAggregation free asked)).column =
      if asked.function = .count then none else free.head? <|> more.head? := by
  rw [column_fillAggregation, column_fillAggregation, function_fillAggregation, isOpen]
  split
  · rfl
  · rfl

theorem completesAggregation_fill_twice (free more : List String) (asked : Aggregation) :
    CompletesAggregation asked (fillAggregation more (fillAggregation free asked)) :=
  (completesAggregation_fill free asked).trans (completesAggregation_fill more _)

/-- A candidate of a question is a group of the merged intent only if the groups are taken over, and
a candidate of the merged intent is none at all. -/
theorem candidate_mem_groups_iff (current previous : Intent) (column : String) :
    let merged := merge current (some previous)
    ((candidates current).head? <|> (candidates merged).head?) = some column →
      merged.timeColumn ≠ some column ∧
        (column ∈ merged.groupBy ↔
          current.groupBy = [] ∧ column ∈ previous.groupBy ∧
            (candidates current).head? = some column) := by
  intro merged h
  have hgroups : merged.groupBy =
      if current.groupBy = [] then previous.groupBy else current.groupBy :=
    groupBy_merge current previous
  have htime : merged.timeColumn = current.timeColumn :=
    congrArg (Option.bind · TimeAnalysis.column) (completes_merge current previous).time
  rcases (Option.orElse_eq_some _ _ _).mp h with hcurrent | ⟨hnone, hmerged⟩
  case inl =>
    obtain ⟨hfree, hdate⟩ := not_reserved_of_mem_candidates (List.mem_of_head? hcurrent)
    refine ⟨htime ▸ hdate, ?_⟩
    rw [hgroups]
    by_cases hopen : current.groupBy = []
    · simp only [hopen, hcurrent, ↓reduceIte, true_and, and_true]
    · simp only [hopen, hfree, ↓reduceIte, false_and]
  case inr =>
    obtain ⟨hfree, hdate⟩ := not_reserved_of_mem_candidates (List.mem_of_head? hmerged)
    exact ⟨hdate, iff_of_false hfree fun h => by simp [hnone] at h⟩

/-- For a calculation that names no column right after its keyword: it has one nevertheless, unless
it counts or there is no candidate; the column is not the column of dates; and it is one of the
groups exactly if the groups are taken over and it has been chosen before, as the first candidate
of the question by itself. Calculations that name a column keep it. -/
theorem default_target_mem_groups_iff (question : String) (schema : Schema) (threshold : Float)
    (previous : Intent) :
    let current := read question schema threshold
    let merged := merge current (some previous)
    List.Forall₂
      (fun asked aggregation =>
        CompletesAggregation asked aggregation ∧
          (asked.column = none →
            (aggregation.column = none → asked.function = .count ∨ candidates merged = []) ∧
            ∀ column, aggregation.column = some column →
              merged.timeColumn ≠ some column ∧
                (column ∈ merged.groupBy ↔
                  current.groupBy = [] ∧ column ∈ previous.groupBy ∧
                    (candidates current).head? = some column)))
      (askedAggregations question schema threshold) merged.aggregations := by
  intro current merged
  have haggregations : merged.aggregations = _ :=
    aggregations_merge_read question schema threshold previous
  rw [haggregations, List.forall₂_map_right_iff, List.forall₂_same]
  intro asked _
  refine ⟨completesAggregation_fill_twice _ _ asked, fun isOpen => ?_⟩
  rw [column_fillAggregation_twice isOpen]
  split
  case isTrue hcount => exact ⟨fun _ => Or.inl hcount, fun column h => by cases h⟩
  case isFalse =>
    refine ⟨fun h => Or.inr ?_, candidate_mem_groups_iff current previous⟩
    have hnone := (Option.orElse_eq_none _ _).mp h
    exact List.head?_eq_none_iff.mp hnone.2

/-- A sum that names no column is taken of the prices, as the cities are the groups. -/
theorem sum_is_of_price :
    let schema : Schema := .singleTable "sales" ["price", "city"]
    let previous := read "price by city" schema Matching.defaultThreshold
    let merged := merge (read "sum" schema Matching.defaultThreshold) (some previous)
    askedAggregations "sum" schema Matching.defaultThreshold = [{ function := .sum }] ∧
      merged.aggregations = [{ function := .sum, column := some "price" }] ∧
      previous.groupBy = ["city"] ∧ "price" ∉ merged.groupBy := by
  intro schema previous merged
  have hasked : askedAggregations "sum" schema Matching.defaultThreshold =
      [{ function := .sum }] := by decide +kernel
  have hmerged : merged.aggregations = [{ function := .sum, column := some "price" }] := by
    decide +kernel
  have hgroups : previous.groupBy = ["city"] := by decide +kernel
  refine ⟨hasked, hmerged, hgroups, ?_⟩
  have htargets := default_target_mem_groups_iff "sum" schema Matching.defaultThreshold previous
  dsimp only at htargets
  rw [hasked, show (merge _ _).aggregations = _ from hmerged, List.forall₂_cons] at htargets
  obtain ⟨-, hcolumn⟩ := htargets.1.2 rfl
  rw [show "price" ∈ merged.groupBy ↔ _ from (hcolumn "price" rfl).2, hgroups]
  exact fun h => absurd h.2.1 (by decide)

/-- The city that a question names first is its sum, and also the group that it takes over. -/
theorem sum_of_city_by_city :
    let schema : Schema := .singleTable "sales" ["price", "city"]
    let previous := read "price by city" schema Matching.defaultThreshold
    let merged := merge (read "city price sum" schema Matching.defaultThreshold) (some previous)
    askedAggregations "city price sum" schema Matching.defaultThreshold = [{ function := .sum }] ∧
      merged.aggregations = [{ function := .sum, column := some "city" }] ∧
      merged.groupBy = ["city"] := by
  decide +kernel

end TableTalk.Question
