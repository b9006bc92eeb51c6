import Mathlib.Data.List.Forall2
import TableTalk.Proofs.Merging

/-!
# Roles that are filled stay filled

Giving columns to roles only adds: a column that is set stays, and all that an intent
says apart from its columns stays too. The candidates for a role do not depend on what
has been filled, so filling roles a second time finds nothing to do. Taking over
columns and groups from the turn before is therefore done once and for all.
-/

namespace TableTalk.Question

variable {intent current previous : Intent}

/-- A column that is set stays, and an open one may be filled. -/
def Fills (before after : Option String) : Prop :=
  ∀ column, before = some column → after = some column

/-- The same calculation; open columns may have been filled. -/
structure CompletesAggregation (before after : Aggregation) : Prop where
  function : after.function = before.function
  column : Fills before.column after.column
  pairedWith : Fills before.pairedWith after.pairedWith

/-- The same window function; an open column may have been filled. -/
structure CompletesWindow (before after : WindowRequest) : Prop where
  function : after.function = before.function
  column : Fills before.column after.column

/-- The same slice; an open column may have been filled. -/
structure CompletesSlice (before after : PercentSlice) : Prop where
  percent : after.percent = before.percent
  side : after.side = before.side
  column : Fills before.column after.column

/-- The same intent, apart from its references, its groups and what is noted of them; open roles
may have been filled. -/
structure Completes (before after : Intent) : Prop where
  question : after.question = before.question
  filters : after.filters = before.filters
  time : after.time = before.time
  order : after.order = before.order
  orderColumn : after.orderColumn = before.orderColumn
  limit : after.limit = before.limit
  sentiment : after.sentiment = before.sentiment
  aggregations : List.Forall₂ CompletesAggregation before.aggregations after.aggregations
  window : Option.Rel CompletesWindow before.window after.window
  slice : Option.Rel CompletesSlice before.slice after.slice

section Filling

theorem Fills.refl (column : Option String) : Fills column column :=
  fun _ h => h

theorem Fills.trans {first second third : Option String} (h : Fills first second)
    (h' : Fills second third) : Fills first third :=
  fun column hcolumn => h' column (h column hcolumn)

theorem fills_orElse (column other : Option String) : Fills column (column <|> other) := by
  rintro _ rfl
  rfl

theorem orElse_orElse_self (column other : Option String) :
    ((column <|> other) <|> other) = (column <|> other) := by
  cases column <;> cases other <;> rfl

theorem CompletesAggregation.trans {first second third : Aggregation}
    (h : CompletesAggregation first second) (h' : CompletesAggregation second third) :
    CompletesAggregation first third :=
  ⟨h'.function.trans h.function, h.column.trans h'.column, h.pairedWith.trans h'.pairedWith⟩

theorem function_fillAggregation (free : List String) (a : Aggregation) :
    (fillAggregation free a).function = a.function := by
  unfold fillAggregation
  split <;> rfl

theorem completesAggregation_fill (free : List String) (a : Aggregation) :
    CompletesAggregation a (fillAggregation free a) := by
  refine ⟨function_fillAggregation free a, ?_, ?_⟩
  all_goals unfold fillAggregation
  · split
    · exact .refl _
    · exact fills_orElse _ _
  · split
    · exact .refl _
    · dsimp only
      split
      · exact fills_orElse _ _
      · exact .refl _

/-- The second column of a pair is looked for with the first one in place, so that it is found again
where it was found before. -/
theorem fillAggregation_fillAggregation (free : List String) (a : Aggregation) :
    fillAggregation free (fillAggregation free a) = fillAggregation free a := by
  by_cases hcount : a.function = .count
  case pos => simp only [fillAggregation, if_pos hcount]
  case neg =>
    simp only [fillAggregation, if_neg hcount, orElse_orElse_self]
    cases a.function.isPairwise
    · rfl
    · simp only [↓reduceIte, orElse_orElse_self]

theorem candidates_assignRoles (intent : Intent) :
    candidates (assignRoles intent) = candidates intent :=
  rfl

theorem Completes.refl (intent : Intent) : Completes intent intent where
  question := rfl
  filters := rfl
  time := rfl
  order := rfl
  orderColumn := rfl
  limit := rfl
  sentiment := rfl
  aggregations := List.forall₂_same.mpr fun _ _ => ⟨rfl, .refl _, .refl _⟩
  window := by
    cases intent.window with
    | none => exact .none
    | some request => exact .some ⟨rfl, .refl _⟩
  slice := by
    cases intent.slice with
    | none => exact .none
    | some slice => exact .some ⟨rfl, rfl, .refl _⟩

theorem completes_assignRoles (intent : Intent) : Completes intent (assignRoles intent) where
  question := rfl
  filters := rfl
  time := rfl
  order := rfl
  orderColumn := rfl
  limit := rfl
  sentiment := rfl
  aggregations := by
    change List.Forall₂ _ _ (intent.aggregations.map (fillAggregation (candidates intent)))
    rw [List.forall₂_map_right_iff, List.forall₂_same]
    exact fun a _ => completesAggregation_fill (candidates intent) a
  window := by
    unfold assignRoles
    cases intent.window with
    | none => exact .none
    | some request => exact .some ⟨rfl, fills_orElse _ _⟩
  slice := by
    unfold assignRoles
    cases intent.slice with
    | none => exact .none
    | some slice => exact .some ⟨rfl, rfl, fills_orElse _ _⟩

theorem aggregations_assignRoles_assignRoles (intent : Intent) :
    (assignRoles (assignRoles intent)).aggregations = (assignRoles intent).aggregations := by
  change ((intent.aggregations.map (fillAggregation (candidates intent))).map
    (fillAggregation (candidates intent))) = _
  rw [List.map_map]
  exact List.map_congr_left fun a _ => fillAggregation_fillAggregation (candidates intent) a

theorem window_assignRoles (intent : Intent) :
    (assignRoles intent).window = intent.window.map fun request =>
      { request with
        column := request.column
          <|> (if request.function.ranksValues then intent.orderColumn else none)
          <|> metric? (assignRoles intent).aggregations
          <|> (candidates intent).head? } := rfl

theorem slice_assignRoles (intent : Intent) :
    (assignRoles intent).slice = intent.slice.map fun slice =>
      { slice with
        column := slice.column <|> intent.orderColumn
          <|> metric? (assignRoles intent).aggregations <|> (candidates intent).head? } := rfl

/-- What has been filled is offered the same columns again, as the figures are the same. -/
theorem assignRoles_assignRoles (intent : Intent) :
    assignRoles (assignRoles intent) = assignRoles intent := by
  have haggregations := aggregations_assignRoles_assignRoles intent
  have hwindow : (assignRoles (assignRoles intent)).window = (assignRoles intent).window := by
    rw [window_assignRoles (assignRoles intent), haggregations, candidates_assignRoles,
      window_assignRoles intent, Option.map_map]
    refine Option.map_congr fun request _ => ?_
    exact congrArg (WindowRequest.mk request.function) (orElse_orElse_self _ _)
  have hslice : (assignRoles (assignRoles intent)).slice = (assignRoles intent).slice := by
    rw [slice_assignRoles (assignRoles intent), haggregations, candidates_assignRoles,
      slice_assignRoles intent, Option.map_map]
    refine Option.map_congr fun slice _ => ?_
    exact congrArg (PercentSlice.mk slice.percent slice.side) (orElse_orElse_self _ _)
  calc assignRoles (assignRoles intent)
      = { assignRoles intent with
          aggregations := (assignRoles (assignRoles intent)).aggregations
          window := (assignRoles (assignRoles intent)).window
          slice := (assignRoles (assignRoles intent)).slice } := rfl
    _ = assignRoles intent := by rw [haggregations, hwindow, hslice]

end Filling

section Merging

/-- An empty list takes another one over unless that is empty too. -/
theorem takes_eq_false {α : Type} {own others : List α} (h : own = [] → others = []) :
    (own.isEmpty && !others.isEmpty) = false := by
  rw [Bool.and_eq_false_imp, Bool.not_eq_false']
  simpa only [List.isEmpty_iff] using h

/-- Nothing is taken over twice. -/
theorem takeOver_eq_self (references : current.references = [] → previous.references = [])
    (groups : current.groupBy = [] → previous.groupBy = []) :
    takeOver current previous = current := by
  simp only [takeOver, takes_eq_false references, takes_eq_false groups, Bool.or_false,
    Bool.false_eq_true, ↓reduceIte]

/-- Columns are taken over if this turn refers to none. -/
theorem references_merge (current previous : Intent) :
    (merge current (some previous)).references =
      if current.references = [] then previous.references else current.references := by
  rw [merge_some, ← references_takeOver]
  split <;> rfl

/-- Groups are taken over if this turn has none. -/
theorem groupBy_merge (current previous : Intent) :
    (merge current (some previous)).groupBy =
      if current.groupBy = [] then previous.groupBy else current.groupBy := by
  rw [merge_some, ← groupBy_takeOver]
  split <;> rfl

theorem own_or_others_eq_nil_iff {α : Type} (own others : List α) :
    (if own = [] then others else own) = [] ↔ own = [] ∧ others = [] := by
  split
  case isTrue h => exact ⟨fun hothers => ⟨h, hothers⟩, And.right⟩
  case isFalse h => exact ⟨fun hown => absurd hown h, And.left⟩

theorem references_merge_eq_nil_iff :
    (merge current (some previous)).references = [] ↔
      current.references = [] ∧ previous.references = [] := by
  rw [references_merge]
  exact own_or_others_eq_nil_iff current.references previous.references

theorem groupBy_merge_eq_nil_iff :
    (merge current (some previous)).groupBy = [] ↔
      current.groupBy = [] ∧ previous.groupBy = [] := by
  rw [groupBy_merge]
  exact own_or_others_eq_nil_iff current.groupBy previous.groupBy

/-- Apart from references, groups and notes, a turn that takes something over only has open roles
filled. -/
theorem completes_merge (current previous : Intent) :
    Completes current (merge current (some previous)) := by
  have hfilled := completes_assignRoles (takeOver current previous)
  rw [merge_some]
  split
  case isTrue => exact { hfilled with }
  case isFalse => exact { Completes.refl current with }

/-- Merging with one turn twice is merging with it once. -/
theorem merge_merge (current previous : Intent) :
    merge (merge current (some previous)) (some previous) = merge current (some previous) := by
  rw [merge_some (merge current (some previous)),
    takeOver_eq_self (fun h => (references_merge_eq_nil_iff.mp h).2)
      (fun h => (groupBy_merge_eq_nil_iff.mp h).2),
    merge_some current previous]
  by_cases hinherited : (takeOver current previous).inheritedContext = true
  case pos =>
    have hagain :
        (refreshClarification (assignRoles (takeOver current previous))).inheritedContext = true :=
      hinherited
    rw [if_pos hinherited, if_pos hagain]
    calc refreshClarification (assignRoles (refreshClarification (assignRoles _)))
        = refreshClarification (assignRoles (assignRoles (takeOver current previous))) := rfl
      _ = _ := by rw [assignRoles_assignRoles]
  case neg => rw [if_neg hinherited, if_neg hinherited]

end Merging

end TableTalk.Question
