import TableTalk.Engine.Stepping
import TableTalk.Proofs.Rows

/-!
# What a step can do

A step that succeeds has found its columns and has made one change to the state.
There is one statement for every operation, with all that was checked on the way
and the state that comes out. What steps preserve is derived from these.
-/

namespace TableTalk.Engine

variable {state next : State}

theorem bind_eq_ok {α β : Type} {first : Except Fault α} {rest : α → Except Fault β} {b : β} :
    (first >>= rest) = .ok b ↔ ∃ a, first = .ok a ∧ rest a = .ok b := by
  cases first with
  | error fault =>
    constructor
    · intro h
      cases h
    · rintro ⟨a, h, -⟩
      cases h
  | ok a =>
    constructor
    · intro h
      exact ⟨a, rfl, h⟩
    · rintro ⟨a, ⟨⟩, h⟩
      exact h

theorem ok_eq_ok {α : Type} {a b : α} : (.ok a : Except Fault α) = .ok b ↔ b = a :=
  ⟨fun h => (Except.ok.inj h).symm, fun h => congrArg _ h.symm⟩

section MapM

variable {α β : Type} {f : α → Except Fault β} {as : List α} {bs : List β}

/-- Each of the results comes from the element at its place. -/
theorem map_eq_of_mapM_eq_ok (h : as.mapM f = .ok bs) : as.map f = bs.map .ok := by
  induction as generalizing bs with
  | nil =>
    rw [List.mapM_nil] at h
    obtain rfl := ok_eq_ok.mp h
    rfl
  | cons a as ih =>
    rw [List.mapM_cons] at h
    obtain ⟨first, hfirst, h⟩ := bind_eq_ok.mp h
    obtain ⟨rest, hrest, h⟩ := bind_eq_ok.mp h
    obtain rfl := ok_eq_ok.mp h
    rw [List.map_cons, List.map_cons, hfirst, ih hrest]

theorem mapM_eq_ok_map {g : α → β} (made : ∀ a ∈ as, f a = .ok (g a)) :
    as.mapM f = .ok (as.map g) := by
  induction as with
  | nil => rfl
  | cons a as ih =>
    rw [List.mapM_cons, made a List.mem_cons_self, ih fun a ha => made a (List.mem_cons_of_mem _ ha)]
    rfl

theorem exists_of_mapM_eq_ok (h : as.mapM f = .ok bs) : ∀ b ∈ bs, ∃ a ∈ as, f a = .ok b := by
  intro b hb
  have hmem : .ok b ∈ as.map f := map_eq_of_mapM_eq_ok h ▸ List.mem_map_of_mem hb
  exact List.mem_map.mp hmem

theorem exists_mem_of_mapM_eq_ok (h : as.mapM f = .ok bs) : ∀ a ∈ as, ∃ b ∈ bs, f a = .ok b := by
  intro a ha
  have hmem : f a ∈ bs.map .ok := map_eq_of_mapM_eq_ok h ▸ List.mem_map_of_mem ha
  obtain ⟨b, hb, hmade⟩ := List.mem_map.mp hmem
  exact ⟨b, hb, hmade.symm⟩

end MapM

/-- A check has no value of its own. -/
theorem exists_unit {p : Unit → Prop} : (∃ u, p u) ↔ p () :=
  ⟨fun ⟨(), h⟩ => h, fun h => ⟨(), h⟩⟩

theorem requireColumns_cons {first : Row} {rest : Dataset} {columns : List String} {site : Site} :
    requireColumns (first :: rest) columns site = .ok () ↔
      ∀ column ∈ columns, first.hasColumn column = true := by
  simp only [requireColumns]
  cases hfind : columns.find? fun column => !first.hasColumn column with
  | none => simpa using hfind
  | some missing =>
    have hmem := List.mem_of_find?_eq_some hfind
    have hmissing := List.find?_some hfind
    simp only [reduceCtorEq, false_iff]
    intro hall
    simp [hall missing hmem] at hmissing

theorem requireColumns_of_head {rows : Dataset} {columns : List String} {site : Site}
    (there : ∀ first ∈ rows.head?, ∀ column ∈ columns, column ∈ first.columns) :
    requireColumns rows columns site = .ok () := by
  cases rows with
  | nil => rfl
  | cons first rest =>
    rw [requireColumns_cons]
    intro column hcolumn
    exact Row.hasColumn_iff.mpr (there first rfl column hcolumn)

theorem resolve_named {state : State} {rows : Dataset} {column : String} {site : Site}
    {suggest : Dataset → Option String} {missing : Fault}
    (there : ∀ first ∈ rows.head?, column ∈ first.columns) :
    state.resolve rows (some column) site suggest missing = .ok (some column) := by
  cases rows with
  | nil => rfl
  | cons first rest =>
    have hhas : first.hasColumn column = true := Row.hasColumn_iff.mpr (there first rfl)
    simp [State.resolve, State.locate, hhas]

/-- There is no column for a step only if there are no rows. -/
theorem rows_eq_nil_of_resolve {rows : Dataset} {named : Option String} {site : Site}
    {suggest : Dataset → Option String} {missing : Fault}
    (h : state.resolve rows named site suggest missing = .ok none) : rows = [] := by
  cases rows with
  | nil => rfl
  | cons first rest =>
    simp only [State.resolve, List.isEmpty_cons, Bool.false_eq_true, ↓reduceIte] at h
    split at h
    · split at h <;> cases h
    · split at h <;> cases h

theorem select_eq_ok {columns : List String} :
    select state columns = .ok next ↔
      requireColumns state.working.output columns .select = .ok () ∧
      next = state.withRows (state.working.output.map fun row => row.project columns) := by
  simp only [select, bind_eq_ok, ok_eq_ok, exists_unit]

theorem filter_eq_ok {conditions : List Condition} {sentiment : Option SentimentFilter} :
    filter state conditions sentiment = .ok next ↔
      requireColumns state.working.output (conditions.map Condition.column) .filter = .ok () ∧
      ∃ rating, ratingConditions state state.working.output sentiment = .ok rating ∧
        next = state.withRows
          (state.working.output.filter (Condition.allHold (conditions ++ rating))) := by
  simp only [filter, bind_eq_ok, ok_eq_ok, exists_unit]

theorem group_eq_ok {columns : List String} {time : Option TimeAnalysis} :
    group state columns time = .ok next ↔
      requireColumns state.working.output columns .group = .ok () ∧
      ∃ period, settlePeriod state state.working.output time = .ok period ∧
        next = { state with
          working := .groups
            ((Grouping.groupBy (groupKey period columns) state.working.output).map
              (rowGroup period columns)) } := by
  simp only [group, bind_eq_ok, ok_eq_ok, exists_unit]

theorem aggregate_eq_ok {aggregations : List Aggregation} :
    aggregate state aggregations = .ok next ↔
      ∃ metrics, aggregations.mapM (resolveAggregation state state.working.sample) = .ok metrics ∧
        next = { state with
          working := .rows (summaries metrics state.working)
          metrics := metrics.map Metric.name } := by
  simp only [aggregate, bind_eq_ok, ok_eq_ok]

theorem window_eq_ok {options : Options} {request : WindowRequest} {orderBy : Option String}
    {direction : Direction} :
    window options state request orderBy direction = .ok next ↔
      ∃ found, state.resolve state.working.partitionSample request.column .window numericColumn?
          (.noNumericColumn .window) = .ok found ∧
        match found with
        | none => next = state.withRows state.working.partitionSample
        | some column =>
          ∃ order, windowOrder state state.working.partitionSample orderBy direction = .ok order ∧
            next = { state with
              working := .rows (state.working.mapPartitions
                (applyWindow options request.function column order direction))
              windowColumn := some column } := by
  simp only [window, bind_eq_ok]
  refine exists_congr fun found => and_congr_right fun _ => ?_
  cases found with
  | none => exact ok_eq_ok
  | some column => simp only [bind_eq_ok, ok_eq_ok]

theorem slice_eq_ok {sought : PercentSlice} :
    slice state sought = .ok next ↔
      ∃ found, state.resolve state.working.partitionSample sought.column .slice numericColumn?
          (.noNumericColumn .slice) = .ok found ∧
        match found with
        | none => next = state.withRows state.working.partitionSample
        | some column =>
          next = state.withRows (state.working.mapPartitions
            (Statistics.sliceRows column sought.percent sought.side)) := by
  simp only [slice, bind_eq_ok]
  refine exists_congr fun found => and_congr_right fun _ => ?_
  cases found with
  | none => exact ok_eq_ok
  | some column => exact ok_eq_ok

theorem order_eq_ok {column : Option String} {direction : Direction} :
    order state column direction = .ok next ↔
      ∃ found, state.resolve state.working.output column .order
          (orderSuggestion state) (.noNumericColumn .order) = .ok found ∧
        match found with
        | none => next = state.withRows state.working.output
        | some column =>
          next = state.withRows (Series.sortRows column direction state.working.output) := by
  simp only [order, bind_eq_ok]
  refine exists_congr fun found => and_congr_right fun _ => ?_
  cases found with
  | none => exact ok_eq_ok
  | some column => exact ok_eq_ok

end TableTalk.Engine
