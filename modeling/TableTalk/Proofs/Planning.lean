import Mathlib.Data.List.Basic
import TableTalk.Planning

/-!
# What is planned for an intent

An intent names columns in nine roles, and a selection keeps those of all roles.
Every kind of step is planned at most once, with what the intent says for it, and
steps come in the order of their operations.
-/

namespace TableTalk

/-- An intent names a column, in one of the roles that columns can have. -/
inductive Intent.Names (intent : Intent) : String → Prop
  | reference {reference : Matching.Reference} (h : reference ∈ intent.references) :
    Names intent reference.column
  | group {column : String} (h : column ∈ intent.groupBy) : Names intent column
  | time {column : String} (h : intent.timeColumn = some column) : Names intent column
  | condition {condition : Condition} (h : condition ∈ intent.filters) :
    Names intent condition.column
  | sentiment {filter : SentimentFilter} {column : String} (h : intent.sentiment = some filter)
    (named : filter.column = some column) : Names intent column
  | aggregated {aggregation : Aggregation} {column : String} (h : aggregation ∈ intent.aggregations)
    (named : aggregation.column = some column ∨ aggregation.pairedWith = some column) :
    Names intent column
  | window {request : WindowRequest} {column : String} (h : intent.window = some request)
    (named : request.column = some column) : Names intent column
  | slice {slice : PercentSlice} {column : String} (h : intent.slice = some slice)
    (named : slice.column = some column) : Names intent column
  | order {column : String} (h : intent.orderColumn = some column) : Names intent column

namespace Planning

variable {intent : Intent} {step : Step} {column : String}

/-- A selection keeps the columns of all roles and no others. -/
theorem mem_namedColumns_iff : column ∈ namedColumns intent ↔ intent.Names column := by
  simp only [namedColumns, Intent.columnNames, List.mem_append, List.mem_map, Option.mem_toList,
    Option.bind_eq_some_iff, List.mem_flatMap]
  constructor
  · rintro ((((((((⟨_, h, rfl⟩ | h) | h) | ⟨_, h, rfl⟩) | ⟨_, h, named⟩) | ⟨_, h, named⟩) |
      ⟨_, h, named⟩) | ⟨_, h, named⟩) | h)
    · exact .reference h
    · exact .group h
    · exact .time h
    · exact .condition h
    · exact .sentiment h named
    · exact .aggregated h named
    · exact .window h named
    · exact .slice h named
    · exact .order h
  · intro h
    cases h with
    | reference h => exact .inl (.inl (.inl (.inl (.inl (.inl (.inl (.inl ⟨_, h, rfl⟩)))))))
    | group h => exact .inl (.inl (.inl (.inl (.inl (.inl (.inl (.inr h)))))))
    | time h => exact .inl (.inl (.inl (.inl (.inl (.inl (.inr h))))))
    | condition h => exact .inl (.inl (.inl (.inl (.inl (.inr ⟨_, h, rfl⟩)))))
    | sentiment h named => exact .inl (.inl (.inl (.inl (.inr ⟨_, h, named⟩))))
    | aggregated h named => exact .inl (.inl (.inl (.inr ⟨_, h, named⟩)))
    | window h named => exact .inl (.inl (.inr ⟨_, h, named⟩))
    | slice h named => exact .inl (.inr ⟨_, h, named⟩)
    | order h => exact .inr h

theorem mem_projection_iff {columns : List String} (h : projection? intent = some columns) :
    column ∈ columns ↔ intent.Names column := by
  rw [projection?] at h
  split at h
  · cases h
  · rw [← Option.some.inj h, List.mem_eraseDups, mem_namedColumns_iff]

/-- Every role has its column, and nothing is left to the choice of the engine. -/
structure Settled (intent : Intent) : Prop where
  aggregation : ∀ a ∈ intent.aggregations, a.function ≠ .count → a.column ≠ none
  pair : ∀ a ∈ intent.aggregations, a.function.isPairwise = true → a.pairedWith ≠ none
  time : ∀ t, intent.time = some t → t.column ≠ none
  window : ∀ request, intent.window = some request → request.column ≠ none
  slice : ∀ s, intent.slice = some s → s.column ≠ none
  sentiment : ∀ s, intent.sentiment = some s → s.column ≠ none

theorem settled_of_projection {columns : List String} (h : projection? intent = some columns) :
    Settled intent := by
  have hleaves : leavesChoice intent = false := by
    rw [projection?] at h
    split at h
    · cases h
    · simp_all
  simp only [leavesChoice, Bool.or_eq_false_iff, List.any_eq_false, Option.any_eq_false,
    Bool.or_eq_true, Bool.and_eq_true, bne_iff_ne, Option.isNone_eq_false_iff,
    Option.isSome_iff_ne_none, Option.isNone_iff_eq_none, not_or, not_and] at hleaves
  obtain ⟨⟨⟨⟨haggregations, htime⟩, hwindow⟩, hslice⟩, hsentiment⟩ := hleaves
  exact ⟨fun a ha => (haggregations a ha).1, fun a ha => (haggregations a ha).2, htime, hwindow,
    hslice, hsentiment⟩

theorem mem_seriesAggregation?_iff {aggregation : Aggregation} :
    seriesAggregation? intent = some aggregation ↔
      ∃ request, intent.window = some request ∧ request.function.ranksValues = false ∧
        intent.time.isSome = true ∧
        aggregation =
          { function := if request.function = .runningTotal then .sum else .avg
            column := request.column } := by
  rw [seriesAggregation?]
  cases intent.window with
  | none => simp
  | some request =>
    cases hranks : request.function.ranksValues <;> cases intent.time <;>
      simp [hranks, @eq_comm _ aggregation]

/-- The columns that planned aggregations name are columns that the intent names. -/
theorem names_of_mem_plannedAggregations {aggregation : Aggregation}
    (h : aggregation ∈ plannedAggregations intent)
    (named : aggregation.column = some column ∨ aggregation.pairedWith = some column) :
    intent.Names column := by
  rw [plannedAggregations] at h
  split at h
  case isTrue =>
    obtain ⟨request, hwindow, -, -, rfl⟩ := mem_seriesAggregation?_iff.mp (Option.mem_toList.mp h)
    exact .window hwindow (named.resolve_right (by simp))
  case isFalse => exact .aggregated h named

theorem Settled.plannedAggregation (settled : Settled intent) {aggregation : Aggregation}
    (h : aggregation ∈ plannedAggregations intent) :
    (aggregation.function ≠ .count → aggregation.column ≠ none) ∧
      (aggregation.function.isPairwise = true → aggregation.pairedWith ≠ none) := by
  rw [plannedAggregations] at h
  split at h
  case isTrue =>
    obtain ⟨request, hwindow, -, -, rfl⟩ := mem_seriesAggregation?_iff.mp (Option.mem_toList.mp h)
    refine ⟨fun _ => settled.window request hwindow, fun hpairwise => ?_⟩
    dsimp only at hpairwise
    split at hpairwise <;> cases hpairwise
  case isFalse => exact ⟨settled.aggregation _ h, settled.pair _ h⟩

/-- Figures that run over periods are calculated from an aggregation of the periods. -/
theorem plannedAggregations_ne_nil {request : WindowRequest} (hwindow : intent.window = some request)
    (hranks : request.function.ranksValues = false) (htime : intent.time.isSome = true) :
    plannedAggregations intent ≠ [] := by
  rw [plannedAggregations]
  split
  case isTrue =>
    rw [mem_seriesAggregation?_iff.mpr ⟨request, hwindow, hranks, htime, rfl⟩]
    exact List.cons_ne_nil _ _
  case isFalse h => simpa using h

/-- What is planned: each kind of step with what the intent says for it. -/
def IsPlanned (intent : Intent) : Step → Prop
  | .select columns => projection? intent = some columns
  | .filter conditions sentiment =>
    ¬ (intent.filters = [] ∧ intent.sentiment = none) ∧
      intent.filters = conditions ∧ intent.sentiment = sentiment
  | .group columns time =>
    intent.hasGrouping = true ∧ intent.groupBy = columns ∧ intent.time = time
  | .aggregate aggregations =>
    plannedAggregations intent ≠ [] ∧ plannedAggregations intent = aggregations
  | .window request orderBy direction =>
    intent.window = some request ∧ windowStep intent request = .window request orderBy direction
  | .statistical slice => intent.slice = some slice
  | .order column direction =>
    ¬ (intent.order = none ∧ intent.orderColumn = none) ∧
      intent.orderColumn = column ∧ intent.order.getD .descending = direction
  | .limit count => intent.limit = some count

theorem operation_ne_aggregate (unaggregated : plannedAggregations intent = [])
    (planned : IsPlanned intent step) : step.operation ≠ .aggregate := by
  cases step with
  | aggregate aggregations => exact absurd unaggregated planned.1
  | _ => nofun

/-- The filter of a plan. -/
def filterStep? (intent : Intent) : Option Step :=
  if intent.filters = [] ∧ intent.sentiment = none then none
  else some (.filter intent.filters intent.sentiment)

/-- The grouping of a plan. -/
def groupStep? (intent : Intent) : Option Step :=
  if intent.hasGrouping then some (.group intent.groupBy intent.time) else none

/-- The aggregation of a plan. -/
def aggregateStep? (intent : Intent) : Option Step :=
  if plannedAggregations intent = [] then none
  else some (.aggregate (plannedAggregations intent))

/-- The order of a plan. -/
def orderStep? (intent : Intent) : Option Step :=
  if intent.order = none ∧ intent.orderColumn = none then none
  else some (.order intent.orderColumn (intent.order.getD .descending))

/-- For each kind of step, the step that is planned, if one is. -/
def stages (intent : Intent) : List (Option Step) :=
  [(projection? intent).map .select, filterStep? intent, groupStep? intent, aggregateStep? intent,
    intent.window.map (windowStep intent), intent.slice.map .statistical, orderStep? intent,
    intent.limit.map .limit]

theorem steps_eq (intent : Intent) : steps intent = (stages intent).filterMap id := by
  have hfilter : (intent.filters.isEmpty && intent.sentiment.isNone) = true ↔
      intent.filters = [] ∧ intent.sentiment = none := by simp
  have horder : (intent.order.isSome || intent.orderColumn.isSome) = true ↔
      ¬ (intent.order = none ∧ intent.orderColumn = none) := by
    cases intent.order <;> cases intent.orderColumn <;> simp
  rw [steps, stages, filterStep?, groupStep?, aggregateStep?, orderStep?]
  simp only [hfilter, horder, ite_not]
  cases plannedAggregations intent <;> rfl

theorem mem_steps_iff : step ∈ steps intent ↔ IsPlanned intent step := by
  simp only [steps_eq, stages, filterStep?, groupStep?, aggregateStep?, orderStep?,
    List.mem_filterMap, List.mem_cons, List.not_mem_nil, or_false, id_eq, or_and_right, exists_or,
    exists_eq_left]
  cases step with
  | window request orderBy direction =>
    have hiff : (∃ r, intent.window = some r ∧ windowStep intent r = .window request orderBy direction) ↔
        IsPlanned intent (.window request orderBy direction) := by
      constructor
      · rintro ⟨r, hwindow, hstep⟩
        obtain rfl : r = request := (Step.window.inj hstep).1
        exact ⟨hwindow, hstep⟩
      · exact fun ⟨hwindow, hstep⟩ => ⟨request, hwindow, hstep⟩
    simpa using hiff
  | _ => simp [IsPlanned, windowStep]

/-- Steps are planned in the order of their operations, and no operation twice. -/
theorem steps_pairwise (intent : Intent) :
    (steps intent).Pairwise fun a b => a.operation.priority < b.operation.priority := by
  rw [steps_eq, List.pairwise_filterMap]
  simp [stages, filterStep?, groupStep?, aggregateStep?, orderStep?, windowStep, Step.operation,
    Operation.priority]

/-- The selection of a plan. -/
def selecting (intent : Intent) : List Step :=
  ((projection? intent).map Step.select).toList

/-- The steps of a plan that choose rows and gather them. -/
def gathering (intent : Intent) : List Step :=
  (filterStep? intent).toList ++ (groupStep? intent).toList

/-- The steps of a plan that come after the figures. -/
def finishing (intent : Intent) : List Step :=
  (intent.window.map (windowStep intent)).toList ++ (intent.slice.map Step.statistical).toList ++
    (orderStep? intent).toList ++ (intent.limit.map Step.limit).toList

theorem steps_eq_parts (intent : Intent) :
    steps intent = selecting intent ++
      (gathering intent ++ ((aggregateStep? intent).toList ++ finishing intent)) := by
  rw [steps_eq, List.filterMap_eq_flatMap_toList]
  simp only [stages, selecting, gathering, finishing, List.flatMap_cons, List.flatMap_nil, id_eq,
    List.append_assoc, List.append_nil]

theorem isPlanned_of_mem_gathering (h : step ∈ gathering intent) : IsPlanned intent step := by
  rw [← mem_steps_iff, steps_eq_parts]
  exact List.mem_append_right _ (List.mem_append_left _ h)

theorem isPlanned_of_mem_finishing (h : step ∈ finishing intent) : IsPlanned intent step := by
  rw [← mem_steps_iff, steps_eq_parts]
  exact List.mem_append_right _ (List.mem_append_right _ (List.mem_append_right _ h))

theorem operation_of_mem_gathering (h : step ∈ gathering intent) :
    step.operation = .filter ∨ step.operation = .group := by
  rw [gathering, List.mem_append, Option.mem_toList, Option.mem_toList] at h
  rcases h with h | h
  · rw [filterStep?] at h
    split at h
    · cases h
    · exact Or.inl (congrArg Step.operation (Option.some.inj h).symm)
  · rw [groupStep?] at h
    split at h
    · exact Or.inr (congrArg Step.operation (Option.some.inj h).symm)
    · cases h

theorem lt_of_mem_finishing (h : step ∈ finishing intent) :
    Operation.priority .aggregate < step.operation.priority := by
  simp only [finishing, List.mem_append, Option.mem_toList, Option.map_eq_some_iff] at h
  rcases h with ((⟨request, -, rfl⟩ | ⟨slice, -, rfl⟩) | h) | ⟨count, -, rfl⟩
  · simp [windowStep, Step.operation, Operation.priority]
  · simp [Step.operation, Operation.priority]
  · rw [orderStep?] at h
    split at h
    · cases h
    · rw [← Option.some.inj h]
      simp [Step.operation, Operation.priority]
  · simp [Step.operation, Operation.priority]

theorem getLast?_gathering (grouping : intent.hasGrouping = true) :
    (gathering intent).getLast? = some (.group intent.groupBy intent.time) := by
  rw [gathering, groupStep?, if_pos grouping, Option.toList_some, List.getLast?_concat]

section Position

variable {before later : List Step} {failing : Step}

/-- In front of a step of a plan are planned steps of earlier operations. -/
theorem isPlanned_of_mem_before (h : steps intent = before ++ failing :: later)
    (hstep : step ∈ before) :
    IsPlanned intent step ∧ step.operation.priority < failing.operation.priority := by
  have hpairwise := steps_pairwise intent
  rw [h, List.pairwise_append] at hpairwise
  exact ⟨mem_steps_iff.mp (h ▸ List.mem_append_left _ hstep),
    hpairwise.2.2 step hstep failing List.mem_cons_self⟩

/-- Behind a step of a plan are planned steps of later operations. -/
theorem isPlanned_of_mem_after (h : steps intent = before ++ failing :: later)
    (hstep : step ∈ later) :
    IsPlanned intent step ∧ failing.operation.priority < step.operation.priority := by
  have hpairwise := steps_pairwise intent
  rw [h, List.pairwise_append, List.pairwise_cons] at hpairwise
  exact ⟨mem_steps_iff.mp (h ▸ List.mem_append_right _ (List.mem_cons_of_mem _ hstep)),
    hpairwise.2.1.1 step hstep⟩

/-- All planned steps of earlier operations are in front of a step of a plan. -/
theorem mem_before_of_isPlanned (h : steps intent = before ++ failing :: later)
    (planned : IsPlanned intent step)
    (earlier : step.operation.priority < failing.operation.priority) : step ∈ before := by
  have hpairwise := steps_pairwise intent
  rw [h, List.pairwise_append, List.pairwise_cons] at hpairwise
  have hmem : step ∈ before ++ failing :: later := h ▸ mem_steps_iff.mpr planned
  rcases List.mem_append.mp hmem with hmem | hmem
  · exact hmem
  · rcases List.mem_cons.mp hmem with rfl | hmem
    · exact absurd earlier (Nat.lt_irrefl _)
    · exact absurd earlier (Nat.lt_asymm (hpairwise.2.1.1 step hmem))

end Position

end Planning

end TableTalk
