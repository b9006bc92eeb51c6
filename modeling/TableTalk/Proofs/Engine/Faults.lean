import TableTalk.Proofs.Engine.Runs

/-!
# Faults over missing columns

A fault over a missing column names the column and the place of the plan that
needs it. Each step raises such faults at its own places only, and only over
columns that it is told; choosing a column by the data ends in other faults.
-/

namespace TableTalk.Engine

variable {α β : Type} {fault : Fault} {column : String} {site : Site} {sites others : List Site}

theorem bind_eq_error {first : Except Fault α} {rest : α → Except Fault β} :
    (first >>= rest) = .error fault ↔
      first = .error fault ∨ ∃ a, first = .ok a ∧ rest a = .error fault := by
  cases first with
  | error raised =>
    constructor
    · intro h
      exact Or.inl (congrArg _ (Except.error.inj h))
    · rintro (h | ⟨a, h, -⟩)
      · exact congrArg _ (Except.error.inj h)
      · cases h
  | ok a =>
    constructor
    · intro h
      exact Or.inr ⟨a, rfl, h⟩
    · rintro (h | ⟨a, ⟨⟩, h⟩)
      · cases h
      · exact h

/-- The outcome is a fault over a missing column at most at these sites. -/
def MissesOnlyAt (sites : List Site) (outcome : Except Fault α) : Prop :=
  ∀ column site, outcome = .error (.missingColumn column site) → site ∈ sites

namespace MissesOnlyAt

theorem mono {outcome : Except Fault α} (h : MissesOnlyAt sites outcome) (subset : sites ⊆ others) :
    MissesOnlyAt others outcome :=
  fun column site herror => subset (h column site herror)

theorem ok (a : α) : MissesOnlyAt sites (.ok a) :=
  fun _ _ herror => by cases herror

theorem error (other : ∀ column site, fault ≠ .missingColumn column site) :
    MissesOnlyAt sites (.error fault : Except Fault α) :=
  fun column site herror => absurd (Except.error.inj herror) (other column site)

theorem bind {first : Except Fault α} {rest : α → Except Fault β} (hfirst : MissesOnlyAt sites first)
    (hrest : ∀ a, first = .ok a → MissesOnlyAt sites (rest a)) :
    MissesOnlyAt sites (first >>= rest) := by
  intro column site herror
  rcases bind_eq_error.mp herror with herror | ⟨a, ha, herror⟩
  · exact hfirst column site herror
  · exact hrest a ha column site herror

theorem mapM {f : α → Except Fault β} {as : List α} (h : ∀ a ∈ as, MissesOnlyAt sites (f a)) :
    MissesOnlyAt sites (as.mapM f) := by
  induction as with
  | nil => exact ok []
  | cons a as ih =>
    rw [List.mapM_cons]
    refine bind (h a List.mem_cons_self) fun b _ => ?_
    refine bind (ih fun a ha => h a (List.mem_cons_of_mem _ ha)) fun bs _ => ?_
    exact ok _

end MissesOnlyAt

section Looking

variable {state : State} {rows : Dataset} {columns : List String} {named : Option String}
  {suggest : Dataset → Option String} {missing : Fault}

theorem missesOnlyAt_requireColumns (rows : Dataset) (columns : List String) (site : Site) :
    MissesOnlyAt [site] (requireColumns rows columns site) := by
  unfold requireColumns
  split
  · exact .ok ()
  · split
    · intro column other herror
      cases herror
      exact List.mem_singleton_self _
    · exact .ok ()

/-- A column is missing if there are rows and the name stands for none of their columns. -/
theorem resolve_eq_missing {other : Site}
    (hmissing : ∀ column site, missing ≠ .missingColumn column site) :
    state.resolve rows named site suggest missing = .error (.missingColumn column other) ↔
      rows ≠ [] ∧ named = some column ∧ state.locate rows column = none ∧ site = other := by
  unfold State.resolve
  cases rows with
  | nil => simp
  | cons first rest =>
    cases named with
    | none =>
      dsimp only [List.isEmpty_cons]
      cases suggest (first :: rest) <;> simp [hmissing]
    | some name =>
      dsimp only [List.isEmpty_cons]
      cases hlocate : state.locate (first :: rest) name with
      | none =>
        simp only [Bool.false_eq_true, ↓reduceIte, Except.error.injEq, Fault.missingColumn.injEq,
          ne_eq, reduceCtorEq, not_false_eq_true, Option.some.injEq, true_and]
        constructor
        · rintro ⟨rfl, rfl⟩
          exact ⟨rfl, hlocate, rfl⟩
        · rintro ⟨rfl, -, rfl⟩
          exact ⟨rfl, rfl⟩
      | some found =>
        simp only [Bool.false_eq_true, ↓reduceIte, reduceCtorEq, false_iff]
        rintro ⟨-, hname, hnone, -⟩
        cases hname
        rw [hlocate] at hnone
        cases hnone

theorem missesOnlyAt_resolve (state : State) (rows : Dataset) (named : Option String) (site : Site)
    (suggest : Dataset → Option String)
    (hmissing : ∀ column site, missing ≠ .missingColumn column site) :
    MissesOnlyAt [site] (state.resolve rows named site suggest missing) := by
  intro column other herror
  obtain ⟨-, -, -, rfl⟩ := (resolve_eq_missing hmissing).mp herror
  exact List.mem_singleton_self _

/-- A column that is there is not missing, and neither is one that is not named. -/
theorem resolve_misses_nothing (state : State) (site : Site) (suggest : Dataset → Option String)
    (hmissing : ∀ column site, missing ≠ .missingColumn column site)
    (there : ∀ column, named = some column → ∀ first ∈ rows.head?, column ∈ first.columns) :
    MissesOnlyAt [] (state.resolve rows named site suggest missing) := by
  cases named with
  | some name =>
    rw [resolve_named (there name rfl)]
    exact .ok _
  | none =>
    intro column other herror
    obtain ⟨-, hnamed, -⟩ := (resolve_eq_missing hmissing).mp herror
    cases hnamed

end Looking

/-- The places at which a step needs columns. -/
def sitesOf : Step → List Site
  | .select _ => [.select]
  | .filter _ _ => [.filter]
  | .group _ _ => [.group, .timeGrouping]
  | .aggregate _ => [.aggregate]
  | .window _ _ _ => [.window]
  | .statistical _ => [.slice]
  | .order _ _ => [.order]
  | .limit _ => []

variable {options : Options} {state : State}

/-- Settling an aggregation misses what looking up its columns misses. -/
theorem MissesOnlyAt.resolveAggregation {sample : Dataset} {a : Aggregation}
    (looked : ∀ named suggest missing, named = a.column ∨ named = a.pairedWith →
      (∀ column site, missing ≠ .missingColumn column site) →
      MissesOnlyAt sites (state.resolve sample named .aggregate suggest missing)) :
    MissesOnlyAt sites (resolveAggregation state sample a) := by
  have hpair (named suggested : Option String) (h : named = a.column ∨ named = a.pairedWith) :
      MissesOnlyAt sites (pairColumn state sample named suggested) := by
    cases named with
    | none => exact .ok _
    | some name =>
      rw [pairColumn]
      exact looked (some name) _ _ h (by simp)
  unfold Engine.resolveAggregation
  split
  · exact .ok _
  · split
    · refine .bind (hpair _ _ (Or.inl rfl)) fun column _ =>
        .bind (hpair _ _ (Or.inr rfl)) fun paired _ => ?_
      split
      · exact .ok _
      · split
        · exact .ok _
        · exact .error (by simp)
    · exact .bind (looked _ _ _ (Or.inl rfl) (by simp)) fun column _ => .ok _

/-- Each step misses columns at its own places. -/
theorem missesOnlyAt_runStep (options : Options) (state : State) (step : Step) :
    MissesOnlyAt (sitesOf step) (runStep options state step) := by
  cases step with
  | select columns =>
    exact .bind (missesOnlyAt_requireColumns _ _ _) fun _ _ => .ok _
  | filter conditions sentiment =>
    refine .bind (missesOnlyAt_requireColumns _ _ _) fun _ _ => .bind ?_ fun rating _ => .ok _
    cases sentiment with
    | none => exact .ok []
    | some s => exact .bind (missesOnlyAt_resolve _ _ _ _ _ (by nofun)) fun column _ => .ok _
  | group columns time =>
    refine .bind (.mono (missesOnlyAt_requireColumns _ _ _) (by simp [sitesOf])) fun _ _ =>
      .bind ?_ fun period _ => .ok _
    cases time with
    | none => exact .ok none
    | some t =>
      exact .bind (.mono (missesOnlyAt_resolve _ _ _ _ _ (by nofun)) (by simp [sitesOf]))
        fun column _ => .ok _
  | aggregate aggregations =>
    refine .bind (.mapM fun a _ => .resolveAggregation fun named suggest missing _ hmissing => ?_)
      fun metrics _ => .ok _
    exact missesOnlyAt_resolve _ _ _ _ _ hmissing
  | window request orderBy direction =>
    refine .bind (missesOnlyAt_resolve _ _ _ _ _ (by nofun)) fun found _ => ?_
    split
    · exact .ok _
    · refine .bind ?_ fun order _ => .ok _
      cases orderBy with
      | none => exact .ok none
      | some column => exact .bind (missesOnlyAt_resolve _ _ _ _ _ (by nofun)) fun found _ => .ok _
  | statistical sought =>
    refine .bind (missesOnlyAt_resolve _ _ _ _ _ (by nofun)) fun found _ => ?_
    split
    · exact .ok _
    · exact .ok _
  | order column direction =>
    refine .bind (missesOnlyAt_resolve _ _ _ _ _ (by nofun)) fun found _ => ?_
    split
    · exact .ok _
    · exact .ok _
  | limit count => exact .ok _

theorem carryOut_append_eq_ok {before later : List PlannedStep} {reached : State} :
    carryOut options state (before ++ later) = .ok reached ↔
      ∃ middle, carryOut options state before = .ok middle ∧
        carryOut options middle later = .ok reached := by
  rw [carryOut, List.foldlM_append]
  exact bind_eq_ok

theorem carryOut_singleton_eq_ok {planned : PlannedStep} {reached : State} :
    carryOut options state [planned] = .ok reached ↔
      runStep options state planned.step = .ok reached := by
  rw [carryOut_cons_eq_ok]
  simp only [carryOut_nil, ok_eq_ok]
  constructor
  · rintro ⟨next, h, rfl⟩
    exact h
  · intro h
    exact ⟨reached, h, rfl⟩

/-- The steps behind an aggregation need columns at three places. -/
theorem sitesOf_of_late {step : Step}
    (late : Operation.priority .aggregate < step.operation.priority) :
    sitesOf step ⊆ [.window, .slice, .order] := by
  cases step with
  | window request orderBy direction => simp [sitesOf]
  | statistical sought => simp [sitesOf]
  | order column direction => simp [sitesOf]
  | limit count => simp [sitesOf]
  | _ => exact absurd late (by simp [Step.operation, Operation.priority])

/-- A run that ends with a fault has come to the first step that fails. -/
theorem exists_failing_of_fault {run : Run} {steps : List PlannedStep}
    (ended : (runSteps options run steps).fault = some fault) :
    ∃ before failing later, steps = before ++ failing :: later ∧
      carryOut options run.state before = .ok (runSteps options run steps).run.state ∧
      runStep options (runSteps options run steps).run.state failing.step = .error fault := by
  induction steps generalizing run with
  | nil => cases ended
  | cons planned steps ih =>
    cases hstep : runStep options run.state planned.step with
    | error raised =>
      simp only [runSteps, hstep] at ended ⊢
      obtain rfl := Option.some.inj ended
      exact ⟨[], planned, steps, rfl, rfl, hstep⟩
    | ok next =>
      simp only [runSteps, hstep] at ended ⊢
      obtain ⟨before, failing, later, rfl, ok, stuck⟩ := ih ended
      exact ⟨planned :: before, failing, later, rfl,
        carryOut_cons_eq_ok.mpr ⟨next, hstep, ok⟩, stuck⟩

/-- A place in a plan is a place in the steps that were described for it. -/
theorem exists_of_map_ofStep_eq {steps : List Step} {before later : List PlannedStep}
    {failing : PlannedStep} (h : steps.map PlannedStep.ofStep = before ++ failing :: later) :
    ∃ front step back, steps = front ++ step :: back ∧ before = front.map .ofStep ∧
      failing = .ofStep step ∧ later = back.map .ofStep := by
  obtain ⟨front, rest, rfl, rfl, hrest⟩ := List.map_eq_append_iff.mp h
  obtain ⟨step, back, rfl, rfl, rfl⟩ := List.map_eq_cons_iff.mp hrest
  exact ⟨front, step, back, rfl, rfl, rfl, rfl⟩

/-- What a result says of its failure is what the fault says. -/
theorem failure_execute {dataset : Dataset} (options : Options) (plan : Plan)
    (nonempty : dataset ≠ []) :
    (execute options dataset plan).failure =
      (runSteps options (.start options dataset) plan.steps).fault.map Fault.message := by
  rw [execute_of_ending plan nonempty]
  dsimp only
  cases (runSteps options (.start options dataset) plan.steps).fault with
  | none => rfl
  | some fault => rfl

end TableTalk.Engine
