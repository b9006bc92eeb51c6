import TableTalk.Proofs.Engine.Runs
import TableTalk.Proofs.Planning

/-!
# Plans with and without a limit

The limit of an intent is planned as one more step behind all others, and the other steps
do not depend on it. A run that fails has therefore failed before the limit is reached, and
a run that comes to the limit only drops rows from the end of what it would have shown.
-/

namespace TableTalk

namespace Planning

theorem finishing_limited (intent : Intent) (count : Nat) :
    finishing { intent with limit := some count } =
      finishing { intent with limit := none } ++ [.limit count] := by
  simp only [finishing, Option.map_some, Option.map_none, Option.toList_some, Option.toList_none,
    List.append_nil]
  rfl

/-- A limit adds a step to a plan and leaves the others as they are. -/
theorem steps_plan_limited (intent : Intent) (count : Nat) (database : String) :
    (plan { intent with limit := some count } database).steps =
      (plan { intent with limit := none } database).steps ++ [.ofStep (.limit count)] := by
  have hsteps : steps { intent with limit := some count } =
      steps { intent with limit := none } ++ [.limit count] := by
    rw [steps_eq_parts, steps_eq_parts, finishing_limited]
    simp only [List.append_assoc]
    rfl
  show (steps { intent with limit := some count }).map PlannedStep.ofStep = _
  rw [hsteps, List.map_append]
  rfl

theorem operations_pairwise (intent : Intent) (database : String) :
    (plan intent database).operations.Pairwise fun a b => a.priority < b.priority := by
  rw [Plan.operations, List.pairwise_map, plan, List.pairwise_map]
  exact steps_pairwise intent

end Planning

namespace Engine

variable {options : Options} {run : Run} {before : List PlannedStep} {fault : Fault}

/-- A fault ends a run, whatever steps follow. -/
theorem runSteps_append_of_fault (later : List PlannedStep)
    (ended : (runSteps options run before).fault = some fault) :
    runSteps options run (before ++ later) = runSteps options run before := by
  induction before generalizing run with
  | nil => cases ended
  | cons planned before ih =>
    rw [List.cons_append]
    unfold runSteps at ended ⊢
    cases hstep : runStep options run.state planned.step with
    | error _ => rfl
    | ok next =>
      rw [hstep] at ended
      exact ih ended

/-- A run that has come to a limit goes on to show its first rows. -/
theorem runSteps_append_limit (count : Nat)
    (ended : (runSteps options run before).fault = none) :
    runSteps options run (before ++ [.ofStep (.limit count)]) =
      let reached := (runSteps options run before).run
      ⟨reached.advance (.ofStep (.limit count)) (limit reached.state count), none⟩ := by
  obtain ⟨reached, ok⟩ := exists_carryOut_of_fault_none ended
  rw [runSteps_append_of_carryOut run _ ok]
  rfl

/-- Plans have their steps in strictly rising order of priority, and so every operation at most
once. A limit in the intent changes nothing about a run that fails: the fault, the rows and the log
are those of the run without the limit. A run succeeds with the limit if it succeeds without it, and
then the rows with the limit are the first of those without it, as many as the limit allows. -/
theorem plans_ordered_and_limits_truncate (options : Options) (dataset : Dataset)
    (intent : Intent) (count : Nat) (database : String) :
    let unlimited := Planning.plan { intent with limit := none } database
    let limited := Planning.plan { intent with limit := some count } database
    let whole := execute options dataset unlimited
    let cut := execute options dataset limited
    ((Planning.plan intent database).operations.Pairwise fun a b => a.priority < b.priority) ∧
    (Planning.plan intent database).operations.Nodup ∧
    ((∃ fault : Fault, whole.success = false ∧ cut.success = false ∧
        whole.failure = some fault.message ∧ cut.failure = some fault.message ∧
        cut.rows = whole.rows ∧ cut.log = whole.log) ∨
      (whole.success = true ∧ cut.success = true ∧ cut.rows <+: whole.rows ∧
        cut.rows.length = min count whole.rows.length ∧
        cut.log = whole.log ++ [⟨(Step.limit count).describe, cut.rows.length⟩])) := by
  intro unlimited limited whole cut
  have hordered := Planning.operations_pairwise intent database
  refine ⟨hordered, hordered.imp fun hlt heq => absurd (heq ▸ hlt) (Nat.lt_irrefl _), ?_⟩
  by_cases nonempty : dataset = []
  · subst nonempty
    exact Or.inl ⟨.emptyDataset, rfl, rfl, rfl, rfl, rfl, rfl⟩
  have hsteps : limited.steps = unlimited.steps ++ [.ofStep (.limit count)] :=
    Planning.steps_plan_limited intent count database
  have hwhole : whole = _ := execute_of_ending unlimited nonempty
  have hcut : cut = _ := execute_of_ending limited nonempty
  rw [hsteps] at hcut
  cases hfault : (runSteps options (.start options dataset) unlimited.steps).fault with
  | some fault =>
    rw [runSteps_append_of_fault _ hfault] at hcut
    simp only [hfault] at hwhole hcut
    rw [hwhole, hcut]
    exact Or.inl ⟨fault, rfl, rfl, rfl, rfl, rfl, rfl⟩
  | none =>
    rw [runSteps_append_limit count hfault] at hcut
    simp only [hfault] at hwhole hcut
    rw [hwhole, hcut]
    exact Or.inr ⟨rfl, rfl, List.take_prefix count _, List.length_take, rfl⟩

end Engine

end TableTalk
