import TableTalk.Proofs.Engine.Steps

/-!
# The names of metrics

The name of a metric is the label of its function and the names of its columns, with
underscores between them. No label has an underscore, so the function and the text of
the columns can be read back from a name. The text of a pair of columns cannot be split
again: only metrics of two columns can share a name without being the same.
-/

namespace TableTalk

theorem AggregateFunction.find?_label (f : AggregateFunction) :
    all.find? (fun g => g.label == f.label) = some f := by
  cases f <;> decide

theorem AggregateFunction.label_inj {f g : AggregateFunction} (h : f.label = g.label) : f = g := by
  have hf := find?_label f
  rw [h, find?_label g] at hf
  exact (Option.some.inj hf).symm

theorem AggregateFunction.label_ne_periodColumn (f : AggregateFunction) :
    f.label ≠ Planning.periodColumn := by
  cases f <;> decide

theorem AggregateFunction.notMem_label (f : AggregateFunction) : '_' ∉ f.label.toList := by
  cases f <;> decide

namespace Engine

namespace Metric

/-- What follows the label of the function in the name of a metric. -/
def columnText (metric : Metric) : String :=
  match metric.column, metric.pairedWith with
  | none, _ => ""
  | some x, none => "_" ++ x
  | some x, some y => "_" ++ x ++ "_" ++ y

/-- The metric has the columns that its function takes, or none, and it is named for them. -/
structure Named (metric : Metric) : Prop where
  name : metric.name = metric.function.label ++ metric.columnText
  counts : metric.function = .count → metric.column = none
  paired : metric.pairedWith.isSome = (metric.function.isPairwise && metric.column.isSome)

/-- Two metrics of a function of two columns have different pairs of columns with one text. -/
def SharesText (metric other : Metric) : Prop :=
  metric.function.isPairwise = true ∧ metric.function = other.function ∧
    ∃ x y x' y', metric.column = some x ∧ metric.pairedWith = some y ∧
      other.column = some x' ∧ other.pairedWith = some y' ∧ x ++ "_" ++ y = x' ++ "_" ++ y'

variable {metric other : Metric}

theorem columnText_eq_empty_iff : metric.columnText = "" ↔ metric.column = none := by
  unfold columnText
  split <;> simp_all

theorem columnText_eq_empty_or (metric : Metric) :
    metric.columnText = "" ∨ ∃ text, metric.columnText = "_" ++ text := by
  unfold columnText
  split
  · exact Or.inl rfl
  · exact Or.inr ⟨_, rfl⟩
  · exact Or.inr ⟨_, by rw [String.append_assoc, String.append_assoc]⟩

/-- The label ends at the first underscore of a name. -/
theorem Named.takeWhile_name (named : metric.Named) :
    metric.name.toList.takeWhile (· != '_') = metric.function.label.toList := by
  have hlabel : ∀ c ∈ metric.function.label.toList, (c != '_') = true := by
    intro c hc
    rw [bne_iff_ne]
    rintro rfl
    exact metric.function.notMem_label hc
  rw [named.name, String.toList_append, List.takeWhile_append_of_pos hlabel]
  rcases columnText_eq_empty_or metric with h | ⟨text, h⟩
  · rw [h]
    exact List.append_nil _
  · rw [h, String.toList_append]
    exact List.append_nil _

theorem Named.function_eq (named : metric.Named) (namedOther : other.Named)
    (h : metric.name = other.name) : metric.function = other.function := by
  apply AggregateFunction.label_inj
  rw [← String.toList_inj, ← named.takeWhile_name, ← namedOther.takeWhile_name, h]

theorem Named.columnText_eq (named : metric.Named) (namedOther : other.Named)
    (h : metric.name = other.name) : metric.columnText = other.columnText := by
  have hname := h
  rw [named.name, namedOther.name, named.function_eq namedOther h] at hname
  exact (String.append_right_inj _).mp hname

/-- The name of the counts belongs to counting alone. -/
theorem Named.name_eq_countColumn_iff (named : metric.Named) :
    metric.name = WorkingSet.countColumn ↔ metric.function = .count := by
  constructor
  · intro h
    have hlabel := named.takeWhile_name
    rw [h] at hlabel
    exact AggregateFunction.label_inj (String.toList_inj.mp hlabel.symm)
  · intro h
    rw [named.name, columnText, named.counts h, h]
    rfl

theorem Named.name_ne_periodColumn (named : metric.Named) :
    metric.name ≠ Planning.periodColumn := by
  intro h
  have hlabel := named.takeWhile_name
  rw [h] at hlabel
  exact metric.function.label_ne_periodColumn (String.toList_inj.mp hlabel.symm)

/-- Metrics with one name are the same, or they take pairs of columns with one text. -/
theorem Named.eq_or_sharesText (named : metric.Named) (namedOther : other.Named)
    (h : metric.name = other.name) : metric = other ∨ metric.SharesText other := by
  have hfunction := named.function_eq namedOther h
  have htext := named.columnText_eq namedOther h
  have hempty : metric.column = none ↔ other.column = none := by
    rw [← columnText_eq_empty_iff, htext, columnText_eq_empty_iff]
  have hpaired := named.paired
  have hpairedOther := namedOther.paired
  obtain ⟨function, column, pairedWith, name⟩ := metric
  obtain ⟨functionOther, columnOther, pairedOther, nameOther⟩ := other
  obtain rfl : function = functionOther := hfunction
  obtain rfl : name = nameOther := h
  dsimp only at hempty hpaired hpairedOther
  -- the texts settle one column, and whether there is a second one
  cases column with
  | none =>
    obtain rfl := hempty.mp rfl
    rw [Option.isSome_none, Bool.and_false, Option.isSome_eq_false_iff, Option.isNone_iff_eq_none]
      at hpaired hpairedOther
    exact Or.inl (by rw [hpaired, hpairedOther])
  | some x =>
    obtain ⟨x', rfl⟩ := Option.ne_none_iff_exists'.mp fun h => Option.some_ne_none x (hempty.mpr h)
    rw [Option.isSome_some, Bool.and_true] at hpaired hpairedOther
    cases pairedWith with
    | none =>
      obtain rfl : pairedOther = none := by
        rw [← Option.isNone_iff_eq_none, ← Option.isSome_eq_false_iff, hpairedOther, ← hpaired,
          Option.isSome_none]
      obtain rfl := (String.append_right_inj _).mp htext
      exact Or.inl rfl
    | some y =>
      obtain ⟨y', rfl⟩ := Option.isSome_iff_exists.mp (hpairedOther.trans hpaired.symm)
      have hjoined : x ++ "_" ++ y = x' ++ "_" ++ y' := by
        simpa only [columnText, String.append_assoc, String.append_right_inj] using htext
      exact Or.inr ⟨hpaired.symm, rfl, x, y, x', y', rfl, rfl, rfl, rfl, hjoined⟩

end Metric

section Resolving

variable {state : State} {sample : Dataset} {aggregation : Aggregation} {metric : Metric}

theorem resolvePair_names (pairwise : aggregation.function.isPairwise = true)
    (h : resolvePair state sample aggregation = .ok metric) :
    metric.function = aggregation.function ∧ metric.Named := by
  have hcount : aggregation.function ≠ .count := by
    intro he
    rw [he] at pairwise
    cases pairwise
  unfold resolvePair at h
  obtain ⟨column, -, h⟩ := bind_eq_ok.mp h
  obtain ⟨paired, -, h⟩ := bind_eq_ok.mp h
  match column, paired, h with
  | some x, some y, h =>
    obtain rfl := ok_eq_ok.mp h
    refine ⟨rfl, ⟨?_, fun he => absurd he hcount, ?_⟩⟩
    · simp only [Metric.columnText, String.append_assoc]
    · rw [pairwise]
      rfl
  | some _, none, h | none, _, h =>
    dsimp only at h
    split at h
    · obtain rfl := ok_eq_ok.mp h
      refine ⟨rfl, ⟨String.append_empty.symm, fun _ => rfl, ?_⟩⟩
      rw [Option.isSome_none, Bool.and_false]
    · cases h

/-- An aggregation is resolved to a metric of its function that is named for its columns. -/
theorem resolveAggregation_names (h : resolveAggregation state sample aggregation = .ok metric) :
    metric.function = aggregation.function ∧ metric.Named := by
  unfold resolveAggregation at h
  split at h
  case isTrue hcount =>
    obtain rfl := ok_eq_ok.mp h
    exact ⟨hcount.symm, ⟨rfl, fun _ => rfl, rfl⟩⟩
  case isFalse hcount =>
    split at h
    case isTrue hpairwise => exact resolvePair_names hpairwise h
    case isFalse hpairwise =>
      obtain ⟨column, -, h⟩ := bind_eq_ok.mp h
      obtain rfl := ok_eq_ok.mp h
      refine ⟨rfl, ⟨?_, fun he => absurd he hcount, ?_⟩⟩
      · cases column with
        | none => exact String.append_empty.symm
        | some column => exact String.append_assoc
      · rw [Bool.not_eq_true] at hpairwise
        rw [hpairwise]
        rfl

theorem function_eq_count_of_name (h : resolveAggregation state sample aggregation = .ok metric) :
    metric.name = WorkingSet.countColumn ↔ metric.function = .count :=
  (resolveAggregation_names h).2.name_eq_countColumn_iff

end Resolving

end Engine

end TableTalk
