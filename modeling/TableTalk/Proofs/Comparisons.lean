import TableTalk.Filter
import TableTalk.Proofs.Values

/-!
# What comparisons say about a cell

Two values are related if both are finite numbers or both are of one kind; a null is of
the kind of a null only. Of related values one is less, equal or greater, and the six
comparisons say which, so each of them is settled by "less", "equal" and "greater". Of
all other pairs nothing is said but that they are not equal.
-/

namespace TableTalk

/-- Two finite numbers, or two values of one kind. -/
def Value.Related (a b : Value) : Prop :=
  (a.isNumeric = true ∧ b.isNumeric = true) ∨ a.sameKind b = true

instance (a b : Value) : Decidable (a.Related b) :=
  inferInstanceAs (Decidable (_ ∨ _))

namespace Value

variable {a b : Value}

theorem comparable_iff : a.comparable b = true ↔ a.Related b := by
  rw [comparable, Bool.or_eq_true, Bool.and_eq_true, Related]

theorem sameKind_comm (a b : Value) : b.sameKind a = a.sameKind b := by
  cases a <;> cases b <;> rfl

theorem related_comm : b.Related a ↔ a.Related b := by
  unfold Related
  rw [sameKind_comm, and_comm]

theorem isNull_eq_of_related (h : a.Related b) : a.isNull = b.isNull := by
  rcases h with ⟨ha, hb⟩ | hkind
  · cases a <;> cases b <;> first | rfl | simp [isNumeric, number?] at ha hb
  · cases a <;> cases b <;> first | rfl | simp [sameKind] at hkind

theorem compare_of_isNull (ha : a.isNull = true) (hb : b.isNull = true) : a.compare b = .eq := by
  cases a <;> cases b <;> first | rfl | simp [isNull] at ha hb

/-- Nulls are related and equal, so that they need no place of their own: exactly the related
values have a relation, and it is their order. -/
theorem relation?_eq (a b : Value) :
    a.relation? b = if a.Related b then some (a.compare b) else none := by
  unfold relation?
  by_cases hrelated : a.Related b
  · have hnull := isNull_eq_of_related hrelated
    rw [if_pos hrelated, comparable_iff.mpr hrelated, ← hnull]
    cases ha : a.isNull with
    | true => rw [compare_of_isNull ha (hnull ▸ ha)]; rfl
    | false => rfl
  · have hcomparable : a.comparable b = false := by
      rwa [← Bool.not_eq_true, comparable_iff]
    have hnull : (a.isNull && b.isNull) = false := by
      cases a <;> cases b <;> first | rfl | exact absurd (Or.inr rfl) hrelated
    rw [if_neg hrelated, hcomparable, hnull]
    cases a.isNull || b.isNull <;> rfl

end Value

namespace Operator

/-- The operators that compare by the order of values. -/
def comparisons : List Operator := [eq, notEq, gt, ge, lt, le]

/-- The comparisons of which one holds if values are related. -/
def relations : List Operator := [lt, eq, gt]

theorem holds_eq (op : Operator) (h : op ∈ comparisons) (a b : Value) :
    op.holds a b = if a.Related b then op.holdsOf (a.compare b) else op == .notEq := by
  have htextual : op.isTextual = false := by
    revert op
    decide
  rw [holds, htextual, Value.relation?_eq]
  by_cases hrelated : a.Related b
  · rw [if_pos hrelated, if_pos hrelated]
    rfl
  · rw [if_neg hrelated, if_neg hrelated]
    rfl

/-- "Less", "equal" and "greater" settle the other comparisons. -/
theorem holds_of_relations (a b : Value) :
    (notEq.holds a b = !eq.holds a b) ∧ (ge.holds a b = (gt.holds a b || eq.holds a b)) ∧
      (le.holds a b = (lt.holds a b || eq.holds a b)) := by
  rw [holds_eq eq (by decide), holds_eq notEq (by decide),
    holds_eq gt (by decide), holds_eq ge (by decide),
    holds_eq lt (by decide), holds_eq le (by decide)]
  by_cases hrelated : a.Related b
  · simp only [if_pos hrelated]
    cases a.compare b <;> decide
  · simp only [if_neg hrelated]
    decide

/-- Of related values one is less, equal or greater, and of other values nothing is. -/
theorem countP_relations (a b : Value) :
    relations.countP (fun op => op.holds a b) = if a.Related b then 1 else 0 := by
  have hcount : relations.countP (fun op => op.holds a b) = relations.countP fun op =>
      if a.Related b then op.holdsOf (a.compare b) else op == .notEq :=
    List.countP_congr fun op hop => by
      rw [holds_eq]
      revert op
      decide
  rw [hcount]
  by_cases hrelated : a.Related b
  · simp only [if_pos hrelated]
    cases a.compare b <;> decide
  · simp only [if_neg hrelated]
    decide

/-- That they are not equal is all that is said of values if these are not related, and only
then. -/
theorem filter_comparisons (a b : Value) :
    comparisons.filter (fun op => op.holds a b) = [notEq] ↔ ¬ a.Related b := by
  have hfilter : comparisons.filter (fun op => op.holds a b) = comparisons.filter fun op =>
      if a.Related b then op.holdsOf (a.compare b) else op == .notEq :=
    List.filter_congr fun op hop => holds_eq op hop a b
  rw [hfilter]
  by_cases hrelated : a.Related b
  · simp only [if_pos hrelated]
    refine iff_of_false ?_ fun h => h hrelated
    cases a.compare b <;> decide
  · simp only [if_neg hrelated]
    exact iff_of_true rfl hrelated

theorem holds_swap (a b : Value) :
    lt.holds a b = gt.holds b a ∧ eq.holds a b = eq.holds b a := by
  rw [holds_eq lt (by decide), holds_eq gt (by decide),
    holds_eq eq (by decide), holds_eq eq (by decide), Value.compare_swap a b]
  simp only [Value.related_comm]
  by_cases hrelated : a.Related b
  · simp only [if_pos hrelated]
    cases a.compare b <;> decide
  · simp only [if_neg hrelated]
    decide

/-- The comparisons fit together for every cell and every value: what is not equal, at least or at
most is settled by "less", "equal" and "greater", of which one holds if both are finite numbers or
both of one kind, and none otherwise. Turning the two around turns "less" into "greater" and keeps
"equal". Of all other pairs, and of these alone, nothing holds but that they are not equal. -/
theorem comparisons_fit_together (a b : Value) :
    (notEq.holds a b = !eq.holds a b) ∧
    (ge.holds a b = (gt.holds a b || eq.holds a b)) ∧
    (le.holds a b = (lt.holds a b || eq.holds a b)) ∧
    relations.countP (fun op => op.holds a b) ≤ 1 ∧
    (relations.countP (fun op => op.holds a b) = 1 ↔
      (a.isNumeric = true ∧ b.isNumeric = true) ∨ a.sameKind b = true) ∧
    lt.holds a b = gt.holds b a ∧ eq.holds a b = eq.holds b a ∧
    (comparisons.filter (fun op => op.holds a b) = [notEq] ↔
      ¬ ((a.isNumeric = true ∧ b.isNumeric = true) ∨ a.sameKind b = true)) := by
  obtain ⟨hnotEq, hge, hle⟩ := holds_of_relations a b
  obtain ⟨hlt, heq⟩ := holds_swap a b
  have hcount := countP_relations a b
  refine ⟨hnotEq, hge, hle, ?_, ?_, hlt, heq, filter_comparisons a b⟩
  · rw [hcount]
    split <;> omega
  · show _ ↔ a.Related b
    rw [hcount]
    by_cases hrelated : a.Related b
    · exact iff_of_true (if_pos hrelated) hrelated
    · exact iff_of_false (by rw [if_neg hrelated]; decide) hrelated

/-- Infinity is related to floats alone. -/
example :
    let infinity : Value := .float (Float.ofBits 0x7FF0000000000000)
    comparisons.filter (fun op => op.holds (.float 1.0) infinity) = [eq, ge, le] ∧
    comparisons.filter (fun op => op.holds (.integer 1) infinity) = [notEq] := by
  decide +kernel

end Operator

end TableTalk
