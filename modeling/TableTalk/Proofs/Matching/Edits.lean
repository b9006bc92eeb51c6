import Mathlib.Data.Nat.Dist
import Mathlib.Order.Bounds.Basic
import TableTalk.Proofs.Matching.EditDistance
import TableTalk.Text.Words

/-!
# The least number of edits

An edit inserts, deletes or substitutes one element at any place. The rows of the edit
distance hold the figures of a recursion over the last elements of both lists. An edit
changes these figures by one at most, so that no sequence of edits is shorter than the
figure says, and the recursion itself tells how to get along with as many. That the edit
distance is symmetric and has the triangle inequality follows from what holds of edits.
-/

namespace TableTalk.Matching

section Sequences

variable {α : Type} {s t u : List α} {m n : ℕ}

/-- One element is inserted, deleted or substituted. -/
inductive Edit : List α → List α → Prop
  | insertion (front : List α) (x : α) (after : List α) :
    Edit (front ++ after) (front ++ x :: after)
  | deletion (front : List α) (x : α) (after : List α) :
    Edit (front ++ x :: after) (front ++ after)
  | substitution (front : List α) (x y : α) (after : List α) :
    Edit (front ++ x :: after) (front ++ y :: after)

theorem Edit.symm (h : Edit s t) : Edit t s := by
  cases h with
  | insertion front x after => exact .deletion front x after
  | deletion front x after => exact .insertion front x after
  | substitution front x y after => exact .substitution front y x after

theorem Edit.cons (x : α) (h : Edit s t) : Edit (x :: s) (x :: t) := by
  cases h with
  | insertion front y after => exact .insertion (x :: front) y after
  | deletion front y after => exact .deletion (x :: front) y after
  | substitution front y z after => exact .substitution (x :: front) y z after

theorem Edit.reverse (h : Edit s t) : Edit s.reverse t.reverse := by
  cases h with
  | insertion front x after =>
    simpa using Edit.insertion after.reverse x front.reverse
  | deletion front x after =>
    simpa using Edit.deletion after.reverse x front.reverse
  | substitution front x y after =>
    simpa using Edit.substitution after.reverse x y front.reverse

theorem Edit.length_le (h : Edit s t) : t.length ≤ s.length + 1 := by
  cases h <;> simp only [List.length_append, List.length_cons] <;> omega

/-- A number of edits that follow one another. -/
inductive Edits : ℕ → List α → List α → Prop
  | none (s : List α) : Edits 0 s s
  | more {n : ℕ} {s t u : List α} (first : Edit s t) (rest : Edits n t u) : Edits (n + 1) s u

namespace Edits

theorem zero_iff : Edits 0 s t ↔ s = t := by
  constructor
  · intro h
    cases h
    rfl
  · rintro rfl
    exact .none s

theorem one (h : Edit s t) : Edits 1 s t :=
  .more h (.none t)

theorem trans (hst : Edits m s t) (htu : Edits n t u) : Edits (m + n) s u := by
  induction hst with
  | none => rwa [Nat.zero_add]
  | more first _ ih =>
    rw [Nat.succ_add]
    exact .more first (ih htu)

theorem symm (h : Edits n s t) : Edits n t s := by
  induction h with
  | none => exact .none _
  | more first _ ih => exact ih.trans (one first.symm)

/-- What keeps edits keeps sequences of them. -/
theorem map {f : List α → List α} (hf : ∀ {s t}, Edit s t → Edit (f s) (f t))
    (h : Edits n s t) : Edits n (f s) (f t) := by
  induction h with
  | none => exact .none _
  | more first _ ih => exact .more (hf first) ih

theorem reverse_iff : Edits n s.reverse t.reverse ↔ Edits n s t := by
  constructor
  · intro h
    simpa only [List.reverse_reverse] using h.map Edit.reverse
  · exact map Edit.reverse

theorem length_le (h : Edits n s t) : t.length ≤ s.length + n := by
  induction h with
  | none => exact Nat.le_refl _
  | more first _ ih =>
    have hfirst := first.length_le
    omega

theorem insertAll (t : List α) : Edits t.length [] t := by
  induction t with
  | nil => exact .none []
  | cons x t ih => exact ih.trans (one (.insertion [] x t))

end Edits

end Sequences

section Recursion

variable {α : Type} [BEq α]

/-- The edit distance by recursion over the heads of both lists. -/
def headDistance : List α → List α → ℕ
  | [], t => t.length
  | x :: s, [] => (x :: s).length
  | x :: s, y :: t =>
    min (min (headDistance s t + (if x == y then 0 else 1)) (headDistance s (y :: t) + 1))
      (headDistance (x :: s) t + 1)
termination_by s t => s.length + t.length

theorem headDistance_nil_left (t : List α) : headDistance [] t = t.length := by
  rw [headDistance]

theorem headDistance_nil_right (s : List α) : headDistance s [] = s.length := by
  cases s <;> rw [headDistance]

/-- The distances of `s` to the parts of a list that end behind `seen`. All of them have their last
elements first. -/
def laterDistances (s : List α) : List α → List α → List ℕ
  | _, [] => []
  | seen, y :: right => headDistance s (y :: seen) :: laterDistances s (y :: seen) right

theorem rowAfter_eq (x : α) (s seen right : List α) :
    rowAfter x right (headDistance s seen) (headDistance (x :: s) seen)
      (laterDistances s seen right) = laterDistances (x :: s) seen right := by
  induction right generalizing seen with
  | nil => rfl
  | cons y right ih =>
    rw [laterDistances, laterDistances, rowAfter, ← ih (y :: seen), headDistance]

/-- The row for an initial part of the left list. -/
def distanceRow (s right : List α) : List ℕ :=
  headDistance s [] :: laterDistances s [] right

theorem nextRow_eq (x : α) (s right : List α) :
    nextRow right (distanceRow s right) x = distanceRow (x :: s) right := by
  have hleft : headDistance s [] + 1 = headDistance (x :: s) [] := by
    rw [headDistance_nil_right, headDistance_nil_right, List.length_cons]
  rw [distanceRow, nextRow, hleft, rowAfter_eq, distanceRow]

theorem foldl_nextRow_eq (left s right : List α) :
    left.foldl (nextRow right) (distanceRow s right) = distanceRow (left.reverse ++ s) right := by
  induction left generalizing s with
  | nil => rfl
  | cons x left ih =>
    rw [List.foldl_cons, nextRow_eq, ih, List.reverse_cons, List.append_assoc,
      List.singleton_append]

theorem laterDistances_nil (seen right : List α) :
    laterDistances [] seen right = List.range' (seen.length + 1) right.length := by
  induction right generalizing seen with
  | nil => rfl
  | cons y right ih =>
    rw [laterDistances, ih, headDistance_nil_left, List.length_cons, List.length_cons,
      List.range'_succ]

theorem getLastD_laterDistances (s seen right : List α) :
    (laterDistances s seen right).getLastD (headDistance s seen) =
      headDistance s (right.reverse ++ seen) := by
  induction right generalizing seen with
  | nil => rfl
  | cons y right ih =>
    rw [laterDistances, List.getLastD_cons, ih, List.reverse_cons, List.append_assoc,
      List.singleton_append]

/-- The rows calculate the recursion over the last elements. -/
theorem editDistance_eq (left right : List α) :
    editDistance left right = headDistance left.reverse right.reverse := by
  have hstart : List.range (right.length + 1) = distanceRow [] right := by
    rw [distanceRow, laterDistances_nil, headDistance_nil_left, List.range_eq_range',
      List.range'_succ]
    rfl
  have hlast := getLastD_laterDistances left.reverse [] right
  rw [List.append_nil] at hlast
  rw [editDistance, hstart, foldl_nextRow_eq, List.append_nil, distanceRow, List.getLastD_cons,
    hlast]

end Recursion

section Optimality

variable {α : Type} [BEq α] {s t u : List α} {n : ℕ}

theorem headDistance_cons_cons_le (x y : α) (s t : List α) :
    headDistance (x :: s) (y :: t) ≤ headDistance s t + 1 ∧
      headDistance (x :: s) (y :: t) ≤ headDistance s (y :: t) + 1 ∧
      headDistance (x :: s) (y :: t) ≤ headDistance (x :: s) t + 1 := by
  rw [headDistance]
  split <;> omega

theorem headDistance_cons_left_le (x : α) (s u : List α) :
    headDistance (x :: s) u ≤ headDistance s u + 1 := by
  cases u with
  | nil => rw [headDistance_nil_right, headDistance_nil_right, List.length_cons]
  | cons y u => exact (headDistance_cons_cons_le x y s u).2.1

theorem headDistance_cons_right_le (y : α) (s u : List α) :
    headDistance s (y :: u) ≤ headDistance s u + 1 := by
  cases s with
  | nil => rw [headDistance_nil_left, headDistance_nil_left, List.length_cons]
  | cons x s => exact (headDistance_cons_cons_le x y s u).2.2

theorem headDistance_le_cons_left (x : α) (s u : List α) :
    headDistance s u ≤ headDistance (x :: s) u + 1 := by
  induction u with
  | nil =>
    rw [headDistance_nil_right, headDistance_nil_right, List.length_cons]
    omega
  | cons y u ih =>
    have hright := headDistance_cons_right_le y s u
    rw [headDistance]
    omega

theorem headDistance_substitute_le (x y : α) (s u : List α) :
    headDistance (x :: s) u ≤ headDistance (y :: s) u + 1 := by
  induction u with
  | nil =>
    rw [headDistance_nil_right, headDistance_nil_right, List.length_cons, List.length_cons]
    omega
  | cons z u ih =>
    have hle := headDistance_cons_cons_le x z s u
    rw [headDistance.eq_3 y]
    omega

/-- What is true of two lists stays true with one more element in front of both. -/
theorem headDistance_cons_congr (h : ∀ u, headDistance s u ≤ headDistance t u + 1) (x : α)
    (u : List α) : headDistance (x :: s) u ≤ headDistance (x :: t) u + 1 := by
  induction u with
  | nil =>
    have hnil := h []
    rw [headDistance_nil_right, headDistance_nil_right] at hnil ⊢
    rw [List.length_cons, List.length_cons]
    omega
  | cons y u ih =>
    have hboth := h u
    have hleft := h (y :: u)
    rw [headDistance, headDistance]
    omega

/-- An edit brings no list nearer by more than one. -/
theorem headDistance_le_of_edit (h : Edit s t) (u : List α) :
    headDistance s u ≤ headDistance t u + 1 := by
  cases h with
  | insertion front x after =>
    induction front generalizing u with
    | nil => exact headDistance_le_cons_left x after u
    | cons y front ih => exact headDistance_cons_congr ih y u
  | deletion front x after =>
    induction front generalizing u with
    | nil => exact headDistance_cons_left_le x after u
    | cons y front ih => exact headDistance_cons_congr ih y u
  | substitution front x z after =>
    induction front generalizing u with
    | nil => exact headDistance_substitute_le x z after u
    | cons y front ih => exact headDistance_cons_congr ih y u

variable [LawfulBEq α]

theorem headDistance_self (s : List α) : headDistance s s = 0 := by
  induction s with
  | nil => rw [headDistance_nil_left, List.length_nil]
  | cons x s ih =>
    rw [headDistance, ih, beq_self_eq_true, if_pos rfl]
    omega

theorem headDistance_le_of_edits (h : Edits n s t) : headDistance s t ≤ n := by
  induction h with
  | none s => rw [headDistance_self]
  | more first _ ih => exact (headDistance_le_of_edit first _).trans (Nat.succ_le_succ ih)

/-- The recursion names edits that are enough. -/
theorem edits_headDistance (s t : List α) : Edits (headDistance s t) s t := by
  fun_induction headDistance s t with
  | case1 t => exact .insertAll t
  | case2 x s => exact (Edits.insertAll (x :: s)).symm
  | case3 x s y t heads left right =>
    have hheads : Edits (headDistance s t + (if x == y then 0 else 1)) (x :: s) (y :: t) := by
      by_cases hxy : x = y
      · rw [hxy, beq_self_eq_true, if_pos rfl, Nat.add_zero]
        exact heads.map (Edit.cons y)
      · rw [beq_eq_false_iff_ne.mpr hxy, if_neg Bool.false_ne_true]
        exact (heads.map (Edit.cons x)).trans (.one (.substitution [] x y t))
    have hleft : Edits (headDistance s (y :: t) + 1) (x :: s) (y :: t) :=
      .more (.deletion [] x s) left
    have hright : Edits (headDistance (x :: s) t + 1) (x :: s) (y :: t) :=
      right.trans (.one (.insertion [] y t))
    rcases min_choice (min (headDistance s t + (if x == y then 0 else 1))
      (headDistance s (y :: t) + 1)) (headDistance (x :: s) t + 1) with h | h
    · rw [h]
      rcases min_choice (headDistance s t + (if x == y then 0 else 1))
        (headDistance s (y :: t) + 1) with h | h
      · rwa [h]
      · rwa [h]
    · rwa [h]

/-- The edit distance is the least number of edits that turn one list into the other. -/
theorem isLeast_editDistance (left right : List α) :
    IsLeast {n | Edits n left right} (editDistance left right) := by
  rw [editDistance_eq]
  constructor
  · exact Edits.reverse_iff.mp (edits_headDistance left.reverse right.reverse)
  · intro n hn
    exact headDistance_le_of_edits (Edits.reverse_iff.mpr hn)

theorem editDistance_le_of_edits (h : Edits n s t) : editDistance s t ≤ n :=
  (isLeast_editDistance s t).2 h

theorem edits_editDistance (s t : List α) : Edits (editDistance s t) s t :=
  (isLeast_editDistance s t).1

theorem editDistance_comm (s t : List α) : editDistance s t = editDistance t s :=
  le_antisymm (editDistance_le_of_edits (edits_editDistance t s).symm)
    (editDistance_le_of_edits (edits_editDistance s t).symm)

theorem editDistance_eq_zero_iff : editDistance s t = 0 ↔ s = t := by
  rw [← Edits.zero_iff]
  constructor
  · intro h
    exact h ▸ edits_editDistance s t
  · intro h
    exact Nat.le_zero.mp (editDistance_le_of_edits h)

theorem editDistance_triangle (s t u : List α) :
    editDistance s u ≤ editDistance s t + editDistance t u :=
  editDistance_le_of_edits ((edits_editDistance s t).trans (edits_editDistance t u))

theorem dist_length_le_editDistance (s t : List α) :
    Nat.dist s.length t.length ≤ editDistance s t := by
  have hright := (edits_editDistance s t).length_le
  have hleft := (edits_editDistance s t).symm.length_le
  rw [Nat.dist]
  omega

end Optimality

/-- The edit distance of two texts is the least number of insertions, deletions and substitutions
of single characters that turn one into the other. It is therefore a distance, and lies between
the difference of the lengths and the greater length. -/
theorem editDistance_counts_fewest_edits (a b c : String) :
    IsLeast {n | Edits n a.toList b.toList} (editDistance a.toList b.toList) ∧
      editDistance a.toList b.toList = editDistance b.toList a.toList ∧
      (editDistance a.toList b.toList = 0 ↔ a = b) ∧
      editDistance a.toList c.toList ≤
        editDistance a.toList b.toList + editDistance b.toList c.toList ∧
      Nat.dist (Text.charCount a) (Text.charCount b) ≤ editDistance a.toList b.toList ∧
      editDistance a.toList b.toList ≤ max (Text.charCount a) (Text.charCount b) :=
  ⟨isLeast_editDistance a.toList b.toList, editDistance_comm a.toList b.toList,
    editDistance_eq_zero_iff.trans String.toList_inj, editDistance_triangle _ _ _,
    dist_length_le_editDistance a.toList b.toList, editDistance_le a.toList b.toList⟩

example : editDistance "kitten".toList "sitting".toList = 3 := by decide

end TableTalk.Matching
