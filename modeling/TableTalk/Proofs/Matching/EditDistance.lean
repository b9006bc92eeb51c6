import Mathlib.Data.List.Basic
import TableTalk.Matching.EditDistance

/-!
# How far apart two lists can be

Every entry of a row is at most one more than the entry of the row before that stands one
place ahead of it. Along the rows an entry therefore stays within the number of elements
of both lists that have been looked at, and the last one within the length of the longer list.
-/

namespace TableTalk.Matching

variable {α : Type} [BEq α]

/-- The entries of a row stay within a count of elements of the left list, or within their places,
which start at `first`, where these are greater. -/
def RowWithin (count first : Nat) (row : List Nat) : Prop :=
  ∀ place entry, row[place]? = some entry → entry ≤ max count (first + place)

variable {count first : Nat}

theorem RowWithin.tail {entry : Nat} {row : List Nat} (h : RowWithin count first (entry :: row)) :
    RowWithin count (first + 1) row := by
  intro place other hother
  have hle := h (place + 1) other hother
  omega

theorem rowWithin_nil : RowWithin count first [] := fun _ _ h => by cases h

theorem rowWithin_cons {entry : Nat} {row : List Nat} (head : entry ≤ max count first)
    (tail : RowWithin count (first + 1) row) : RowWithin count first (entry :: row) := by
  intro place other hother
  cases place with
  | zero =>
    obtain rfl := Option.some.inj hother
    exact head
  | succ place =>
    have hle := tail place other hother
    omega

theorem rowWithin_rowAfter (x : α) (right : List α) {diagonal left : Nat} {above : List Nat}
    (h : RowWithin count first (diagonal :: above)) :
    RowWithin (count + 1) (first + 1) (rowAfter x right diagonal left above) := by
  induction right generalizing diagonal left above first with
  | nil => exact rowWithin_nil
  | cons y right ih =>
    cases above with
    | nil => exact rowWithin_nil
    | cons up above =>
      rw [rowAfter]
      refine rowWithin_cons ?_ (ih h.tail)
      have hdiagonal := h 0 diagonal rfl
      split <;> omega

theorem length_rowAfter (x : α) (right : List α) (diagonal left : Nat) {above : List Nat}
    (h : above.length = right.length) : (rowAfter x right diagonal left above).length =
      right.length := by
  induction right generalizing diagonal left above with
  | nil => rfl
  | cons y right ih =>
    obtain ⟨up, above, rfl⟩ := List.exists_cons_of_length_eq_add_one h
    rw [rowAfter, List.length_cons, ih _ _ (Nat.succ.inj h), List.length_cons]

/-- The rows keep one entry more than the right list has elements, and stay within what has been
looked at. -/
theorem rowWithin_foldl (left right : List α) {row : List Nat}
    (length : row.length = right.length + 1) (h : RowWithin count 0 row) :
    (left.foldl (nextRow right) row).length = right.length + 1 ∧
      RowWithin (count + left.length) 0 (left.foldl (nextRow right) row) := by
  induction left generalizing count row with
  | nil => exact ⟨length, h⟩
  | cons x left ih =>
    obtain ⟨diagonal, above, rfl⟩ := List.exists_cons_of_length_eq_add_one length
    have hlength := length_rowAfter x right diagonal (diagonal + 1) (Nat.succ.inj length)
    have hdiagonal := h 0 diagonal rfl
    have hnext : RowWithin (count + 1) 0 (nextRow right (diagonal :: above) x) :=
      rowWithin_cons (by omega) (rowWithin_rowAfter x right h)
    rw [List.foldl_cons, List.length_cons, Nat.add_comm left.length, ← Nat.add_assoc]
    exact ih (by rw [nextRow, List.length_cons, hlength]) hnext

theorem editDistance_le (left right : List α) :
    editDistance left right ≤ max left.length right.length := by
  have hstart : RowWithin 0 0 (List.range (right.length + 1)) := by
    intro place entry hentry
    rw [List.getElem?_eq_some_iff] at hentry
    obtain ⟨hplace, rfl⟩ := hentry
    rw [List.getElem_range]
    omega
  obtain ⟨hlength, hwithin⟩ := rowWithin_foldl left right List.length_range hstart
  have hlast : (left.foldl (nextRow right) (List.range (right.length + 1)))[right.length]? =
      some (editDistance left right) := by
    rw [editDistance, List.getLastD_eq_getLast?, List.getLast?_eq_getElem?, hlength,
      Nat.add_sub_cancel, List.getElem?_eq_getElem (by omega), Option.getD_some]
  have hle := hwithin _ _ hlast
  omega

end TableTalk.Matching
