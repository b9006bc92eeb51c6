/-!
# Lists in order

Stable sorting, and keeping the first of several entries with one key. Sorting
inserts each element from the right, so that elements that are not told apart
keep their order even if the comparison is not transitive.
-/

namespace TableTalk.Listing

/-- Inserts into a list that is sorted from the last element to the first. -/
def insertFromEnd (precedes : α → α → Bool) (x : α) : List α → List α
  | [] => [x]
  | y :: ys => if precedes x y then y :: insertFromEnd precedes x ys else x :: y :: ys

/-- Sorts a list; elements that do not precede each other keep their order. -/
def sort (precedes : α → α → Bool) (xs : List α) : List α :=
  (xs.foldl (fun sorted x => insertFromEnd precedes x sorted) []).reverse

/-- Keeps the first entry of every key. -/
def distinctBy [BEq κ] (key : α → κ) : List α → List α
  | [] => []
  | x :: xs => x :: (distinctBy key xs).filter fun y => key y != key x

/-- Whether `part` occurs in the list as a run of adjacent elements. -/
def hasRun [BEq α] (part : List α) : List α → Bool
  | [] => part.isEmpty
  | x :: xs => part.isPrefixOf (x :: xs) || hasRun part xs

theorem insertFromEnd_perm (precedes : α → α → Bool) (x : α) (xs : List α) :
    (insertFromEnd precedes x xs).Perm (x :: xs) := by
  induction xs with
  | nil => exact .refl _
  | cons y ys ih =>
    unfold insertFromEnd
    split
    · exact (ih.cons y).trans (.swap x y ys)
    · exact .refl _

theorem foldl_insertFromEnd_perm (precedes : α → α → Bool) (xs sorted : List α) :
    (xs.foldl (fun sorted x => insertFromEnd precedes x sorted) sorted).Perm
      (xs ++ sorted) := by
  induction xs generalizing sorted with
  | nil => exact .refl _
  | cons x xs ih =>
    refine (ih _).trans ?_
    exact ((insertFromEnd_perm precedes x sorted).append_left xs).trans List.perm_middle

theorem sort_perm (precedes : α → α → Bool) (xs : List α) : (sort precedes xs).Perm xs := by
  refine (List.reverse_perm _).trans ?_
  simpa using foldl_insertFromEnd_perm precedes xs []

end TableTalk.Listing
