/-!
# Edit distance

The least number of insertions, deletions and substitutions of single elements
that turn one list into another, calculated row by row: each row holds the
distances of one initial part of the left list to all initial parts of the right
one.
-/

namespace TableTalk.Matching

variable {α : Type} [BEq α]

/-- The rest of the next row, for the element `x` of the left list. `diagonal` and `above` are the
row before, `left` the entry calculated last. -/
def rowAfter (x : α) : List α → Nat → Nat → List Nat → List Nat
  | y :: right, diagonal, left, up :: above =>
    let substituted := diagonal + (if x == y then 0 else 1)
    let entry := min (min substituted (up + 1)) (left + 1)
    entry :: rowAfter x right up entry above
  | _, _, _, _ => []

/-- The row that follows a row. -/
def nextRow (right : List α) (row : List Nat) (x : α) : List Nat :=
  match row with
  | diagonal :: above => (diagonal + 1) :: rowAfter x right diagonal (diagonal + 1) above
  | [] => []

/-- The edit distance of two lists. -/
def editDistance (left right : List α) : Nat :=
  (left.foldl (nextRow right) (List.range (right.length + 1))).getLastD 0

end TableTalk.Matching
