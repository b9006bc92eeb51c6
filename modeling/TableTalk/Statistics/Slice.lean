import TableTalk.Row
import TableTalk.Statistics.Summary

/-!
# Percent slices

The rows whose number lies at or beyond a percentile: the top slice is bounded
by the percentile at 100 less the percentage, the bottom slice by the one at the
percentage itself.
-/

namespace TableTalk

/-- The end of the order from which a slice is taken. -/
inductive Side
  | top
  | bottom
deriving DecidableEq, Repr, Inhabited

/-- The name of a side. -/
def Side.name : Side → String
  | top => "top"
  | bottom => "bottom"

namespace Statistics

section Exact

variable {α ρ : Type} [Quantity α]

/-- The number that bounds a slice. -/
def sliceBound (values : List α) (percent : α) : Side → Option α
  | .top => percentile values (Quantity.ofNat 100 - percent)
  | .bottom => percentile values percent

/-- Whether a number lies in the slice with this bound. -/
def isBeyond (bound : α) (side : Side) (value : α) : Bool :=
  match side with
  | .top => Quantity.isAtMost bound value
  | .bottom => Quantity.isAtMost value bound

/-- The entries of a list whose number lies in the slice. -/
def slice (measure : ρ → Option α) (percent : α) (side : Side) (entries : List ρ) : List ρ :=
  match sliceBound (entries.filterMap measure) percent side with
  | none => []
  | some bound => entries.filter fun entry => (measure entry).any (isBeyond bound side)

end Exact

/-- The rows in a slice by the numbers of a column. -/
def sliceRows (column : String) (percent : Float) (side : Side) (rows : Dataset) : Dataset :=
  slice (fun row => (row.value column).number?) percent side rows

end Statistics

end TableTalk
