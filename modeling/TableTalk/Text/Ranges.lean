/-!
# Sets of code points

A set of characters is a list of closed ranges of code points, as the character
database of Unicode lays its properties out. Membership is a scan of the list,
which is short enough for the few characters that are not ASCII.
-/

namespace TableTalk.Text

/-- A set of characters, as closed ranges of code points in rising order. -/
abbrev Ranges := List (Nat × Nat)

/-- Whether the code point of `c` lies in one of the ranges. -/
def Ranges.contains (ranges : Ranges) (c : Char) : Bool :=
  ranges.any fun range => range.1 ≤ c.toNat && c.toNat ≤ range.2

theorem Ranges.contains_iff {ranges : Ranges} {c : Char} :
    ranges.contains c = true ↔ ∃ range ∈ ranges, range.1 ≤ c.toNat ∧ c.toNat ≤ range.2 := by
  simp [Ranges.contains]

end TableTalk.Text
