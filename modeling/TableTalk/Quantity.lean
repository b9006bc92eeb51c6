import TableTalk.Decimal.Binary64

/-!
# Numbers to calculate with

Statistics, series and scores are written once for every type of number that has
these operations. Tables are calculated in binary64; the rational numbers give
the same formulas without rounding.
-/

namespace TableTalk

/-- A type of numbers. -/
class Quantity (α : Type) extends Add α, Sub α, Mul α, Div α where
  /-- A whole number. -/
  ofNat : Nat → α
  /-- The sum of no numbers. -/
  emptySum : α
  isLess : α → α → Bool
  isAtMost : α → α → Bool
  /-- A strict order of all numbers, for sorting. -/
  precedes : α → α → Bool
  /-- The number rounded down, zero if it is negative. -/
  floor : α → Nat
  /-- The number rounded up, zero if it is negative. -/
  ceil : α → Nat

/-- A type of numbers with square roots. -/
class RootQuantity (α : Type) extends Quantity α where
  sqrt : α → α

instance : RootQuantity Float where
  ofNat := Float.ofNat
  emptySum := -0.0
  isLess := Decimal.isLess
  isAtMost := Decimal.isAtMost
  precedes x y := Decimal.totalKey x < Decimal.totalKey y
  floor x := (Decimal.floor x).toNat
  ceil x := (Decimal.ceil x).toNat
  sqrt := Float.sqrt

instance : Quantity Rat where
  ofNat n := n
  emptySum := 0
  isLess x y := x < y
  isAtMost x y := x ≤ y
  precedes x y := x < y
  floor x := x.floor.toNat
  ceil x := x.ceil.toNat

namespace Quantity

variable {α : Type} [Quantity α]

/-- The quotient of two whole numbers. -/
def ratio (numerator denominator : Nat) : α :=
  Quantity.ofNat numerator / Quantity.ofNat denominator

/-- Adds numbers from left to right. -/
def sum (values : List α) : α :=
  values.foldl (· + ·) Quantity.emptySum

end Quantity

end TableTalk
