import TableTalk.Decimal.Read
import TableTalk.Quantity

/-!
# Numbers with a NaN at either end

In the total order of binary64 a NaN with a minus sign comes before all numbers
and one without comes after them. The sign shows in nothing but this order.
-/

namespace TableTalk.Decimal

/-- A number in binary64 whose NaN keeps its sign. -/
structure Signed where
  number : Float
  /-- Whether the number is a NaN with a minus sign. -/
  isLow : Bool := false

namespace Signed

/-- The magnitude of a NaN. -/
def quietMagnitude : Nat := 0x7FF8000000000000

/-- Key of the total order. -/
def totalKey (x : Signed) : Int :=
  if x.isLow then -(quietMagnitude : Int) - 1 else Decimal.totalKey x.number

/-- Reads a number with an optional sign. -/
def read? (text : String) : Option Signed :=
  (Decimal.read? text).map fun x => ⟨x, isNaN x && text.toList.head? == some '-'⟩

instance : RootQuantity Signed where
  add x y := ⟨x.number + y.number, false⟩
  sub x y := ⟨x.number - y.number, false⟩
  mul x y := ⟨x.number * y.number, false⟩
  div x y := ⟨x.number / y.number, false⟩
  ofNat n := ⟨Float.ofNat n, false⟩
  emptySum := ⟨-0.0, false⟩
  isLess x y := Decimal.isLess x.number y.number
  isAtMost x y := Decimal.isAtMost x.number y.number
  precedes x y := x.totalKey < y.totalKey
  floor x := (Decimal.floor x.number).toNat
  ceil x := (Decimal.ceil x.number).toNat
  sqrt x := ⟨x.number.sqrt, false⟩

end Signed

end TableTalk.Decimal
