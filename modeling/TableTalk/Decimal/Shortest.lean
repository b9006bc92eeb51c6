import TableTalk.Decimal.Binary64

/-!
# The fewest digits that read back

The numbers that round to a given finite number form an interval around it. On
the grid of decimals with a given count of digits, the two points next to the
number are tried against that interval; the coarsest grid with a hit gives the
digits, and of two hits the nearer is taken.
-/

namespace TableTalk.Decimal

/-- What is done when two decimals of the fewest digits are equally near. -/
inductive Tie
  | toEven
  | up
deriving DecidableEq, Repr

/-- A positive decimal: `0.d₁d₂…` times ten to `point`, where `digits` is the number `d₁d₂…`. -/
structure Digits where
  digits : Nat
  point : Int
deriving DecidableEq, Repr

/-- The decimal digits of a number, without leading zeros. -/
def digitText (n : Nat) : List Char :=
  Nat.toDigits 10 n

/-- The quotient rounded to the nearest whole number, a half going to the even neighbour. -/
def roundHalfEven (numerator denominator : Nat) : Nat :=
  let quotient := numerator / denominator
  let twice := 2 * (numerator % denominator)
  if twice < denominator then quotient
  else if twice = denominator then quotient + quotient % 2
  else quotient + 1

/-- The interval that rounds to a number, in quarters of the last binary place. -/
structure Interval where
  value : Nat
  low : Nat
  high : Nat
  /-- All three are divided by this. -/
  denominator : Nat
  /-- Whether the two ends round to the number. -/
  closed : Bool

/-- The numbers that round to `s`; below a power of two they lie closer together. -/
def Scaled.interval (s : Scaled) : Interval :=
  let unit := Nat.pow 2 (s.exponent - 2).toNat
  let gapBelow := if s.significand = Nat.pow 2 52 ∧ -1074 < s.exponent then 1 else 2
  { value := 4 * s.significand * unit
    low := (4 * s.significand - gapBelow) * unit
    high := (4 * s.significand + 2) * unit
    denominator := Nat.pow 2 (2 - s.exponent).toNat
    closed := s.significand % 2 = 0 }

/-- Whether the decimal `n / scale` lies in the interval. -/
def Interval.holds (i : Interval) (n scale : Nat) : Bool :=
  let point := n * i.denominator
  if i.closed then i.low * scale ≤ point && point ≤ i.high * scale
  else i.low * scale < point && point < i.high * scale

/-- The least number of integer digits, possibly negative, that `numerator / denominator` needs:
the exponent `k` with `10 ^ (k - 1) ≤ numerator / denominator < 10 ^ k`. -/
def decimalPoint (numerator denominator : Nat) : Int :=
  if denominator ≤ numerator then (digitText (numerator / denominator)).length
  else 1 - ((digitText ((denominator + numerator - 1) / numerator - 1)).length : Int)

/-- The point of the grid of `count` digits that stands for the number, if one is in the interval.
The grid's points are the multiples of ten to `point - count`. -/
def Interval.onGrid (i : Interval) (tie : Tie) (point : Int) (count : Nat) : Option Nat :=
  let shift := (count : Int) - point
  let up := Nat.pow 10 shift.toNat
  let down := Nat.pow 10 (-shift).toNat
  -- scaled so that a grid point is a whole number
  let scaledUp : Interval :=
    { i with
      value := i.value * up, low := i.low * up, high := i.high * up
      denominator := i.denominator * down }
  let below := scaledUp.value / scaledUp.denominator
  let remainder := scaledUp.value % scaledUp.denominator
  match scaledUp.holds below 1, scaledUp.holds (below + 1) 1 with
  | true, true =>
    if 2 * remainder < scaledUp.denominator then some below
    else if 2 * remainder = scaledUp.denominator then
      match tie with
      | .toEven => some (below + below % 2)
      | .up => some (below + 1)
    else some (below + 1)
  | true, false => some below
  | false, true => some (below + 1)
  | false, false => none

/-- The fewest digits that read back as the positive number `s`. -/
def shortest (tie : Tie) (s : Scaled) : Digits :=
  let i := s.interval
  let point := decimalPoint i.value i.denominator
  let found := (List.range 17).findSome? fun n =>
    (i.onGrid tie point (n + 1)).map fun digits => (digits, n + 1)
  match found with
  | some (digits, count) =>
    if digits = Nat.pow 10 count then ⟨1, point + 1⟩ else ⟨digits, point⟩
  | none => ⟨s.significand, point⟩

end TableTalk.Decimal
