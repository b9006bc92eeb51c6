/-!
# Numbers in binary64

A number is read through its 64 bits: a sign and a magnitude. Finite magnitudes
are a whole significand times a power of two, which makes rounding toward zero,
down and up exact. Magnitudes grow with the numbers they stand for, so orders
are orders of integers.
-/

namespace TableTalk.Decimal

/-- Whether the sign bit is set. -/
def isNegative (x : Float) : Bool :=
  Nat.pow 2 63 ≤ x.toBits.toNat

/-- The bits without the sign. -/
def magnitude (x : Float) : Nat :=
  x.toBits.toNat % Nat.pow 2 63

/-- The magnitude of infinity; those of NaN lie above it. -/
def infiniteMagnitude : Nat := 0x7FF0000000000000

/-- Whether the number is neither infinite nor NaN. -/
def isFinite (x : Float) : Bool :=
  magnitude x < infiniteMagnitude

/-- Whether the number is NaN. -/
def isNaN (x : Float) : Bool :=
  infiniteMagnitude < magnitude x

/-- Key of the total order: negative zero stands just below zero, NaN beyond the infinities. -/
def totalKey (x : Float) : Int :=
  if isNegative x then -(magnitude x : Int) - 1 else magnitude x

/-- Key of the numeric order, in which the two zeros are equal. -/
def numberKey (x : Float) : Int :=
  if isNegative x then -(magnitude x : Int) else magnitude x

/-- Numeric comparison; nothing is less than NaN, nor NaN less than anything. -/
def isLess (x y : Float) : Bool :=
  !isNaN x && !isNaN y && numberKey x < numberKey y

/-- Numeric comparison; NaN is not even at most itself. -/
def isAtMost (x y : Float) : Bool :=
  !isNaN x && !isNaN y && numberKey x ≤ numberKey y

/-- A finite magnitude, as `significand * 2 ^ exponent`. -/
structure Scaled where
  significand : Nat
  exponent : Int
deriving DecidableEq, Repr

/-- The significand and exponent of a finite number without its sign. -/
def scaled (x : Float) : Scaled :=
  let field : Nat := magnitude x / Nat.pow 2 52
  let fraction : Nat := magnitude x % Nat.pow 2 52
  if field = 0 then ⟨fraction, -1074⟩ else ⟨fraction + Nat.pow 2 52, (field : Int) - 1075⟩

/-- The numerator over `denominator`. -/
def Scaled.numerator (s : Scaled) : Nat :=
  s.significand * Nat.pow 2 s.exponent.toNat

/-- A power of two, one if the number is whole. -/
def Scaled.denominator (s : Scaled) : Nat :=
  Nat.pow 2 (-s.exponent).toNat

/-- Whether a number is finite and has no fractional part. -/
def isWhole (x : Float) : Bool :=
  isFinite x && (scaled x).numerator % (scaled x).denominator == 0

/-- The exact value of a finite number; zero for the others. -/
def exact (x : Float) : Rat :=
  if isFinite x then
    let value := mkRat (scaled x).numerator (scaled x).denominator
    if isNegative x then -value else value
  else 0

/-- A finite number rounded toward zero. -/
def truncate (x : Float) : Int :=
  let whole : Int := ((scaled x).numerator / (scaled x).denominator : Nat)
  if isNegative x then -whole else whole

/-- A finite number rounded down. -/
def floor (x : Float) : Int :=
  let s := scaled x
  if isNegative x then -((s.numerator + s.denominator - 1) / s.denominator : Nat)
  else (s.numerator / s.denominator : Nat)

/-- A finite number rounded up. -/
def ceil (x : Float) : Int :=
  let s := scaled x
  if isNegative x then -(s.numerator / s.denominator : Nat)
  else ((s.numerator + s.denominator - 1) / s.denominator : Nat)

/-- The whole number in 64 bits next to `x` toward zero; numbers out of range give the nearest
bound, and NaN gives zero. -/
def toInt64 (x : Float) : Int64 :=
  if isFinite x then
    let whole := truncate x
    if whole < Int64.minValue.toInt then Int64.minValue
    else if Int64.maxValue.toInt < whole then Int64.maxValue
    else Int64.ofInt whole
  else if isNaN x then 0
  else if isNegative x then Int64.minValue else Int64.maxValue

/-- The number without its sign. -/
def abs (x : Float) : Float :=
  Float.ofBits (UInt64.ofNat (magnitude x))

end TableTalk.Decimal
