import TableTalk.Listing
import TableTalk.Quantity

/-!
# Descriptive statistics

Averages, spread and order statistics of a list of numbers. Everything is
defined for every input: no numbers, or too few for a spread, give nothing or
zero. What takes no square root is written for every type of numbers.
-/

namespace TableTalk.Statistics

section Exact

variable {α : Type} [Quantity α]

/-- The numbers in rising order. -/
def sorted (values : List α) : List α :=
  Listing.sort Quantity.precedes values

/-- The arithmetic mean. -/
def mean (values : List α) : Option α :=
  if values.isEmpty then none else some (Quantity.sum values / Quantity.ofNat values.length)

/-- The number in the middle, or the mean of the two in the middle. -/
def median (values : List α) : Option α :=
  let ordered := sorted values
  let middle := ordered.length / 2
  if values.isEmpty then none
  else if ordered.length % 2 = 0 then do
    let low ← ordered[middle - 1]?
    let high ← ordered[middle]?
    pure ((low + high) / Quantity.ofNat 2)
  else ordered[middle]?

/-- The lesser of two numbers, the second if they are equal; a number that is not at most itself
gives way. -/
def lesser (x y : α) : α :=
  if Quantity.isLess x y || !Quantity.isAtMost y y then x else y

/-- The greater of two numbers, the second if they are equal; a number that is not at most itself
gives way. -/
def greater (x y : α) : α :=
  if Quantity.isLess y x || !Quantity.isAtMost y y then x else y

/-- The least number. -/
def least : List α → Option α
  | [] => none
  | x :: xs => some (xs.foldl lesser x)

/-- The greatest number. -/
def greatest : List α → Option α
  | [] => none
  | x :: xs => some (xs.foldl greater x)

/-- Whether a spread is taken over the whole population or estimated from a sample. -/
inductive Basis
  | sample
  | population
deriving DecidableEq, Repr

/-- What sums over `count` numbers are divided by. -/
def Basis.divisor (basis : Basis) (count : Nat) : Nat :=
  match basis with
  | sample => count - 1
  | population => count

/-- The mean square deviation, zero if there are too few numbers. -/
def variance (basis : Basis) (values : List α) : α :=
  if basis.divisor values.length = 0 then Quantity.ofNat 0
  else
    match mean values with
    | none => Quantity.ofNat 0
    | some center =>
      let squares := values.map fun v => (v - center) * (v - center)
      Quantity.sum squares / Quantity.ofNat (basis.divisor values.length)

/-- The number at a percent rank, interpolated between its neighbours in order. -/
def percentile (values : List α) (p : α) : Option α :=
  if values.isEmpty || !(Quantity.isAtMost (Quantity.ofNat 0) p) ||
      !(Quantity.isAtMost p (Quantity.ofNat 100)) then none
  else
    let ordered := sorted values
    let rank := p / Quantity.ofNat 100 * Quantity.ofNat (ordered.length - 1)
    let lower := Quantity.floor rank
    let upper := Quantity.ceil rank
    if lower = upper then ordered[lower]?
    else do
      let low ← ordered[lower]?
      let high ← ordered[upper]?
      pure (low + (high - low) * (rank - Quantity.ofNat lower))

/-- The three quartiles and the distance of the outer two. -/
structure Quartiles (α : Type) where
  q1 : α
  q2 : α
  q3 : α
  iqr : α

/-- The quartiles. -/
def quartiles (values : List α) : Option (Quartiles α) := do
  let q1 ← percentile values (Quantity.ofNat 25)
  let q2 ← percentile values (Quantity.ofNat 50)
  let q3 ← percentile values (Quantity.ofNat 75)
  pure ⟨q1, q2, q3, q3 - q1⟩

/-- The numbers outside two bounds, with their positions. -/
structure Outliers (α : Type) where
  lower : α
  upper : α
  found : List (Nat × α)

/-- The numbers farther from the outer quartiles than `multiplier` times their distance. -/
def outliers (values : List α) (multiplier : α) : Option (Outliers α) :=
  (quartiles values).map fun q =>
    let lower := q.q1 - multiplier * q.iqr
    let upper := q.q3 + multiplier * q.iqr
    let found := values.zipIdx.filter fun entry =>
      Quantity.isLess entry.1 lower || Quantity.isLess upper entry.1
    ⟨lower, upper, found.map fun entry => (entry.2, entry.1)⟩

/-- The mean product of deviations of two series of one length, of at least two numbers. -/
def covariance (basis : Basis) (x y : List α) : Option α :=
  if x.length ≠ y.length || x.length < 2 then none
  else do
    let centerX ← mean x
    let centerY ← mean y
    let products := List.zipWith (fun a b => (a - centerX) * (b - centerY)) x y
    pure (Quantity.sum products / Quantity.ofNat (basis.divisor x.length))

/-- The number that occurs most often; of several the one seen first. Numbers are the same if
neither comes before the other. -/
def mode (values : List α) : Option α :=
  let count (x : α) : Nat :=
    values.countP fun y => !Quantity.precedes x y && !Quantity.precedes y x
  values.foldl (fun best x =>
    match best with
    | some b => if count b < count x then some x else some b
    | none => some x) none

end Exact

/-- The square root of the variance. -/
def standardDeviation {α : Type} [RootQuantity α] (basis : Basis) (values : List α) : α :=
  RootQuantity.sqrt (variance basis values)

/-- The correlation coefficient of two series of one length, of at least two numbers; zero if one
of them is constant. -/
def correlation (x y : List Float) : Option Float :=
  if x.length ≠ y.length || x.length < 2 then none
  else do
    let centerX ← mean x
    let centerY ← mean y
    let deviationsX := x.map (· - centerX)
    let deviationsY := y.map (· - centerY)
    let products (a b : List Float) : Float := (List.zipWith (· * ·) a b).foldl (· + ·) 0.0
    let squaresX := products deviationsX deviationsX
    let squaresY := products deviationsY deviationsY
    if squaresX == 0.0 || squaresY == 0.0 then pure 0.0
    else pure (products deviationsX deviationsY / (squaresX * squaresY).sqrt)

/-- The usual figures of a list of numbers. -/
structure Summary (α : Type) where
  count : Nat
  mean : Option α
  median : Option α
  deviation : α
  least : Option α
  greatest : Option α
  quartiles : Option (Quartiles α)

/-- Summarizes a list of numbers. -/
def summarize {α : Type} [RootQuantity α] (values : List α) : Summary α where
  count := values.length
  mean := mean values
  median := median values
  deviation := standardDeviation .sample values
  least := least values
  greatest := greatest values
  quartiles := quartiles values

/-- How far outliers lie from the quartiles unless another factor is set. -/
def defaultMultiplier : Float := 1.5

end TableTalk.Statistics
