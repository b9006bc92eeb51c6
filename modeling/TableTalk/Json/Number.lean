import TableTalk.Json.Basic
import TableTalk.Decimal.Read

/-!
# Reading JSON numbers

The digits of a number are gathered in a 64-bit significand. Once it is full,
further digits of the whole part only raise the exponent and further digits of
the fraction are dropped. The significand is then multiplied or divided by one
power of ten, so the result can differ from the nearest number in its last bit.
-/

namespace TableTalk.Json

open TableTalk.Decimal (digitsValue)

/-- The largest significand. -/
def maxSignificand : Nat := Nat.pow 2 64 - 1

/-- The largest exponent that a written exponent may have. -/
def maxExponent : Nat := Nat.pow 2 31 - 1

/-- Takes digits into the significand while it fits; gives back the significand and the digits
left over. -/
def gather (significand : Nat) : List Char → Nat × List Char
  | [] => (significand, [])
  | c :: cs =>
    let next := 10 * significand + digitsValue [c]
    if next ≤ maxSignificand then gather next cs else (significand, c :: cs)

/-- A power of ten as a binary64 number. -/
def powerOfTen (exponent : Nat) : Float :=
  Float.ofScientific 1 false exponent

/-- Divides by `1e308` until the exponent is at most 308 away from zero. -/
def divideDown : Nat → Float → Nat → Float
  | 0, x, _ => x
  | steps + 1, x, exponent =>
    if exponent ≤ 308 then x / powerOfTen exponent
    else if x == 0.0 then x
    else divideDown steps (x / powerOfTen 308) (exponent - 308)

/-- The number `significand * 10 ^ exponent`, if it is in range. -/
def scale? (significand : Nat) (exponent : Int) : Option Float :=
  let x := Float.ofNat significand
  if exponent < 0 then some (divideDown 8 x exponent.natAbs)
  else if 308 < exponent then (if significand = 0 then some x else none)
  else
    let product := x * powerOfTen exponent.toNat
    if Decimal.isFinite product then some product else none

/-- The pieces of a number as written. -/
structure NumberText where
  negative : Bool
  whole : List Char
  /-- The digits after the point, if there is one. -/
  fraction : Option (List Char)
  /-- Whether the exponent is negative, and its digits, if there is one. -/
  exponent : Option (Bool × List Char)

/-- A number written with a point or an exponent, or too long to be whole. -/
def NumberText.float? (n : NumberText) : Option Float :=
  let (significand, dropped) := gather 0 n.whole
  let fraction := n.fraction.getD []
  let (significand, unused) := gather significand fraction
  let start : Int := dropped.length - (fraction.length - unused.length : Nat)
  match n.exponent with
  | none => scale? significand start
  | some (negative, digits) =>
    let exponent := digitsValue digits
    if maxExponent < exponent then
      if significand ≠ 0 && !negative then none else some 0.0
    else scale? significand (if negative then start - exponent else start + exponent)

/-- What a written number stands for. -/
def NumberText.value (n : NumberText) : Json :=
  let fromFloat :=
    match n.float? with
    | some x => .float (if n.negative then -x else x)
    | none => .unreadable
  if n.fraction.isSome || n.exponent.isSome then fromFloat
  else
    let whole := digitsValue n.whole
    if maxSignificand < whole then fromFloat
    else if !n.negative then .int whole
    else if whole = 0 then .float (-0.0)
    else if whole ≤ Nat.pow 2 63 then .int (-(whole : Int))
    else .float (-(Float.ofNat whole))

/-- Reads the whole part: a zero alone, or digits that begin with another one. -/
def whole? (cs : List Char) : Option (List Char × List Char) :=
  match Decimal.spanDigits cs with
  | ([], _) => none
  | ('0' :: _ :: _, _) => none
  | split => some split

/-- Splits off a minus sign. -/
def numberSign : List Char → Bool × List Char
  | '-' :: rest => (true, rest)
  | cs => (false, cs)

/-- Reads a point with the digits behind it, if there is one. -/
def fraction? : List Char → Option (Option (List Char) × List Char)
  | '.' :: rest =>
    match Decimal.spanDigits rest with
    | ([], _) => none
    | (digits, rest) => some (some digits, rest)
  | cs => some (none, cs)

/-- Splits off the sign of an exponent. -/
def exponentSign : List Char → Bool × List Char
  | '-' :: rest => (true, rest)
  | '+' :: rest => (false, rest)
  | cs => (false, cs)

/-- Reads an exponent, if there is one. -/
def exponent? : List Char → Option (Option (Bool × List Char) × List Char)
  | [] => some (none, [])
  | e :: cs =>
    if e == 'e' || e == 'E' then
      let (negative, cs) := exponentSign cs
      match Decimal.spanDigits cs with
      | ([], _) => none
      | (digits, rest) => some (some (negative, digits), rest)
    else some (none, e :: cs)

/-- Reads a number and gives back the rest. -/
def number? (cs : List Char) : Option (NumberText × List Char) := do
  let (negative, cs) := numberSign cs
  let (whole, cs) ← whole? cs
  let (fraction, cs) ← fraction? cs
  let (exponent, cs) ← exponent? cs
  pure (⟨negative, whole, fraction, exponent⟩, cs)

end TableTalk.Json
