import TableTalk.Decimal.Read
import TableTalk.Text.Words

/-!
# Numbers as people write them

A numeral is a decimal number with currency signs, thousands separators, a
trailing percent sign, or parentheses around it for a negative amount. Whole
numbers of several digits that begin with a zero are codes and not numbers.
-/

namespace TableTalk.Cleaning

open TableTalk.Text (isBlank)

/-- The number that a numeral stands for. -/
structure Numeral where
  value : Float
  /-- Whether it is whole and small enough to be kept exactly as a whole number. -/
  integral : Bool

/-- Characters that are skipped wherever they stand in a numeral. -/
def isSeparator (c : Char) : Bool :=
  [',', '_', '$', '€', '£', '¥', '₹'].contains c

/-- Whether a character is a sign. -/
def isSign (c : Char) : Bool :=
  c == '+' || c == '-'

/-- The characters between parentheses, if something stands between them. -/
def parenthesized? (cs : List Char) : Option (List Char) :=
  if cs.head? == some '(' && cs.getLast? == some ')' && 2 < cs.length then
    some ((cs.drop 1).dropLast)
  else none

/-- The characters without one trailing percent sign and the blanks around the rest. -/
def withoutPercent (cs : List Char) : List Char :=
  let trimmed := Text.stripWhile isBlank cs
  let bare := if trimmed.getLast? == some '%' then trimmed.dropLast else trimmed
  Text.dropEndWhile isBlank bare

/-- Reads a decimal with an optional sign; words for infinity and NaN are no decimals. -/
def decimal? (cs : List Char) : Option Float :=
  match cs with
  | '-' :: rest => (Decimal.unsigned? rest).map fun x => -x
  | '+' :: rest => Decimal.unsigned? rest
  | _ => Decimal.unsigned? cs

/-- Whether the characters, signs in front aside, are several digits that begin with a zero. -/
def isCode (cs : List Char) : Bool :=
  let digits := cs.dropWhile isSign
  digits.all Char.isDigit && 1 < digits.length && digits.head? == some '0'

/-- Whole numbers from here on are not kept as whole numbers. -/
def integralBound : Nat := 9 * Nat.pow 10 15

/-- Whether a number is whole and below the bound. -/
def isIntegral (x : Float) : Bool :=
  Decimal.isWhole x && (Decimal.truncate x).natAbs < integralBound

/-- Reads a numeral. -/
def numeral? (text : String) : Option Numeral := do
  let trimmed := Text.stripWhile isBlank text.toList
  let inner := parenthesized? trimmed
  let digits := (withoutPercent (inner.getD trimmed)).filter fun c => !isSeparator c
  if isCode digits then none
  else
    let value ← decimal? digits
    if !Decimal.isFinite value then none
    else if inner.isSome then
      if digits.head? == some '-' then none else some ⟨-value, isIntegral value⟩
    else some ⟨value, isIntegral value⟩

end TableTalk.Cleaning
