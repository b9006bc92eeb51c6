import TableTalk.Decimal.Binary64
import TableTalk.Text.Words

/-!
# Reading decimal numbers

A decimal is a sign, digits with an optional point, and an optional exponent.
Its value is the binary64 number nearest to it. The words for infinity and NaN
are read in any case.
-/

namespace TableTalk.Decimal

/-- The number that ASCII digits spell. -/
def digitsValue (digits : List Char) : Nat :=
  digits.foldl (fun n c => 10 * n + (c.toNat - '0'.toNat)) 0

/-- Splits off the digits at the front. -/
def spanDigits (cs : List Char) : List Char × List Char :=
  (cs.takeWhile Char.isDigit, cs.dropWhile Char.isDigit)

/-- The number nearest to `digits * 10 ^ exponent`. Exponents far outside the range of numbers are
settled without a power of ten. -/
def nearest (digits : Nat) (exponent : Int) : Float :=
  if digits = 0 then 0.0
  else
    let point := (Nat.toDigits 10 digits).length + exponent
    if 400 < point then 1.0 / 0.0
    else if point < -400 then 0.0
    else Float.ofScientific digits (exponent < 0) exponent.natAbs

/-- The exponent that follows the digits: nothing, or a letter e with a signed number. -/
def exponent? : List Char → Option Int
  | [] => some 0
  | e :: cs =>
    if e == 'e' || e == 'E' then
      let (negative, digits) :=
        match cs with
        | '-' :: ds => (true, ds)
        | '+' :: ds => (false, ds)
        | ds => (false, ds)
      if digits.isEmpty || !digits.all Char.isDigit then none
      else some (if negative then -(digitsValue digits : Int) else digitsValue digits)
    else none

/-- Reads a decimal without sign; there is at least one digit beside the point. -/
def unsigned? (cs : List Char) : Option Float :=
  let (whole, rest) := spanDigits cs
  let (fraction, rest) :=
    match rest with
    | '.' :: ds => spanDigits ds
    | _ => ([], rest)
  if whole.isEmpty && fraction.isEmpty then none
  else
    (exponent? rest).map fun exponent =>
      nearest (digitsValue (whole ++ fraction)) (exponent - fraction.length)

/-- Reads a number: a decimal, or a word for infinity or NaN, with an optional sign. -/
def read? (text : String) : Option Float :=
  let (negative, body) :=
    match text.toList with
    | '-' :: cs => (true, cs)
    | '+' :: cs => (false, cs)
    | cs => (false, cs)
  let word := String.ofList (body.map Char.toLower)
  let value? :=
    if word == "inf" || word == "infinity" then some (1.0 / 0.0)
    else if word == "nan" then some (0.0 / 0.0)
    else unsigned? body
  value?.map fun value => if negative then -value else value

/-- Reads digits alone, with an optional plus sign, as a natural number. -/
def readNat? (text : String) : Option Nat :=
  let digits :=
    match text.toList with
    | '+' :: cs => cs
    | cs => cs
  if digits.isEmpty || !digits.all Char.isDigit then none else some (digitsValue digits)

end TableTalk.Decimal
