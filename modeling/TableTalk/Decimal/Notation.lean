import TableTalk.Decimal.Shortest

/-!
# How numbers are written

Three spellings of a number: the one of JSON documents, the plain one of
messages, and the one of tables with at most four places. Each is a few
decisions on top of exact decimal digits.
-/

namespace TableTalk.Decimal

/-- Digits with the decimal point put after `point` of them; a text without fraction has no
point. -/
def positional (digits : List Char) (point : Int) : List Char :=
  if point ≤ 0 then '0' :: '.' :: (List.replicate (-point).toNat '0' ++ digits)
  else if (digits.length : Int) ≤ point then
    digits ++ List.replicate (point - digits.length).toNat '0'
  else digits.take point.toNat ++ '.' :: digits.drop point.toNat

/-- The digits without the zeros at their end. -/
def Digits.text (d : Digits) : List Char :=
  ((digitText d.digits).reverse.dropWhile (· == '0')).reverse

/-- A sign in front of a negative number. -/
def signed (x : Float) (digits : List Char) : String :=
  String.ofList (if isNegative x then '-' :: digits else digits)

/-- The spelling of a finite number in JSON: the fewest digits that read back, positional from
1e-5 up to but excluding 1e16, with a fraction or an exponent always present. -/
def jsonText (x : Float) : String :=
  let s := scaled x
  if s.significand = 0 then signed x "0.0".toList
  else
    let d := shortest .toEven s
    let digits := d.text
    if -5 < d.point ∧ d.point ≤ 16 then
      let text := positional digits d.point
      signed x (if text.contains '.' then text else text ++ ".0".toList)
    else
      let exponent := d.point - 1
      let mantissa := positional digits 1
      let sign := if exponent < 0 then '-' else '+'
      signed x (mantissa ++ 'e' :: sign :: digitText exponent.natAbs)

/-- The word for infinity or NaN, if the number is not finite. -/
def word? (x : Float) : Option String :=
  if isFinite x then none
  else if isNaN x then some "NaN"
  else some (signed x "inf".toList)

/-- The spelling of a number in messages: the fewest digits that read back, always positional. -/
def plainText (x : Float) : String :=
  match word? x with
  | some word => word
  | none =>
    let s := scaled x
    if s.significand = 0 then signed x ['0']
    else
      let d := shortest .up s
      signed x (positional d.text d.point)

/-- A number with a fixed count of places, a half going to the even neighbour. -/
def fixedText (places : Nat) (x : Float) : String :=
  match word? x with
  | some word => word
  | none =>
    let s := scaled x
    let units := roundHalfEven (s.numerator * Nat.pow 10 places) s.denominator
    let whole := digitText (units / Nat.pow 10 places)
    if places = 0 then signed x whole
    else
      let fraction := digitText (units % Nat.pow 10 places)
      signed x (whole ++ '.' :: (List.replicate (places - fraction.length) '0' ++ fraction))

/-- Below this bound a whole number is shown with all its digits and nothing else. -/
def wholeBound : Nat := Nat.pow 10 15

/-- The spelling of a number in tables and messages: whole numbers without a point, others with at
most four places and no zeros at the end. -/
def tableText (x : Float) : String :=
  if !isFinite x then fixedText 4 x
  else if isWhole x && truncate x < wholeBound && -(wholeBound : Int) < truncate x then
    fixedText 0 x
  else
    let text := (fixedText 4 x).toList.reverse
    String.ofList ((text.dropWhile (· == '0')).dropWhile (· == '.')).reverse

end TableTalk.Decimal
