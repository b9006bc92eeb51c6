import TableTalk.Decimal.Read
import TableTalk.Document.Content
import TableTalk.Yaml.Quoted

/-!
# What plain scalars stand for

A plain scalar is null, a truth value, a number or a text, as its characters say.
Whole numbers may be written in other bases, but several digits that begin with a
zero are a text.
-/

namespace TableTalk.Yaml

/-- The names of null. -/
def nullNames : List String := ["~", "null", "Null", "NULL"]

/-- Whether a plain scalar is null. -/
def isNullText (s : String) : Bool :=
  s == "" || nullNames.contains s

/-- The truth value that a plain scalar spells. -/
def boolOfText? (s : String) : Option Bool :=
  if ["true", "True", "TRUE"].contains s then some true
  else if ["false", "False", "FALSE"].contains s then some false
  else none

/-- Whether several digits begin with a zero, which makes them a text. -/
def isCode (cs : List Char) : Bool :=
  let digits :=
    match cs with
    | '-' :: rest | '+' :: rest => rest
    | _ => cs
  1 < digits.length && digits.head? == some '0' && digits.all Char.isDigit

/-- Characters without a plus sign in front. -/
def withoutPlus : List Char → List Char
  | '+' :: rest => rest
  | cs => cs

/-- The number that digits stand for in the base that they name, or else in base ten. -/
def magnitude? (cs : List Char) : Option Nat :=
  match cs with
  | '0' :: 'x' :: rest => digits? 16 rest
  | '0' :: 'o' :: rest => digits? 8 rest
  | '0' :: 'b' :: rest => digits? 2 rest
  | _ => if isCode cs then none else digits? 10 cs

/-- The whole number that a scalar spells, of any size. -/
def wholeOfText? (s : String) : Option Int :=
  match s.toList with
  | '-' :: rest => (magnitude? rest).map fun n => -(n : Int)
  | cs => (magnitude? (withoutPlus cs)).map fun n => (n : Int)

/-- Whether a scalar has a minus sign in front. -/
def hasMinus (s : String) : Bool :=
  s.toList.head? == some '-'

/-- The whole number of 64 bits that a plain scalar spells, if it is not negative. -/
def naturalOfText? (s : String) : Option Nat :=
  if hasMinus s then none
  else (wholeOfText? s).bind fun n => if n < Nat.pow 2 64 then some n.toNat else none

/-- The number that a plain scalar spells. -/
def floatOfText? (s : String) : Option Float :=
  let bare := String.ofList (withoutPlus s.toList)
  if [".inf", ".Inf", ".INF"].contains bare then some (1.0 / 0.0)
  else if ["-.inf", "-.Inf", "-.INF"].contains s then some (-1.0 / 0.0)
  else if [".nan", ".NaN", ".NAN"].contains s then some (0.0 / 0.0)
  else if bare != s && bare.toList.head?.any (fun c => c == '+' || c == '-') then none
  else (Decimal.read? bare).filter Decimal.isFinite

/-- A whole number as content, if it fits in 64 bits. -/
def wholeContent? (isNegative : Bool) (n : Int) : Option Content :=
  if isNegative then
    if -(Nat.pow 2 63 : Int) ≤ n then some (.negative n) else none
  else if n < Nat.pow 2 64 then some (.natural n.toNat)
  else none

/-- Whether a whole number fits in 128 bits. -/
def fitsTwoWords (isNegative : Bool) (n : Int) : Bool :=
  if isNegative then -(Nat.pow 2 127 : Int) ≤ n else n < Nat.pow 2 128

/-- What a scalar without quotes and tag stands for by itself. A whole number beyond 64 bits has no
content, unless it is beyond 128 bits too: then it is a float. -/
def plainContent? (s : String) : Option Content :=
  if isNullText s then some .null
  else
    match boolOfText? s with
    | some b => some (.bool b)
    | none =>
      match (wholeOfText? s).filter (fitsTwoWords (hasMinus s)) with
      | some n => wholeContent? (hasMinus s) n
      | none =>
        if isCode s.toList then some (.text s)
        else
          match floatOfText? s with
          | some x => some (.float x)
          | none => some (.text s)

/-- The tag of a kind that every document knows. -/
def coreTag (kind : String) : String := "tag:yaml.org,2002:" ++ kind

/-- What a scalar with a tag stands for: that which a known tag says, if it is spelled so, and else
a text. -/
def taggedContent? (tag s : String) : Option Content :=
  if tag == coreTag "null" then if nullNames.contains s then some .null else none
  else if tag == coreTag "bool" then (boolOfText? s).map .bool
  else if tag == coreTag "int" then (wholeOfText? s).bind (wholeContent? (hasMinus s))
  else if tag == coreTag "float" then (floatOfText? s).map .float
  else some (.text s)

end TableTalk.Yaml
