import TableTalk.Json.Document
import TableTalk.Text.Words

/-!
# Identifiers of sessions

An identifier is thirty-two hexadecimal digits. It is written in five groups that
are set apart by hyphens, and it is read from this form, also in braces or after
`urn:uuid:`, and from the bare digits, in either case.
-/

namespace TableTalk

/-- The name under which a session is kept. -/
structure SessionId where
  digits : List (Fin 16)
  length_digits : digits.length = 32
deriving DecidableEq

namespace SessionId

/-- The identifier with these digits, if there are thirty-two. -/
def ofDigits? (digits : List (Fin 16)) : Option SessionId :=
  if h : digits.length = 32 then some ⟨digits, h⟩ else none

/-- The digit at a place of a random identifier: two places say that it is random. -/
def randomDigit (source : Nat → Fin 16) (place : Nat) : Fin 16 :=
  if place = 12 then 4
  else if place = 16 then 8 + source place % 4
  else source place

/-- The identifier made from a source of random digits. -/
def random (source : Nat → Fin 16) : SessionId :=
  ⟨(List.range 32).map (randomDigit source), by simp⟩

/-- The character of a digit. -/
def digitChar (digit : Fin 16) : Char :=
  if digit.val < 10 then Char.ofNat (48 + digit.val) else Char.ofNat (87 + digit.val)

/-- The digit of a character, if it is one. -/
def digit? (c : Char) : Option (Fin 16) :=
  let code := c.toNat
  if 48 ≤ code && code ≤ 57 then some (Fin.ofNat 16 (code - 48))
  else if 97 ≤ code && code ≤ 102 then some (Fin.ofNat 16 (code - 87))
  else if 65 ≤ code && code ≤ 70 then some (Fin.ofNat 16 (code - 55))
  else none

/-- The number of digits in each group. -/
def groupSizes : List Nat := [8, 4, 4, 4, 12]

/-- Writes digits in groups with a hyphen between any two. -/
def writeGroups : List Nat → List (Fin 16) → List Char
  | [], _ => []
  | [size], digits => (digits.take size).map digitChar
  | size :: sizes, digits =>
    (digits.take size).map digitChar ++ '-' :: writeGroups sizes (digits.drop size)

/-- Reads groups of digits with a hyphen between any two. -/
def readGroups : List Nat → List Char → Option (List (Fin 16))
  | [], cs => if cs.isEmpty then some [] else none
  | [size], cs => if cs.length = size then cs.mapM digit? else none
  | size :: sizes, cs => do
    let digits ← (cs.take size).mapM digit?
    match cs.drop size with
    | '-' :: rest => (readGroups sizes rest).map (digits ++ ·)
    | _ => none

/-- The text of an identifier. -/
def text (id : SessionId) : String :=
  String.ofList (writeGroups groupSizes id.digits)

/-- What stands in front of the grouped digits of a name, in any case. -/
def urnStart : List Char := "urn:uuid:".toList

/-- The text within braces or after the start of a name. -/
def unwrap (cs : List Char) : List Char :=
  match cs with
  | '{' :: rest => if rest.getLast? = some '}' then rest.dropLast else cs
  | _ =>
    if (cs.take urnStart.length).map Char.toLower = urnStart then cs.drop urnStart.length else cs

/-- Reads an identifier that fills the text. -/
def ofText? (text : String) : Option SessionId :=
  let cs := text.toList
  let digits := if cs.length = 32 then cs.mapM digit? else readGroups groupSizes (unwrap cs)
  digits.bind ofDigits?

/-- Reads an identifier, with blanks around it or without. -/
def read? (text : String) : Option SessionId :=
  ofText? (Text.trim text)

/-- Reads an identifier from JSON. -/
def ofJson? (json : Json) : Option SessionId :=
  json.text?.bind ofText?

/-- The identifier as a JSON text. -/
def toJson (id : SessionId) : Json :=
  .text id.text

end SessionId

end TableTalk
