import TableTalk.Json.Number

/-!
# Reading JSON text

A document is one value with blanks around it. Reading follows the grammar
strictly: no trailing commas, no raw control characters in texts, no leading
zeros. What is well formed but has no value, such as half a surrogate pair or
arrays within too many others, is unreadable, and does no harm where it is passed
over. The fuel of the value reader is taken from the length of the text: of two
entries in a row at least one takes a character.
-/

namespace TableTalk.Json.Reader

/-- Blanks between the tokens of a document. -/
def isGap (c : Char) : Bool :=
  c == ' ' || c == '\t' || c == '\n' || c == '\r'

/-- Drops blanks. -/
def skipGap (cs : List Char) : List Char :=
  cs.dropWhile isGap

/-- The value of a hexadecimal digit. -/
def hexDigit? (c : Char) : Option Nat :=
  if c.isDigit then some (c.toNat - '0'.toNat)
  else if 'a' ≤ c && c ≤ 'f' then some (c.toNat - 'a'.toNat + 10)
  else if 'A' ≤ c && c ≤ 'F' then some (c.toNat - 'A'.toNat + 10)
  else none

/-- Reads four hexadecimal digits. -/
def hexUnit? : List Char → Option (Nat × List Char)
  | a :: b :: c :: d :: rest => do
    let a ← hexDigit? a
    let b ← hexDigit? b
    let c ← hexDigit? c
    let d ← hexDigit? d
    pure (((a * 16 + b) * 16 + c) * 16 + d, rest)
  | _ => none

/-- The character that a one-letter escape stands for. -/
def shortEscape? : Char → Option Char
  | '"' => some '"'
  | '\\' => some '\\'
  | '/' => some '/'
  | 'b' => some '\x08'
  | 'f' => some '\x0c'
  | 'n' => some '\n'
  | 'r' => some '\r'
  | 't' => some '\t'
  | _ => none

/-- An element of a quoted text: a character, one half of a surrogate pair, or the closing
quote. -/
inductive TextPiece
  | char (c : Char)
  | surrogate (unit : Nat)
  | close

/-- Reads one element of a quoted text. -/
def textPiece? : List Char → Option (TextPiece × List Char)
  | '"' :: rest => some (.close, rest)
  | '\\' :: 'u' :: rest => do
    let (unit, rest) ← hexUnit? rest
    if 0xD800 ≤ unit && unit ≤ 0xDFFF then pure (.surrogate unit, rest)
    else pure (.char (Char.ofNat unit), rest)
  | '\\' :: letter :: rest => (shortEscape? letter).map fun c => (.char c, rest)
  | c :: rest => if c.toNat < 0x20 || c == '\\' then none else some (.char c, rest)
  | [] => none

/-- The elements of a quoted text up to its closing quote, and what follows. -/
def textPieces? : Nat → List Char → Option (List TextPiece × List Char)
  | 0, _ => none
  | fuel + 1, cs => do
    let (piece, rest) ← textPiece? cs
    match piece with
    | .close => pure ([], rest)
    | _ =>
      let (pieces, rest) ← textPieces? fuel rest
      pure (piece :: pieces, rest)

/-- Joins surrogate pairs; nothing if one half stands alone. -/
def joinPieces? : List TextPiece → Option (List Char)
  | [] => some []
  | .char c :: rest => (joinPieces? rest).map (c :: ·)
  | .surrogate high :: .surrogate low :: rest =>
    if high < 0xDC00 && 0xDC00 ≤ low then
      (joinPieces? rest).map
        (Char.ofNat (0x10000 + (high - 0xD800) * 0x400 + (low - 0xDC00)) :: ·)
    else none
  | _ => none

/-- A text after its opening quote. -/
structure Quoted where
  /-- The text, or nothing if it holds half a surrogate pair. -/
  text? : Option String
  rest : List Char

/-- Reads a text after its opening quote. -/
def quoted? (cs : List Char) : Option Quoted :=
  (textPieces? cs.length cs).map fun (pieces, rest) =>
    ⟨(joinPieces? pieces).map String.ofList, rest⟩

/-- Reads a fixed word. -/
def word? (word : String) (cs : List Char) : Option (List Char) :=
  if word.toList.isPrefixOf cs then some (cs.drop word.length) else none

/-- Reads a value without parts. -/
def scalar? (cs : List Char) : Option (Json × List Char) :=
  match cs with
  | '"' :: rest =>
    (quoted? rest).map fun q =>
      match q.text? with
      | some content => (.text content, q.rest)
      | none => (.unreadable, q.rest)
  | 'n' :: _ => (word? "null" cs).map fun rest => (.null, rest)
  | 't' :: _ => (word? "true" cs).map fun rest => (.bool true, rest)
  | 'f' :: _ => (word? "false" cs).map fun rest => (.bool false, rest)
  | _ => (number? cs).map fun (n, rest) => (n.value, rest)

/-- The number of arrays and objects that may be nested, one more than a readable value has. -/
def maxDepth : Nat := 128

/-- A value with parts, unless it is nested too deep. -/
def collection (depth : Nat) (json : Json) : Json :=
  if depth < maxDepth then json else .unreadable

/-- An object, unless one of its names has no text. -/
def objectOf (members : List (Option String × Json)) : Json :=
  match members.mapM fun member => member.1.map fun name => (name, member.2) with
  | some members => .object members
  | none => .unreadable

mutual

/-- Reads a value within `depth` others and gives back the rest. -/
def value? (fuel depth : Nat) (cs : List Char) : Option (Json × List Char) :=
  match fuel with
  | 0 => none
  | fuel + 1 =>
    let depth := depth + 1
    match skipGap cs with
    | '[' :: rest =>
      match skipGap rest with
      | ']' :: rest => some (collection depth (.array []), rest)
      | rest =>
        (items? fuel depth rest).map fun (items, rest) => (collection depth (.array items), rest)
    | '{' :: rest =>
      match skipGap rest with
      | '}' :: rest => some (collection depth (.object []), rest)
      | rest =>
        (members? fuel depth rest).map fun (members, rest) =>
          (collection depth (objectOf members), rest)
    | cs => scalar? cs

/-- Reads the items of an array up to its closing bracket; there is at least one. -/
def items? (fuel depth : Nat) (cs : List Char) : Option (List Json × List Char) :=
  match fuel with
  | 0 => none
  | fuel + 1 => do
    let (item, rest) ← value? fuel depth cs
    match skipGap rest with
    | ',' :: rest =>
      let (items, rest) ← items? fuel depth rest
      pure (item :: items, rest)
    | ']' :: rest => pure ([item], rest)
    | _ => none

/-- Reads the members of an object up to its closing brace; there is at least one. -/
def members? (fuel depth : Nat) (cs : List Char) :
    Option (List (Option String × Json) × List Char) :=
  match fuel with
  | 0 => none
  | fuel + 1 => do
    let rest ← word? "\"" (skipGap cs)
    let name ← quoted? rest
    let rest ← word? ":" (skipGap name.rest)
    let (value, rest) ← value? fuel depth rest
    match skipGap rest with
    | ',' :: rest =>
      let (members, rest) ← members? fuel depth rest
      pure ((name.text?, value) :: members, rest)
    | '}' :: rest => pure ([(name.text?, value)], rest)
    | _ => none

end

end TableTalk.Json.Reader

namespace TableTalk

/-- Reads a document: one value and nothing after it. -/
def Json.read? (source : String) : Option Json := do
  let cs := source.toList
  let (value, rest) ← Json.Reader.value? (2 * cs.length + 2) 0 cs
  if (Json.Reader.skipGap rest).isEmpty then some value else none

end TableTalk
