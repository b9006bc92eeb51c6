import TableTalk.Yaml.Block
import TableTalk.Yaml.Plain
import TableTalk.Yaml.Quoted

/-!
# Tokens of a YAML text

The smallest parts that have a meaning of their own, and the readers of those
that are longer than a sign. Where collections begin and end by indentation
alone, tokens say so too.
-/

namespace TableTalk.Yaml

/-- How a scalar is written. -/
inductive Style
  | plain
  | quoted
  | literal
  | folded
deriving DecidableEq

/-- A part of a text. -/
inductive Token
  /-- The version of the syntax that a text asks for. -/
  | version (major minor : Nat)
  /-- What a handle of tags stands for. -/
  | handle (name replacement : String)
  | documentStart
  | documentEnd
  /-- A sequence that is set off by indentation begins. -/
  | blockSequence
  | blockMapping
  /-- A collection that is set off by indentation ends. -/
  | blockEnd
  | item
  | key
  | value
  | openSequence
  | closeSequence
  | openMapping
  | closeMapping
  | comma
  | anchor (name : String)
  | reference (name : String)
  /-- A handle and what follows it; a tag that is given in full has an empty handle. -/
  | tag (handle suffix : String)
  | scalar (style : Style) (text : String)
deriving DecidableEq

/-- The characters of a tag other than escapes; a tag that is given in full may hold more. -/
def isTagChar (isFull : Bool) (c : Char) : Bool :=
  isWordChar c || ";/?:@&=+$.!~*'()".toList.contains c
    || (isFull && (c == ',' || c == '[' || c == ']'))

/-- An escaped octet. -/
def octet? (s : Place) : Option (Nat × Place) :=
  match s.rest with
  | '%' :: a :: b :: _ => do
    let n ← digits? 16 [a, b]
    pure (n, s.skip 3)
  | _ => none

/-- The number of octets that follow the first one of a character. -/
def trailingOctets? (first : Nat) : Option Nat :=
  if first < 0x80 then some 0
  else if first < 0xC0 then none
  else if first < 0xE0 then some 1
  else if first < 0xF0 then some 2
  else if first < 0xF8 then some 3
  else none

/-- Reads escaped octets that continue a character. -/
def moreOctets? : Nat → Place → Option (List Char × Place)
  | 0, s => some ([], s)
  | n + 1, s => do
    let (octet, next) ← octet? s
    if octet < 0x80 || 0xC0 ≤ octet then none
    let (more, final) ← moreOctets? n next
    pure (Char.ofNat octet :: more, final)

/-- Reads the characters of a tag. An escaped octet is kept as the character of its number. -/
def tagText? (isFull : Bool) : Nat → Place → Option (List Char × Place)
  | 0, _ => none
  | fuel + 1, s =>
    match s.rest with
    | '%' :: _ => do
      let (first, next) ← octet? s
      let (octets, next) ← moreOctets? (← trailingOctets? first) next
      let (more, final) ← tagText? isFull fuel next
      pure (Char.ofNat first :: octets ++ more, final)
    | c :: _ =>
      if isTagChar isFull c then do
        let (more, final) ← tagText? isFull fuel s.next
        pure (c :: more, final)
      else some ([], s)
    | [] => some ([], s)

/-- Reads the characters of a tag to the end. -/
def tagRest? (isFull : Bool) (s : Place) : Option (List Char × Place) :=
  tagText? isFull (s.rest.length + 1) s

/-- Reads a handle: an exclamation mark, and perhaps a word with another one. -/
def handle? (s : Place) : Option (List Char × Place) :=
  if !s.startsWith '!' then none
  else
    let (word, after) := s.next.word
    if after.startsWith '!' then some ('!' :: word ++ ['!'], after.next)
    else some ('!' :: word, after)

/-- Whether a text from the start of a tag is a handle with a word of its own. -/
def isNamedHandle (cs : List Char) : Bool :=
  1 < cs.length && cs.getLast? == some '!'

/-- Reads a tag without looking at what follows it. -/
def tag? (s : Place) : Option (Token × Place) :=
  if s.next.startsWith '<' then do
    let (suffix, final) ← tagRest? true (s.skip 2)
    if suffix.isEmpty || !final.startsWith '>' then none
    pure (.tag "" (String.ofList suffix), final.next)
  else do
    let (handle, after) ← handle? s
    let (suffix, final) ← tagRest? false after
    if isNamedHandle handle then
      if suffix.isEmpty then none
      pure (.tag (String.ofList handle) (String.ofList suffix), final)
    else
      let suffix := handle.drop 1 ++ suffix
      if suffix.isEmpty then pure (.tag "" "!", final)
      else pure (.tag "!" (String.ofList suffix), final)

/-- The characters other than blanks that may follow the name of an anchor. -/
def anchorEnds : List Char := ['?', ':', ',', ']', '}', '%', '@', '\x60']

/-- Reads the name of an anchor after its sign. -/
def anchorName? (s : Place) : Option (String × Place) :=
  let (name, after) := s.word
  if !name.isEmpty && (after.spaceAt 0 || after.rest.head?.any anchorEnds.contains) then
    some (String.ofList name, after)
  else none

/-- Reads a number of a version. -/
def versionNumber? (s : Place) : Option (Nat × Place) := do
  let digits := s.rest.takeWhile Char.isDigit
  if 9 < digits.length then none
  pure (← digits? 10 digits, s.skip digits.length)

/-- Reads a directive up to the end of its line. -/
def directive? (s : Place) : Option (Token × Place) := do
  let (name, s) := s.next.word
  if !s.spaceAt 0 then none
  let s := s.skipBlanks
  match String.ofList name with
  | "YAML" =>
    let (major, s) ← versionNumber? s
    if !s.startsWith '.' then none
    let (minor, s) ← versionNumber? s.next
    pure (.version major minor, ← s.endLine?)
  | "TAG" =>
    let (handle, s) ← handle? s
    if !(s.rest.head?.any isBlank && (handle == ['!'] || isNamedHandle handle)) then none
    let (replacement, s) ← tagRest? true s.skipBlanks
    if replacement.isEmpty || !s.spaceAt 0 then none
    pure (.handle (String.ofList handle) (String.ofList replacement), ← s.endLine?)
  | _ => none

end TableTalk.Yaml
