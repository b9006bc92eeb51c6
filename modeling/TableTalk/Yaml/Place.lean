/-!
# Places in a YAML text

The place where a reader stands: what is left of the text, and the line and
column. A line ends at a line feed or at one of two separators of its own; all
other line breaks have become line feeds before a text is read.
-/

namespace TableTalk.Yaml

/-- Whether a character may stand in a text. -/
def isPrintable (c : Char) : Bool :=
  c == '\t' || c == '\n' || c == '\r' || c == '\u0085'
    || (0x20 ≤ c.toNat && c.toNat ≤ 0x7E)
    || (0xA0 ≤ c.toNat && c.toNat ≤ 0xFFFD) || 0x10000 ≤ c.toNat

/-- Whether a line ends at a character. -/
def isBreak (c : Char) : Bool :=
  c == '\n' || c == '\u2028' || c == '\u2029'

/-- A blank within a line. -/
def isBlank (c : Char) : Bool :=
  c == ' ' || c == '\t'

/-- Whether a character, or the end of the text, separates tokens. -/
def isSpaceOrEnd : Option Char → Bool
  | none => true
  | some c => isBlank c || isBreak c

/-- The characters of the names of anchors, handles and directives. -/
def isWordChar (c : Char) : Bool :=
  c.isAlphanum || c == '_' || c == '-'

/-- The characters that have a meaning of their own within brackets. -/
def isFlowIndicator (c : Char) : Bool :=
  [',', '[', ']', '{', '}'].contains c

/-- Line breaks in one spelling. -/
def unixLines : List Char → List Char
  | '\r' :: '\n' :: rest => '\n' :: unixLines rest
  | '\r' :: rest => '\n' :: unixLines rest
  | '\u0085' :: rest => '\n' :: unixLines rest
  | c :: rest => c :: unixLines rest
  | [] => []

/-- A place in a text. -/
structure Place where
  rest : List Char
  /-- The number of characters before. -/
  index : Nat
  line : Nat
  column : Nat

namespace Place

/-- The start of a text. -/
def start (cs : List Char) : Place := ⟨cs, 0, 0, 0⟩

/-- Moves over one character. -/
def next (s : Place) : Place :=
  match s.rest with
  | [] => s
  | c :: rest =>
    if isBreak c then ⟨rest, s.index + 1, s.line + 1, 0⟩
    else ⟨rest, s.index + 1, s.line, s.column + 1⟩

/-- Moves over some characters. -/
def skip (s : Place) : Nat → Place
  | 0 => s
  | n + 1 => s.next.skip n

/-- Moves over characters of a class. -/
def skipWhile (s : Place) (p : Char → Bool) : Place :=
  s.skip (s.rest.takeWhile p).length

/-- Moves over a word, and gives it back. -/
def word (s : Place) : List Char × Place :=
  (s.rest.takeWhile isWordChar, s.skipWhile isWordChar)

/-- Moves over blanks. -/
def skipBlanks (s : Place) : Place :=
  s.skipWhile isBlank

/-- Whether the place is at a character. -/
def startsWith (s : Place) (c : Char) : Bool :=
  s.rest.head? == some c

/-- Moves over a comment, if there is one here, up to the end of the line. -/
def skipComment (s : Place) : Place :=
  if s.startsWith '#' then s.skipWhile fun c => !isBreak c else s

/-- Whether a blank, a line break or the end comes after the first `n` characters. -/
def spaceAt (s : Place) (n : Nat) : Bool :=
  isSpaceOrEnd s.rest[n]?

/-- Whether the place is at the end of a line. -/
def atLineEnd (s : Place) : Bool :=
  s.rest.head?.all isBreak

/-- Whether the place is at a character with a blank after it. -/
def atIndicator (s : Place) (c : Char) : Bool :=
  s.startsWith c && s.spaceAt 1

/-- Whether the place is at a marker of a line of its own: three times a character. -/
def atMarkerOf (s : Place) (c : Char) : Bool :=
  s.column == 0 && [c, c, c].isPrefixOf s.rest && s.spaceAt 3

/-- Whether a document begins or ends here. -/
def atMarker (s : Place) : Bool :=
  s.atMarkerOf '-' || s.atMarkerOf '.'

/-- Ends a line on which nothing but blanks and a comment may follow. -/
def endLine? (s : Place) : Option Place :=
  let s := s.skipBlanks.skipComment
  if s.atLineEnd then some s.next else none

end Place

/-- The blanks and line breaks between two parts of a scalar. -/
structure Gap where
  /-- The blanks on the first line. -/
  blanks : List Char
  breaks : List Char

namespace Gap

/-- No gap. -/
def empty : Gap := ⟨[], []⟩

/-- Whether the gap goes on to another line. -/
def endsLine (gap : Gap) : Bool :=
  !gap.breaks.isEmpty

/-- The text that a gap stands for: its blanks on one line, and else its line breaks without the
first one, or a space if there is no other. -/
def text (gap : Gap) : List Char :=
  match gap.breaks with
  | [] => gap.blanks
  | ['\n'] => [' ']
  | '\n' :: breaks => breaks
  | breaks => breaks

/-- The gap at a place, and the place after it. -/
def read (s : Place) : Gap × Place :=
  let blanks := s.rest.takeWhile isBlank
  let all := s.rest.takeWhile fun c => isBlank c || isBreak c
  (⟨blanks, all.filter isBreak⟩, s.skip all.length)

end Gap

/-- Whether every tab that follows a line break stands at least at a column. -/
def tabsReach (indent column : Nat) : List Char → Bool
  | [] => true
  | c :: cs =>
    if isBreak c then tabsReach indent 0 cs
    else (c != '\t' || indent ≤ column) && tabsReach indent (column + 1) cs

/-- Reads a gap in which lines are not indented by tabs up to a column. -/
def Gap.readIndented? (indent : Nat) (s : Place) : Option (Gap × Place) :=
  let later := (s.skipBlanks.rest).takeWhile fun c => isBlank c || isBreak c
  if tabsReach indent 0 later then some (Gap.read s) else none

end TableTalk.Yaml
