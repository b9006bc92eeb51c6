import TableTalk.Yaml.Place

/-!
# Block scalars

Texts that are set off by indentation: literal ones keep their line breaks,
folded ones join lines. Signs after the indicator say how deep the text stands,
and whether the breaks at its end are kept or dropped.
-/

namespace TableTalk.Yaml

/-- What is done with the line breaks at the end. -/
inductive Chomping
  | clip
  | strip
  | keep
deriving DecidableEq

/-- What the signs after the indicator say. -/
structure BlockHeader where
  chomping : Chomping
  /-- How much deeper than its parent the text stands, if that is said. -/
  increment : Option Nat

/-- The way to end that a sign asks for. -/
def chomping? (c : Char) : Option Chomping :=
  if c == '+' then some .keep else if c == '-' then some .strip else none

/-- Reads the signs after the indicator: at most one of each kind, in any order. -/
def blockHeader? (s : Place) : Option (BlockHeader × Place) := do
  let sign (s : Place) : Option Chomping := s.rest.head?.bind chomping?
  let depth (s : Place) : Option Nat :=
    (s.rest.head?.filter Char.isDigit).map fun c => c.toNat - '0'.toNat
  let (header, s) : BlockHeader × Place :=
    match sign s, depth s with
    | some chomping, _ =>
      match depth s.next with
      | some n => (⟨chomping, some n⟩, s.skip 2)
      | none => (⟨chomping, none⟩, s.next)
    | none, some n =>
      match sign s.next with
      | some chomping => (⟨chomping, some n⟩, s.skip 2)
      | none => (⟨.clip, some n⟩, s.next)
    | none, none => (⟨.clip, none⟩, s)
  if header.increment == some 0 then none
  pure (header, s)

/-- The lines without text at a place. -/
structure EmptyLines where
  breaks : List Char
  /-- The column that the deepest of these lines, or the one after them, goes to. -/
  deepest : Nat
  final : Place

/-- Passes lines without text and the indentation of the next one, up to a column if there is one.
No tab may stand where the indentation goes on. -/
def emptyLines? (column : Option Nat) : Nat → Place → Option EmptyLines
  | 0, _ => none
  | fuel + 1, s => do
    let spaces := (s.rest.takeWhile (· == ' ')).length
    let s := s.skip (match column with
      | some n => min spaces (n - s.column)
      | none => spaces)
    if s.startsWith '\t' && column.all (s.column < ·) then none
    match s.rest with
    | [] => pure ⟨[], s.column, s⟩
    | c :: _ =>
      if isBreak c then
        let more ← emptyLines? column fuel s.next
        pure ⟨c :: more.breaks, max s.column more.deepest, more.final⟩
      else pure ⟨[], s.column, s⟩

/-- A part of a block: its text but for the line breaks at the end. -/
structure BlockText where
  content : List Char
  /-- The break of the last line. -/
  lastBreak : List Char
  /-- The breaks of the empty lines after it. -/
  trailing : List Char
  final : Place

/-- Reads the lines that stand at a column, on from a place with line breaks before it: the break
of the last line with text, and those of empty lines after it. Folding replaces the single break
between two lines that do not begin with a blank by a space. -/
def blockText? (isFolded : Bool) (column : Nat) :
    Nat → (afterBlank : Bool) → (lastBreak trailing : List Char) → Place → Option BlockText
  | 0, _, _, _, _ => none
  | fuel + 1, afterBlank, lastBreak, trailing, s => do
    if s.rest.isEmpty || s.column != column then return ⟨[], lastBreak, trailing, s⟩
    let startsBlank := s.rest.head?.any isBlank
    let joint :=
      if isFolded && lastBreak == ['\n'] && !afterBlank && !startsBlank then
        if trailing.isEmpty then [' '] else []
      else lastBreak
    let line := s.rest.takeWhile fun c => !isBreak c
    let after := s.skip line.length
    let empty ← emptyLines? (some column) (after.rest.length + 1) after.next
    let more ←
      blockText? isFolded column fuel startsBlank (after.rest.take 1) empty.breaks empty.final
    pure { more with content := joint ++ trailing ++ line ++ more.content }

/-- The content of a block with the breaks that are kept at its end. -/
def BlockText.chomp (text : BlockText) : Chomping → List Char
  | .strip => text.content
  | .clip => text.content ++ text.lastBreak
  | .keep => text.content ++ text.lastBreak ++ text.trailing

/-- Reads a block scalar from its indicator on, whose lines stand deeper than `parent`. -/
def block? (isFolded : Bool) (parent : Int) (s : Place) : Option (List Char × Place) := do
  let (header, s) ← blockHeader? s.next
  let s ← s.endLine?
  let fuel := s.rest.length + 1
  let column := header.increment.map fun n => parent.toNat + n
  let empty ← emptyLines? column fuel s
  let column := column.getD (max empty.deepest (max (parent + 1).toNat 1))
  let text ← blockText? isFolded column fuel false [] empty.breaks empty.final
  pure (text.chomp header.chomping, text.final)

end TableTalk.Yaml
