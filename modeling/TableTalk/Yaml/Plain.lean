import TableTalk.Yaml.Place

/-!
# Plain scalars

Texts without quotes. They end at a comment, at a colon with a blank after it, at
a line that stands less deep, and within brackets at each character that has a
meaning there.
-/

namespace TableTalk.Yaml

/-- The characters with which no plain scalar begins, wherever it stands. -/
def indicators : List Char :=
  [',', '[', ']', '{', '}', '#', '&', '*', '!', '|', '>', '\'', '"', '%', '@', '\x60']

/-- Whether a plain scalar begins here. -/
def startsPlain (inFlow : Bool) (s : Place) : Bool :=
  match s.rest with
  | [] => false
  | c :: _ =>
    if c == '-' then !s.spaceAt 1
    else if c == '?' || c == ':' then !inFlow && !s.spaceAt 1
    else !isSpaceOrEnd (some c) && !indicators.contains c

/-- The characters of a plain scalar up to the next blank. Within brackets a colon may not stand
before another indicator. -/
def plainRun? (inFlow : Bool) : List Char → Option (List Char)
  | [] => some []
  | c :: rest =>
    if isSpaceOrEnd (some c) then some []
    else if inFlow && c == ':' && rest.head?.any (fun d => d == '?' || isFlowIndicator d) then none
    else if c == ':' && isSpaceOrEnd rest.head? then some []
    else if inFlow && isFlowIndicator c then some []
    else (plainRun? inFlow rest).map (c :: ·)

/-- A text without quotes. -/
structure PlainText where
  content : List Char
  /-- Whether the place after it is on a later line. -/
  endsLine : Bool
  final : Place

/-- Reads a plain scalar on from a place with a gap before it. Its lines stand at least at a
column. -/
def plainText? (inFlow : Bool) (indent : Nat) : Nat → Gap → Place → Option PlainText
  | 0, _, _ => none
  | fuel + 1, before, s => do
    if s.atMarker || s.startsWith '#' then return ⟨[], before.endsLine, s⟩
    let run ← plainRun? inFlow s.rest
    if run.isEmpty then return ⟨[], before.endsLine, s⟩
    let content := before.text ++ run
    let after := s.skip run.length
    let (gap, next) ← Gap.readIndented? indent after
    if gap.blanks.isEmpty && !gap.endsLine then return ⟨content, false, after⟩
    if !inFlow && next.column < indent then return ⟨content, gap.endsLine, next⟩
    let more ← plainText? inFlow indent fuel gap next
    pure { more with content := content ++ more.content }

/-- Reads a plain scalar. -/
def plain? (inFlow : Bool) (indent : Nat) (s : Place) : Option PlainText :=
  plainText? inFlow indent (s.rest.length + 1) .empty s

end TableTalk.Yaml
