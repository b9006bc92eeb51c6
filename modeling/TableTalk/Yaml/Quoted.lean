import TableTalk.Yaml.Place

/-!
# Quoted scalars

Texts in single or double quotes, over several lines if need be. Within single
quotes a quote is written twice; within double quotes characters may be escaped,
a line break too, which then stands for nothing.
-/

namespace TableTalk.Yaml

/-- The character that a one-letter escape stands for. -/
def escape? (c : Char) : Option Char :=
  [('0', '\x00'), ('a', '\x07'), ('b', '\x08'), ('t', '\t'), ('\t', '\t'), ('n', '\n'),
    ('v', '\x0b'), ('f', '\x0c'), ('r', '\r'), ('e', '\x1b'), (' ', ' '), ('"', '"'), ('/', '/'),
    ('\\', '\\'), ('N', '\u0085'), ('_', '\u00a0'), ('L', '\u2028'), ('P', '\u2029')].lookup c

/-- The number of hexadecimal digits that an escape takes. -/
def escapeLength? (c : Char) : Option Nat :=
  [('x', 2), ('u', 4), ('U', 8)].lookup c

/-- The value of a digit in a base up to sixteen. -/
def digit? (base : Nat) (c : Char) : Option Nat :=
  let value :=
    if c.isDigit then c.toNat - '0'.toNat
    else if 'a' ≤ c && c ≤ 'f' then c.toNat - 'a'.toNat + 10
    else if 'A' ≤ c && c ≤ 'F' then c.toNat - 'A'.toNat + 10
    else base
  if value < base then some value else none

/-- The number that digits in a base stand for; there is at least one. -/
def digits? (base : Nat) (cs : List Char) : Option Nat := do
  if cs.isEmpty then none
  let digits ← cs.mapM (digit? base)
  pure (digits.foldl (fun n d => base * n + d) 0)

/-- The character of an escape whose letter is `c`, and the number of characters after the
letter. -/
def escaped? (c : Char) (rest : List Char) : Option (Char × Nat) :=
  match escapeLength? c with
  | some n => do
    let code ← digits? 16 (rest.take n)
    if rest.length < n || !decide code.isValidChar then none
    pure (Char.ofNat code, n)
  | none => do pure (← escape? c, 0)

/-- What comes next within quotes. -/
inductive QuotedPiece
  /-- Some characters of the text, which take up a number of characters. -/
  | text (content : List Char) (length : Nat)
  /-- Blanks and line breaks. -/
  | gap
  /-- A line break that stands for nothing. -/
  | joint
  | close

/-- The piece at a place, if it is well formed. -/
def quotedPiece? (isDouble : Bool) : List Char → Option QuotedPiece
  | [] => none
  | c :: rest =>
    if isBlank c || isBreak c then some .gap
    else if isDouble then
      if c == '"' then some .close
      else if c != '\\' then some (.text [c] 1)
      else
        match rest with
        | [] => none
        | letter :: rest =>
          if isBreak letter then some .joint
          else (escaped? letter rest).map fun (char, length) => .text [char] (length + 2)
    else if c != '\'' then some (.text [c] 1)
    else if rest.head? == some '\'' then some (.text ['\''] 2)
    else some .close

/-- Reads a text up to its closing quote. No document begins or ends within. -/
def quotedText? (isDouble : Bool) : Nat → Place → Option (List Char × Place)
  | 0, _ => none
  | fuel + 1, s => do
    if s.atMarker then none
    match ← quotedPiece? isDouble s.rest with
    | .close => pure ([], s.next)
    | .text content length =>
      let (more, final) ← quotedText? isDouble fuel (s.skip length)
      pure (content ++ more, final)
    | .gap =>
      let (gap, next) := Gap.read s
      let (more, final) ← quotedText? isDouble fuel next
      pure (gap.text ++ more, final)
    | .joint =>
      let (gap, next) := Gap.read (s.skip 2)
      let (more, final) ← quotedText? isDouble fuel next
      pure (gap.breaks ++ more, final)

/-- Reads a quoted text from its opening quote on. -/
def quoted? (s : Place) : Option (List Char × Place) :=
  quotedText? (s.startsWith '"') (s.rest.length + 1) s.next

end TableTalk.Yaml
