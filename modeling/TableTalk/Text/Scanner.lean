import TableTalk.Text.Words

/-!
# Scanning for patterns

A scanner reads a pattern at a cursor and lists every way to read it, the
preferred way first: what comes first in an alternative is preferred, and so is
the longer of two repetitions. `findFirst` and `findAll` look for the pattern
from left to right. The cursor keeps the characters in front of it, because
word boundaries look back.
-/

namespace TableTalk.Text

/-- A place in a text: the characters in front of it, the nearest first, and those after it. -/
structure Cursor where
  before : List Char
  after : List Char
deriving DecidableEq, Repr

/-- Moves over the first `n` characters. -/
def Cursor.advance (cursor : Cursor) (n : Nat) : Cursor :=
  ⟨(cursor.after.take n).reverse ++ cursor.before, cursor.after.drop n⟩

/-- Every reading of a pattern at a cursor, the preferred one first. -/
abbrev Scanner (α : Type) := Cursor → List (α × Cursor)

namespace Scanner

/-- Reads nothing. -/
def done (value : α) : Scanner α := fun cursor => [(value, cursor)]

/-- Reads one pattern and then the next. -/
def andThen (first : Scanner α) (next : α → Scanner β) : Scanner β := fun cursor =>
  (first cursor).flatMap fun (value, rest) => next value rest

instance : Monad Scanner where
  pure := done
  bind := andThen

/-- Prefers the first pattern. -/
def either (first second : Scanner α) : Scanner α := fun cursor =>
  first cursor ++ second cursor

/-- The first pattern of a list that fits is preferred. -/
def oneOf (scanners : List (Scanner α)) : Scanner α := fun cursor =>
  scanners.flatMap fun scanner => scanner cursor

/-- Reads the pattern if it can, else nothing. -/
def optional (scanner : Scanner Unit) : Scanner Unit :=
  either scanner (done ())

/-- Reads one character of a class. -/
def one (p : Char → Bool) : Scanner Char := fun cursor =>
  match cursor.after with
  | c :: rest => if p c then [(c, ⟨c :: cursor.before, rest⟩)] else []
  | [] => []

/-- Reads from `least` to `most` characters of a class, preferably many. -/
def between (least most : Nat) (p : Char → Bool) : Scanner (List Char) := fun cursor =>
  let run := (cursor.after.take most).takeWhile p
  ((List.range (run.length + 1)).reverse.filter (least ≤ ·)).map fun n =>
    (run.take n, cursor.advance n)

/-- Reads characters of a class, preferably many. -/
def many (p : Char → Bool) : Scanner (List Char) := fun cursor =>
  between 0 cursor.after.length p cursor

/-- Reads at least one character of a class, preferably many. -/
def some (p : Char → Bool) : Scanner (List Char) := fun cursor =>
  between 1 cursor.after.length p cursor

/-- Reads exactly this text. -/
def text (expected : String) : Scanner String := fun cursor =>
  let cs := expected.toList
  if cs.isPrefixOf cursor.after then [(expected, cursor.advance cs.length)] else []

/-- Reads words separated by blanks, and gives them back with the blanks as they stand. -/
def phrase : List String → Scanner String
  | [] => done ""
  | [word] => text word
  | word :: rest => do
    let head ← text word
    let gap ← some isBlank
    let tail ← phrase rest
    pure (head ++ String.ofList gap ++ tail)

/-- Succeeds between a character of a word and one that is not. -/
def boundary : Scanner Unit := fun cursor =>
  if (cursor.before.head?.any isWordChar) != (cursor.after.head?.any isWordChar) then
    [((), cursor)]
  else []

/-- Succeeds at the end of the text. -/
def atEnd : Scanner Unit := fun cursor =>
  if cursor.after.isEmpty then [((), cursor)] else []

/-- Reads digits of any script. -/
def digits : Scanner (List Char) := some isWordDigit

/-- Whether the pattern reads the whole text. -/
def fits (scanner : Scanner α) (source : String) : Bool :=
  (scanner ⟨[], source.toList⟩).any fun (_, rest) => rest.after.isEmpty

end Scanner

/-- A pattern found in a text. -/
structure Found (α : Type) where
  /-- The characters in front of it, the nearest first. -/
  before : List Char
  value : α
  /-- The number of characters it takes. -/
  length : Nat

/-- The preferred reading of the pattern at one place. -/
def readAt (scanner : Scanner α) (cursor : Cursor) : Option (Found α) :=
  (scanner cursor).head?.map fun (value, rest) =>
    ⟨cursor.before, value, cursor.after.length - rest.after.length⟩

/-- All occurrences after a cursor that do not overlap, each as far left as possible; the first
`skip` characters belong to the occurrence found last. -/
def findAllAfter (scanner : Scanner α) (before : List Char) : Nat → List Char → List (Found α)
  | _, [] => []
  | skip + 1, c :: rest => findAllAfter scanner (c :: before) skip rest
  | 0, c :: rest =>
    match readAt scanner ⟨before, c :: rest⟩ with
    | some found => found :: findAllAfter scanner (c :: before) (found.length - 1) rest
    | none => findAllAfter scanner (c :: before) 0 rest

/-- The occurrences of a pattern that takes at least one character, from left to right. -/
def findAll (scanner : Scanner α) (source : String) : List (Found α) :=
  findAllAfter scanner [] 0 source.toList

/-- The leftmost occurrence of a pattern. -/
def findFirst (scanner : Scanner α) (source : String) : Option (Found α) :=
  (findAll scanner source).head?

/-- Puts `new` in the place of every occurrence, after `skip` characters of the last one. -/
def substituteAfter (scanner : Scanner α) (new : List Char) (before : List Char) :
    Nat → List Char → List Char
  | _, [] => []
  | skip + 1, c :: rest => substituteAfter scanner new (c :: before) skip rest
  | 0, c :: rest =>
    match readAt scanner ⟨before, c :: rest⟩ with
    | some found => new ++ substituteAfter scanner new (c :: before) (found.length - 1) rest
    | none => c :: substituteAfter scanner new (c :: before) 0 rest

/-- Puts `new` in the place of every occurrence of a pattern. -/
def substitute (scanner : Scanner α) (new source : String) : String :=
  String.ofList (substituteAfter scanner new.toList [] 0 source.toList)

end TableTalk.Text
