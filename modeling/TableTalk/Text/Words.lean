import TableTalk.Text.Class

/-!
# Words and parts of a text

Trimming, splitting, searching and replacing, stated on lists of characters and
lifted to strings. A part of a text is a run of adjacent characters; words are
the maximal runs without a blank.
-/

namespace TableTalk.Text

/-- Drops the characters of a class from the end. -/
def dropEndWhile (p : Char → Bool) (cs : List Char) : List Char :=
  (cs.reverse.dropWhile p).reverse

/-- Drops the characters of a class from both ends. -/
def stripWhile (p : Char → Bool) (cs : List Char) : List Char :=
  dropEndWhile p (cs.dropWhile p)

/-- The text without blanks at either end. -/
def trim (text : String) : String :=
  String.ofList (stripWhile isBlank text.toList)

/-- The text without blanks at its end. -/
def trimEnd (text : String) : String :=
  String.ofList (dropEndWhile isBlank text.toList)

/-- The pieces between the separators; there is one piece more than there are separators. -/
def splitWhere (isSeparator : Char → Bool) : List Char → List (List Char)
  | [] => [[]]
  | c :: cs =>
    if isSeparator c then [] :: splitWhere isSeparator cs
    else
      match splitWhere isSeparator cs with
      | [] => [[c]]
      | piece :: pieces => (c :: piece) :: pieces

/-- The pieces of a text between occurrences of a separator. -/
def splitOn (separator : Char) (text : String) : List String :=
  (splitWhere (· == separator) text.toList).map String.ofList

/-- The words of a list of characters, in order. -/
def wordsOf (cs : List Char) : List (List Char) :=
  (splitWhere isBlank cs).filter fun word => !word.isEmpty

/-- The words of a text, in order. -/
def words (text : String) : List String :=
  (wordsOf text.toList).map String.ofList

/-- Whether `part` occurs in the characters as a run of adjacent ones. -/
def hasPart (part : List Char) : List Char → Bool
  | [] => part.isEmpty
  | c :: cs => part.isPrefixOf (c :: cs) || hasPart part cs

/-- Whether `part` occurs in `text`. -/
def contains (text part : String) : Bool :=
  hasPart part.toList text.toList

/-- Whether `text` begins with `start`. -/
def startsWith (text start : String) : Bool :=
  start.toList.isPrefixOf text.toList

/-- Whether `text` ends with `tail`. -/
def endsWith (text tail : String) : Bool :=
  tail.toList.isSuffixOf text.toList

/-- Replaces the first occurrence of `old`, if there is one. -/
def replaceFirst (old new : List Char) : List Char → List Char
  | [] => []
  | c :: cs =>
    if old.isPrefixOf (c :: cs) then new ++ (c :: cs).drop old.length
    else c :: replaceFirst old new cs

/-- Replaces the occurrences of `old` from left to right, after `skip` characters that belong to
an occurrence already replaced. -/
def replaceAfter (old new : List Char) : Nat → List Char → List Char
  | _, [] => []
  | skip + 1, _ :: cs => replaceAfter old new skip cs
  | 0, c :: cs =>
    if old.isPrefixOf (c :: cs) then new ++ replaceAfter old new (old.length - 1) cs
    else c :: replaceAfter old new 0 cs

/-- Replaces every occurrence of a non-empty `old`, from left to right. -/
def replaceAll (old new : List Char) (cs : List Char) : List Char :=
  replaceAfter old new 0 cs

/-- The number of characters of a text. -/
def charCount (text : String) : Nat :=
  text.toList.length

/-- The number of bytes a character takes in UTF-8. -/
def byteCount (cs : List Char) : Nat :=
  cs.foldr (fun c count => c.utf8Size + count) 0

theorem hasPart_iff_isInfix {part cs : List Char} : hasPart part cs = true ↔ part <:+: cs := by
  induction cs with
  | nil => simp [hasPart]
  | cons c cs ih => simp [hasPart, ih, List.infix_cons_iff]

theorem contains_iff_isInfix {text part : String} :
    contains text part = true ↔ part.toList <:+: text.toList :=
  hasPart_iff_isInfix

end TableTalk.Text
