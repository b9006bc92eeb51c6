import TableTalk.Text.Lowercase
import TableTalk.Text.Words

/-!
# Tokens and normal forms

A question is read as lower case tokens of letters, numbers and underscores. The
normal form of a term, under which columns are compared, drops the underscores
as well and takes off one plural ending.
-/

namespace TableTalk.Matching

/-- The word without a plural ending. Lengths count bytes, so that a short word of long letters
loses its ending too. -/
def singular (word : List Char) : List Char :=
  let size := Text.byteCount word
  if 4 < size && "ies".toList.isSuffixOf word then word.take (word.length - 3) ++ ['y']
  else if 3 < size && ['s'].isSuffixOf word && !(['s', 's'].isSuffixOf word) then word.dropLast
  else word

/-- Lower case letters and numbers of a term, without a plural ending. -/
def normalForm (term : String) : String :=
  String.ofList (singular ((Text.lower term).toList.filter Text.isAlphanumeric))

/-- Whether a character belongs to a token. -/
def isTokenChar (c : Char) : Bool :=
  Text.isAlphanumeric c || c == '_'

/-- The tokens of a question, in order. -/
def tokens (question : String) : List String :=
  let spaced := (Text.lower question).toList.map fun c => if isTokenChar c then c else ' '
  (Text.wordsOf spaced).map String.ofList

/-- Words with single spaces around each, so that phrases can be found between spaces. -/
def padded (words : List String) : String :=
  " " ++ " ".intercalate words ++ " "

/-- The tokens of a question with spaces around each. -/
def phraseText (question : String) : String :=
  padded (tokens question)

/-- Whether a phrase occurs in a padded text as whole words. -/
def hasPhrase (text phrase : String) : Bool :=
  Text.contains text (" " ++ phrase ++ " ")

end TableTalk.Matching
