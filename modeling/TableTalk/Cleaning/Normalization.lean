import TableTalk.Text.Words

/-!
# Normalizing free text

Free text is tidied in four steps: a few entities are decoded, tags become
blanks, common emoji become words in brackets, and all runs of blanks become
single spaces.
-/

namespace TableTalk.Cleaning

/-- The entities that are decoded, in the order in which they are replaced. -/
def entities : List (String × String) :=
  [("&nbsp;", " "), ("&lt;", "<"), ("&gt;", ">"), ("&quot;", "\""), ("&#39;", "'"),
    ("&apos;", "'"), ("&amp;", "&")]

/-- The emoji that are replaced, and the words that stand for them. -/
def emoji : List (String × String) :=
  [("😀", "[happy]"), ("😊", "[happy]"), ("🙂", "[happy]"), ("😢", "[sad]"), ("😞", "[sad]"),
    ("😡", "[angry]"), ("😠", "[angry]"), ("👍", "[thumbs_up]"), ("👎", "[thumbs_down]"),
    ("❤️", "[heart]"), ("❤", "[heart]"), ("⭐", "[star]")]

/-- Puts a blank in the place of every tag; a tag runs from an opening bracket to the next closing
one. -/
def replaceTags (inside : Bool) : List Char → List Char
  | [] => []
  | c :: rest =>
    if inside then replaceTags (c != '>') rest
    else if c == '<' && rest.contains '>' then ' ' :: replaceTags true rest
    else c :: replaceTags false rest

/-- Applies replacements one after the other. -/
def replaceEach (replacements : List (String × String)) (cs : List Char) : List Char :=
  replacements.foldl (fun cs entry => Text.replaceAll entry.1.toList entry.2.toList cs) cs

/-- The normal form of a free text. -/
def normalizeText (text : String) : String :=
  let decoded := replaceEach entities text.toList
  let bare := replaceTags false decoded
  let spelled := replaceEach (emoji.map fun entry => (entry.1, " " ++ entry.2 ++ " ")) bare
  " ".intercalate ((Text.wordsOf spelled).map String.ofList)

end TableTalk.Cleaning
