import TableTalk.Text.Hidden

/-!
# Quoted texts in messages

A text is quoted so that nothing in it is invisible: quotes and backslashes are
escaped, and so are line breaks, tabs and all other hidden characters.
-/

namespace TableTalk.Text

/-- A character as it stands in a quoted text. -/
def escape (c : Char) : List Char :=
  if c == '"' then ['\\', '"']
  else if c == '\\' then ['\\', '\\']
  else if c == '\n' then ['\\', 'n']
  else if c == '\r' then ['\\', 'r']
  else if c == '\t' then ['\\', 't']
  else if c.toNat = 0 then ['\\', '0']
  else if isHidden c then
    '\\' :: 'u' :: '{' :: (Nat.toDigits 16 c.toNat ++ ['}'])
  else [c]

/-- A text in quotes. -/
def quoted (text : String) : String :=
  String.ofList ('"' :: (text.toList.flatMap escape ++ ['"']))

end TableTalk.Text
