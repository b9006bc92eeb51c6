import TableTalk.Text.Letters
import TableTalk.Text.Digits
import TableTalk.Text.Marks
import TableTalk.Text.Recent

/-!
# Character classes

Blanks, characters of names and characters of words. Names are made of letters
and numbers; words, for the purpose of word boundaries, also take combining
marks and connecting punctuation, but no fractions or superscripts, and none of
the newest characters.
-/

namespace TableTalk.Text

/-- Whether a character is white space. -/
def isBlank (c : Char) : Bool :=
  let n := c.toNat
  (0x09 ≤ n && n ≤ 0x0D) || n == 0x20 || n == 0x85 || n == 0xA0 || n == 0x1680 ||
    (0x2000 ≤ n && n ≤ 0x200A) || n == 0x2028 || n == 0x2029 || n == 0x202F || n == 0x205F ||
    n == 0x3000

/-- Whether a character is a letter or a number. -/
def isAlphanumeric (c : Char) : Bool :=
  isLetter c || isNumber c

/-- Whether a character is a decimal digit for patterns. -/
def isWordDigit (c : Char) : Bool :=
  isDecimalDigit c && !isRecent c

/-- Whether a character is part of a word when word boundaries are looked for. -/
def isWordChar (c : Char) : Bool :=
  (isLetter c || isDecimalDigit c || isWordExtender c) && !isRecent c

theorem isBlank_of_isWhitespace {c : Char} (h : c.isWhitespace = true) : isBlank c = true := by
  simp only [Char.isWhitespace, Bool.or_eq_true, decide_eq_true_eq] at h
  rcases h with ((rfl | rfl) | rfl) | rfl <;> decide

end TableTalk.Text
