import ActionTemplate.Text.Numeral
import ActionTemplate.Text.Unprintable

/-!
# Quoted text

`quote` shows a text between double quotes. It works character by character: the quote, the
backslash, the null character, the tab and the two line breaks have a two-letter form behind a
backslash, a character that cannot be printed is given by its code point in hexadecimal, and all
others stand for themselves.
-/

namespace ActionTemplate.Text

/-- The form of a character between quotes. -/
def escape (c : Char) : List Char :=
  if c = '\x00' then ['\\', '0']
  else if c = '\t' then ['\\', 't']
  else if c = '\r' then ['\\', 'r']
  else if c = '\n' then ['\\', 'n']
  else if c = '"' then ['\\', '"']
  else if c = '\\' then ['\\', '\\']
  else if isUnprintable c then ['\\', 'u', '\x7b'] ++ hexadecimal c.toNat ++ ['\x7d']
  else [c]

/-- The characters of a quoted text. -/
def quotedChars (u : List Char) : List Char := '"' :: (u.flatMap escape ++ ['"'])

/-- A text between double quotes, its characters escaped one by one. -/
def quote (s : String) : String := String.ofList (quotedChars s.toList)

end ActionTemplate.Text
