/-!
# Word characters

A word character is a letter, a digit or the underscore. Within ASCII these are fixed; which other
characters count is left to an `Alphabet`, and nothing in this library depends on the choice.
-/

namespace ActionTemplate

/-- Which characters beyond ASCII are letters or digits. -/
class Alphabet where
  /-- Whether a character is one of them; the answer counts only beyond ASCII. -/
  isLetter : Char → Bool

namespace Text

variable [Alphabet]

/-- Whether a character can be part of a word. -/
def isWord (c : Char) : Bool :=
  if c.toNat < 0x80 then c = '_' || c.isAlphanum else Alphabet.isLetter c

/-- A character of ASCII is a word character if it is a letter, a digit or the underscore. -/
theorem isWord_of_ascii {c : Char} (h : c.toNat < 0x80) :
    isWord c = (decide (c = '_') || c.isAlphanum) := by
  rw [isWord, if_pos h]

/-- A decimal digit of ASCII is a word character. -/
theorem isWord_of_isDigit {c : Char} (h : c.isDigit = true) : isWord c = true := by
  have hdigit : c.val ≥ '0'.val ∧ c.val ≤ '9'.val := by simpa [Char.isDigit] using h
  have hascii : c.toNat < 0x80 := Nat.lt_of_le_of_lt hdigit.2 (by decide)
  rw [isWord_of_ascii hascii]
  simp [Char.isAlphanum, h]

end Text

end ActionTemplate
