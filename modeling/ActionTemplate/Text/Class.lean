import ActionTemplate.Text.Word

/-!
# Character classes of the template language

Every character is a line break, a blank, a sign, a word character or a filler, and the five classes
exclude one another. A filler belongs to no token of its own; it stays in front of the next one. The
digits, decimal and hexadecimal, are word characters.
-/

namespace ActionTemplate.Text

/-- The space and the tab. -/
def isBlank (c : Char) : Bool := c = ' ' || c = '\t'

/-- The carriage return and the line feed. -/
def isLineBreak (c : Char) : Bool := c = '\r' || c = '\n'

/-- The plus and the minus sign. -/
def isSign (c : Char) : Bool := c = '+' || c = '-'

/-- The sixteen hexadecimal digits, the letters in either case. -/
def isHexDigit (c : Char) : Bool :=
  c.isDigit || ('a' ≤ c && c ≤ 'f') || ('A' ≤ c && c ≤ 'F')

/-- A character that may stand directly behind a word. -/
def mayFollowWord (c : Char) : Bool :=
  isBlank c || isLineBreak c || ['.', ',', '|', ':', ')', '('].contains c

/-! ## How the classes lie to one another -/

/-- A line break is neither a blank nor a sign. -/
theorem isBlank_isSign_eq_false_of_isLineBreak {c : Char} (h : isLineBreak c = true) :
    isBlank c = false ∧ isSign c = false := by
  simp only [isLineBreak, Bool.or_eq_true, decide_eq_true_eq] at h
  rcases h with rfl | rfl <;> decide

/-- A blank is no sign. -/
theorem isSign_eq_false_of_isBlank {c : Char} (h : isBlank c = true) : isSign c = false := by
  simp only [isBlank, Bool.or_eq_true, decide_eq_true_eq] at h
  rcases h with rfl | rfl <;> decide

/-- A decimal digit is a hexadecimal digit. -/
theorem isHexDigit_of_isDigit {c : Char} (h : c.isDigit = true) : isHexDigit c = true := by
  simp [isHexDigit, h]

/-- What begins a numeral is neither a line break nor a blank. -/
theorem isLineBreak_isBlank_eq_false_of_sign_or_digit {c : Char}
    (h : (isSign c || c.isDigit) = true) : isLineBreak c = false ∧ isBlank c = false := by
  constructor
  · cases hbreak : isLineBreak c with
    | false => rfl
    | true =>
        simp only [isLineBreak, Bool.or_eq_true, decide_eq_true_eq] at hbreak
        rcases hbreak with rfl | rfl <;> cases h
  · cases hblank : isBlank c with
    | false => rfl
    | true =>
        simp only [isBlank, Bool.or_eq_true, decide_eq_true_eq] at hblank
        rcases hblank with rfl | rfl <;> cases h

/-! ## Fillers -/

variable [Alphabet]

/-- A character that starts no token. -/
def isFiller (c : Char) : Bool := !(isLineBreak c || isBlank c || isSign c || isWord c)

/-- What is not a filler starts a token. -/
theorem isFiller_eq_false_iff {c : Char} :
    isFiller c = false ↔
      isLineBreak c = true ∨ isBlank c = true ∨ isSign c = true ∨ isWord c = true := by
  rw [isFiller]
  cases isLineBreak c <;> cases isBlank c <;> cases isSign c <;> cases isWord c <;> simp

/-- A filler is in none of the other classes. -/
theorem eq_false_of_isFiller {c : Char} (h : isFiller c = true) :
    isLineBreak c = false ∧ isBlank c = false ∧ isSign c = false ∧ isWord c = false := by
  simpa [isFiller, and_assoc] using h

/-- A blank is no word character. -/
theorem isWord_eq_false_of_isBlank {c : Char} (h : isBlank c = true) : isWord c = false := by
  simp only [isBlank, Bool.or_eq_true, decide_eq_true_eq] at h
  rcases h with rfl | rfl <;> rfl

/-- A line break is no word character. -/
theorem isWord_eq_false_of_isLineBreak {c : Char} (h : isLineBreak c = true) :
    isWord c = false := by
  simp only [isLineBreak, Bool.or_eq_true, decide_eq_true_eq] at h
  rcases h with rfl | rfl <;> rfl

/-- A sign is no word character. -/
theorem isWord_eq_false_of_isSign {c : Char} (h : isSign c = true) : isWord c = false := by
  simp only [isSign, Bool.or_eq_true, decide_eq_true_eq] at h
  rcases h with rfl | rfl <;> rfl

/-- No word goes on with a character that may stand behind it. -/
theorem isWord_eq_false_of_mayFollowWord {c : Char} (h : mayFollowWord c = true) :
    isWord c = false := by
  simp only [mayFollowWord, Bool.or_eq_true, or_assoc] at h
  rcases h with h | h | h
  · exact isWord_eq_false_of_isBlank h
  · exact isWord_eq_false_of_isLineBreak h
  · simp only [List.contains_iff_mem, List.mem_cons, List.not_mem_nil, or_false] at h
    rcases h with rfl | rfl | rfl | rfl | rfl | rfl <;> rfl

end ActionTemplate.Text
