import ActionTemplate.Fault

/-!
# Tokens

A token is a piece of the text with its kind and the byte offset where it starts. The end of the
input and a fault are tokens too: they are the terminal kinds, behind which no token follows.
-/

namespace ActionTemplate

/-! ## Kinds -/

/-- The words that control the structure of a template. -/
inductive Keyword where
  | elseWord
  | endWord
  | ifWord
  deriving DecidableEq, Repr

/-- The kinds of token. -/
inductive TokenKind where
  /-- A fault; the value of the token is its message. -/
  | error (fault : LexFault)
  /-- The end of the text; the value holds the fillers in front of it. -/
  | endOfInput
  /-- A word that is none of the other kinds. -/
  | identifier
  /-- A word behind fillers of which the first is a full stop. -/
  | field
  /-- A number, real or imaginary. -/
  | number
  /-- A sum or difference of two numbers, the second of them imaginary. -/
  | complex
  /-- One of the two truth values. -/
  | bool
  /-- The constant that stands for no value. -/
  | nil
  /-- A control word. -/
  | keyword (word : Keyword)
  /-- A run of blanks. -/
  | space
  /-- A single line break. -/
  | endOfLine
  deriving DecidableEq, Repr

namespace TokenKind

instance : Inhabited TokenKind := ⟨endOfInput⟩

/-- Whether no token can follow a token of this kind. -/
def isTerminal : TokenKind → Bool
  | error _ => true
  | endOfInput => true
  | _ => false

/-- A kind that is not terminal is not the end of the input. -/
theorem ne_endOfInput {k : TokenKind} (h : k.isTerminal = false) : k ≠ endOfInput := by
  rintro rfl
  cases h

/-- The end of the input is the only terminal kind but the faults. -/
theorem eq_endOfInput {k : TokenKind} (h : k.isTerminal = true) (hfault : ∀ fault, k ≠ error fault) :
    k = endOfInput := by
  cases k with
  | error fault => exact absurd rfl (hfault fault)
  | endOfInput => rfl
  | _ => cases h

/-- The kind of a reserved word, if the word is reserved. -/
def reserved? (word : String) : Option TokenKind :=
  if word = "else" then some (keyword .elseWord)
  else if word = "end" then some (keyword .endWord)
  else if word = "if" then some (keyword .ifWord)
  else if word = "nil" then some nil
  else none

/-- The kind of a token that ends in a word. The token is looked at as a whole, so a reserved word
behind a filler is not reserved. -/
def ofWord (value : String) : TokenKind :=
  match reserved? value with
  | some kind => kind
  | none =>
      if value.toList.head? = some '.' then field
      else if value = "true" ∨ value = "false" then bool
      else identifier

/-- Whether a token of this kind ends in a word. -/
def endsInWord : TokenKind → Bool
  | identifier => true
  | field => true
  | bool => true
  | nil => true
  | keyword _ => true
  | _ => false

/-- The kinds of the reserved words are kinds of words. -/
theorem endsInWord_of_reserved? {word : String} {kind : TokenKind}
    (h : reserved? word = some kind) : kind.endsInWord = true := by
  unfold reserved? at h
  repeat' split at h
  all_goals cases h
  all_goals rfl

/-- A token that ends in a word gets a kind of word. -/
theorem endsInWord_ofWord (value : String) : (ofWord value).endsInWord = true := by
  unfold ofWord
  cases h : reserved? value with
  | some kind => exact endsInWord_of_reserved? h
  | none =>
      show (if value.toList.head? = some '.' then field
        else if value = "true" ∨ value = "false" then bool else identifier).endsInWord = true
      split
      · rfl
      · split <;> rfl

/-- A token that ends in a word is not terminal. -/
theorem isTerminal_ofWord (value : String) : (ofWord value).isTerminal = false := by
  have hword := endsInWord_ofWord value
  cases hkind : ofWord value <;> rw [hkind] at hword <;> first | rfl | cases hword

end TokenKind

/-! ## Tokens -/

/-- A piece of the text, its kind, and the byte offset where it starts. -/
structure Token where
  kind : TokenKind := .endOfInput
  value : String := ""
  pos : Nat := 0
  deriving DecidableEq, Repr, Inhabited

namespace Token

/-- The empty end of input at the byte offset `pos`. It answers every request for a token behind the
terminal one. -/
def endAt (pos : Nat) : Token := ⟨.endOfInput, "", pos⟩

/-- The token of a fault that showed in the token starting at `pos`. -/
def ofFault (fault : LexFault) (pos : Nat) : Token := ⟨.error fault, fault.message, pos⟩

/-- The most characters of a token that are shown. -/
def shownLength : Nat := 10

/-- The form in which a token is shown to a reader: reserved words in angle brackets, all other text
in quotes, and of a long text only its beginning. -/
def display (t : Token) : String :=
  match t.kind with
  | .endOfInput => "EOF"
  | .error _ => t.value
  | .keyword _ => "<" ++ t.value ++ ">"
  | .nil => "<" ++ t.value ++ ">"
  | _ =>
      if shownLength < t.value.toList.length then
        Text.quote (String.ofList (t.value.toList.take shownLength)) ++ "..."
      else Text.quote t.value

end Token

end ActionTemplate
