import ActionTemplate.Text.Numeral
import ActionTemplate.Text.Quoted

/-!
# What can go wrong

A text is rejected either while it is cut into tokens or while its tokens are read as a template.
Each way to fail is a constructor, and the wording of all messages is in this file.

* `LexFault` is a fault in the text itself, `ScanError` the same with its place.
* `ParseFault` is a fault of a template, `ParseError` the same with the name of the template and the
  line that was reached.
-/

namespace ActionTemplate

/-! ## Faults in the text -/

/-- The ways in which a text cannot be cut into tokens. -/
inductive LexFault where
  /-- A number that runs on into a word, or a complex number without an imaginary part; the lexeme
  is the text read up to the place where this showed. -/
  | badNumber (lexeme : String)
  /-- A character that may not stand directly behind a word. -/
  | badCharacter (c : Char)
  deriving DecidableEq, Repr

/-- The wording of a fault in the text. -/
def LexFault.message : LexFault → String
  | .badNumber lexeme => "bad number syntax: " ++ Text.quote lexeme
  | .badCharacter c => "bad character " ++ Text.codePoint c ++ " '" ++ String.singleton c ++ "'"

/-- A fault in the text, the byte offset of the token in which it showed, and the line of that
offset. -/
structure ScanError where
  fault : LexFault
  pos : Nat
  line : Nat
  deriving DecidableEq, Repr

/-- The wording of a fault in the text together with its line. -/
def ScanError.message (e : ScanError) : String :=
  e.fault.message ++ " at line " ++ Text.decimal e.line

/-! ## Faults of a template -/

/-- The ways in which a text is no template. -/
inductive ParseFault where
  /-- The text cannot be cut into tokens. -/
  | lexical (fault : LexFault)
  /-- A closing word where nothing is open. -/
  | unexpected (found : String)
  /-- A second template of the same name, both with content. -/
  | multipleDefinition (name : String)
  /-- More tokens were given back than the lookahead keeps. -/
  | lookaheadOverflow
  deriving DecidableEq, Repr

namespace ParseFault

/-- The wording of a fault of a template. -/
def message : ParseFault → String
  | lexical fault => fault.message
  | unexpected found => "unexpected " ++ found
  | multipleDefinition name => "multiple definition of template " ++ Text.quote name
  | lookaheadOverflow => "lookahead overflow"

/-- Whether the text could not be cut into tokens. -/
def isLexical : ParseFault → Bool
  | lexical _ => true
  | _ => false

end ParseFault

/-- A fault of a template, the name of the template being read and the line that was reached. -/
structure ParseError where
  fault : ParseFault
  template : String
  line : Nat
  deriving DecidableEq, Repr

namespace ParseError

/-- The wording of a fault together with its template and its line. -/
def message (e : ParseError) : String :=
  "template: " ++ e.template ++ ":" ++ Text.decimal e.line ++ ": " ++ e.fault.message

/-- Whether the text could not be cut into tokens. -/
def isLexical (e : ParseError) : Bool := e.fault.isLexical

/-- Whether the tokens do not form a template. -/
def isSyntactic (e : ParseError) : Bool := !e.isLexical

end ParseError

end ActionTemplate
