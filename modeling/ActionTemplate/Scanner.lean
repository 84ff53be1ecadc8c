import ActionTemplate.Scan.Lexeme

/-!
# Scanners

A scanner hands out the tokens of a text one after the other. Once it has handed out the terminal
token, the end of the input or a fault, it has finished, and every further request is answered by an
empty end of input behind the text. The line of a scanner is the line of the latest token proper.

A scanner can also be drawn from as a sequence that ends: `iterate` hands out tokens up to the
terminal one and then none. Whether that sequence has ended is kept apart from whether the scanner
has finished, so a scanner that finished under `next` still yields one empty end of input.

Every token that is not terminal makes `remaining` smaller, and `drain` and `tokens` end for that
reason.
-/

namespace ActionTemplate

/-- A text that is being cut into tokens. -/
structure Scanner where
  /-- The whole text. -/
  text : List Char
  /-- The place where the next token starts. -/
  cursor : Cursor
  /-- The byte offset of the latest token proper. -/
  lastPos : Nat := 0
  /-- Whether the terminal token has been handed out. -/
  finished : Bool := false
  /-- Whether the sequence of tokens has ended. -/
  exhausted : Bool := false
  deriving DecidableEq, Repr

namespace Scanner

/-- The scanner in front of a text. -/
def ofList (text : List Char) : Scanner := { text, cursor := Cursor.ofText text }

/-- The scanner in front of a text. -/
def ofString (text : String) : Scanner := ofList text.toList

/-- The answer to every request after the terminal token. -/
def sentinel (s : Scanner) : Token := Token.endAt (Text.byteLength s.text)

/-- The line of the latest token proper; line one before there is any. -/
def line (s : Scanner) : Nat := Text.lineAt s.text s.lastPos

/-- A bound on the number of tokens still to come that are not terminal. -/
def remaining (s : Scanner) : Nat := if s.finished then 0 else s.cursor.ahead.length

variable [Alphabet]

/-- Hand out the next token. A scan fails only by misusing its cursor, and would then end the
text. -/
def next (s : Scanner) : Token × Scanner :=
  if s.finished then (s.sentinel, s)
  else
    match Scan.lexeme.run s.cursor with
    | .ok (.ok kind) c =>
        (⟨kind, c.token, c.start⟩,
          { s with cursor := c.cut, lastPos := c.start, finished := kind.isTerminal })
    | .ok (.error fault) c =>
        (Token.ofFault fault c.start, { s with cursor := c, lastPos := c.start, finished := true })
    | .error _ c => (s.sentinel, { s with cursor := c, finished := true })

/-! ## Progress -/

/-- A token that is not terminal brings the end closer. -/
theorem remaining_next_lt {s : Scanner} (h : s.next.1.kind.isTerminal = false) :
    s.next.2.remaining < s.remaining := by
  rw [next] at h ⊢
  split at h
  · simp [sentinel, Token.endAt, TokenKind.isTerminal] at h
  · rename_i hfinished
    rw [if_neg hfinished]
    split at h
    · rename_i kind c hlex
      have hlt := Scan.length_ahead_lt_of_lexeme hlex h
      simpa [remaining, hfinished, h, Cursor.cut] using hlt
    · simp [Token.ofFault, TokenKind.isTerminal] at h
    · simp [sentinel, Token.endAt, TokenKind.isTerminal] at h

/-- After a terminal token nothing remains. -/
theorem remaining_next_eq_zero {s : Scanner} (h : s.next.1.kind.isTerminal = true) :
    s.next.2.remaining = 0 := by
  rw [next] at h ⊢
  split
  · rename_i hfinished
    simp [remaining, hfinished]
  · rename_i hfinished
    rw [if_neg hfinished] at h
    split
    · rename_i kind c hlex
      rw [hlex] at h
      simp only at h
      simp [remaining, h]
    · simp [remaining]
    · simp [remaining]

/-! ## All tokens -/

/-- Hand out all tokens up to the terminal one. -/
def drain (s : Scanner) : List Token × Scanner :=
  if _h : s.next.1.kind.isTerminal then ([s.next.1], s.next.2)
  else
    let (tokens, s') := drain s.next.2
    (s.next.1 :: tokens, s')
termination_by s.remaining
decreasing_by exact remaining_next_lt (by simpa using _h)

/-- The tokens of a scanner up to the end of its input, or the fault that ends them. -/
def tokens (s : Scanner) : Except ScanError (List Token) :=
  if _h : s.next.1.kind.isTerminal then
    match s.next.1.kind with
    | .error fault => .error ⟨fault, s.next.1.pos, s.next.2.line⟩
    | _ => .ok [s.next.1]
  else (tokens s.next.2).map (s.next.1 :: ·)
termination_by s.remaining
decreasing_by exact remaining_next_lt (by simpa using _h)

/-- Hand out the next token of the sequence that ends with the terminal one. -/
def iterate (s : Scanner) : Option Token × Scanner :=
  if s.exhausted then (none, s)
  else (some s.next.1, { s.next.2 with exhausted := s.next.1.kind.isTerminal })

/-- Hand out all that the sequence still holds. -/
def rest (s : Scanner) : List Token × Scanner :=
  if s.exhausted then ([], s)
  else (s.drain.1, { s.drain.2 with exhausted := true })

end Scanner

/-- Cut a whole text into tokens. The last of them is the end of the input, so their values make up
the text. -/
def tokenize [Alphabet] (text : String) : Except ScanError (List Token) := (Scanner.ofString text).tokens

end ActionTemplate
