import ActionTemplate.Proofs.Machine
import ActionTemplate.Proofs.Requests
import ActionTemplate.Text.Letters
import Mathlib.Data.List.Forall2

/-!
# Every token is progress

A scanner moves through its text in one direction. A request takes it over a piece of the text, and
the piece is what the token handed out is worth, unless the token is a fault. Only a terminal token
can be worth nothing, so a text has at most as many others as it has characters.

`exists_next` says what one request does. `Fresh.flatten_pieces` and `Fresh.forall₂_consumes` follow
by induction over the requests: the pieces of all requests, one after the other, are the text up to the cursor, so
no character is in two of them. `makes_progress` puts this together with the steps of the machine.
-/

namespace ActionTemplate

open Text

namespace Scanner

section

variable [Alphabet]

/-! ## One request -/

/-- A scanner that has not finished moves over a piece of the text. The piece is empty only in front
of a terminal token. -/
theorem exists_next {s : Scanner} (h : s.finished = false) :
    ∃ u c, s.cursor.Moves u c ∧
      ((∃ kind, (kind.isTerminal = false → u ≠ []) ∧
          s.next = (⟨kind, c.token, c.start⟩,
            { s with cursor := c.cut, lastPos := c.start, finished := kind.isTerminal })) ∨
        ∃ fault, s.next = (Token.ofFault fault c.start,
          { s with cursor := c, lastPos := c.start, finished := true })) := by
  obtain ⟨verdict, fillers, core, c, hrun, hmove, -, hcuts⟩ := Scan.exists_run_lexeme s.cursor
  refine ⟨fillers ++ core, c, hmove, ?_⟩
  rw [next, if_neg (by simp [h]), hrun]
  cases verdict with
  | ok kind =>
      refine Or.inl ⟨kind, ?_, rfl⟩
      intro hkind hnil
      exact hcuts.ne_nil hkind (List.append_eq_nil_iff.mp hnil).2
  | error fault => exact Or.inr ⟨fault, rfl⟩

/-- A token that is not terminal has at least one character. -/
theorem value_next_ne_empty {s : Scanner} (h : s.next.1.kind.isTerminal = false) :
    s.next.1.value ≠ "" := by
  cases hfinished : s.finished with
  | true =>
      rw [next, if_pos hfinished] at h
      cases h
  | false =>
      obtain ⟨u, c, hmove, ⟨kind, hne, hnext⟩ | ⟨fault, hnext⟩⟩ := exists_next hfinished
      · rw [hnext] at h ⊢
        show c.token ≠ ""
        rw [hmove.token_eq, Ne, String.ofList_eq_empty_iff, List.append_eq_nil_iff]
        exact fun hnil => hne h hnil.2
      · rw [hnext] at h
        cases h

/-- The number of tokens up to the terminal one is at most one more than that of the characters
ahead. -/
theorem length_drain_le (s : Scanner) : s.drain.1.length ≤ s.remaining + 1 := by
  fun_induction drain s with
  | case1 s hterminal => simp
  | case2 s hterminal tokens s' hdrain ih =>
      have hlt := remaining_next_lt (s := s) (by simpa using hterminal)
      rw [hdrain] at ih
      show tokens.length + 1 ≤ s.remaining + 1
      exact Nat.succ_le_succ (Nat.le_trans ih hlt)

/-! ## The pieces of all requests -/

/-- The characters that a scanner moves over to answer a request. -/
def piece (s : Scanner) (r : Request) : List Char :=
  s.cursor.ahead.take (s.cursor.ahead.length - (s.serve r).2.cursor.ahead.length)

/-- The pieces of some requests in their order. -/
def pieces (s : Scanner) : List Request → List (List Char)
  | [] => []
  | r :: rs => s.piece r :: (s.serve r).2.pieces rs

/-- The piece is what the answer to a request is worth: its value if it is a token that is no fault,
and nothing if there is none. -/
def Consumes (entry : Request × Option Token) (piece : List Char) : Prop :=
  match entry.2 with
  | none => piece = []
  | some t => (∀ fault, t.kind ≠ .error fault) → t.value.toList = piece

/-- Unless the scanner has finished, nothing of the next token has been taken. -/
def Fresh (s : Scanner) : Prop := s.finished = false → s.cursor.lexeme = []

/-- A request for the next token takes a front part of the characters ahead, and is answered with
just that part. -/
theorem Fresh.exists_next {s : Scanner} (h : s.Fresh) :
    ∃ u, s.cursor.ahead = u ++ s.next.2.cursor.ahead ∧ s.next.2.Fresh ∧
      ((∀ fault, s.next.1.kind ≠ .error fault) → s.next.1.value.toList = u) := by
  cases hfinished : s.finished with
  | true =>
      rw [next, if_pos hfinished]
      exact ⟨[], rfl, h, fun _ => rfl⟩
  | false =>
      obtain ⟨u, c, hmove, ⟨kind, -, hnext⟩ | ⟨fault, hnext⟩⟩ := Scanner.exists_next hfinished
      · rw [hnext]
        refine ⟨u, hmove.ahead, fun _ => rfl, fun _ => ?_⟩
        show c.token.toList = u
        rw [hmove.token_eq, h hfinished]
        simp
      · rw [hnext]
        refine ⟨u, hmove.ahead, fun hfinished => ?_, fun hfault => absurd rfl (hfault fault)⟩
        cases hfinished

/-- The same of any request. -/
theorem Fresh.exists_serve {s : Scanner} (h : s.Fresh) (r : Request) :
    ∃ u, s.cursor.ahead = u ++ (s.serve r).2.cursor.ahead ∧ (s.serve r).2.Fresh ∧
      Consumes (r, (s.serve r).1) u := by
  obtain ⟨u, hahead, hfresh, hvalue⟩ := h.exists_next
  cases r with
  | next => exact ⟨u, hahead, hfresh, hvalue⟩
  | iterate =>
      cases hended : s.exhausted with
      | true =>
          rw [serve, iterate, if_pos hended]
          exact ⟨[], rfl, h, rfl⟩
      | false =>
          rw [serve, iterate, if_neg (by simp [hended])]
          exact ⟨u, hahead, hfresh, hvalue⟩

/-- The piece of a request is the front part of the characters ahead that it takes. -/
theorem piece_eq {s : Scanner} {r : Request} {u : List Char}
    (h : s.cursor.ahead = u ++ (s.serve r).2.cursor.ahead) : s.piece r = u := by
  rw [piece, h, List.length_append, Nat.add_sub_cancel, List.take_left]

/-- The pieces of all requests lie one behind the other, up to the cursor. -/
theorem Fresh.flatten_pieces {s : Scanner} (h : s.Fresh) (requests : List Request) :
    s.cursor.ahead = (s.pieces requests).flatten ++ (s.serveAll requests).2.cursor.ahead := by
  induction requests generalizing s with
  | nil => rfl
  | cons r rs ih =>
      obtain ⟨u, hahead, hfresh, -⟩ := h.exists_serve r
      rw [pieces, piece_eq hahead, List.flatten_cons, List.append_assoc, serveAll, ← ih hfresh]
      exact hahead

/-- Every answer is worth its piece. -/
theorem Fresh.forall₂_consumes {s : Scanner} (h : s.Fresh) (requests : List Request) :
    List.Forall₂ Consumes (s.serveAll requests).1 (s.pieces requests) := by
  induction requests generalizing s with
  | nil => exact .nil
  | cons r rs ih =>
      obtain ⟨u, hahead, hfresh, hconsumes⟩ := h.exists_serve r
      rw [serveAll, pieces, piece_eq hahead]
      exact .cons hconsumes (ih hfresh)

omit [Alphabet] in
/-- A new scanner has taken nothing. -/
theorem fresh_ofString (text : String) : (ofString text).Fresh := fun _ => rfl

/-! ## A whole text -/

/-- The scanner `s` of the text has answered requests as the log says, and each of them has taken its
piece. -/
structure Progresses (text : String) (log : Log) (pieces : List (List Char)) (s : Scanner) :
    Prop where
  /-- There are finitely many steps to the next token. -/
  answers : ∃ n ≤ s.cursor.ahead.length + 2,
    Machine.Answers n (.atRest s) s.next.1 (.atRest s.next.2)
  /-- It is empty only if it is terminal. -/
  nonempty : s.next.1.kind.isTerminal = false → s.next.1.value ≠ ""
  /-- The text is divided into the pieces, one behind the other, and what is still ahead. -/
  divided : text.toList = pieces.flatten ++ s.cursor.ahead
  /-- What has been handed out is worth just its piece. -/
  consumed : List.Forall₂ Consumes log pieces

/-- However a scanner has been used, the next token is reached in finitely many steps, it has a
character unless it is terminal, and no character is part of two tokens. So the terminal token of a
text comes after at most as many others as the text has characters, and a text that is cut into
tokens has at most one more of them. -/
theorem makes_progress (text : String) :
    (∀ requests, Progresses text ((ofString text).serveAll requests).1
        ((ofString text).pieces requests) ((ofString text).serveAll requests).2) ∧
      (∃ init last, (ofString text).drain.1 = init ++ [last] ∧ last.kind.isTerminal = true ∧
        (∀ t ∈ init, t.kind.isTerminal = false) ∧ init.length ≤ text.length) ∧
      ∀ tokens, tokenize text = .ok tokens → tokens.length ≤ text.length + 1 := by
  have hlength : (ofString text).drain.1.length ≤ text.length + 1 := by
    rw [← String.length_toList]
    exact (ofString text).length_drain_le
  refine ⟨fun requests => ⟨Machine.answers_next _, value_next_ne_empty, ?_, ?_⟩, ?_, ?_⟩
  · exact (fresh_ofString text).flatten_pieces requests
  · exact (fresh_ofString text).forall₂_consumes requests
  · obtain ⟨init, last, -, hdrain, hlast, hinit, -⟩ := (division_ofString text).exists_eq_concat
    refine ⟨init, last, hdrain, hlast, hinit, ?_⟩
    simpa [hdrain] using hlength
  · intro tokens htokens
    rw [tokenize_eq] at htokens
    split at htokens
    · cases htokens
    · cases htokens
      exact hlength

end

/-- A text of four characters, the third of them a filler, has four tokens. -/
theorem makes_progress_through_filler :
    tokenize "a\n(1" = .ok [⟨.identifier, "a", 0⟩, ⟨.endOfLine, "\n", 1⟩, ⟨.number, "(1", 2⟩,
        ⟨.endOfInput, "", 4⟩] ∧
      [(⟨.identifier, "a", 0⟩ : Token), ⟨.endOfLine, "\n", 1⟩, ⟨.number, "(1", 2⟩,
        ⟨.endOfInput, "", 4⟩].length ≤ "a\n(1".length + 1 := by
  have htokenize : tokenize "a\n(1" = .ok [⟨.identifier, "a", 0⟩, ⟨.endOfLine, "\n", 1⟩,
      ⟨.number, "(1", 2⟩, ⟨.endOfInput, "", 4⟩] := by
    decide +kernel
  exact ⟨htokenize, (makes_progress "a\n(1").2.2 _ htokenize⟩

end Scanner

end ActionTemplate
