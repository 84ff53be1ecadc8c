import ActionTemplate.Scanner

/-!
# A scanner step by step

A request for a token is answered in steps. The mode says what a step is about to take. In the mode
`action` it reads one character: at the end of the text and at a line break there is a token at once,
a filler is kept and the mode stays, and any other character tells in which mode the rest of the
token is taken. A sign, a digit or a word character is given back before that, so such a step leaves
the cursor where it was.

A step that does not complete a token makes the `Mode.weight` smaller, the characters ahead together
with a rank of the mode. `Scan.Mode.steps` says once what a step does, and `Machine.answers_next`
is what follows: from any state a scanner is asked in, there are finitely many steps to its answer,
which is the one of `Scanner.next`.
-/

namespace ActionTemplate

open Text

variable [Alphabet]

/-! ## Modes -/

namespace Scan

/-- What is taken next. -/
inductive Mode where
  /-- The next character tells. -/
  | action
  /-- What is left of a run of blanks, the first of which has been taken. -/
  | space
  /-- A number. -/
  | number
  /-- A word. -/
  | word
  deriving DecidableEq, Repr

/-- What a step leads to. -/
inductive Turn where
  /-- The token goes on in some mode. -/
  | into (mode : Mode)
  /-- The token has been taken, and this is the verdict on it. -/
  | settled (verdict : Verdict)

namespace Mode

/-- One step in a mode. -/
def step : Mode → Scan Turn
  | action => do
      match ← read with
      | none => pure (.settled (.ok .endOfInput))
      | some c =>
          if isLineBreak c then pure (.settled (.ok .endOfLine))
          else if isBlank c then pure (.into .space)
          else if isSign c || c.isDigit then
            unread
            pure (.into .number)
          else if isWord c then
            unread
            pure (.into .word)
          else pure (.into .action)
  | space => do
      acceptWhile isBlank
      pure (.settled (.ok .space))
  | number => Turn.settled <$> Scan.number
  | word => Turn.settled <$> Scan.word

/-- What is left to do in a mode, in one go. -/
def finish : Mode → Scan Verdict
  | action => lexeme
  | space => do
      acceptWhile isBlank
      pure (.ok .space)
  | number => Scan.number
  | word => Scan.word

omit [Alphabet] in
/-- A bound on the steps from a mode to the end of the token. Only from `action` there is a step
that takes no character and does not complete a token. -/
def weight (m : Mode) (c : Cursor) : Nat := c.ahead.length + if m = .action then 2 else 1

/-! ### What a step does -/

omit [Alphabet] in
/-- Whether a read could be taken back does not matter to the next one. -/
theorem step_past_nil (c : Cursor) : (c.past []).step = c.step := by
  simp only [Cursor.step, Cursor.past, List.length_nil, List.drop_zero, List.reverse_nil,
    List.nil_append, byteLength_nil, Nat.add_zero]

/-- A token that begins with a filler is the token behind it, with the filler in front. -/
theorem run_lexeme_of_isFiller {c : Cursor} {x : Char} {rest : List Char} (h : c.ahead = x :: rest)
    (hx : isFiller x = true) : lexeme.run c = lexeme.run c.step.2 := by
  rw [run_lexeme, run_lexeme, Cursor.ahead_step, h, List.tail_cons, List.takeWhile_cons_of_pos hx,
    Cursor.past_cons h]

/-- Without a filler in front a token begins at once. -/
theorem run_lexeme_of_not_isFiller {c : Cursor} (h : c.ahead.head?.any isFiller = false) :
    lexeme.run c = bareLexeme.run (c.past []) := by
  rw [run_lexeme]
  cases hahead : c.ahead with
  | nil => rfl
  | cons x rest =>
      have hx : ¬isFiller x = true := by simpa [hahead] using h
      rw [List.takeWhile_cons_of_neg hx]

/-- A step completes the token or makes the weight smaller, and either way what it leaves to do is
what was left to do before. -/
inductive Steps (m : Mode) (c : Cursor) : Prop where
  /-- The token is complete. -/
  | settled (verdict : Verdict) (c' : Cursor) (hstep : m.step.run c = .ok (.settled verdict) c')
      (hfinish : m.finish.run c = .ok verdict c')
  /-- The token goes on. -/
  | into (m' : Mode) (c' : Cursor) (hstep : m.step.run c = .ok (.into m') c')
      (hweight : m'.weight c' < m.weight c) (hfinish : m.finish.run c = m'.finish.run c')
  /-- The cursor has been misused. -/
  | misused (misuse : Misuse) (c' : Cursor) (hstep : m.step.run c = .error misuse c')
      (hfinish : m.finish.run c = .error misuse c')

/-- A mode that takes the rest of the token in one go completes it. -/
theorem steps_of_map {m : Mode} {scan : Scan Verdict} (hstep : m.step = Turn.settled <$> scan)
    (hfinish : m.finish = scan) (c : Cursor) : m.Steps c := by
  cases hrun : scan.run c with
  | ok verdict c' =>
      exact .settled verdict c' (by rw [hstep, Stateful.run_map, hrun]) (by rw [hfinish, hrun])
  | error misuse c' =>
      exact .misused misuse c' (by rw [hstep, Stateful.run_map, hrun]) (by rw [hfinish, hrun])

/-- In the mode `action` a filler is kept, and nothing else changes. -/
theorem steps_action_of_isFiller {c : Cursor} {x : Char} {rest : List Char}
    (h : c.ahead = x :: rest) (hx : isFiller x = true) : action.Steps c := by
  obtain ⟨hbreak, hblank, hsign, hword⟩ := eq_false_of_isFiller hx
  have hdigit : x.isDigit = false := by
    rw [← Bool.not_eq_true]
    intro hdigit
    rw [isWord_of_isDigit hdigit] at hword
    cases hword
  refine .into action c.step.2 ?_ ?_ (run_lexeme_of_isFiller h hx)
  · simp [step, h, hbreak, hblank, hsign, hdigit, hword]
  · simp [weight, h]

/-- In the mode `action` any other character tells what is taken. -/
theorem steps_action_of_not_isFiller {c : Cursor} {x : Char} {rest : List Char}
    (h : c.ahead = x :: rest) (hx : isFiller x = false) : action.Steps c := by
  have hlexeme := run_lexeme_of_not_isFiller (c := c) (by simpa [h] using hx)
  have hplace : (c.past []).ahead = x :: rest := by simpa using h
  have hback : (c.past []).past [] = c.past [] := by rw [Cursor.past_past, List.append_nil]
  cases hbreak : isLineBreak x with
  | true =>
      refine .settled (.ok .endOfLine) c.step.2 (by simp [step, h, hbreak]) ?_
      rw [finish, hlexeme, run_bareLexeme_of_isLineBreak hplace hbreak, step_past_nil]
  | false =>
      cases hblank : isBlank x with
      | true =>
          refine .into space c.step.2 (by simp [step, h, hbreak, hblank]) (by simp [weight, h]) ?_
          rw [finish, hlexeme, run_bareLexeme_of_isBlank hplace hbreak hblank, step_past_nil]
          simp [finish]
      | false =>
          cases hnumber : isSign x || x.isDigit with
          | true =>
              refine .into number (c.past []) ?_ (by simp [weight, h]) ?_
              · simp only [step, EStateM.run_bind, run_read, Cursor.step_fst, h, List.head?_cons,
                  hbreak, hblank, hnumber, Bool.false_eq_true, if_false, if_true, run_unread_step]
                rfl
              · rw [finish, hlexeme, run_bareLexeme_of_number hplace hbreak hblank hnumber, hback,
                  finish]
          | false =>
              -- what is none of these and no filler is part of a word
              have hword : isWord x = true := by
                rcases isFiller_eq_false_iff.mp hx with hx | hx | hx | hx
                · simp [hx] at hbreak
                · simp [hx] at hblank
                · simp [hx] at hnumber
                · exact hx
              refine .into word (c.past []) ?_ (by simp [weight, h]) ?_
              · simp only [step, EStateM.run_bind, run_read, Cursor.step_fst, h, List.head?_cons,
                  hbreak, hblank, hnumber, hword, Bool.false_eq_true, if_false, if_true,
                  run_unread_step]
                rfl
              · rw [finish, hlexeme, run_bareLexeme_of_word hplace hbreak hblank hnumber, hback,
                  finish]

/-- What a step does, in any mode and wherever the cursor stands. -/
theorem steps (m : Mode) (c : Cursor) : m.Steps c := by
  cases m with
  | action =>
      cases hahead : c.ahead with
      | nil =>
          refine .settled (.ok .endOfInput) c.step.2 (by simp [step, hahead]) ?_
          rw [finish, run_lexeme_of_not_isFiller (by simp [hahead]),
            run_bareLexeme_of_nil (by simpa using hahead), step_past_nil]
      | cons x rest =>
          cases hfiller : isFiller x with
          | true => exact steps_action_of_isFiller hahead hfiller
          | false => exact steps_action_of_not_isFiller hahead hfiller
  | space =>
      exact .settled (.ok .space) _
        (by rw [step, Stateful.run_bind_of_ok (run_acceptWhile isBlank c)]; rfl)
        (by rw [finish, Stateful.run_bind_of_ok (run_acceptWhile isBlank c)]; rfl)
  | number => exact steps_of_map rfl rfl c
  | word => exact steps_of_map rfl rfl c

end Mode

end Scan

/-! ## The machine -/

/-- A scanner between two steps. -/
structure Machine where
  /-- The whole text. -/
  text : List Char
  /-- The place in the text; the token being taken lies behind its start. -/
  cursor : Cursor
  /-- The byte offset of the latest token proper. -/
  lastPos : Nat
  /-- Whether the sequence of tokens has ended. -/
  exhausted : Bool
  /-- The mode of the next step. Behind the terminal token there is none. -/
  mode : Option Scan.Mode
  /-- A token that has been taken and is still to be handed out. -/
  pending : Option Token

namespace Machine

open Scan

omit [Alphabet] in
/-- The state of a scanner between two requests. -/
def atRest (s : Scanner) : Machine :=
  ⟨s.text, s.cursor, s.lastPos, s.exhausted, if s.finished then none else some .action, none⟩

omit [Alphabet] in
/-- The verdict on the token in front of the cursor has been reached. After a terminal token there is
no further step. -/
def settle (M : Machine) (verdict : Verdict) (c : Cursor) : Machine :=
  match verdict with
  | .ok kind =>
      { M with
        cursor := c.cut
        mode := if kind.isTerminal then none else some .action
        pending := some ⟨kind, c.token, c.start⟩ }
  | .error fault =>
      { M with cursor := c, mode := none, pending := some (Token.ofFault fault c.start) }

/-- One step of the machine. A step fails only by misusing the cursor, and would then end the
text. -/
def step (M : Machine) (m : Mode) : Machine :=
  match m.step.run M.cursor with
  | .ok (.into m') c => { M with cursor := c, mode := some m' }
  | .ok (.settled verdict) c => M.settle verdict c
  | .error _ c => { M with cursor := c, mode := none }

/-- A request is answered with the token after `n` steps, and leaves the machine `M'`. -/
inductive Answers : Nat → Machine → Token → Machine → Prop where
  /-- A token that is ready is handed out. -/
  | ready {M : Machine} {t : Token} (hpending : M.pending = some t) :
      Answers 0 M t { M with lastPos := t.pos, pending := none }
  /-- Without a further step there is only an empty end of input. -/
  | ended {M : Machine} (hpending : M.pending = none) (hmode : M.mode = none) :
      Answers 0 M (Token.endAt (byteLength M.text)) M
  /-- Otherwise the machine takes a step. -/
  | step {M M' : Machine} {m : Mode} {n : Nat} {t : Token} (hpending : M.pending = none)
      (hmode : M.mode = some m) (hrest : Answers n (M.step m) t M') : Answers (n + 1) M t M'

/-- There is at most one answer, and one number of steps to it. -/
theorem Answers.unique {M M' M'' : Machine} {n k : Nat} {t u : Token} (h : Answers n M t M')
    (h' : Answers k M u M'') : n = k ∧ t = u ∧ M' = M'' := by
  induction h generalizing k with
  | ready hpending =>
      cases h' with
      | ready hpending' =>
          obtain rfl := Option.some.inj (hpending.symm.trans hpending')
          exact ⟨rfl, rfl, rfl⟩
      | ended hpending' hmode => cases hpending.symm.trans hpending'
      | step hpending' hmode hrest => cases hpending.symm.trans hpending'
  | ended hpending hmode =>
      cases h' with
      | ready hpending' => cases hpending.symm.trans hpending'
      | ended hpending' hmode' => exact ⟨rfl, rfl, rfl⟩
      | step hpending' hmode' hrest => cases hmode.symm.trans hmode'
  | step hpending hmode hrest ih =>
      cases h' with
      | ready hpending' => cases hpending.symm.trans hpending'
      | ended hpending' hmode' => cases hmode.symm.trans hmode'
      | step hpending' hmode' hrest' =>
          obtain rfl := Option.some.inj (hmode.symm.trans hmode')
          obtain ⟨rfl, rfl, rfl⟩ := ih hrest'
          exact ⟨rfl, rfl, rfl⟩

/-- What a request is answered with once the token has been taken, and the machine behind it. -/
def answer (M : Machine) : EStateM.Result Misuse Cursor Verdict → Token × Machine
  | .ok (.ok kind) c =>
      (⟨kind, c.token, c.start⟩,
        { M with
          cursor := c.cut
          lastPos := c.start
          mode := if kind.isTerminal then none else some .action
          pending := none })
  | .ok (.error fault) c =>
      (Token.ofFault fault c.start,
        { M with cursor := c, lastPos := c.start, mode := none, pending := none })
  | .error _ c =>
      (Token.endAt (byteLength M.text), { M with cursor := c, mode := none, pending := none })

omit [Alphabet] in
/-- Where the machine stands within a token does not matter to the answer once the token has been
taken. -/
theorem answer_moved (M : Machine) (c : Cursor) (mode : Option Mode)
    (r : EStateM.Result Misuse Cursor Verdict) :
    { M with cursor := c, mode := mode }.answer r = M.answer r := by
  rcases r with ⟨⟨fault⟩ | ⟨kind⟩, c'⟩ | ⟨misuse, c'⟩ <;> rfl

/-- When the verdict on a token has been reached, the token is handed out without a further step. -/
theorem answers_settle (M : Machine) (verdict : Verdict) (c : Cursor) :
    Answers 0 (M.settle verdict c) (M.answer (.ok verdict c)).1 (M.answer (.ok verdict c)).2 := by
  cases verdict with
  | ok kind => exact .ready rfl
  | error fault => exact .ready rfl

/-- From any mode there are finitely many steps to the answer. -/
theorem exists_answers {M : Machine} {m : Mode} (hpending : M.pending = none)
    (hmode : M.mode = some m) :
    ∃ n ≤ m.weight M.cursor,
      Answers n M (M.answer (m.finish.run M.cursor)).1 (M.answer (m.finish.run M.cursor)).2 := by
  induction hk : m.weight M.cursor using Nat.strongRecOn generalizing M m with
  | ind k ih =>
      subst hk
      have hpos : 0 < m.weight M.cursor := by
        rw [Mode.weight]
        split <;> omega
      cases m.steps M.cursor with
      | settled verdict c hstep hfinish =>
          refine ⟨1, hpos, .step hpending hmode ?_⟩
          rw [step, hstep, hfinish]
          exact M.answers_settle verdict c
      | into m' c hstep hweight hfinish =>
          have hstepped : M.step m = { M with cursor := c, mode := some m' } := by rw [step, hstep]
          have hpending' : (M.step m).pending = none := by rw [hstepped, ← hpending]
          have hmode' : (M.step m).mode = some m' := by rw [hstepped]
          have hcursor : (M.step m).cursor = c := by rw [hstepped]
          obtain ⟨n, hn, hanswers⟩ := ih _ (hcursor ▸ hweight) hpending' hmode' rfl
          rw [hcursor] at hn
          rw [hcursor, hstepped, answer_moved, ← hfinish, ← hstepped] at hanswers
          exact ⟨n + 1, by omega, .step hpending hmode hanswers⟩
      | misused misuse c hstep hfinish =>
          refine ⟨1, hpos, .step hpending hmode ?_⟩
          rw [step, hstep, hfinish]
          -- only the two fields that show the token and the mode are left, and both are empty
          have hrest : M.answer (.error misuse c) =
              (Token.endAt (byteLength M.text), { M with cursor := c, mode := none }) := by
            rw [answer, ← hpending]
          rw [hrest]
          exact .ended hpending rfl

/-- Asked for its next token in any state, a scanner comes to the answer in finitely many steps. -/
theorem answers_next (s : Scanner) :
    ∃ n ≤ s.cursor.ahead.length + 2, Answers n (atRest s) s.next.1 (atRest s.next.2) := by
  cases hfinished : s.finished with
  | true =>
      refine ⟨0, Nat.zero_le _, ?_⟩
      rw [Scanner.next, if_pos hfinished]
      exact .ended rfl (by rw [atRest, if_pos hfinished])
  | false =>
      obtain ⟨n, hn, hanswers⟩ := exists_answers (M := atRest s) (m := .action) rfl
        (by rw [atRest, if_neg (by simp [hfinished])])
      refine ⟨n, hn, ?_⟩
      have hsame : (atRest s).answer (lexeme.run s.cursor) = (s.next.1, atRest s.next.2) := by
        rw [Scanner.next, if_neg (by simp [hfinished])]
        rcases lexeme.run s.cursor with ⟨⟨fault⟩ | ⟨kind⟩, c⟩ | ⟨misuse, c⟩ <;> rfl
      change Answers n _ ((atRest s).answer (lexeme.run s.cursor)).1
        ((atRest s).answer (lexeme.run s.cursor)).2 at hanswers
      rwa [hsame] at hanswers

end Machine

end ActionTemplate
