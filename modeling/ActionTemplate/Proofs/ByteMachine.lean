import ActionTemplate.Proofs.Machine
import ActionTemplate.Proofs.Requests
import ActionTemplate.Scan.Bytewise

/-!
# A scanner by byte offsets

A `ByteMachine` takes the steps of a `Machine`, and it has its place in the text as byte offsets. So
any of its steps could fail, and a request is answered only if none of the steps to the answer does.

A step that does not complete a token leaves fewer bytes ahead or leads to a mode that completes it,
`remaining_lt_of_turn`, and requests come to an end for that reason.
-/

namespace ActionTemplate

open Text

/-! ## Steps -/

namespace Scan.Mode

/-- The rank of a mode among those with as many bytes ahead. -/
def rank (m : Mode) : Nat := if m = .action then 2 else 1

end Scan.Mode

namespace ByteScan

open Scan (Mode Turn)

variable [Alphabet]

/-- One step in a mode. -/
def turn : Mode → ByteScan Turn
  | .action => do
      match ← read with
      | none => pure (.settled (.ok .endOfInput))
      | some c =>
          if isLineBreak c then pure (.settled (.ok .endOfLine))
          else if isBlank c then pure (.into .space)
          else if isSign c || c.isDigit then
            unread
            pure (.into .number)
          else if isWord c then
            unread
            pure (.into .word)
          else pure (.into .action)
  | .space => do
      takeEach isBlank
      pure (.settled (.ok .space))
  | .number => Turn.settled <$> number
  | .word => Turn.settled <$> word

/-- The mode behind a token. Behind a terminal one there is none. -/
def modeAfter : Verdict → Option Mode
  | .ok kind => if kind.isTerminal then none else some .action
  | .error _ => none

/-- One step in a mode: the mode of the next step, and the token if it is complete. -/
def act (m : Mode) : ByteScan (Option Mode × Option Token) := do
  match ← turn m with
  | .into m' => return (some m', none)
  | .settled verdict => return (modeAfter verdict, some (← settle verdict))

omit [Alphabet] in
/-- When a character has been given back, a mode other than `action` is nearer to the end. -/
theorem remaining_lt_of_unread {b b' : ByteCursor} {c : Char} {m m' : Mode} (hm : m.rank = 1)
    (h : (do unread; pure (.into m) : ByteScan Turn).run (b.behind (some c)) = .ok (.into m') b') :
    b'.remaining + m'.rank < b.remaining + Mode.rank .action := by
  obtain ⟨⟨⟩, b₁, hunread, h⟩ := Stateful.exists_of_run_bind_eq_ok h
  obtain rfl := eq_of_unread hunread
  obtain ⟨hturn, rfl⟩ := EStateM.Result.ok.inj h
  cases hturn
  rw [ByteCursor.remaining_back_behind, hm]
  exact Nat.lt_succ_self _

/-- A step that does not complete the token has taken a character or leads out of the mode
`action`. -/
theorem remaining_lt_of_turn {b b' : ByteCursor} {m m' : Mode}
    (h : (turn m).run b = .ok (.into m') b') :
    b'.remaining + m'.rank < b.remaining + m.rank := by
  cases m with
  | action =>
      obtain ⟨seen, b₁, hread, h⟩ := Stateful.exists_of_run_bind_eq_ok h
      cases seen with
      | none => cases h
      | some c =>
          have hlt := remaining_lt_of_read hread
          obtain ⟨-, rfl⟩ := eq_of_read hread
          have hrank : m'.rank ≤ Mode.rank .action := by
            rw [Mode.rank]
            split <;> decide
          simp only at h
          split at h
          · cases h
          · split at h
            · obtain ⟨hturn, rfl⟩ := EStateM.Result.ok.inj h
              exact Nat.add_lt_add_of_lt_of_le hlt hrank
            · split at h
              · exact remaining_lt_of_unread rfl h
              · split at h
                · exact remaining_lt_of_unread rfl h
                · obtain ⟨hturn, rfl⟩ := EStateM.Result.ok.inj h
                  exact Nat.add_lt_add_of_lt_of_le hlt hrank
  | space =>
      obtain ⟨u, b₁, -, h⟩ := Stateful.exists_of_run_bind_eq_ok h
      cases h
  | number =>
      rw [turn, Stateful.run_map] at h
      split at h <;> cases h
  | word =>
      rw [turn, Stateful.run_map] at h
      split at h <;> cases h

end ByteScan

/-! ## The machine -/

/-- A scanner that has its place in the text as byte offsets. -/
structure ByteMachine where
  /-- The text and the place in it. -/
  cursor : ByteCursor
  /-- Whether the sequence of tokens has ended. -/
  exhausted : Bool := false
  /-- The mode of the next step. Behind the terminal token there is none. -/
  mode : Option Scan.Mode := some .action
  /-- A token that has been taken and is still to be handed out. -/
  pending : Option Token := none

namespace ByteMachine

open Scan (Mode)

/-- The machine in front of a text. -/
def ofString (text : String) : ByteMachine := { cursor := { text } }

/-- A bound on the steps to the next answer. -/
def weight (M : ByteMachine) : Nat :=
  match M.pending, M.mode with
  | none, some m => M.cursor.remaining + m.rank
  | _, _ => 0

/-- The line of the latest token handed out; line one before there is any. -/
def line (M : ByteMachine) : Except Breach Nat :=
  match (ByteScan.slice 0 M.cursor.offsets.lastPos).run M.cursor with
  | .ok before _ => .ok (1 + newlines before.toList)
  | .error e _ => .error e

variable [Alphabet]

/-- One step of the machine. -/
def step (M : ByteMachine) (m : Mode) : Except Breach ByteMachine :=
  match (ByteScan.act m).run M.cursor with
  | .ok (mode, pending) b => .ok { M with cursor := b, mode, pending }
  | .error e _ => .error e

/-- A step brings the answer nearer. -/
theorem weight_step_lt {M M' : ByteMachine} {m : Mode} (hpending : M.pending = none)
    (hmode : M.mode = some m) (h : M.step m = .ok M') : M'.weight < M.weight := by
  have hweight : M.weight = M.cursor.remaining + m.rank := by rw [weight, hpending, hmode]
  have hpos : 0 < m.rank := by
    rw [Mode.rank]
    split <;> decide
  rw [step] at h
  split at h
  · rename_i mode pending b hact
    cases h
    obtain ⟨turn, b₁, hturn, hact⟩ := Stateful.exists_of_run_bind_eq_ok hact
    cases turn with
    | into m' =>
        obtain ⟨hresult, rfl⟩ := EStateM.Result.ok.inj hact
        cases hresult
        rw [hweight]
        exact ByteScan.remaining_lt_of_turn hturn
    | settled verdict =>
        -- the token is complete, so it will be handed out without a further step
        obtain ⟨t, b₂, -, hact⟩ := Stateful.exists_of_run_bind_eq_ok hact
        obtain ⟨hresult, rfl⟩ := EStateM.Result.ok.inj hact
        cases hresult
        rw [hweight]
        exact Nat.add_pos_right _ hpos
  · cases h

/-- Hand out the next token. -/
def next (M : ByteMachine) : Except Breach (Token × ByteMachine) :=
  match _hpending : M.pending, _hmode : M.mode with
  | some t, _ => .ok (t, { M with cursor := M.cursor.handOut t.pos, pending := none })
  | none, none => .ok (Token.endAt M.cursor.text.utf8ByteSize, M)
  | none, some m =>
      match _hstep : M.step m with
      | .ok M' => next M'
      | .error e => .error e
termination_by M.weight
decreasing_by exact weight_step_lt _hpending _hmode _hstep

/-- Hand out the next token of the sequence that ends with the terminal one. -/
def iterate (M : ByteMachine) : Except Breach (Option Token × ByteMachine) :=
  if M.exhausted then .ok (none, M)
  else do
    let (t, M') ← M.next
    return (some t, { M' with exhausted := t.kind.isTerminal })

/-- Answer a request. -/
def serve (M : ByteMachine) : Scanner.Request → Except Breach (Option Token × ByteMachine)
  | .next => do
      let (t, M') ← M.next
      return (some t, M')
  | .iterate => M.iterate

/-- Answer some requests in their order. -/
def serveAll (M : ByteMachine) :
    List Scanner.Request → Except Breach (Scanner.Log × ByteMachine)
  | [] => .ok ([], M)
  | r :: rs => do
      let (answer, M') ← M.serve r
      let (log, M'') ← M'.serveAll rs
      return ((r, answer) :: log, M'')

end ByteMachine

end ActionTemplate
