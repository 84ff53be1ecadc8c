import ActionTemplate.Stateful
import ActionTemplate.Text.Measure
import ActionTemplate.Text.Span

/-!
# A cursor over a text

A cursor stands between two characters of a text. It keeps the characters of the token it is in,
those still ahead, and the byte offsets of the start of the token and of its own place. It moves by
two steps only: `read` takes the next character, and `unread` gives the latest one back. Giving back
is allowed once, directly after a read; anything else is a misuse, which ends the scan.

The other moves are made of these two: `peek`, `accept` and `acceptWhile`. Their equations say where
each leaves the cursor and that none of them is a misuse. `Reads` says the same of a scan put
together from them: which front part of the characters ahead it takes, and what it yields.
-/

namespace ActionTemplate

/-- A place in a text. -/
structure Cursor where
  /-- The characters between the start of the token and the cursor, the latest first. -/
  lexeme : List Char
  /-- The characters behind the cursor. -/
  ahead : List Char
  /-- The byte offset where the token starts. -/
  start : Nat
  /-- The byte offset of the cursor. -/
  pos : Nat
  /-- The width in bytes of the latest read, as long as that read can be taken back. A read at the
  end of the text has the width zero. -/
  width : Option Nat
  deriving DecidableEq, Repr

namespace Cursor

/-- The cursor in front of a text. -/
def ofText (text : List Char) : Cursor := ⟨[], text, 0, 0, none⟩

/-- The text of the token so far. -/
def token (c : Cursor) : String := String.ofList c.lexeme.reverse

/-- The cursor at the same place, with a new token starting there. -/
def cut (c : Cursor) : Cursor := ⟨[], c.ahead, c.pos, c.pos, none⟩

/-- Take the next character, if there is one. -/
def step (c : Cursor) : Option Char × Cursor :=
  match c.ahead with
  | [] => (none, { c with width := some 0 })
  | x :: ahead => (some x, ⟨x :: c.lexeme, ahead, c.start, c.pos + x.utf8Size, some x.utf8Size⟩)

/-- The cursor that has moved over the first characters ahead, which are those of `u`, and cannot
take a read back. -/
def past (c : Cursor) (u : List Char) : Cursor :=
  ⟨u.reverse ++ c.lexeme, c.ahead.drop u.length, c.start, c.pos + Text.byteLength u, none⟩

@[simp] theorem ahead_past (c : Cursor) (u : List Char) :
    (c.past u).ahead = c.ahead.drop u.length := rfl

@[simp] theorem lexeme_past (c : Cursor) (u : List Char) :
    (c.past u).lexeme = u.reverse ++ c.lexeme := rfl

/-- Behind the longest run of characters with a property lies what is left without it. -/
theorem ahead_past_takeWhile (c : Cursor) (p : Char → Bool) :
    (c.past (c.ahead.takeWhile p)).ahead = c.ahead.dropWhile p := by
  rw [ahead_past, Text.drop_length_takeWhile]

/-- Moving over two pieces one after the other is moving over both at once. -/
theorem past_past (c : Cursor) (u v : List Char) : (c.past u).past v = c.past (u ++ v) := by
  simp [past, Nat.add_assoc]

/-- Moving over a character and what follows it is taking a step and moving over the rest. -/
theorem past_cons {c : Cursor} {x : Char} {rest : List Char} (h : c.ahead = x :: rest)
    (u : List Char) : c.past (x :: u) = c.step.2.past u := by
  simp [past, step, h, Nat.add_assoc]

/-- The cursor `c'` stands in the same token as `c`, behind the characters `u` that were ahead of
`c`. Whether a read can be taken back is left open. -/
structure Moves (c : Cursor) (u : List Char) (c' : Cursor) : Prop where
  ahead : c.ahead = u ++ c'.ahead
  lexeme : c'.lexeme = u.reverse ++ c.lexeme
  start : c'.start = c.start
  pos : c'.pos = c.pos + Text.byteLength u

/-- Staying in place is moving over nothing. -/
theorem Moves.refl (c : Cursor) : c.Moves [] c := ⟨rfl, rfl, rfl, rfl⟩

/-- Moves can be made one after the other. -/
theorem Moves.trans {c c₁ c₂ : Cursor} {u v : List Char} (h₁ : c.Moves u c₁) (h₂ : c₁.Moves v c₂) :
    c.Moves (u ++ v) c₂ := by
  constructor
  · rw [h₁.ahead, h₂.ahead, List.append_assoc]
  · rw [h₂.lexeme, h₁.lexeme, List.reverse_append, List.append_assoc]
  · rw [h₂.start, h₁.start]
  · rw [h₂.pos, h₁.pos, Text.byteLength_append, Nat.add_assoc]

/-- Whether the latest read can be taken back does not matter. -/
theorem Moves.congr_width {c c' : Cursor} {u : List Char} (h : c.Moves u c') (w : Option Nat) :
    c.Moves u { c' with width := w } := ⟨h.ahead, h.lexeme, h.start, h.pos⟩

/-- Behind the characters `u` lies what is left without as many characters. -/
theorem Moves.ahead_eq_drop {c c' : Cursor} {u : List Char} (h : c.Moves u c') :
    c'.ahead = c.ahead.drop u.length := by
  rw [h.ahead, List.drop_left]

/-- The text of the token grows by the characters moved over. -/
theorem Moves.token_eq {c c' : Cursor} {u : List Char} (h : c.Moves u c') :
    c'.token = String.ofList (c.lexeme.reverse ++ u) := by
  rw [token, h.lexeme, List.reverse_append, List.reverse_reverse]

/-- Moving over a front part of what is ahead leads behind it. -/
theorem moves_past {c : Cursor} {u rest : List Char} (h : c.ahead = u ++ rest) :
    c.Moves u (c.past u) := by
  constructor
  · rw [ahead_past, h, List.drop_left]
  · rfl
  · rfl
  · rfl

/-- Giving up the right to take a read back leads nowhere. -/
theorem moves_past_nil (c : Cursor) : c.Moves [] (c.past []) := moves_past (List.nil_append _).symm

/-- Moving over a run leads behind it. -/
theorem moves_past_takeWhile (c : Cursor) (p : Char → Bool) :
    c.Moves (c.ahead.takeWhile p) (c.past (c.ahead.takeWhile p)) :=
  moves_past List.takeWhile_append_dropWhile.symm

/-- A step leaves ahead all but the first character. -/
@[simp] theorem ahead_step (c : Cursor) : c.step.2.ahead = c.ahead.tail := by
  rw [step]
  cases c.ahead <;> rfl

/-- At the end of the text a step stays in place. -/
theorem moves_step_of_nil {c : Cursor} (h : c.ahead = []) : c.Moves [] c.step.2 := by
  constructor
  · rw [ahead_step, h]
    rfl
  · simp [step, h]
  · simp [step, h]
  · simp [step, h]

/-- A step moves over the first character ahead. -/
theorem moves_step_of_cons {c : Cursor} {x : Char} {rest : List Char} (h : c.ahead = x :: rest) :
    c.Moves [x] c.step.2 := by
  constructor
  · rw [ahead_step, h]
    rfl
  · simp [step, h]
  · simp [step, h]
  · simp [step, h]

/-- A step shows the first character ahead. -/
@[simp] theorem step_fst (c : Cursor) : c.step.1 = c.ahead.head? := by
  rw [step]
  cases c.ahead <;> rfl

/-- A step that takes a character moves over it. -/
theorem eq_of_step_eq_some {c c' : Cursor} {x : Char} (h : c.step = (some x, c')) :
    c.ahead = x :: c'.ahead ∧ { c.past [x] with width := some x.utf8Size } = c' := by
  obtain ⟨lexeme, ahead, start, pos, width⟩ := c
  cases ahead with
  | nil => simp [step] at h
  | cons y ahead =>
      simp only [step, Prod.mk.injEq, Option.some.injEq] at h
      obtain ⟨rfl, rfl⟩ := h
      simp [past]

/-- A step that takes no character finds none ahead. -/
theorem ahead_eq_nil_of_step_eq_none {c c' : Cursor} (h : c.step = (none, c')) : c.ahead = [] := by
  have hhead : c.ahead.head? = none := by rw [← step_fst, h]
  exact List.head?_eq_none_iff.mp hhead

/-- A step that takes a character leaves one less ahead. -/
theorem length_ahead_lt_of_step {c c' : Cursor} {x : Char} (h : c.step = (some x, c')) :
    c'.ahead.length < c.ahead.length := by
  rw [(eq_of_step_eq_some h).1]
  simp

end Cursor

/-! ## Scans -/

/-- The ways to misuse a cursor. -/
inductive Misuse where
  /-- A character was to be given back, but the step before was no read. -/
  | nothingToUnread
  deriving DecidableEq, Repr

/-- A computation that moves a cursor and fails only by misusing it. -/
abbrev Scan := EStateM Misuse Cursor

namespace Scan

/-- Take the next character; at the end of the text there is none. -/
def read : Scan (Option Char) := fun c => .ok c.step.1 c.step.2

/-- Give the latest character back. It has to be the step directly after a read. -/
def unread : Scan Unit := fun c =>
  match c.width, c.lexeme with
  | some 0, _ => .ok () { c with width := none }
  | some (w + 1), x :: lexeme => .ok () ⟨lexeme, x :: c.ahead, c.start, c.pos - (w + 1), none⟩
  | _, _ => .error .nothingToUnread c

/-- Look at the next character without taking it. -/
def peek : Scan (Option Char) := do
  let next ← read
  unread
  pure next

/-- Take the next character if it has the property `p`, and say whether it had. -/
def accept (p : Char → Bool) : Scan Bool := do
  let next ← read
  if next.any p then
    pure true
  else
    unread
    pure false

/-- Take characters as long as they have the property `p`. -/
def acceptWhile (p : Char → Bool) : Scan Unit := fun c =>
  match _hstep : c.step with
  | (some x, c') => if p x then acceptWhile p c' else unread c'
  | (none, c') => unread c'
termination_by c => c.ahead.length
decreasing_by exact Cursor.length_ahead_lt_of_step _hstep

/-! ## Equations -/

/-- Reading is a step that never fails. -/
@[simp] theorem run_read (c : Cursor) : read.run c = .ok c.step.1 c.step.2 := rfl

/-- Giving back directly after a read restores the place before it. -/
theorem run_unread_step (c : Cursor) : unread.run c.step.2 = .ok () (c.past []) := by
  obtain ⟨lexeme, ahead, start, pos, width⟩ := c
  cases ahead with
  | nil => rfl
  | cons x ahead =>
      obtain ⟨w, hw⟩ : ∃ w, x.utf8Size = w + 1 :=
        Nat.exists_eq_succ_of_ne_zero (Nat.ne_of_gt x.utf8Size_pos)
      simp [Cursor.step, Stateful.run_eq, unread, Cursor.past, hw]

/-- Looking ahead shows the first character and stays in place. -/
@[simp] theorem run_peek (c : Cursor) : peek.run c = .ok c.ahead.head? (c.past []) := by
  simp [peek, run_unread_step]

/-- A character with the property is taken. -/
theorem run_accept_of_head {p : Char → Bool} {c : Cursor} {x : Char} {rest : List Char}
    (hahead : c.ahead = x :: rest) (hx : p x = true) :
    (accept p).run c = .ok true { c.past [x] with width := some x.utf8Size } := by
  simp [accept, hahead, hx, Cursor.step, Cursor.past]

/-- If the next character is missing or lacks the property, the cursor stays in place. -/
theorem run_accept_of_not_head {p : Char → Bool} {c : Cursor} (h : c.ahead.head?.any p = false) :
    (accept p).run c = .ok false (c.past []) := by
  simp [accept, h, run_unread_step]

/-- The longest run of characters with the property is taken, and nothing else. -/
@[simp] theorem run_acceptWhile (p : Char → Bool) (c : Cursor) :
    (acceptWhile p).run c = .ok () (c.past (c.ahead.takeWhile p)) := by
  rw [Stateful.run_eq]
  fun_induction acceptWhile p c with
  | case1 c x c' hstep hx ih =>
      obtain ⟨hahead, hc'⟩ := Cursor.eq_of_step_eq_some hstep
      rw [ih, hahead, List.takeWhile_cons_of_pos hx]
      generalize c'.ahead.takeWhile p = u
      rw [← hc']
      exact congrArg _ (Cursor.past_past c [x] u)
  | case2 c x c' hstep hx =>
      obtain ⟨hahead, _⟩ := Cursor.eq_of_step_eq_some hstep
      have hunread := run_unread_step c
      rw [hstep, Stateful.run_eq] at hunread
      rw [hunread, hahead, List.takeWhile_cons_of_neg hx]
  | case3 c c' hstep =>
      have hahead := Cursor.ahead_eq_nil_of_step_eq_none hstep
      have hunread := run_unread_step c
      rw [hstep, Stateful.run_eq] at hunread
      rw [hunread, hahead, List.takeWhile_nil]

/-! ## What a scan takes -/

/-- Wherever the scan `m` starts, it takes the front part `taken` of the characters ahead and yields
`result`. Both depend on the characters ahead only. -/
def Reads {α : Type} (m : Scan α) (taken : List Char → List Char) (result : List Char → α) : Prop :=
  ∀ c : Cursor, ∃ c', m.run c = .ok (result c.ahead) c' ∧ c.Moves (taken c.ahead) c'

/-- A scan that does nothing takes nothing. -/
theorem reads_pure {α : Type} (a : α) : Reads (pure a : Scan α) (fun _ => []) fun _ => a := by
  intro c
  exact ⟨c, rfl, Cursor.Moves.refl c⟩

/-- The second of two scans takes its part of what the first one leaves. -/
theorem reads_bind {α β : Type} {m : Scan α} {f : α → Scan β} {s : List Char → List Char}
    {t : α → List Char → List Char} {r : List Char → α} {q : α → List Char → β}
    (hm : Reads m s r) (hf : ∀ a, Reads (f a) (t a) (q a)) :
    Reads (m >>= f) (fun u => s u ++ t (r u) (u.drop (s u).length))
      fun u => q (r u) (u.drop (s u).length) := by
  intro c
  obtain ⟨c₁, hrun₁, hmove₁⟩ := hm c
  obtain ⟨c₂, hrun₂, hmove₂⟩ := hf (r c.ahead) c₁
  rw [hmove₁.ahead_eq_drop] at hrun₂ hmove₂
  refine ⟨c₂, ?_, hmove₁.trans hmove₂⟩
  rw [Stateful.run_bind_of_ok hrun₁, hrun₂]

/-- The parts taken and the results may be given in another form. -/
theorem Reads.congr {α : Type} {m : Scan α} {s t : List Char → List Char} {r q : List Char → α}
    (h : Reads m s r) (hst : ∀ u, s u = t u) (hrq : ∀ u, r u = q u) : Reads m t q := by
  have hs : s = t := funext hst
  have hr : r = q := funext hrq
  exact hs ▸ hr ▸ h

/-- What a scan takes is a front part of the text. -/
theorem Reads.taken_append_drop {α : Type} {m : Scan α} {s : List Char → List Char}
    {r : List Char → α} (h : Reads m s r) (u : List Char) :
    s u ++ u.drop (s u).length = u := by
  obtain ⟨c', _, hmove⟩ := h (Cursor.ofText u)
  have hahead : u = s u ++ c'.ahead := hmove.ahead
  have hdrop : c'.ahead = u.drop (s u).length := hmove.ahead_eq_drop
  rw [← hdrop, ← hahead]

/-- Reading takes the first character. -/
theorem reads_read : Reads read (Text.firstIf fun _ => true) List.head? := by
  intro c
  refine ⟨c.step.2, by simp, ?_⟩
  cases hahead : c.ahead with
  | nil => exact c.moves_step_of_nil hahead
  | cons x rest => exact c.moves_step_of_cons hahead

/-- A character is accepted if it has the property. -/
theorem reads_accept (p : Char → Bool) :
    Reads (accept p) (Text.firstIf p) fun u => u.head?.any p := by
  intro c
  show ∃ c', (accept p).run c = .ok (c.ahead.head?.any p) c' ∧ c.Moves (Text.firstIf p c.ahead) c'
  by_cases hp : c.ahead.head?.any p = true
  · cases hahead : c.ahead with
    | nil => simp [hahead] at hp
    | cons x rest =>
        have hx : p x = true := by simpa [hahead] using hp
        have hany : (x :: rest).head?.any p = true := by simpa using hx
        rw [Text.firstIf, Text.behind_cons_of_pos hx, hany]
        exact ⟨_, run_accept_of_head hahead hx, (Cursor.moves_past hahead).congr_width _⟩
  · have hnot : c.ahead.head?.any p = false := by simpa using hp
    rw [Text.firstIf, Text.behind_of_head? hnot, hnot]
    exact ⟨_, run_accept_of_not_head hnot, c.moves_past_nil⟩

/-- The longest run of characters with the property is accepted. -/
theorem reads_acceptWhile (p : Char → Bool) :
    Reads (acceptWhile p) (List.takeWhile p) fun _ => () := by
  intro c
  exact ⟨_, run_acceptWhile p c, c.moves_past_takeWhile p⟩

/-- A scan that runs only behind a character with the property takes nothing without it. -/
theorem reads_accept_bind {p : Char → Bool} {m : Scan Unit} {s : List Char → List Char}
    (hm : Reads m s fun _ => ()) :
    Reads (accept p >>= fun found => if found = true then m else pure ()) (Text.behind p s)
      fun _ => () := by
  have hrest : ∀ found : Bool, Reads (if found = true then m else pure ())
      (fun u => if found = true then s u else []) fun _ => () := by
    intro found
    cases found
    · exact reads_pure ()
    · exact hm
  refine (reads_bind (reads_accept p) hrest).congr (fun u => ?_) fun _ => rfl
  cases u with
  | nil => rfl
  | cons c u => by_cases hc : p c = true <;> simp [Text.firstIf, Text.behind, hc]

end Scan

end ActionTemplate
