import ActionTemplate.Proofs.ByteMachine
import ActionTemplate.Proofs.Offsets

/-!
# The machine by offsets keeps to boundaries

Step by step a `ByteMachine` stands where the `Machine` of the same text does, `Mirrors`. One step of
it succeeds and leads to where the step of the other leads, `Mirrors.exists_step`; by induction on the
steps to an answer a request is answered as a `Scanner` answers it, `Mirrors.exists_next`, and by
induction on the requests so are all of them.

On the way the account of the offsets has no gap and no unsound entry, so `keeps_to_boundaries` can
look back from the end of a run at all of it.
-/

namespace ActionTemplate

open Text

/-! ## Slices between sound offsets -/

/-- There are all slices that a scan with these offsets may take: what is ahead, the token so far, all
that lies before the cursor, and all that lies before the latest token handed out. -/
structure Offsets.Sliceable (text : String) (o : Offsets) : Prop where
  ahead : (slice? text o.pos text.utf8ByteSize).isSome
  token : (slice? text o.start o.pos).isSome
  before : (slice? text 0 o.pos).isSome
  handedOut : (slice? text 0 o.lastPos).isSome

/-- Sound offsets bound slices. -/
theorem Offsets.Sound.sliceable {text : String} {o : Offsets} (h : o.Sound text) :
    o.Sliceable text where
  ahead := slice?_isSome_iff.mpr ⟨h.pos_le, h.pos, isBoundary_utf8ByteSize text⟩
  token := slice?_isSome_iff.mpr ⟨h.start_le, h.start, h.pos⟩
  before := slice?_isSome_iff.mpr ⟨Nat.zero_le _, isBoundary_zero text, h.pos⟩
  handedOut := slice?_isSome_iff.mpr ⟨Nat.zero_le _, isBoundary_zero text, h.lastPos⟩

/-- All offsets that a cursor has had, the latest first. -/
def ByteCursor.points (b : ByteCursor) : List Offsets :=
  b.offsets :: b.changes.map Change.before

/-- If the account is sound, so are all offsets that there have been. -/
theorem ByteCursor.Sound.of_mem_points {b : ByteCursor} (h : b.Sound) {o : Offsets}
    (ho : o ∈ b.points) : o.Sound b.text := by
  rcases List.mem_cons.mp ho with rfl | ho
  · exact h.now
  · obtain ⟨e, he, rfl⟩ := List.mem_map.mp ho
    exact (h.points e he).1

/-! ## One step -/

namespace ByteScan

open Scan (Mode Turn)

variable [Alphabet]

/-- In every mode a step by offsets succeeds and does what the step by characters does. -/
theorem agrees_turn (m : Mode) (c : Cursor) : Agrees m.step (turn m) c := by
  cases m with
  | action =>
      intro b text front lastPos h
      rw [Mode.step, turn, Stateful.run_bind_of_ok (Scan.run_read c),
        Stateful.run_bind_of_ok (run_read h), Cursor.step_fst]
      have hbehind := h.behind
      cases hahead : c.ahead.head? with
      | none => exact ⟨_, _, _, rfl, rfl, hahead ▸ hbehind⟩
      | some x =>
          have hback := h.back
          rw [hahead] at hbehind hback
          -- a character that only tells the mode is given back on both sides
          have hgiven : ∀ m', ∃ turn c' b',
              (do Scan.unread; pure (.into m') : Scan Turn).run c.step.2 = .ok turn c' ∧
                (do unread; pure (.into m') : ByteScan Turn).run (b.behind (some x)) = .ok turn b' ∧
                  b'.Follows text front lastPos c' := by
            intro m'
            rw [Stateful.run_bind_of_ok (Scan.run_unread_step c),
              Stateful.run_bind_of_ok (run_unread b (some x))]
            exact ⟨_, _, _, rfl, rfl, hback⟩
          simp only
          split
          · exact ⟨_, _, _, rfl, rfl, hbehind⟩
          · split
            · exact ⟨_, _, _, rfl, rfl, hbehind⟩
            · split
              · exact hgiven .number
              · split
                · exact hgiven .word
                · exact ⟨_, _, _, rfl, rfl, hbehind⟩
  | space => exact (agrees_takeEach isBlank c).bind fun _ c' _ => agrees_pure _ c'
  | number => exact (agrees_number c).map Turn.settled
  | word => exact (agrees_word c).map Turn.settled

end ByteScan

/-! ## Every request -/

namespace ByteMachine

open Scan (Mode)

/-- The machine by offsets stands where the machine `M` of the text does, and a token that it holds
starts at a boundary not behind the start of the next one. -/
structure Mirrors (B : ByteMachine) (M : Machine) (text : String) : Prop where
  text_eq : M.text = text.toList
  follows : ∃ front, B.cursor.Follows text front M.lastPos M.cursor
  exhausted : B.exhausted = M.exhausted
  mode : B.mode = M.mode
  pending : B.pending = M.pending
  ready : ∀ t, M.pending = some t → t.pos ≤ M.cursor.start ∧ IsBoundary text t.pos

variable {B : ByteMachine} {text : String}

/-- In front of a text both machines stand at its beginning. -/
theorem mirrors_ofString (text : String) :
    (ofString text).Mirrors (Machine.atRest (Scanner.ofString text)) text where
  text_eq := rfl
  follows := ⟨[], ByteCursor.sound_ofText text, rfl, rfl, rfl, rfl, rfl, rfl, rfl⟩
  exhausted := rfl
  mode := rfl
  pending := rfl
  ready := by rintro t ⟨⟩

/-- The line is the one of the byte offset of the latest token handed out. -/
theorem Mirrors.line_eq {M : Machine} (h : B.Mirrors M text) :
    B.line = .ok (lineAt M.text M.lastPos) := by
  obtain ⟨front, hfollows⟩ := h.follows
  obtain ⟨u, v, htext, hlength⟩ := isBoundary_iff.mp hfollows.sound.now.lastPos
  have hslice : slice? B.cursor.text 0 B.cursor.offsets.lastPos = some (String.ofList u) := by
    rw [slice?_eq_some_iff]
    exact ⟨[], v, by simpa using htext, rfl, by simpa using hlength⟩
  have hrun : (ByteScan.slice 0 B.cursor.offsets.lastPos).run B.cursor =
      .ok (String.ofList u) B.cursor := by
    rw [Stateful.run_eq, ByteScan.slice, hslice]
  rw [line, hrun, h.text_eq, ← hfollows.text_eq, htext, ← hfollows.lastPos, ← hlength, lineAt,
    takeBytes_byteLength_append]
  simp only [String.toList_ofList]

/-- When the verdict on a token has been reached, both machines hold the token. -/
theorem Mirrors.exists_settle {M : Machine} (h : B.Mirrors M text) {b : ByteCursor}
    {front : List Char} {c : Cursor} (hfollows : b.Follows text front M.lastPos c)
    (verdict : Verdict) :
    ∃ t b', (ByteScan.settle verdict).run b = .ok t b' ∧
      { B with cursor := b', mode := ByteScan.modeAfter verdict, pending := some t }.Mirrors
        (M.settle verdict c) text := by
  have hget : (get : ByteScan ByteCursor).run b = .ok b b := rfl
  have hboundary : IsBoundary text c.start :=
    hfollows.text_eq ▸ hfollows.start ▸ hfollows.sound.now.start
  cases verdict with
  | ok kind =>
      have hle : c.start ≤ c.pos := hfollows.start ▸ hfollows.pos ▸ hfollows.sound.now.start_le
      refine ⟨⟨kind, c.token, c.start⟩, b.cut, ?_, h.text_eq, ⟨_, hfollows.cut⟩, h.exhausted, rfl,
        rfl, ?_⟩
      · rw [ByteScan.settle, Stateful.run_bind_of_ok hget,
          Stateful.run_bind_of_ok (ByteScan.run_token hfollows), hfollows.start]
        rfl
      · rintro t ⟨⟩
        exact ⟨hle, hboundary⟩
  | error fault =>
      refine ⟨Token.ofFault fault c.start, b, ?_, h.text_eq, ⟨_, hfollows⟩, h.exhausted, rfl, rfl,
        ?_⟩
      · rw [ByteScan.settle, Stateful.run_bind_of_ok hget, hfollows.start]
        rfl
      · rintro t ⟨⟩
        exact ⟨Nat.le_refl _, hboundary⟩

variable [Alphabet]

/-- A step succeeds and leads to where the machine `M` goes. -/
theorem Mirrors.exists_step {M : Machine} (h : B.Mirrors M text) (hpending : M.pending = none)
    (m : Mode) : ∃ B', B.step m = .ok B' ∧ B'.Mirrors (M.step m) text := by
  obtain ⟨front, hfollows⟩ := h.follows
  obtain ⟨turn, c, b, hrun, hrun', hturned⟩ :=
    ByteScan.agrees_turn m M.cursor B.cursor text front M.lastPos hfollows
  rw [Machine.step, hrun]
  cases turn with
  | into m' =>
      have hact : (ByteScan.act m).run B.cursor = .ok (some m', none) b := by
        rw [ByteScan.act, Stateful.run_bind_of_ok hrun']
        rfl
      refine ⟨{ B with cursor := b, mode := some m', pending := none }, by rw [step, hact], ?_⟩
      exact ⟨h.text_eq, ⟨front, hturned⟩, h.exhausted, rfl, hpending.symm, by simp [hpending]⟩
  | settled verdict =>
      obtain ⟨t, b', hsettle, hmirrors⟩ := h.exists_settle hturned verdict
      have hact : (ByteScan.act m).run B.cursor = .ok (ByteScan.modeAfter verdict, some t) b' := by
        rw [ByteScan.act, Stateful.run_bind_of_ok hrun']
        simp only [Stateful.run_bind_of_ok hsettle]
        rfl
      exact ⟨_, by rw [step, hact], hmirrors⟩

/-! ### Answers -/

/-- A token that is held is handed out. -/
theorem next_of_pending {t : Token} (hpending : B.pending = some t) :
    B.next = .ok (t, { B with cursor := B.cursor.handOut t.pos, pending := none }) := by
  rw [next]
  split <;> simp_all

/-- Behind the terminal token there is only an empty end of input. -/
theorem next_of_ended (hpending : B.pending = none) (hmode : B.mode = none) :
    B.next = .ok (Token.endAt B.cursor.text.utf8ByteSize, B) := by
  rw [next]
  split <;> simp_all

/-- Otherwise the answer is the one that there is after a step. -/
theorem next_of_step {B' : ByteMachine} {m : Mode} (hpending : B.pending = none)
    (hmode : B.mode = some m) (hstep : B.step m = .ok B') : B.next = B'.next := by
  rw [next]
  split
  · simp_all
  · simp_all
  · rename_i m' _ hmode'
    obtain rfl := Option.some.inj (hmode.symm.trans hmode')
    split <;> simp_all

/-- A request is answered, and with the same token. -/
theorem Mirrors.exists_next {M M' : Machine} {n : Nat} {t : Token} (h : B.Mirrors M text)
    (hanswers : M.Answers n t M') : ∃ B', B.next = .ok (t, B') ∧ B'.Mirrors M' text := by
  induction hanswers generalizing B with
  | @ready M t hpending =>
      obtain ⟨front, hfollows⟩ := h.follows
      obtain ⟨hle, hboundary⟩ := h.ready t hpending
      refine ⟨_, next_of_pending (h.pending.trans hpending), h.text_eq,
        ⟨front, hfollows.handOut hle hboundary⟩, h.exhausted, h.mode, rfl, ?_⟩
      rintro t ⟨⟩
  | @ended M hpending hmode =>
      obtain ⟨front, hfollows⟩ := h.follows
      refine ⟨B, ?_, h⟩
      rw [next_of_ended (h.pending.trans hpending) (h.mode.trans hmode), hfollows.text_eq, h.text_eq,
        byteLength_toList]
  | step hpending hmode _ ih =>
      obtain ⟨B₁, hstep, hmirrors⟩ := h.exists_step hpending _
      obtain ⟨B', hnext, hmirrors'⟩ := ih hmirrors
      refine ⟨B', ?_, hmirrors'⟩
      rw [next_of_step (h.pending.trans hpending) (h.mode.trans hmode) hstep, hnext]

/-- A request to a scanner by offsets is answered as by a scanner. -/
theorem Mirrors.exists_serve {s : Scanner} (h : B.Mirrors (Machine.atRest s) text)
    (r : Scanner.Request) :
    ∃ B', B.serve r = .ok ((s.serve r).1, B') ∧
      B'.Mirrors (Machine.atRest (s.serve r).2) text := by
  obtain ⟨n, -, hanswers⟩ := Machine.answers_next s
  obtain ⟨B', hnext, hmirrors⟩ := h.exists_next hanswers
  have hexhausted : B.exhausted = s.exhausted := h.exhausted
  cases r with
  | next => exact ⟨B', by rw [serve, hnext]; rfl, hmirrors⟩
  | iterate =>
      rw [serve, iterate, Scanner.serve, Scanner.iterate, hexhausted]
      split
      · exact ⟨B, rfl, h⟩
      · rw [hnext]
        exact ⟨{ B' with exhausted := s.next.1.kind.isTerminal }, rfl, hmirrors.text_eq,
          hmirrors.follows, rfl, hmirrors.mode, hmirrors.pending, hmirrors.ready⟩

/-- All requests to a scanner by offsets are answered as by a scanner. -/
theorem Mirrors.exists_serveAll {s : Scanner} (h : B.Mirrors (Machine.atRest s) text)
    (requests : List Scanner.Request) :
    ∃ B', B.serveAll requests = .ok ((s.serveAll requests).1, B') ∧
      B'.Mirrors (Machine.atRest (s.serveAll requests).2) text := by
  induction requests generalizing B s with
  | nil => exact ⟨B, rfl, h⟩
  | cons r rs ih =>
      obtain ⟨B₁, hserve, hmirrors⟩ := h.exists_serve r
      obtain ⟨B₂, hserveAll, hmirrors'⟩ := ih hmirrors
      refine ⟨B₂, ?_, hmirrors'⟩
      rw [serveAll, hserve]
      simp only [bind, Except.bind, hserveAll]
      rfl

/-- Whatever is requested of a scanner that keeps its place as byte offsets, no slice is missing and
nothing is taken back too far: it answers as a scanner of characters does, on the same line. All
offsets there have been on the way are boundaries of the text in their order and bound the slices that
are taken there; and each time a character was given back, that took back the read directly before,
and led to where the read had begun. -/
theorem keeps_to_boundaries (text : String) (requests : List Scanner.Request) :
    ∃ B, (ofString text).serveAll requests =
        .ok (((Scanner.ofString text).serveAll requests).1, B) ∧
      B.line = .ok ((Scanner.ofString text).serveAll requests).2.line ∧
      B.cursor.text = text ∧ B.cursor.Sound ∧
      ∀ o ∈ B.cursor.points, o.Sound text ∧ o.Sliceable text := by
  obtain ⟨B, hserve, hmirrors⟩ := (mirrors_ofString text).exists_serveAll requests
  obtain ⟨front, hfollows⟩ := hmirrors.follows
  refine ⟨B, hserve, hmirrors.line_eq, hfollows.text_eq, hfollows.sound, fun o ho => ?_⟩
  have hsound : o.Sound text := hfollows.text_eq ▸ hfollows.sound.of_mem_points ho
  exact ⟨hsound, hsound.sliceable⟩

end ByteMachine

end ActionTemplate
