import ActionTemplate.Proofs.Tape
import ActionTemplate.Template.Move
import ActionTemplate.Text.Letters
import Mathlib.Data.List.Basic

/-!
# Moves on the tape

What a template yields when it makes moves that concern nothing but its tokens is what the tape
yields. `performAll_start_retraces` says so of any number of moves, whatever the text, and
`Template.Retraces` tells what a template does next from where it stands on the tape.
-/

namespace ActionTemplate

open Text

/-! ## Moves in a row -/

namespace Template

/-- The moves that concern nothing but the tokens. -/
inductive TokenMove where
  | next
  | peek
  | pushBack
  | nextPastSpaces
  | nextPastWhite
  deriving DecidableEq, Repr

/-- The same as a move of reading a template. -/
def TokenMove.toMove : TokenMove → Move
  | next => .next
  | peek => .peek
  | pushBack => .pushBack
  | nextPastSpaces => .nextPastSpaces
  | nextPastWhite => .nextPastWhite

end Template

namespace Tape

open Template

/-- Make one move on the tape. -/
def perform (s : Tape) : TokenMove → Except ParseFault Yield × Tape
  | .next => (s.next.1.map .token, s.next.2)
  | .peek => (s.peek.1.map .token, s.peek.2)
  | .pushBack => (s.pushBack.1.map fun _ => .done, s.pushBack.2)
  | .nextPastSpaces => ((s.nextPast [.space]).1.map .token, (s.nextPast [.space]).2)
  | .nextPastWhite =>
      ((s.nextPast [.space, .endOfLine]).1.map .token, (s.nextPast [.space, .endOfLine]).2)

/-- Make several moves in a row, failures included. -/
def performAll (s : Tape) : List TokenMove → List (Except ParseFault Yield) × Tape
  | [] => ([], s)
  | m :: ms =>
      ((s.perform m).1 :: ((s.perform m).2.performAll ms).1, ((s.perform m).2.performAll ms).2)

/-- Moves on the tape can be made in two goes. -/
theorem performAll_append (s : Tape) (ms ns : List TokenMove) :
    s.performAll (ms ++ ns) =
      ((s.performAll ms).1 ++ ((s.performAll ms).2.performAll ns).1,
        ((s.performAll ms).2.performAll ns).2) := by
  induction ms generalizing s with
  | nil => rfl
  | cons m ms ih => simp only [List.cons_append, performAll, ih]

/-- If going back succeeds a number of times, the place is as many tokens further back. -/
theorem performAll_replicate_pushBack {k : Nat} {s : Tape}
    (h : (s.performAll (List.replicate k .pushBack)).1 = List.replicate k (.ok .done)) :
    k ≤ s.place ∧
      (s.performAll (List.replicate k .pushBack)).2 = { s with place := s.place - k } := by
  induction k generalizing s with
  | zero => exact ⟨Nat.zero_le _, rfl⟩
  | succ k ih =>
      rw [List.replicate_succ, performAll, List.replicate_succ, List.cons.injEq] at h
      by_cases hlt : s.unread < min s.delivered.length Window.size
      · have hstep : s.perform .pushBack = (.ok .done, { s with place := s.place - 1 }) := by
          rw [perform, pushBack, if_pos hlt]
          rfl
        obtain ⟨hle, hrest⟩ := ih h.2
        rw [hstep] at hle hrest
        have hpos : s.place ≠ 0 := by
          intro hzero
          rw [unread, hzero] at hlt
          omega
        have hplace : k ≤ s.place - 1 := hle
        refine ⟨by omega, ?_⟩
        rw [List.replicate_succ, performAll, hstep, hrest]
        show ({ s with place := s.place - 1 - k } : Tape) = { s with place := s.place - (k + 1) }
        rw [Nat.sub_sub, Nat.add_comm 1 k]
      · have hfst := h.1
        rw [perform, pushBack, if_neg hlt] at hfst
        cases hfst

/-- Reading on the tape yields the tokens that stand there, in their order. -/
theorem performAll_replicate_next {k : Nat} {s : Tape} (h : s.place + k ≤ s.delivered.length) :
    s.performAll (List.replicate k .next) =
      (((s.delivered.drop s.place).take k).map fun u => .ok (.token u),
        { s with place := s.place + k }) := by
  induction k generalizing s with
  | zero => rfl
  | succ k ih =>
      have hlt : s.place < s.delivered.length := by omega
      have hstep : s.perform .next =
          (.ok (.token s.delivered[s.place]), { s with place := s.place + 1 }) := by
        rw [perform, next, List.getElem?_eq_getElem hlt]
        rfl
      have hrest := ih (s := { s with place := s.place + 1 }) (by
        show s.place + 1 + k ≤ s.delivered.length
        omega)
      rw [List.replicate_succ, performAll, hstep, hrest, List.drop_eq_getElem_cons hlt,
        List.take_succ_cons, List.map_cons]
      show (_, ({ s with place := s.place + 1 + k } : Tape)) = (_, { s with place := s.place + (k + 1) })
      rw [Nat.add_assoc, Nat.add_comm 1 k]

end Tape

namespace Template

variable [Alphabet] {text : List Char} {t : Template} {s : Tape}

/-- A computation on the tokens of a template ends as the move on the tape that it mirrors. -/
theorem run_of_mirrors {α : Type} {m : Reading α} {x : Except ParseFault α × Tape}
    (h : Lookahead.Mirrors text (m.run t.lookahead) x) (f : α → Yield) :
    (t.run (f <$> m)).1.mapError ParseError.fault = x.1.map f ∧
      Lookahead.Tracks text x.2 (t.run (f <$> m)).2.lookahead := by
  unfold run
  rw [Stateful.run_map]
  generalize m.run t.lookahead = result at h
  cases h with
  | ok h' => exact ⟨rfl, h'⟩
  | error h' => exact ⟨rfl, h'⟩

/-- A move of a template is a move on the tape that its lookahead tracks. -/
theorem perform_of_tracks (h : Lookahead.Tracks text s t.lookahead) (m : TokenMove) :
    (t.perform m.toMove).1.mapError ParseError.fault = (s.perform m).1 ∧
      Lookahead.Tracks text (s.perform m).2 (t.perform m.toMove).2.lookahead := by
  cases m with
  | next => exact run_of_mirrors h.next _
  | peek => exact run_of_mirrors h.peek _
  | pushBack => exact run_of_mirrors h.pushBack _
  | nextPastSpaces => exact run_of_mirrors (h.nextPast (by decide)) _
  | nextPastWhite => exact run_of_mirrors (h.nextPast (by decide)) _

/-- Moves in a row are moves in a row on the tape. -/
theorem performAll_of_tracks (h : Lookahead.Tracks text s t.lookahead) (ms : List TokenMove) :
    (t.performAll (ms.map TokenMove.toMove)).1.map (Except.mapError ParseError.fault) =
        (s.performAll ms).1 ∧
      Lookahead.Tracks text (s.performAll ms).2
        (t.performAll (ms.map TokenMove.toMove)).2.lookahead := by
  induction ms generalizing t s with
  | nil => exact ⟨rfl, h⟩
  | cons m ms ih =>
      obtain ⟨hresult, htracks⟩ := perform_of_tracks h m
      obtain ⟨hresults, htracks'⟩ := ih htracks
      refine ⟨?_, htracks'⟩
      rw [List.map_cons, performAll, List.map_cons, hresult, hresults]
      rfl

/-- A reading that has just begun tracks a tape on which nothing stands. -/
theorem tracks_start (t : Template) (functions : List FunctionTable) (delivery : Delivery)
    (text : String) :
    Lookahead.Tracks text.toList (Tape.ofString text)
      (t.start functions (Feed.ofString delivery text)).lookahead :=
  ⟨rfl, Nat.le_refl _, rfl,
    Lookahead.at_of_delivers rfl rfl rfl (Feed.delivers_ofString delivery text), by
      intro u hu
      cases hu⟩

/-! ## What the tape tells of the template -/

/-- The template reads its tokens as the tape says. -/
structure Retraces (t : Template) (s : Tape) : Prop where
  /-- The window counts as many tokens as have come, up to three. -/
  buffered : t.lookahead.buffered = min s.delivered.length Window.size
  /-- The tokens given back are those between the place and the end of the tape. -/
  place : s.place + t.lookahead.pushedBack = s.delivered.length
  /-- Looking ahead shows what reading would yield in its place. -/
  peek : (t.perform .peek).1 = (t.perform .next).1
  /-- What looking ahead shows is read next. -/
  next_of_peek : ∀ y t', t.perform .peek = (.ok y, t') → (t'.perform .next).1 = .ok y
  /-- Giving back fails exactly if as many tokens are given back as the window counts. -/
  pushBack : (t.perform .pushBack).1.isOk =
    decide (t.lookahead.pushedBack < min s.delivered.length Window.size)
  /-- If it fails, nothing changes. -/
  pushBack_error : ∀ e t', t.perform .pushBack = (.error e, t') →
    e.fault = .lookaheadOverflow ∧ t' = t
  /-- The tokens given back in a row are read again in their order. -/
  replay : ∀ k, (t.performAll (List.replicate k .pushBack)).1 = List.replicate k (.ok .done) →
    (t.performAll (List.replicate k .pushBack ++ List.replicate k .next)).1 =
      List.replicate k (.ok .done) ++
        ((s.delivered.drop (s.place - k)).take k).map fun u => .ok (.token u)

/-- Looking ahead shows what reading yields, and that is what is read next. -/
theorem perform_peek (h : Lookahead.Tracks text s t.lookahead) :
    (t.perform .peek).1 = (t.perform .next).1 ∧
      ∀ y t', t.perform .peek = (.ok y, t') → (t'.perform .next).1 = .ok y := by
  cases hnext : Lookahead.next.run t.lookahead with
  | ok u l₁ =>
      obtain ⟨l₂, hback, -, -⟩ := h.exists_pushBack hnext
      have hpeek := Lookahead.peek_of_next hnext hback
      have hagain := Lookahead.next_of_pushBack hnext hback
      constructor
      · simp [perform, run, hpeek, hnext]
      · intro y t' ht'
        obtain ⟨rfl, rfl⟩ : Yield.token u = y ∧ { t with lookahead := l₂ } = t' := by
          simpa [perform, run, hpeek] using ht'
        simp [perform, run, hagain]
  | error e l₁ =>
      have hpeek := Lookahead.peek_of_next_error hnext
      constructor
      · simp [perform, run, hpeek, hnext]
      · intro y t' ht'
        simp [perform, run, hpeek] at ht'

/-- Giving back succeeds or leaves the template as it is. -/
theorem perform_pushBack (t : Template) :
    t.perform .pushBack = if t.lookahead.pushedBack < t.lookahead.buffered then
        (.ok .done, { t with lookahead :=
          { t.lookahead with pushedBack := t.lookahead.pushedBack + 1 } })
      else (.error (t.errorAt .lookaheadOverflow), t) := by
  rw [perform, run, Stateful.run_map, Lookahead.run_pushBack]
  by_cases hlt : t.lookahead.pushedBack < t.lookahead.buffered
  · rw [if_pos hlt, if_pos hlt]
  · rw [if_neg hlt, if_neg hlt]

omit [Alphabet] in
/-- Results are successes if they are with their faults looked at alone. -/
theorem eq_map_ok_of_mapError {ε ε' α : Type} {f : ε → ε'} {results : List (Except ε α)}
    {yields : List α} (h : results.map (Except.mapError f) = yields.map .ok) :
    results = yields.map .ok := by
  induction results generalizing yields with
  | nil =>
      cases yields with
      | nil => rfl
      | cons y yields => cases h
  | cons r results ih =>
      cases yields with
      | nil => cases h
      | cons y yields =>
          rw [List.map_cons, List.map_cons, List.cons.injEq] at h
          cases r with
          | error e => cases h.1
          | ok a => rw [List.map_cons, ih h.2, ← Except.ok.inj h.1]

/-- Tokens given back in a row are read again in their order. -/
theorem performAll_replay (h : Lookahead.Tracks text s t.lookahead) {k : Nat}
    (hback : (t.performAll (List.replicate k .pushBack)).1 = List.replicate k (.ok .done)) :
    (t.performAll (List.replicate k .pushBack ++ List.replicate k .next)).1 =
      List.replicate k (.ok .done) ++
        ((s.delivered.drop (s.place - k)).take k).map fun u => .ok (.token u) := by
  have htape : (s.performAll (List.replicate k .pushBack)).1 = List.replicate k (.ok .done) := by
    have hresults := (performAll_of_tracks h (List.replicate k .pushBack)).1
    rw [List.map_replicate, show TokenMove.pushBack.toMove = .pushBack from rfl, hback,
      List.map_replicate] at hresults
    exact hresults.symm
  obtain ⟨hk, hplace⟩ := Tape.performAll_replicate_pushBack htape
  have hread : (s.performAll (List.replicate k .pushBack ++ List.replicate k .next)).1 =
      List.replicate k (.ok .done) ++
        ((s.delivered.drop (s.place - k)).take k).map fun u => .ok (.token u) := by
    have hle : s.place - k + k ≤ s.delivered.length := by
      have := h.place_le
      omega
    rw [Tape.performAll_append, htape, hplace,
      Tape.performAll_replicate_next (s := { s with place := s.place - k }) hle]
  have hresults := (performAll_of_tracks h (List.replicate k .pushBack ++ List.replicate k .next)).1
  rw [hread, List.map_append, List.map_replicate, List.map_replicate] at hresults
  have hyields : (List.replicate k (.ok .done) ++
      ((s.delivered.drop (s.place - k)).take k).map fun u => .ok (.token u) :
        List (Except ParseFault Yield)) =
      (List.replicate k Yield.done ++
        ((s.delivered.drop (s.place - k)).take k).map Yield.token).map .ok := by
    rw [List.map_append, List.map_replicate, List.map_map]
    rfl
  rw [hyields] at hresults
  have hplain := eq_map_ok_of_mapError hresults
  rw [List.map_append, List.map_replicate, List.map_map] at hplain
  exact hplain

/-- What tracks a tape reads as the tape says. -/
theorem retraces_of_tracks (h : Lookahead.Tracks text s t.lookahead) : t.Retraces s := by
  obtain ⟨hpeek, hnext⟩ := perform_peek h
  refine ⟨h.buffered, ?_, hpeek, hnext, ?_, ?_, fun k => performAll_replay h⟩
  · have := h.place_le
    rw [h.pushedBack, Tape.unread]
    omega
  · rw [perform_pushBack, h.buffered]
    by_cases hlt : t.lookahead.pushedBack < min s.delivered.length Window.size
    · rw [if_pos hlt, decide_eq_true hlt]
      rfl
    · rw [if_neg hlt, decide_eq_false hlt]
      rfl
  · intro e t' ht'
    rw [perform_pushBack] at ht'
    split at ht'
    · simp at ht'
    · obtain ⟨rfl, rfl⟩ : t.errorAt .lookaheadOverflow = e ∧ t = t' := by simpa using ht'
      exact ⟨rfl, rfl⟩

/-- Whatever moves are made in a reading that has just begun, they yield what they yield on the tape
for its text, and the template goes on reading as the tape says. -/
theorem performAll_start_retraces (t : Template) (functions : List FunctionTable)
    (delivery : Delivery) (text : String) (ms : List TokenMove) :
    ((t.start functions (Feed.ofString delivery text)).performAll (ms.map TokenMove.toMove)).1.map
          (Except.mapError ParseError.fault) = ((Tape.ofString text).performAll ms).1 ∧
      ((t.start functions (Feed.ofString delivery text)).performAll
          (ms.map TokenMove.toMove)).2.Retraces ((Tape.ofString text).performAll ms).2 := by
  obtain ⟨hresults, htracks⟩ :=
    performAll_of_tracks (tracks_start t functions delivery text) ms
  exact ⟨hresults, retraces_of_tracks htracks⟩

end Template

/-- A fault is not kept. What is read directly after a look at it is what comes behind it, so
looking ahead need not show what is read next. -/
theorem peek_ne_next_of_fault :
    ((({ name := "page" } : Template).start [] (Feed.ofString .inline "9z")).performAll
        [.peek, .next]).1 =
      [.error ⟨.lexical (.badNumber "9z"), "", 1⟩, .ok (.token (Token.endAt 2))] ∧
    ¬∀ (t : Template) (functions : List FunctionTable) (delivery : Delivery) (text : String),
      ((t.start functions (Feed.ofString delivery text)).perform .peek).1 =
        (((t.start functions (Feed.ofString delivery text)).perform .peek).2.perform .next).1 := by
  have hresults : ((({ name := "page" } : Template).start [] (Feed.ofString .inline "9z")).performAll
      [.peek, .next]).1 =
        [.error ⟨.lexical (.badNumber "9z"), "", 1⟩, .ok (.token (Token.endAt 2))] := by
    decide +kernel
  refine ⟨hresults, fun hall => ?_⟩
  have hsame := hall { name := "page" } [] .inline "9z"
  simp only [Template.performAll, List.cons.injEq, and_true] at hresults
  rw [hresults.1, hresults.2] at hsame
  cases hsame

end ActionTemplate
