import ActionTemplate.Parse
import ActionTemplate.Proofs.Renewal
import Mathlib.Logic.Relation

/-!
# Staying within the window

The window has room for three tokens and does not guard its places. A reading stays within it all the
same. Whatever is read, by a single read or by the grammar, stands at one of the places that count,
and what stands beyond them is never looked at. The grammar gives back only what it has just read, so
that giving back too much is a fault of giving back by hand and of nothing else.

`Lookahead.Step` is one use of the window, and `keeps_steps` says that the grammar makes nothing but
such steps. `WithinWindow` collects what follows for a template, and `withinWindow_performAll` says
that it holds behind any moves.
-/

namespace ActionTemplate

namespace Lookahead

variable [Alphabet]

/-! ## One use of the window -/

/-- One read or one token given back, with what it asks of the window: a token that is read is one
of those that count, and a token is given back only if one of those is left. -/
inductive Step : Lookahead → Lookahead → Prop where
  | next {l l' : Lookahead} {t : Token} (h : Lookahead.next.run l = .ok t l')
      (hget : l'.window.get l'.pushedBack = t) (hindex : l'.pushedBack < l'.buffered) : Step l l'
  | fault {l l' : Lookahead} {fault : LexFault}
      (h : Lookahead.next.run l = .error (.lexical fault) l') : Step l l'
  | pushBack {l l' : Lookahead} (h : Lookahead.pushBack.run l = .ok () l')
      (hindex : l.pushedBack < l.buffered) : Step l l'

/-- The grammar goes on from a sound lookahead step by step. -/
theorem keeps_steps (l₀ : Lookahead) :
    Keeps (Relation.ReflTransGen Step l₀) fun _ => Relation.ReflTransGen Step l₀ := by
  refine keeps_of_next ?_ ?_ ?_ fun _ hsteps => hsteps
  · intro l l' t hsound hsteps hnext
    exact hsteps.tail (.next hnext (get_window_of_next hnext) (hsound.of_next hnext).2)
  · intro l l' e hsound hsteps hnext
    obtain ⟨fault, rfl, -⟩ := eq_of_next_error hnext
    exact hsteps.tail (.fault hnext)
  · intro l hsound hsteps hroom
    exact hsteps.tail (.pushBack (by rw [run_pushBack, if_pos hroom]) hroom)

/-- A token looked at is one of those that count. -/
theorem Sound.of_peek {l l' : Lookahead} {t : Token} (h : Sound l) (hpeek : peek.run l = .ok t l') :
    ∃ i, l'.pushedBack = i + 1 ∧ i < l'.buffered ∧ l'.window.get i = t := by
  cases hnext : next.run l with
  | ok u l₁ =>
      obtain ⟨-, hroom⟩ := h.of_next hnext
      have hget := get_window_of_next hnext
      rw [peek_of_next hnext (by rw [run_pushBack, if_pos hroom]), EStateM.Result.ok.injEq] at hpeek
      obtain ⟨rfl, rfl⟩ := hpeek
      exact ⟨l₁.pushedBack, rfl, hroom, hget⟩
  | error e l₁ =>
      rw [peek_of_next_error hnext] at hpeek
      cases hpeek

end Lookahead

/-! ## The window is not left -/

namespace Template

variable [Alphabet]

/-- Where a template stands, and what any next move does, stays within the window. -/
structure WithinWindow (t : Template) : Prop where
  /-- No more tokens are given back than the window counts. -/
  pushedBack_le : t.lookahead.pushedBack ≤ t.lookahead.buffered
  /-- The window counts no more tokens than it has room for. -/
  buffered_le : t.lookahead.buffered ≤ Window.size
  /-- A token read is found among those that count. -/
  next : ∀ u t', t.perform .next = (.ok (.token u), t') →
    t'.lookahead.pushedBack < t'.lookahead.buffered ∧
      t'.lookahead.window.get t'.lookahead.pushedBack = u
  /-- A token looked at is found among those that count. -/
  peek : ∀ u t', t.perform .peek = (.ok (.token u), t') →
    ∃ i, t'.lookahead.pushedBack = i + 1 ∧ i < t'.lookahead.buffered ∧
      t'.lookahead.window.get i = u
  /-- Whatever a move reads and gives back, it finds all of it among those that count. -/
  steps : ∀ m r, m.reading? = some r →
    Relation.ReflTransGen Lookahead.Step t.lookahead (t.perform m).2.lookahead
  /-- What else the window holds makes no difference to what a move yields. -/
  unseen : ∀ window, (∀ i < t.lookahead.buffered, window.get i = t.lookahead.window.get i) →
    ∀ m, ({ t with lookahead := { t.lookahead with window } }.perform m).1 = (t.perform m).1
  /-- Too much is given back by nothing but giving back by hand. -/
  eq_pushBack : ∀ m e t', t.perform m = (.error e, t') → e.fault = .lookaheadOverflow →
    m = .pushBack

/-- A move on a template whose lookahead is sound is made of steps. -/
theorem steps_perform {t : Template} (h : t.lookahead.Sound) {m : Move} {r : Reading Yield}
    (hm : m.reading? = some r) :
    Relation.ReflTransGen Lookahead.Step t.lookahead (t.perform m).2.lookahead := by
  rcases (perform_keeps (Lookahead.keeps_steps t.lookahead) hm h .refl).2 with
    ⟨-, hsteps⟩ | ⟨e, -, -, hsteps⟩ | ⟨-, -, hsame⟩
  · exact hsteps
  · exact hsteps
  · rw [hsame]

/-- On a template whose lookahead is sound too much can be given back only by hand. -/
theorem eq_pushBack_of_overflow {t t' : Template} (h : t.lookahead.Sound) {m : Move}
    {e : ParseError} (hperform : t.perform m = (.error e, t')) (hfault : e.fault = .lookaheadOverflow) :
    m = .pushBack := by
  rcases m.reading_cases with ⟨r, hm⟩ | ⟨name, rfl⟩ | rfl | ⟨functions, feed, rfl⟩
  · have hkeeps := (perform_keeps (Lookahead.keeps_steps t.lookahead) hm h .refl).2
    rw [hperform] at hkeeps
    rcases hkeeps with ⟨⟨y, hy⟩, -⟩ | ⟨e', he', hne, -⟩ | ⟨hback, -⟩
    · cases hy
    · cases he'
      exact absurd hfault hne
    · exact hback
  · cases hperform
  · cases hperform
  · cases hperform

/-- A template whose lookahead is sound stays within the window. -/
theorem withinWindow_of_sound {t : Template} (h : t.lookahead.Sound) : t.WithinWindow where
  pushedBack_le := h.pushedBack_le
  buffered_le := h.buffered_le
  next := by
    intro u t' hperform
    have hread := perform_of_reading (m := .next) rfl t
    rw [hperform, Stateful.run_map] at hread
    cases hnext : Lookahead.next.run t.lookahead with
    | ok v l =>
        simp only [hnext, Except.ok.injEq, Yield.token.injEq] at hread
        obtain ⟨rfl, rfl⟩ := hread
        exact ⟨(h.of_next hnext).2, Lookahead.get_window_of_next hnext⟩
    | error e l => simp [hnext] at hread
  peek := by
    intro u t' hperform
    have hread := perform_of_reading (m := .peek) rfl t
    rw [hperform, Stateful.run_map] at hread
    cases hpeek : Lookahead.peek.run t.lookahead with
    | ok v l =>
        simp only [hpeek, Except.ok.injEq, Yield.token.injEq] at hread
        obtain ⟨rfl, rfl⟩ := hread
        exact h.of_peek hpeek
    | error e l => simp [hpeek] at hread
  steps := fun _ _ => steps_perform h
  unseen := by
    intro window hwindow m
    have halike : t.Alike { t with lookahead := { t.lookahead with window } } :=
      ⟨rfl, rfl, rfl, ⟨h, rfl, rfl, rfl, hwindow⟩, rfl, rfl⟩
    exact (halike.perform m).1.symm
  eq_pushBack := fun _ _ _ => eq_pushBack_of_overflow h

/-! ## Parsing -/

omit [Alphabet] in
/-- The only fault of a redefinition is that there is one. -/
theorem fault_of_checkRedefinition {t : Template} {set : TemplateSet} {e : ParseError}
    (h : t.checkRedefinition set = .error e) : e.fault = .multipleDefinition t.name := by
  unfold checkRedefinition at h
  split at h
  · cases h
    rfl
  · cases h

/-- No parse gives back too much. -/
theorem parse_ne_overflow (t : Template) (text : String) (options : Options) (set : TemplateSet)
    (name : String) (line : Nat) :
    (t.parse text options set).1 ≠ .error ⟨.lookaheadOverflow, name, line⟩ := by
  have hsound : (t.begun text options).lookahead.Sound := t.lookahead.sound_restart _
  unfold parse
  cases hread : (t.begun text options).readBody with
  | mk result read =>
      cases result with
      | error e =>
          intro heq
          obtain rfl : e = ⟨.lookaheadOverflow, name, line⟩ := by simpa using heq
          have hbody : (t.begun text options).perform .body =
              (.error ⟨.lookaheadOverflow, name, line⟩, read) := by
            rw [perform, hread]
            rfl
          cases eq_pushBack_of_overflow hsound hbody rfl
      | ok u =>
          cases hcheck : read.checkRedefinition set with
          | error e =>
              have hfault := fault_of_checkRedefinition hcheck
              intro heq
              obtain rfl : e = ⟨.lookaheadOverflow, name, line⟩ := by simpa [hcheck] using heq
              cases hfault
          | ok v => simp [hcheck]

/-- Whatever moves are made in a reading that has begun, failed ones included, it stays within the
window, and of all moves only giving back by hand can give back too much. No parse does. -/
theorem withinWindow_performAll (t : Template) (functions : List FunctionTable) (feed : Feed)
    (moves : List Move) :
    ((t.start functions feed).performAll moves).2.WithinWindow ∧
      (∀ text options set name line,
        (t.parse text options set).1 ≠ .error ⟨.lookaheadOverflow, name, line⟩) ∧
      ∀ name text options template line,
        ActionTemplate.parse name text options ≠ .error ⟨.lookaheadOverflow, template, line⟩ := by
  refine ⟨withinWindow_of_sound (sound_performAll (t.lookahead.sound_restart feed) moves),
    t.parse_ne_overflow, ?_⟩
  intro name text options template line
  have hne := parse_ne_overflow { name } text options .empty template line
  unfold ActionTemplate.parse
  cases hparse : ({ name } : Template).parse text options .empty with
  | mk result set =>
      rw [hparse] at hne
      cases result with
      | ok _ => simp
      | error e => simpa using hne

end Template

end ActionTemplate
