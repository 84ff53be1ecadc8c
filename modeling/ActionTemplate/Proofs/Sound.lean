import ActionTemplate.Proofs.Parallel
import ActionTemplate.Proofs.Retrace

/-!
# Sound lookaheads

A lookahead is sound if it has given back no more tokens than its window counts, if the window
counts no more than it has room for, and if no fault is kept in it. Beginning a text makes a lookahead
sound, whatever it was, and every move keeps it so.

`next_cases` says once what a read can do. `Keeps` is what the grammar keeps up on sound lookaheads,
and `perform_keeps` what follows for a move.
-/

namespace ActionTemplate

namespace Lookahead

variable [Alphabet]

/-! ## What a read can do -/

/-- The next token from a feed and what is left of the feed. Without a feed it is the end of
input. -/
def draw : Option Feed → Token × Option Feed
  | none => ({}, none)
  | some f => (f.next.1, some f.next.2)

/-- While no token is given back, a token proper is let come and kept. -/
theorem run_next_of_draw {l : Lookahead} (hn : l.pushedBack = 0)
    (h : ∀ fault, (draw l.feed).1.kind ≠ .error fault) :
    next.run l = .ok (draw l.feed).1 ⟨(draw l.feed).2, l.window.push (draw l.feed).1, 0,
      min (l.buffered + 1) Window.size⟩ := by
  have hpull : pull.run l = .ok (draw l.feed).1 { l with feed := (draw l.feed).2 } := by
    cases hfeed : l.feed with
    | none =>
        rw [Stateful.run_eq, pull]
        simp only [hfeed, draw]
        rw [← hfeed]
    | some f =>
        rw [hfeed] at h
        exact run_pull_of_proper hfeed h
  rw [run_next_of_pushedBack_eq_zero hn, hpull]
  simp [hn]

/-- While no token is given back, a fault that comes is reported and not kept. -/
theorem run_next_of_draw_error {l : Lookahead} {fault : LexFault} (hn : l.pushedBack = 0)
    (h : (draw l.feed).1.kind = .error fault) :
    next.run l = .error (.lexical fault) { l with feed := (draw l.feed).2 } := by
  cases hfeed : l.feed with
  | none =>
      rw [hfeed] at h
      cases h
  | some f =>
      rw [hfeed] at h
      rw [run_next_of_pushedBack_eq_zero hn, run_pull_of_error hfeed h]
      rfl

/-- A read yields the token given back last. If none is given back it yields a new one, which the
window keeps, or fails with the fault that comes instead. -/
theorem next_cases (l : Lookahead) :
    (∃ n, l.pushedBack = n + 1 ∧ next.run l = .ok (l.window.get n) { l with pushedBack := n }) ∨
      l.pushedBack = 0 ∧
        ((∃ fault, (draw l.feed).1.kind = .error fault ∧
            next.run l = .error (.lexical fault) { l with feed := (draw l.feed).2 }) ∨
          (∀ fault, (draw l.feed).1.kind ≠ .error fault) ∧
            next.run l = .ok (draw l.feed).1
              ⟨(draw l.feed).2, l.window.push (draw l.feed).1, 0,
                min (l.buffered + 1) Window.size⟩) := by
  cases hn : l.pushedBack with
  | succ n => exact Or.inl ⟨n, rfl, run_next_of_pushedBack hn⟩
  | zero =>
      refine Or.inr ⟨rfl, ?_⟩
      by_cases hfault : ∃ fault, (draw l.feed).1.kind = .error fault
      · obtain ⟨fault, hfault⟩ := hfault
        refine Or.inl ⟨fault, hfault, ?_⟩
        rw [run_next_of_draw_error hn hfault, hn]
      · have hproper : ∀ fault, (draw l.feed).1.kind ≠ .error fault :=
          fun fault hf => hfault ⟨fault, hf⟩
        exact Or.inr ⟨hproper, run_next_of_draw hn hproper⟩

/-- A read that succeeds takes the token given back last, or else keeps the new one that comes. -/
theorem eq_of_next {l l' : Lookahead} {t : Token} (h : next.run l = .ok t l') :
    (∃ n, l.pushedBack = n + 1 ∧ t = l.window.get n ∧ l' = { l with pushedBack := n }) ∨
      l.pushedBack = 0 ∧ t = (draw l.feed).1 ∧ (∀ fault, t.kind ≠ .error fault) ∧
        l' = ⟨(draw l.feed).2, l.window.push t, 0, min (l.buffered + 1) Window.size⟩ := by
  rcases next_cases l with ⟨n, hn, hrun⟩ | ⟨hn, ⟨fault, -, hrun⟩ | ⟨hproper, hrun⟩⟩
  · rw [h, EStateM.Result.ok.injEq] at hrun
    exact Or.inl ⟨n, hn, hrun⟩
  · rw [h] at hrun
    cases hrun
  · rw [h, EStateM.Result.ok.injEq] at hrun
    obtain ⟨rfl, rfl⟩ := hrun
    exact Or.inr ⟨hn, rfl, hproper, rfl⟩

/-- A read fails only with a fault of the text, and then nothing but the feed has changed. -/
theorem eq_of_next_error {l l' : Lookahead} {e : ParseFault} (h : next.run l = .error e l') :
    ∃ fault, e = .lexical fault ∧ (draw l.feed).1.kind = .error fault ∧
      l' = { l with feed := (draw l.feed).2 } := by
  rcases next_cases l with ⟨n, -, hrun⟩ | ⟨-, ⟨fault, hkind, hrun⟩ | ⟨-, hrun⟩⟩
  · rw [h] at hrun
    cases hrun
  · rw [h, EStateM.Result.error.injEq] at hrun
    exact ⟨fault, hrun.1, hkind, hrun.2⟩
  · rw [h] at hrun
    cases hrun

/-! ## Soundness -/

/-- No more tokens are given back than the window counts, the window counts no more than it has room
for, and no fault is kept. -/
structure Sound (l : Lookahead) : Prop where
  pushedBack_le : l.pushedBack ≤ l.buffered
  buffered_le : l.buffered ≤ Window.size
  proper : ∀ i < l.buffered, ∀ fault, (l.window.get i).kind ≠ .error fault

omit [Alphabet] in
/-- A lookahead in front of a new feed is sound, whatever it was before. -/
theorem sound_restart (l : Lookahead) (feed : Feed) : Sound (l.restart feed) :=
  ⟨Nat.le_refl _, Nat.zero_le _, fun _ hi => absurd hi (Nat.not_lt_zero _)⟩

omit [Alphabet] in
/-- A lookahead that has read nothing is sound. -/
theorem sound_empty : Sound {} :=
  ⟨Nat.le_refl _, Nat.zero_le _, fun _ hi => absurd hi (Nat.not_lt_zero _)⟩

omit [Alphabet] in
/-- Giving back a token that counts keeps a lookahead sound. -/
theorem Sound.givenBack {l : Lookahead} (h : Sound l) (hroom : l.pushedBack < l.buffered) :
    Sound { l with pushedBack := l.pushedBack + 1 } :=
  ⟨hroom, h.buffered_le, h.proper⟩

/-- A read keeps a lookahead sound, and the token read can be given back. -/
theorem Sound.of_next {l l' : Lookahead} {t : Token} (h : Sound l) (hnext : next.run l = .ok t l') :
    Sound l' ∧ l'.pushedBack < l'.buffered := by
  have hle := h.pushedBack_le
  have hroom := h.buffered_le
  rcases eq_of_next hnext with ⟨n, hn, -, rfl⟩ | ⟨-, -, hproper, rfl⟩
  · refine ⟨⟨?_, hroom, h.proper⟩, ?_⟩
    · show n ≤ l.buffered
      omega
    · show n < l.buffered
      omega
  · refine ⟨⟨Nat.zero_le _, Nat.min_le_right _ _, fun i hi => ?_⟩, ?_⟩
    · cases i with
      | zero => exact hproper
      | succ i =>
          have hi' : i + 1 < min (l.buffered + 1) Window.size := hi
          show ∀ fault, ((l.window.push _).get (i + 1)).kind ≠ .error fault
          rw [Window.get_push_succ _ _ (by omega)]
          exact h.proper i (by omega)
    · show 0 < min (l.buffered + 1) Window.size
      unfold Window.size
      omega

/-- A fault met by a read keeps a lookahead sound. -/
theorem Sound.of_next_error {l l' : Lookahead} {e : ParseFault} (h : Sound l)
    (hnext : next.run l = .error e l') : Sound l' := by
  obtain ⟨fault, -, -, rfl⟩ := eq_of_next_error hnext
  exact ⟨h.pushedBack_le, h.buffered_le, h.proper⟩

/-! ### What the grammar keeps up -/

/-- Both are the same lookahead, which is sound and has the property `I`. -/
def Same (I : Lookahead → Prop) (l l' : Lookahead) : Prop := l = l' ∧ Sound l ∧ I l

/-- The grammar keeps up the property `I` of sound lookaheads, and where it fails, `E` holds. The
fault is never one of the lookahead. -/
def Keeps (I : Lookahead → Prop) (E : ParseFault → Lookahead → Prop) : Prop :=
  Compatible (Same I) (Same fun l => I l ∧ l.pushedBack < l.buffered)
    fun e => Same fun l => e ≠ .lookaheadOverflow ∧ E e l

/-- The grammar keeps up what reads and tokens given back keep up. -/
theorem keeps_of_next {I : Lookahead → Prop} {E : ParseFault → Lookahead → Prop}
    (hnext : ∀ {l l' t}, Sound l → I l → next.run l = .ok t l' → I l')
    (herror : ∀ {l l' e}, Sound l → I l → next.run l = .error e l' → E e l')
    (hback : ∀ {l : Lookahead}, Sound l → I l → l.pushedBack < l.buffered →
      I { l with pushedBack := l.pushedBack + 1 })
    (hunexpected : ∀ {l found}, Sound l → I l → E (.unexpected found) l) : Keeps I E where
  next := by
    rintro l l' ⟨rfl, hsound, hI⟩
    generalize hl : Lookahead.next.run l = result
    cases result with
    | ok t l₁ =>
        obtain ⟨hsound₁, hroom⟩ := hsound.of_next hl
        exact .ok ⟨rfl, hsound₁, hnext hsound hI hl, hroom⟩
    | error e l₁ =>
        obtain ⟨fault, he, -⟩ := eq_of_next_error hl
        exact .error ⟨rfl, hsound.of_next_error hl, by simp [he], herror hsound hI hl⟩
  room := by
    rintro l l' ⟨rfl, -, -, hroom⟩
    exact ⟨hroom, hroom⟩
  givenBack := by
    rintro l l' ⟨rfl, hsound, hI, hroom⟩
    exact ⟨rfl, hsound.givenBack hroom, hback hsound hI hroom⟩
  forget := by
    rintro l l' ⟨rfl, hsound, hI, -⟩
    exact ⟨rfl, hsound, hI⟩
  line := by
    rintro l l' ⟨rfl, -⟩
    rfl
  unexpected := by
    rintro l l' found ⟨rfl, hsound, hI⟩
    exact ⟨rfl, hsound, by simp, hunexpected hsound hI⟩

/-- What the grammar keeps up holds behind tokens that are read past. -/
theorem Keeps.of_nextPast {I : Lookahead → Prop} {E : ParseFault → Lookahead → Prop} (h : Keeps I E)
    {skipped : List TokenKind} {l l' : Lookahead} {t : Token} (hsound : Sound l) (hI : I l)
    (hrun : (nextPast skipped).run l = .ok t l') : I l' := by
  have hself := (h.nextPast skipped).run_self ⟨rfl, hsound, hI⟩
  rw [hrun] at hself
  exact hself.2.2.1

end Lookahead

/-! ## Moves in a row -/

namespace Template

variable [Alphabet]

/-- Any move that reads, but reading a body, performs its computation and does no more. -/
theorem perform_eq_run {m : Move} {r : Reading Yield} (hm : m.reading? = some r) (hbody : m ≠ .body)
    (t : Template) : t.perform m = t.run r := by
  cases m with
  | body => exact absurd rfl hbody
  | pushVar name => cases hm
  | stop => cases hm
  | start functions feed => cases hm
  | _ =>
      cases hm
      rfl

omit [Alphabet] in
/-- A computation on the tokens of a template changes nothing but its lookahead. -/
theorem run_frame {α : Type} (t : Template) (r : Reading α) :
    (t.run r).2 = { t with lookahead := (t.run r).2.lookahead } := by
  unfold run
  cases r.run t.lookahead <;> rfl

/-- A body that has been read becomes the body of the template. -/
theorem perform_body (t : Template) :
    t.perform .body = match Lookahead.body.run t.lookahead with
      | .ok b l => (.ok .done, { t with lookahead := l, root := some b })
      | .error e l => (.error ({ t with lookahead := l }.errorAt e), { t with lookahead := l }) := by
  rw [perform, readBody, run]
  cases Lookahead.body.run t.lookahead <;> rfl

/-- A move that reads yields what its computation yields, and leads where that leads. If it fails,
nothing but the lookahead has changed. -/
theorem perform_of_reading {m : Move} {r : Reading Yield} (hm : m.reading? = some r) (t : Template) :
    match r.run t.lookahead with
    | .ok y l => (t.perform m).1 = .ok y ∧ (t.perform m).2.lookahead = l
    | .error e l => t.perform m =
        (.error ({ t with lookahead := l }.errorAt e), { t with lookahead := l }) := by
  by_cases hbody : m = .body
  · subst hbody
    cases hm
    rw [perform_body, Stateful.run_map]
    cases Lookahead.body.run t.lookahead with
    | ok b l => exact ⟨rfl, rfl⟩
    | error e l => rfl
  · rw [perform_eq_run hm hbody, run]
    cases r.run t.lookahead with
    | ok y l => exact ⟨rfl, rfl⟩
    | error e l => rfl

/-- What reading and giving back keep up holds after a move, unless the move gives back by
itself. -/
theorem perform_self {R S : Lookahead → Lookahead → Prop}
    {E : ParseFault → Lookahead → Lookahead → Prop} (h : Lookahead.Compatible R S E) {m : Move}
    {r : Reading Yield} (hm : m.reading? = some r) (hback : m ≠ .pushBack) {t : Template}
    (hR : R t.lookahead t.lookahead) :
    match (t.perform m).1 with
    | .ok _ => R (t.perform m).2.lookahead (t.perform m).2.lookahead
    | .error e => E e.fault (t.perform m).2.lookahead (t.perform m).2.lookahead := by
  have hself := (leads_of_reading h hm hback).run_self hR
  have hperform := perform_of_reading hm t
  generalize r.run t.lookahead = result at hself hperform
  cases result with
  | ok y l =>
      rw [hperform.1, hperform.2]
      exact hself
  | error e l =>
      rw [hperform]
      exact hself

/-- What the grammar keeps up holds after every move that reads. A move that fails leaves what a
failed read leaves, or it gives back a token by hand and changes nothing. -/
theorem perform_keeps {I : Lookahead → Prop} {E : ParseFault → Lookahead → Prop}
    (h : Lookahead.Keeps I E) {m : Move} {r : Reading Yield} (hm : m.reading? = some r)
    {t : Template} (hsound : t.lookahead.Sound) (hI : I t.lookahead) :
    (t.perform m).2.lookahead.Sound ∧
      ((∃ y, (t.perform m).1 = .ok y) ∧ I (t.perform m).2.lookahead ∨
        (∃ e, (t.perform m).1 = .error e ∧ e.fault ≠ .lookaheadOverflow ∧
          E e.fault (t.perform m).2.lookahead) ∨
        m = .pushBack ∧ (∃ e, (t.perform m).1 = .error e ∧ e.fault = .lookaheadOverflow) ∧
          (t.perform m).2 = t) := by
  by_cases hback : m = .pushBack
  · subst hback
    rw [perform_pushBack]
    by_cases hroom : t.lookahead.pushedBack < t.lookahead.buffered
    · rw [if_pos hroom]
      exact ⟨hsound.givenBack hroom,
        Or.inl ⟨⟨_, rfl⟩, (h.givenBack ⟨rfl, hsound, hI, hroom⟩).2.2⟩⟩
    · rw [if_neg hroom]
      exact ⟨hsound, Or.inr (Or.inr ⟨rfl, ⟨_, rfl, rfl⟩, rfl⟩)⟩
  · have hself := perform_self h hm hback (t := t) ⟨rfl, hsound, hI⟩
    generalize (t.perform m).1 = result at hself
    cases result with
    | ok y => exact ⟨hself.2.1, Or.inl ⟨⟨y, rfl⟩, hself.2.2⟩⟩
    | error e => exact ⟨hself.2.1, Or.inr (Or.inl ⟨e, rfl, hself.2.2⟩)⟩

/-- Every move keeps the lookahead sound. -/
theorem sound_perform {t : Template} (h : t.lookahead.Sound) (m : Move) :
    (t.perform m).2.lookahead.Sound := by
  rcases m.reading_cases with ⟨r, hm⟩ | ⟨name, rfl⟩ | rfl | ⟨functions, feed, rfl⟩
  · -- soundness is kept up beside any property, and none is needed here
    have hkeeps : Lookahead.Keeps (fun _ => True) fun _ _ => True :=
      Lookahead.keeps_of_next (fun _ _ _ => trivial) (fun _ _ _ => trivial) (fun _ _ _ => trivial)
        fun _ _ => trivial
    exact (perform_keeps hkeeps hm h trivial).1
  · exact h
  · exact Lookahead.sound_empty
  · exact t.lookahead.sound_restart feed

/-- Any number of moves keeps the lookahead sound. -/
theorem sound_performAll {t : Template} (h : t.lookahead.Sound) (ms : List Move) :
    (t.performAll ms).2.lookahead.Sound := by
  induction ms generalizing t with
  | nil => exact h
  | cons m ms ih => exact ih (sound_perform h m)

end Template

end ActionTemplate
