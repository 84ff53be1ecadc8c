import ActionTemplate.Proofs.Faults
import ActionTemplate.Proofs.Schedule

/-!
# The tokens to come

In front of a lookahead stand first the tokens given back, the one given back last in front, and then
whatever its feed still has: `upcoming` is their sequence, which ends in ends of input without end.
`Further l n l'` says that `l'` stands in front of the same sequence, `n` tokens further on.

A read yields the first token of the sequence or meets it as a fault, `readsAt_next`, and so does
reading past blanks with the first token that is none, `readsAt_nextPastSpaces`. Finishing a line ends
at the first token that ends it, or at a fault in front of that, `finishesAt_finishLine`.
-/

namespace ActionTemplate

variable [Alphabet]

/-! ## A feed further on -/

namespace Feed

/-- One request and some more. -/
theorem after_succ (f : Feed) (k : Nat) : f.after (k + 1) = f.next.2.after k :=
  Function.iterate_succ_apply _ _ _

/-- Some requests and some more. -/
theorem after_add (f : Feed) (j k : Nat) : f.after (j + k) = (f.after j).after k := by
  rw [after, Nat.add_comm]
  exact Function.iterate_add_apply _ k j f

end Feed

namespace Lookahead

/-- The feed after `k` tokens have been drawn from it. -/
def after (feed : Option Feed) (k : Nat) : Option Feed := feed.map (·.after k)

@[simp] theorem after_zero (feed : Option Feed) : after feed 0 = feed := by
  cases feed <;> rfl

/-- One token drawn and some more. -/
theorem after_succ (feed : Option Feed) (k : Nat) : after feed (k + 1) = after (draw feed).2 k := by
  cases feed with
  | none => rfl
  | some f => exact congrArg some (f.after_succ k)

/-- Some tokens drawn and some more. -/
theorem after_add (feed : Option Feed) (j k : Nat) : after feed (j + k) = after (after feed j) k := by
  cases feed with
  | none => rfl
  | some f => exact congrArg some (f.after_add j k)

/-- A feed that is spent stays as it is. -/
theorem Spent.after {feed : Option Feed} (h : Spent feed) (k : Nat) : after feed k = feed := by
  induction k with
  | zero => exact after_zero feed
  | succ k ih => rw [after_succ, h.2, ih]

/-- Every feed comes to an end. -/
theorem exists_endOfInput (feed : Option Feed) :
    ∃ k, ∀ i, k ≤ i → (draw (after feed i)).1.kind = .endOfInput := by
  cases feed with
  | none => exact ⟨0, fun _ _ => rfl⟩
  | some f =>
      -- each token that is not terminal brings the end of the feed closer
      induction hn : f.remaining using Nat.strongRecOn generalizing f with
      | ind n ih =>
          cases hkind : f.next.1.kind.isTerminal with
          | true =>
              have hspent : Spent (draw (some f)).2 := spent_of_isTerminal hkind
              refine ⟨1, fun i hi => ?_⟩
              obtain ⟨j, rfl⟩ := Nat.exists_eq_add_of_le' hi
              rw [after_succ, hspent.after]
              exact hspent.1
          | false =>
              obtain ⟨k, hk⟩ := ih _ (hn ▸ Feed.remaining_next_lt hkind) f.next.2 rfl
              refine ⟨k + 1, fun i hi => ?_⟩
              obtain ⟨j, rfl⟩ := Nat.exists_eq_add_of_le' (Nat.le_of_add_left_le hi)
              rw [after_succ]
              exact hk j (by omega)

/-! ## The sequence of tokens -/

/-- The token that comes behind `i` others: first those given back, then those of the feed. -/
def upcoming (l : Lookahead) (i : Nat) : Token :=
  if i < l.pushedBack then l.window.get (l.pushedBack - 1 - i)
  else (draw (after l.feed (i - l.pushedBack))).1

/-- However far on, an end of input comes. -/
theorem exists_upcoming_endOfInput (l : Lookahead) (start : Nat) :
    ∃ i, (l.upcoming (start + i)).kind = .endOfInput := by
  obtain ⟨k, hk⟩ := exists_endOfInput l.feed
  refine ⟨l.pushedBack + k, ?_⟩
  rw [upcoming, if_neg (by omega)]
  exact hk _ (by omega)

/-- The lookahead `l'` stands `n` tokens further on than `l`. -/
structure Further (l : Lookahead) (n : Nat) (l' : Lookahead) : Prop where
  /-- The tokens to come are the same but for the first `n`. -/
  upcoming : ∀ i, l'.upcoming i = l.upcoming (n + i)
  /-- The feed is further on by as many tokens as are neither taken from those given back nor given
  back again. -/
  feed : ∃ drawn, l'.feed = after l.feed drawn ∧ drawn + l.pushedBack = n + l'.pushedBack

variable {l l₁ l₂ l' : Lookahead} {t : Token} {m n : Nat}

/-- Some tokens further on and some more. -/
theorem Further.trans (h : Further l m l₁) (h' : Further l₁ n l₂) : Further l (m + n) l₂ := by
  obtain ⟨drawn, hfeed, hcount⟩ := h.feed
  obtain ⟨drawn', hfeed', hcount'⟩ := h'.feed
  constructor
  · intro i
    rw [h'.upcoming, h.upcoming, Nat.add_assoc]
  · exact ⟨drawn + drawn', by rw [hfeed', hfeed, after_add], by omega⟩

/-- Behind a token given back come the tokens that came before. -/
theorem upcoming_givenBack (l : Lookahead) (i : Nat) :
    upcoming { l with pushedBack := l.pushedBack + 1 } (i + 1) = l.upcoming i := by
  show (if i + 1 < l.pushedBack + 1 then l.window.get (l.pushedBack + 1 - 1 - (i + 1))
    else (draw (after l.feed (i + 1 - (l.pushedBack + 1)))).1) = _
  rw [upcoming, show l.pushedBack + 1 - 1 - (i + 1) = l.pushedBack - 1 - i by omega,
    Nat.add_sub_add_right]
  simp only [Nat.add_lt_add_iff_right]

/-- A token given back is the first one to come again. -/
theorem Further.givenBack (h : Further l (n + 1) l')
    (hget : l'.window.get l'.pushedBack = l.upcoming n) :
    Further l n { l' with pushedBack := l'.pushedBack + 1 } := by
  obtain ⟨drawn, hfeed, hcount⟩ := h.feed
  refine ⟨fun i => ?_, drawn, hfeed, ?_⟩
  · cases i with
    | zero => exact (if_pos (Nat.succ_pos _)).trans hget
    | succ i =>
        rw [upcoming_givenBack, h.upcoming, Nat.add_assoc, Nat.add_comm 1 i]
  · show drawn + l.pushedBack = n + (l'.pushedBack + 1)
    omega

/-- A token read again is one token further on. -/
theorem further_of_pushedBack (hn : l.pushedBack = n + 1) : Further l 1 { l with pushedBack := n } := by
  refine ⟨fun i => ?_, 0, (after_zero l.feed).symm, ?_⟩
  · have hl : { l with pushedBack := n + 1 } = l := by rw [← hn]
    have hback := upcoming_givenBack { l with pushedBack := n } i
    rw [hl] at hback
    rw [← hback, Nat.add_comm]
  · show 0 + l.pushedBack = 1 + n
    omega

/-- A new token is one token further on. -/
theorem further_of_draw (hn : l.pushedBack = 0) (window : Window) (buffered : Nat) :
    Further l 1 ⟨(draw l.feed).2, window, 0, buffered⟩ := by
  refine ⟨fun i => ?_, 1, (after_succ l.feed 0).symm ▸ (after_zero _).symm, ?_⟩
  · rw [upcoming, upcoming, if_neg (Nat.not_lt_zero i), if_neg (by omega), hn, Nat.sub_zero,
      Nat.sub_zero, Nat.add_comm, after_succ]
  · show 1 + l.pushedBack = 1 + 0
    rw [hn]

/-! ## Reading what comes -/

/-- The first of some tokens whose kind has the property `p` is the one behind `n` others. -/
def FirstAt (tokens : Nat → Token) (p : TokenKind → Prop) (n : Nat) : Prop :=
  p (tokens n).kind ∧ ∀ i < n, ¬p (tokens i).kind

omit [Alphabet] in
/-- If there is a token whose kind has a property, there is a first one. -/
theorem exists_firstAt (tokens : Nat → Token) (p : TokenKind → Prop) (h : ∃ n, p (tokens n).kind) :
    ∃ n, FirstAt tokens p n := by
  obtain ⟨n, hn⟩ := h
  induction n using Nat.strongRecOn with
  | ind n ih =>
      by_cases hbefore : ∃ i < n, p (tokens i).kind
      · obtain ⟨i, hi, hp⟩ := hbefore
        exact ih i hi hp
      · exact ⟨n, hn, fun i hi hp => hbefore ⟨i, hi, hp⟩⟩

/-- Behind a token without the property the first one that has it is one token closer. -/
theorem FirstAt.of_further {p : TokenKind → Prop} (h : FirstAt l.upcoming p (n + 1))
    (hfurther : Further l 1 l') : FirstAt l'.upcoming p n := by
  refine ⟨?_, fun i hi => ?_⟩
  · rw [hfurther.upcoming, Nat.add_comm]
    exact h.1
  · rw [hfurther.upcoming, Nat.add_comm]
    exact h.2 (i + 1) (Nat.succ_lt_succ hi)

/-- Where reading the token behind `n` others can lead: behind the token, which can be given back, or,
if it is a fault, to the end of the reading. As many tokens are read as can be of those given back. -/
inductive ReadsAt (l : Lookahead) (n : Nat) : EStateM.Result ParseFault Lookahead Token → Prop where
  | token {l' : Lookahead} (hproper : ∀ fault, (l.upcoming n).kind ≠ .error fault)
      (hfurther : Further l (n + 1) l') (hback : l'.pushedBack = l.pushedBack - (n + 1))
      (hsound : Sound l') (hroom : l'.pushedBack < l'.buffered)
      (hget : l'.window.get l'.pushedBack = l.upcoming n) : ReadsAt l n (.ok (l.upcoming n) l')
  | fault {fault : LexFault} {l' : Lookahead} (hkind : (l.upcoming n).kind = .error fault) :
      ReadsAt l n (.error (.lexical fault) l')

/-- A read that yields the first token to come leads behind it. -/
theorem readsAt_of_next (h : Sound l) (hrun : next.run l = .ok t l') (hfirst : l.upcoming 0 = t)
    (hproper : ∀ fault, t.kind ≠ .error fault) (hfurther : Further l 1 l')
    (hback : l'.pushedBack = l.pushedBack - 1) : ReadsAt l 0 (next.run l) := by
  subst hfirst
  obtain ⟨hsound, hroom⟩ := h.of_next hrun
  rw [hrun]
  exact .token hproper hfurther hback hsound hroom (get_window_of_next hrun)

/-- The first token to come is read. -/
theorem readsAt_next (h : Sound l) : ReadsAt l 0 (next.run l) := by
  rcases next_cases l with ⟨n, hn, hrun⟩ | ⟨hn, hcases⟩
  · have hfirst : l.upcoming 0 = l.window.get n := by
      rw [upcoming, if_pos (by omega)]
      exact congrArg l.window.get (by omega)
    have hlt : n < l.buffered := by
      have := h.pushedBack_le
      omega
    exact readsAt_of_next h hrun hfirst (h.proper n hlt) (further_of_pushedBack hn)
      (Nat.sub_eq_of_eq_add hn).symm
  · have hfirst : l.upcoming 0 = (draw l.feed).1 := by
      rw [upcoming, if_neg (by omega), hn, after_zero]
    rcases hcases with ⟨fault, hkind, hrun⟩ | ⟨hproper, hrun⟩
    · rw [hrun]
      exact .fault (hfirst ▸ hkind)
    · exact readsAt_of_next h hrun hfirst hproper (further_of_draw hn _ _)
        (Nat.sub_eq_zero_of_le (hn ▸ Nat.zero_le 1)).symm

/-- What is read from some tokens further on is read from behind them. -/
theorem ReadsAt.of_further {result : EStateM.Result ParseFault Lookahead Token}
    (hfurther : Further l m l₁) (hback : l₁.pushedBack = l.pushedBack - m)
    (h : ReadsAt l₁ n result) : ReadsAt l (m + n) result := by
  cases h with
  | token hproper hfurther' hback' hsound hroom hget =>
      rw [hfurther.upcoming] at hproper hget ⊢
      exact .token hproper (hfurther.trans hfurther') (by omega) hsound hroom hget
  | fault hkind => exact .fault (hfurther.upcoming n ▸ hkind)

/-- Reading past blanks yields the first token that is none. -/
theorem readsAt_nextPastSpaces (h : Sound l) (hn : FirstAt l.upcoming (· ≠ .space) n) :
    ReadsAt l n (nextPastSpaces.run l) := by
  -- one blank is read at a time, and the others are then one token closer
  induction n generalizing l with
  | zero =>
      have hread := readsAt_next h
      generalize hl : next.run l = result at hread
      cases hread with
      | token hproper hfurther hback hsound hroom hget =>
          rw [nextPastSpaces, run_nextPast_of_not_skipped hl fun _ => by simpa using hn.1]
          exact .token hproper hfurther hback hsound hroom hget
      | fault hkind =>
          rw [nextPastSpaces, run_nextPast_of_error hl]
          exact .fault hkind
  | succ n ih =>
      have hspace : (l.upcoming 0).kind = .space := by simpa using hn.2 0 (Nat.succ_pos n)
      have hread := readsAt_next h
      generalize hl : next.run l = result at hread
      cases hread with
      | @token l₁ hproper hfurther hback hsound hroom hget =>
          rw [nextPastSpaces, run_nextPast_of_skipped hl (by simp [hspace]) (by simp [hspace]),
            Nat.add_comm]
          exact (ih hsound (hn.of_further hfurther)).of_further hfurther hback
      | fault hkind =>
          rw [hspace] at hkind
          cases hkind

/-! ## Finishing a line -/

/-- Where finishing a line can lead if the first end of a line or of the input comes behind `n` other
tokens. -/
inductive FinishesAt (l : Lookahead) (n : Nat) : EStateM.Result ParseFault Lookahead Unit → Prop where
  /-- A fault comes first. -/
  | fault {i : Nat} {fault : LexFault} {l' : Lookahead} (hi : i < n)
      (hfirst : ∀ j < i, ∀ fault, (l.upcoming j).kind ≠ .error fault)
      (hkind : (l.upcoming i).kind = .error fault) : FinishesAt l n (.error (.lexical fault) l')
  /-- An end of a line is read. -/
  | line {l' : Lookahead} (hproper : ∀ i < n, ∀ fault, (l.upcoming i).kind ≠ .error fault)
      (hkind : (l.upcoming n).kind = .endOfLine) (hfurther : Further l (n + 1) l') :
      FinishesAt l n (.ok () l')
  /-- The end of input is given back, and read next. -/
  | input {l' l'' : Lookahead} (hproper : ∀ i < n, ∀ fault, (l.upcoming i).kind ≠ .error fault)
      (hkind : (l.upcoming n).kind = .endOfInput) (hfurther : Further l n l')
      (hnext : next.run l' = .ok (l.upcoming n) l'') : FinishesAt l n (.ok () l')

/-- Whether a token of this kind ends a line without a fault. -/
def Ends (k : TokenKind) : Prop := k = .endOfLine ∨ k = .endOfInput

/-- There is always a first token that is no blank, and an end of the line that begins with it. -/
theorem exists_head_length (l : Lookahead) : ∃ head length, FirstAt l.upcoming (· ≠ .space) head ∧
    FirstAt (fun i => l.upcoming (head + i)) Ends length := by
  obtain ⟨i, hi⟩ := l.exists_upcoming_endOfInput 0
  rw [Nat.zero_add] at hi
  obtain ⟨head, hhead⟩ := exists_firstAt l.upcoming (· ≠ .space) ⟨i, by simp [hi]⟩
  obtain ⟨j, hj⟩ := l.exists_upcoming_endOfInput head
  obtain ⟨length, hlength⟩ :=
    exists_firstAt (fun i => l.upcoming (head + i)) Ends ⟨j, Or.inr hj⟩
  exact ⟨head, length, hhead, hlength⟩

/-- A line that is finished from behind a token proper is finished from in front of it. -/
theorem FinishesAt.of_further {result : EStateM.Result ParseFault Lookahead Unit}
    (hproper : ∀ fault, (l.upcoming 0).kind ≠ .error fault) (hfurther : Further l 1 l₁)
    (h : FinishesAt l₁ n result) : FinishesAt l (n + 1) result := by
  have hshift : ∀ i, l₁.upcoming i = l.upcoming (i + 1) := fun i => by
    rw [hfurther.upcoming, Nat.add_comm]
  have hbefore : ∀ {k}, (∀ i < k, ∀ fault, (l₁.upcoming i).kind ≠ .error fault) →
      ∀ i < k + 1, ∀ fault, (l.upcoming i).kind ≠ .error fault := by
    intro k hk i hi
    cases i with
    | zero => exact hproper
    | succ i => exact hshift i ▸ hk i (Nat.lt_of_succ_lt_succ hi)
  cases h with
  | fault hi hfirst hkind =>
      exact .fault (Nat.succ_lt_succ hi) (hbefore hfirst) (hshift _ ▸ hkind)
  | line hproper' hkind hfurther' =>
      refine .line (hbefore hproper') (hshift n ▸ hkind) ?_
      rw [Nat.add_comm]
      exact hfurther.trans hfurther'
  | input hproper' hkind hfurther' hnext =>
      refine .input (hbefore hproper') (hshift n ▸ hkind) ?_ (hshift n ▸ hnext)
      rw [Nat.add_comm]
      exact hfurther.trans hfurther'

/-- A line is finished by the first token that ends it. -/
theorem finishesAt_finishLine (h : Sound l) (hn : FirstAt l.upcoming Ends n) :
    FinishesAt l n (finishLine.run l) := by
  -- one token is passed over at a time, and the end of the line is then one token closer
  induction n generalizing l with
  | zero =>
      have hnone : ∀ i < 0, ∀ fault, (l.upcoming i).kind ≠ .error fault :=
        fun i hi => absurd hi (Nat.not_lt_zero i)
      have hread := readsAt_next h
      generalize hl : next.run l = result at hread
      cases hread with
      | @token l₁ hproper hfurther hback hsound hroom hget =>
          rcases hn.1 with hline | hend
          · rw [run_finishLine_of_endOfLine hl hline]
            exact .line hnone hline hfurther
          · have hrun : pushBack.run l₁ = .ok () { l₁ with pushedBack := l₁.pushedBack + 1 } := by
              rw [run_pushBack, if_pos hroom]
            rw [run_finishLine_of_endOfInput hl hend, hrun]
            exact .input hnone hend (hfurther.givenBack hget) (next_of_pushBack hl hrun)
      | fault hkind =>
          rcases hn.1 with hline | hend
          · rw [hline] at hkind
            cases hkind
          · rw [hend] at hkind
            cases hkind
  | succ n ih =>
      have hpassed : (l.upcoming 0).kind ≠ .endOfLine ∧ (l.upcoming 0).kind ≠ .endOfInput :=
        not_or.mp (hn.2 0 (Nat.succ_pos n))
      have hread := readsAt_next h
      generalize hl : next.run l = result at hread
      cases hread with
      | token hproper hfurther hback hsound hroom hget =>
          rw [run_finishLine_of_other hl hpassed.1 hpassed.2]
          exact (ih hsound (hn.of_further hfurther)).of_further hproper hfurther
      | fault hkind =>
          rw [run_finishLine_of_error hl]
          exact .fault (Nat.succ_pos n) (fun j hj => absurd hj (Nat.not_lt_zero j)) hkind

end Lookahead

end ActionTemplate
