import ActionTemplate.Proofs.Place

/-!
# The lookahead as a place on a tape

Whoever reads tokens with lookahead can think of a tape on which all tokens delivered so far stand,
none of them ever dropped, and of a place on it. `Tape` is this reader. It reads the token at its
place, or lets another one come when it stands at the end; a fault that comes is reported and not
written on the tape. It goes back as far as three tokens from the end.

The lookahead, which keeps three tokens and two numbers, cannot be told from it: `Tracks` relates the
two, and `Tracks.next`, `Tracks.pushBack`, `Tracks.peek` and `Tracks.nextPast` are the steps.
-/

namespace ActionTemplate

open Text

/-! ## Tapes -/

/-- A reader of tokens that remembers all of them. -/
structure Tape where
  /-- The tokens that have come so far, faults left out. -/
  delivered : List Token := []
  /-- How many of them stand before the place of the reader. -/
  place : Nat := 0
  /-- The tokens that are still to come. -/
  coming : List Token
  /-- What comes when there are no more. -/
  sentinel : Token
  deriving DecidableEq, Repr

namespace Tape

/-- Let a token come. -/
def pull (s : Tape) : Token × Tape :=
  match s.coming with
  | [] => (s.sentinel, s)
  | t :: ts => (t, { s with coming := ts })

/-- Read the token at the place and go behind it. At the end another token comes. -/
def next (s : Tape) : Except ParseFault Token × Tape :=
  match s.delivered[s.place]? with
  | some t => (.ok t, { s with place := s.place + 1 })
  | none =>
      match s.pull.1.kind with
      | .error fault => (.error (.lexical fault), s.pull.2)
      | _ =>
          (.ok s.pull.1, { s.pull.2 with
            delivered := s.delivered ++ [s.pull.1]
            place := s.place + 1 })

/-- Read the token at the place and stay there. -/
def peek (s : Tape) : Except ParseFault Token × Tape :=
  (s.next.1, { s.next.2 with place := s.place })

/-- How many tokens that have come stand ahead of the place. -/
def unread (s : Tape) : Nat := s.delivered.length - s.place

/-- Go back one token, as far as three from the end. -/
def pushBack (s : Tape) : Except ParseFault Unit × Tape :=
  if s.unread < min s.delivered.length Window.size then (.ok (), { s with place := s.place - 1 })
  else (.error .lookaheadOverflow, s)

/-- The tokens ahead of the place, those to come included. -/
def ahead (s : Tape) : List Token := s.delivered.drop s.place ++ s.coming

/-- Read a number of tokens. -/
def skip : Nat → Tape → Tape
  | 0, s => s
  | n + 1, s => skip n s.next.2

/-- Read the first token that is none of the kinds skipped. -/
def nextPast (skipped : List TokenKind) (s : Tape) : Except ParseFault Token × Tape :=
  (s.skip (s.ahead.takeWhile fun t => decide (t.kind ∈ skipped)).length).next

/-! ### The moves of the tape -/

/-- A read on the tape finds the token there, or lets one come, which can be a fault. -/
theorem next_cases (s : Tape) :
    (∃ t, s.delivered[s.place]? = some t ∧ s.next = (.ok t, { s with place := s.place + 1 })) ∨
      s.delivered[s.place]? = none ∧
        ((∃ fault, s.pull.1.kind = .error fault ∧ s.next = (.error (.lexical fault), s.pull.2)) ∨
          (∀ fault, s.pull.1.kind ≠ .error fault) ∧
            s.next = (.ok s.pull.1, { s.pull.2 with
              delivered := s.delivered ++ [s.pull.1]
              place := s.place + 1 })) := by
  unfold next
  cases ht : s.delivered[s.place]? with
  | some t => exact Or.inl ⟨t, rfl, rfl⟩
  | none =>
      refine Or.inr ⟨rfl, ?_⟩
      cases hkind : s.pull.1.kind with
      | error fault => exact Or.inl ⟨fault, rfl, rfl⟩
      | _ => exact Or.inr ⟨by simp, rfl⟩

/-- Letting a token come moves nothing on the tape. -/
theorem place_pull (s : Tape) : s.pull.2.place = s.place := by
  unfold pull
  cases s.coming <;> rfl

/-- A token just read can be given back. -/
theorem pushBack_of_next {s s' : Tape} {t : Token} (hunread : s.unread ≤ Window.size)
    (h : s.next = (.ok t, s')) : s'.pushBack = (.ok (), { s' with place := s.place }) := by
  unfold Tape.unread at hunread
  have hstep : s'.place = s.place + 1 ∧ s'.unread < min s'.delivered.length Window.size := by
    unfold Tape.unread Window.size at *
    rcases s.next_cases with ⟨u, hu, heq⟩ | ⟨hend, ⟨fault, -, heq⟩ | ⟨-, heq⟩⟩
    · have hlt := (List.getElem?_eq_some_iff.mp hu).1
      rw [h, Prod.mk.injEq] at heq
      rw [heq.2]
      refine ⟨rfl, ?_⟩
      show s.delivered.length - (s.place + 1) < min s.delivered.length 3
      omega
    · rw [h] at heq
      simp at heq
    · have hle := List.getElem?_eq_none_iff.mp hend
      rw [h, Prod.mk.injEq] at heq
      rw [heq.2]
      refine ⟨rfl, ?_⟩
      show (s.delivered ++ [s.pull.1]).length - (s.place + 1) <
        min (s.delivered ++ [s.pull.1]).length 3
      rw [List.length_append, List.length_singleton]
      omega
  rw [pushBack, if_pos hstep.2, hstep.1, Nat.add_sub_cancel]

/-- A fault leaves the place where it is. -/
theorem place_of_next_error {s s' : Tape} {e : ParseFault} (h : s.next = (.error e, s')) :
    s'.place = s.place := by
  rcases s.next_cases with ⟨u, -, heq⟩ | ⟨-, ⟨fault, -, heq⟩ | ⟨-, heq⟩⟩
  · rw [h] at heq
    simp at heq
  · rw [h, Prod.mk.injEq] at heq
    rw [heq.2, place_pull]
  · rw [h] at heq
    simp at heq

/-- A token on the tape is the first ahead. -/
theorem ahead_of_delivered {s : Tape} {t : Token} (ht : s.delivered[s.place]? = some t) :
    s.ahead = t :: (s.delivered.drop (s.place + 1) ++ s.coming) := by
  obtain ⟨hlt, heq⟩ := List.getElem?_eq_some_iff.mp ht
  rw [ahead, List.drop_eq_getElem_cons hlt, heq]
  rfl

/-- At the end of the tape only tokens to come are ahead. -/
theorem ahead_of_end {s : Tape} (hend : s.delivered[s.place]? = none) : s.ahead = s.coming := by
  rw [ahead, List.drop_eq_nil_of_le (List.getElem?_eq_none_iff.mp hend), List.nil_append]

/-- What is read is the first token ahead, or the sentinel if there is none. -/
theorem eq_of_next_ok {s : Tape} {t : Token} (h : s.next.1 = .ok t) :
    t = s.ahead.headD s.sentinel := by
  rcases s.next_cases with ⟨u, hu, heq⟩ | ⟨hend, ⟨fault, -, heq⟩ | ⟨-, heq⟩⟩
  · rw [heq] at h
    rw [ahead_of_delivered hu, List.headD_cons, Except.ok.inj h]
  · rw [heq] at h
    cases h
  · rw [heq] at h
    rw [← Except.ok.inj h, pull, ahead_of_end hend]
    cases s.coming <;> rfl

/-- The first token ahead is read, unless it is a fault, and then the others are ahead. -/
theorem next_of_ahead_cons {s : Tape} (hle : s.place ≤ s.delivered.length) {t : Token}
    {ts : List Token} (h : s.ahead = t :: ts) (ht : ∀ fault, t.kind ≠ .error fault) :
    s.next.1 = .ok t ∧ s.next.2.ahead = ts := by
  rcases s.next_cases with ⟨u, hu, heq⟩ | ⟨hend, ⟨fault, hkind, -⟩ | ⟨-, heq⟩⟩
  · rw [ahead_of_delivered hu, List.cons.injEq] at h
    rw [heq, ← h.1]
    exact ⟨rfl, h.2⟩
  · rw [pull, ← ahead_of_end hend, h] at hkind
    exact absurd hkind (ht fault)
  · have hpull : s.pull = (t, { s with coming := ts }) := by rw [pull, ← ahead_of_end hend, h]
    have hlength : s.delivered.length = s.place :=
      Nat.le_antisymm (List.getElem?_eq_none_iff.mp hend) hle
    rw [heq, hpull]
    refine ⟨rfl, ?_⟩
    show (s.delivered ++ [t]).drop (s.place + 1) ++ ts = ts
    rw [List.drop_eq_nil_of_le (by simp [hlength]), List.nil_append]

/-- The tape for the tokens of a text, none of which have come. -/
def ofString [Alphabet] (text : String) : Tape :=
  { coming := (Scanner.ofString text).drain.1
    sentinel := Token.endAt (byteLength text.toList) }

end Tape

namespace Lookahead

variable [Alphabet]

/-! ## Tracking -/

/-- The lookahead keeps of the tape what it takes to read on and to go back. -/
structure Tracks (text : List Char) (s : Tape) (l : Lookahead) : Prop where
  sentinel : s.sentinel = Token.endAt (byteLength text)
  place_le : s.place ≤ s.delivered.length
  pushedBack : l.pushedBack = s.unread
  place : At text l (s.delivered.take s.place) s.ahead
  proper : ∀ t ∈ s.delivered, ∀ fault, t.kind ≠ .error fault

/-- A computation on the lookahead and a move on the tape end in the same way. -/
inductive Mirrors {α : Type} (text : List Char) :
    EStateM.Result ParseFault Lookahead α → Except ParseFault α × Tape → Prop where
  | ok {a : α} {l : Lookahead} {s : Tape} (h : Tracks text s l) : Mirrors text (.ok a l) (.ok a, s)
  | error {e : ParseFault} {l : Lookahead} {s : Tape} (h : Tracks text s l) :
      Mirrors text (.error e l) (.error e, s)

variable {text : List Char} {s : Tape} {l : Lookahead}

/-- As many tokens as are on the tape count in the window, as long as it has room. -/
theorem Tracks.buffered (h : Tracks text s l) :
    l.buffered = min s.delivered.length Window.size := by
  have hle := h.place_le
  rw [h.place.buffered, h.pushedBack, Tape.unread, List.length_take]
  congr 1
  omega

/-- The tokens ahead that are on the tape are no more than the window keeps. -/
theorem Tracks.unread_le (h : Tracks text s l) : s.unread ≤ min s.delivered.length Window.size := by
  rw [← h.pushedBack, ← h.buffered]
  exact h.place.pushedBack_le

/-! ## Reading -/

/-- A token on the tape is read again. -/
theorem Tracks.next_of_delivered {t : Token} (h : Tracks text s l)
    (ht : s.delivered[s.place]? = some t) : Mirrors text (next.run l) s.next := by
  have hlt : s.place < s.delivered.length := (List.getElem?_eq_some_iff.mp ht).1
  have hplace := h.place
  rw [Tape.ahead_of_delivered ht] at hplace
  obtain ⟨l', hrun, hplace', hback, -⟩ :=
    exists_run_next hplace (h.proper t (List.mem_of_getElem? ht))
  have hnext : s.next = (.ok t, { s with place := s.place + 1 }) := by rw [Tape.next, ht]
  rw [hrun, hnext]
  refine .ok ⟨h.sentinel, hlt, ?_, ?_, h.proper⟩
  · rw [hback, h.pushedBack, Tape.unread, Tape.unread]
    show s.delivered.length - s.place - 1 = s.delivered.length - (s.place + 1)
    omega
  · show At text l' (s.delivered.take (s.place + 1)) (s.delivered.drop (s.place + 1) ++ s.coming)
    rwa [List.take_add_one, ht]

/-- At the end of the tape all that has come stands behind the lookahead. -/
theorem Tracks.at_end (h : Tracks text s l) (hend : s.delivered[s.place]? = none) :
    s.place = s.delivered.length ∧ At text l s.delivered s.coming := by
  have hlength : s.place = s.delivered.length :=
    Nat.le_antisymm h.place_le (List.getElem?_eq_none_iff.mp hend)
  have hplace := h.place
  rw [Tape.ahead_of_end hend, hlength, List.take_length] at hplace
  exact ⟨hlength, hplace⟩

/-- Behind a token written at the end of the tape the lookahead stands at the end again. -/
theorem Tracks.write {t : Token} {coming : List Token} {l' : Lookahead} (h : Tracks text s l)
    (hlength : s.place = s.delivered.length) (ht : ∀ fault, t.kind ≠ .error fault)
    (hplace : At text l' (s.delivered ++ [t]) coming) (hback : l'.pushedBack = 0) :
    Tracks text ⟨s.delivered ++ [t], s.place + 1, coming, s.sentinel⟩ l' := by
  have hplaceLength : s.place + 1 = (s.delivered ++ [t]).length := by simp [hlength]
  refine ⟨h.sentinel, Nat.le_of_eq hplaceLength, ?_, ?_, ?_⟩
  · rw [hback, Tape.unread, hplaceLength, Nat.sub_self]
  · rwa [Tape.ahead, hplaceLength, List.take_length, List.drop_length, List.nil_append]
  · intro u hu
    rcases List.mem_append.mp hu with hu | hu
    · exact h.proper u hu
    · rwa [List.mem_singleton.mp hu]

/-- At the end of the tape a token comes, which is written on the tape unless it is a fault. -/
theorem Tracks.next_of_end (h : Tracks text s l) (hend : s.delivered[s.place]? = none) :
    Mirrors text (next.run l) s.next := by
  obtain ⟨hlength, hplace⟩ := h.at_end hend
  cases hcoming : s.coming with
  | nil =>
      rw [hcoming] at hplace
      obtain ⟨l', hrun, hplace', hback⟩ := exists_run_next_of_nil hplace
      have hnext : s.next = (.ok s.sentinel,
          ⟨s.delivered ++ [s.sentinel], s.place + 1, [], s.sentinel⟩) := by
        simp [Tape.next, hend, Tape.pull, hcoming, h.sentinel, Token.endAt]
      rw [← h.sentinel] at hrun hplace'
      rw [hrun, hnext]
      exact .ok (h.write hlength (by simp [h.sentinel, Token.endAt]) hplace' hback)
  | cons t ts =>
      rw [hcoming] at hplace
      by_cases hkind : ∃ fault, t.kind = .error fault
      · obtain ⟨fault, hkind⟩ := hkind
        obtain ⟨l', hrun, hplace', hback, -⟩ := exists_run_next_of_error hplace hkind
        have hnext : s.next = (.error (.lexical fault), { s with coming := ts }) := by
          simp [Tape.next, hend, Tape.pull, hcoming, hkind]
        rw [hrun, hnext]
        refine .error ⟨h.sentinel, h.place_le, ?_, ?_, h.proper⟩
        · rw [hback, Tape.unread, hlength, Nat.sub_self]
        · rwa [Tape.ahead, hlength, List.take_length, List.drop_length, List.nil_append]
      · have hproper : ∀ fault, t.kind ≠ .error fault := fun fault hf => hkind ⟨fault, hf⟩
        obtain ⟨l', hrun, hplace', hback, -⟩ := exists_run_next hplace hproper
        have hnext : s.next =
            (.ok t, ⟨s.delivered ++ [t], s.place + 1, ts, s.sentinel⟩) := by
          cases hcase : t.kind with
          | error fault => exact absurd hcase (hproper fault)
          | _ => simp [Tape.next, hend, Tape.pull, hcoming, hcase]
        have hzero : l'.pushedBack = 0 := by
          rw [hback, h.pushedBack, Tape.unread, hlength, Nat.sub_self]
        rw [hrun, hnext]
        exact .ok (h.write hlength hproper hplace' hzero)

/-- Reading is reading on the tape. -/
theorem Tracks.next (h : Tracks text s l) : Mirrors text (next.run l) s.next := by
  cases ht : s.delivered[s.place]? with
  | some t => exact h.next_of_delivered ht
  | none => exact h.next_of_end ht

/-! ## Going back -/

/-- Going back is going back on the tape, and fails where the tape does. -/
theorem Tracks.pushBack (h : Tracks text s l) :
    Mirrors text (Lookahead.pushBack.run l) s.pushBack := by
  have hback := h.pushedBack
  by_cases hlt : s.unread < min s.delivered.length Window.size
  · have htape : s.pushBack = (.ok (), { s with place := s.place - 1 }) := by
      rw [Tape.pushBack, if_pos hlt]
    -- the token in front of which the place will be
    obtain ⟨p, hp⟩ : ∃ p, s.place = p + 1 := by
      refine Nat.exists_eq_succ_of_ne_zero fun hzero => ?_
      rw [Tape.unread, hzero] at hlt
      omega
    have hlast : p < s.delivered.length := by
      have := h.place_le
      omega
    have hplace := h.place
    rw [hp, List.take_add_one, List.getElem?_eq_getElem hlast] at hplace
    obtain ⟨l', hrun, hplace', hback', -⟩ := exists_run_pushBack hplace (by omega)
      (h.proper _ (List.getElem_mem hlast))
    rw [hrun, htape, hp]
    refine .ok ⟨h.sentinel, Nat.le_of_lt hlast, ?_, ?_, h.proper⟩
    · rw [hback', hback, Tape.unread, Tape.unread, hp]
      show s.delivered.length - (p + 1) + 1 = s.delivered.length - p
      omega
    · rw [Tape.ahead, hp] at hplace'
      rw [Tape.ahead]
      show At text l' (s.delivered.take p) (s.delivered.drop p ++ s.coming)
      rwa [List.drop_eq_getElem_cons hlast]
  · have htape : s.pushBack = (.error .lookaheadOverflow, s) := by
      rw [Tape.pushBack, if_neg hlt]
    rw [run_pushBack, hback, h.buffered, if_neg hlt, htape]
    exact .error h

/-! ## Looking ahead -/

/-- A token just read can be given back, which leads to where looking ahead on the tape does. -/
theorem Tracks.exists_pushBack (h : Tracks text s l) {t : Token} {l₁ : Lookahead}
    (hnext : Lookahead.next.run l = .ok t l₁) :
    ∃ l₂, Lookahead.pushBack.run l₁ = .ok () l₂ ∧ s.next.1 = .ok t ∧
      Tracks text s.peek.2 l₂ := by
  have hread := h.next
  have hunread : s.unread ≤ Window.size := by
    have := h.unread_le
    omega
  rw [Tape.peek]
  rw [hnext] at hread
  generalize htape : s.next = tape at hread
  cases hread with
  | ok h₁ =>
      have hback := h₁.pushBack
      rw [Tape.pushBack_of_next hunread htape] at hback
      generalize hresult : Lookahead.pushBack.run l₁ = result at hback
      cases hback with
      | ok h₂ => exact ⟨_, rfl, rfl, h₂⟩

/-- Looking ahead is looking ahead on the tape. -/
theorem Tracks.peek (h : Tracks text s l) : Mirrors text (Lookahead.peek.run l) s.peek := by
  cases hnext : Lookahead.next.run l with
  | ok t l₁ =>
      obtain ⟨l₂, hback, hfst, htracks⟩ := h.exists_pushBack hnext
      rw [peek_of_next hnext hback, show s.peek = (.ok t, s.peek.2) from Prod.ext hfst rfl]
      exact .ok htracks
  | error e l₁ =>
      have hread := h.next
      rw [hnext] at hread
      rw [peek_of_next_error hnext, Tape.peek]
      generalize htape : s.next = tape at hread
      cases hread with
      | @error _ _ s₁ h₁ =>
          show Mirrors text (.error e l₁) (.error e, { s₁ with place := s.place })
          rw [← Tape.place_of_next_error htape]
          exact .error h₁

/-! ## Skipping -/

/-- Without a token to be skipped, reading past such tokens is reading. -/
theorem Tracks.nextPast_of_not_skipped {skipped : List TokenKind} (h : Tracks text s l)
    (hnot : ∀ t, s.next.1 = .ok t → t.kind ≠ .endOfInput → t.kind ∉ skipped) :
    Mirrors text ((Lookahead.nextPast skipped).run l) s.next := by
  have hread := h.next
  generalize hresult : Lookahead.next.run l = result at hread
  generalize htape : s.next = tape at hread hnot
  cases hread with
  | ok h₁ =>
      rw [run_nextPast_of_not_skipped hresult (hnot _ rfl)]
      exact .ok h₁
  | error h₁ =>
      rw [run_nextPast_of_error hresult]
      exact .error h₁

/-- Reading past some tokens is reading past them on the tape. -/
theorem Tracks.nextPast {skipped : List TokenKind} (hskipped : ∀ k ∈ skipped, k.isTerminal = false)
    (h : Tracks text s l) :
    Mirrors text ((Lookahead.nextPast skipped).run l) (s.nextPast skipped) := by
  -- each token skipped is one less ahead
  induction hahead : s.ahead generalizing s l with
  | nil =>
      rw [Tape.nextPast, hahead]
      refine h.nextPast_of_not_skipped fun t ht hend => ?_
      rw [Tape.eq_of_next_ok ht, hahead, List.headD_nil, h.sentinel] at hend
      exact absurd rfl hend
  | cons t ts ih =>
      by_cases hkind : t.kind ∈ skipped
      · have hterminal := hskipped _ hkind
        have hproper : ∀ fault, t.kind ≠ .error fault := by
          intro fault hf
          rw [hf] at hterminal
          cases hterminal
        obtain ⟨hfst, htail⟩ := Tape.next_of_ahead_cons h.place_le hahead hproper
        have htape : s.nextPast skipped = s.next.2.nextPast skipped := by
          rw [Tape.nextPast, hahead, List.takeWhile_cons_of_pos (by simpa using hkind),
            List.length_cons, Tape.skip, Tape.nextPast, htail]
        have hread := h.next
        rw [htape]
        generalize hresult : Lookahead.next.run l = result at hread
        generalize s.next = tape at hread hfst htail
        cases hread with
        | ok h₁ =>
            obtain rfl := Except.ok.inj hfst
            rw [run_nextPast_of_skipped hresult (TokenKind.ne_endOfInput hterminal) hkind]
            exact ih h₁ htail
        | error h₁ => cases hfst
      · have htape : s.nextPast skipped = s.next := by
          rw [Tape.nextPast, hahead, List.takeWhile_cons_of_neg (by simpa using hkind)]
          rfl
        rw [htape]
        refine h.nextPast_of_not_skipped fun u hu _ => ?_
        rwa [Tape.eq_of_next_ok hu, hahead, List.headD_cons]

end Lookahead

end ActionTemplate
