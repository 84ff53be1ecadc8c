import ActionTemplate.Feed

/-!
# Reading tokens with lookahead

A reader of tokens may give back the tokens that it has read, one at a time and up to three of them,
and read them again. A `Lookahead` keeps the three tokens that came from the feed last, the latest
first, and two numbers: how many of the three have come since the text was begun, and how many of
those are given back at present. Giving back more than have come is a fault.

`next`, `peek` and `pushBack` are the moves; a fault in the text ends the move that meets it and
leaves the kept tokens as they were. The main facts are `next_of_pushBack`, giving a token back and
reading on yields the same token and place, and `remaining_next`, a token proper brings the end
closer.
-/

namespace ActionTemplate

/-! ## The kept tokens -/

/-- The three tokens that came last, the latest first. -/
structure Window where
  first : Token := {}
  second : Token := {}
  third : Token := {}
  deriving DecidableEq, Repr

namespace Window

/-- The number of tokens that a window keeps. -/
def size : Nat := 3

/-- The token that came before `i` others. -/
def get (w : Window) : Nat → Token
  | 0 => w.first
  | 1 => w.second
  | 2 => w.third
  | _ => {}

/-- The window after one more token. The oldest one is dropped. -/
def push (w : Window) (t : Token) : Window := ⟨t, w.first, w.second⟩

@[simp] theorem get_push_zero (w : Window) (t : Token) : (w.push t).get 0 = t := rfl

end Window

/-! ## The lookahead -/

/-- A reader of tokens that can give tokens back. -/
structure Lookahead where
  /-- Where the tokens come from; nowhere before a text is begun and after it is done with. -/
  feed : Option Feed := none
  /-- The tokens that came last. -/
  window : Window := {}
  /-- How many tokens have been given back and not been read again. -/
  pushedBack : Nat := 0
  /-- How many tokens of the window have come from the feed. -/
  buffered : Nat := 0
  deriving DecidableEq, Repr

/-- A computation that reads tokens and can fail. -/
abbrev Reading := EStateM ParseFault Lookahead

namespace Lookahead

/-- The line of the token that came last; line one without a feed. -/
def line (l : Lookahead) : Nat :=
  match l.feed with
  | none => 1
  | some feed => feed.line

/-- How many of the tokens given back are tokens proper, not the end of input. -/
def pending (l : Lookahead) : Nat :=
  (List.range l.pushedBack).countP fun i => decide ((l.window.get i).kind ≠ .endOfInput)

/-- A bound on the number of tokens proper still to be read. -/
def remaining (l : Lookahead) : Nat :=
  (match l.feed with
    | none => 0
    | some feed => feed.remaining) + l.pending

/-- Reading from the tokens given back takes one off their number if it is a token proper. -/
theorem pending_succ (l : Lookahead) (n : Nat) :
    pending { l with pushedBack := n + 1 } = pending { l with pushedBack := n } +
      if (l.window.get n).kind ≠ .endOfInput then 1 else 0 := by
  simp [pending, List.range_succ, List.countP_append, List.countP_singleton]

/-- Without tokens given back none are pending. -/
theorem pending_of_pushedBack_eq_zero {l : Lookahead} (h : l.pushedBack = 0) : l.pending = 0 := by
  simp [pending, h]

/-! ## Giving back -/

/-- Give back the token that was read last. -/
def pushBack : Reading Unit := do
  let l ← get
  if l.pushedBack < l.buffered then set { l with pushedBack := l.pushedBack + 1 }
  else throw .lookaheadOverflow

/-- Giving back succeeds exactly while fewer tokens are given back than were read. -/
theorem run_pushBack (l : Lookahead) :
    pushBack.run l =
      if l.pushedBack < l.buffered then .ok () { l with pushedBack := l.pushedBack + 1 }
      else .error .lookaheadOverflow l := by
  rw [pushBack, Stateful.run_bind_of_ok (EStateM.run_get l)]
  split <;> simp

/-! ## Reading -/

variable [Alphabet]

/-- Let a token come from the feed. Without a feed it is the end of input. -/
def pull : Reading Token := fun l =>
  match l.feed with
  | none => .ok {} l
  | some feed =>
      match feed.next.1.kind with
      | .error fault => .error (.lexical fault) { l with feed := some feed.next.2 }
      | _ => .ok feed.next.1 { l with feed := some feed.next.2 }

/-- Let a token come from the feed and keep it. -/
def shiftIn : Reading Unit := do
  let token ← pull
  modify fun l =>
    { l with window := l.window.push token, buffered := min (l.buffered + 1) Window.size }

/-- Read a token: the one given back last, or else a new one. -/
def next : Reading Token := do
  if (← get).pushedBack = 0 then shiftIn
  else modify fun l => { l with pushedBack := l.pushedBack - 1 }
  let l ← get
  return l.window.get l.pushedBack

/-- Look at the token that comes next. -/
def peek : Reading Token := do
  if (← get).pushedBack = 0 then
    shiftIn
    modify fun l => { l with pushedBack := 1 }
  let l ← get
  return l.window.get (l.pushedBack - 1)

/-! ## Equations -/

/-- A token proper comes from the feed. -/
theorem run_pull_of_proper {l : Lookahead} {f : Feed} (hfeed : l.feed = some f)
    (h : ∀ fault, f.next.1.kind ≠ .error fault) :
    pull.run l = .ok f.next.1 { l with feed := some f.next.2 } := by
  rw [Stateful.run_eq, pull]
  simp only [hfeed]

/-- A fault comes from the feed. -/
theorem run_pull_of_error {l : Lookahead} {f : Feed} {fault : LexFault} (hfeed : l.feed = some f)
    (h : f.next.1.kind = .error fault) :
    pull.run l = .error (.lexical fault) { l with feed := some f.next.2 } := by
  rw [Stateful.run_eq, pull]
  simp only [hfeed, h]

/-- Reading while a token is given back yields that token. -/
theorem run_next_of_pushedBack {l : Lookahead} {n : Nat} (h : l.pushedBack = n + 1) :
    next.run l = .ok (l.window.get n) { l with pushedBack := n } := by
  simp [next, h]

/-- Reading while no token is given back yields a new one. -/
theorem run_next_of_pushedBack_eq_zero {l : Lookahead} (h : l.pushedBack = 0) :
    next.run l = match pull.run l with
      | .ok t l' =>
          .ok ((l'.window.push t).get l'.pushedBack)
            { l' with window := l'.window.push t, buffered := min (l'.buffered + 1) Window.size }
      | .error e l' => .error e l' := by
  cases hpull : pull.run l <;> simp [next, shiftIn, h, hpull]

/-- Looking ahead while a token is given back shows that token and changes nothing. -/
theorem run_peek_of_pushedBack {l : Lookahead} {n : Nat} (h : l.pushedBack = n + 1) :
    peek.run l = .ok (l.window.get n) l := by
  simp [peek, h]

/-- Looking ahead while no token is given back lets a new one come and gives it back. -/
theorem run_peek_of_pushedBack_eq_zero {l : Lookahead} (h : l.pushedBack = 0) :
    peek.run l = match pull.run l with
      | .ok t l' =>
          .ok t { l' with
            window := l'.window.push t
            buffered := min (l'.buffered + 1) Window.size
            pushedBack := 1 }
      | .error e l' => .error e l' := by
  cases hpull : pull.run l <;> simp [peek, shiftIn, h, hpull]

/-- Letting a token come changes nothing but the feed, and gives either the end of input, without a
feed, or what the feed has next, which is then no fault. -/
theorem eq_of_pull {l l' : Lookahead} {t : Token} (h : pull.run l = .ok t l') :
    (l.feed = none ∧ t = {} ∧ l' = l) ∨
      ∃ feed, l.feed = some feed ∧ t = feed.next.1 ∧ (∀ fault, t.kind ≠ .error fault) ∧
        l' = { l with feed := some feed.next.2 } := by
  rw [Stateful.run_eq, pull] at h
  split at h
  · rename_i hfeed
    simp only [EStateM.Result.ok.injEq] at h
    exact Or.inl ⟨hfeed, h.1.symm, h.2.symm⟩
  · rename_i feed hfeed
    split at h
    · simp at h
    · rename_i hkind
      simp only [EStateM.Result.ok.injEq] at h
      obtain ⟨rfl, rfl⟩ := h
      exact Or.inr ⟨feed, hfeed, rfl, hkind, rfl⟩

/-- The token read last is the one that the window has behind those given back. -/
theorem get_window_of_next {l l' : Lookahead} {t : Token} (h : next.run l = .ok t l') :
    l'.window.get l'.pushedBack = t := by
  cases hn : l.pushedBack with
  | succ n =>
      rw [run_next_of_pushedBack hn, EStateM.Result.ok.injEq] at h
      rw [← h.1, ← h.2]
  | zero =>
      rw [run_next_of_pushedBack_eq_zero hn] at h
      split at h
      · simp only [EStateM.Result.ok.injEq] at h
        rw [← h.1, ← h.2]
      · simp at h

/-- Giving a token back and reading on yields the same token and leads to the same place. -/
theorem next_of_pushBack {l l₁ l₂ : Lookahead} {t : Token} (hnext : next.run l = .ok t l₁)
    (hback : pushBack.run l₁ = .ok () l₂) : next.run l₂ = .ok t l₁ := by
  rw [run_pushBack] at hback
  split at hback
  · simp only [EStateM.Result.ok.injEq, true_and] at hback
    subst hback
    rw [run_next_of_pushedBack rfl, ← get_window_of_next hnext]
  · simp at hback

/-- Looking ahead at a token that was given back shows it. -/
theorem peek_of_pushBack {l l₁ l₂ : Lookahead} {t : Token} (hnext : next.run l = .ok t l₁)
    (hback : pushBack.run l₁ = .ok () l₂) : peek.run l₂ = .ok t l₂ := by
  rw [run_pushBack] at hback
  split at hback
  · simp only [EStateM.Result.ok.injEq, true_and] at hback
    subst hback
    rw [run_peek_of_pushedBack rfl, ← get_window_of_next hnext]
  · simp at hback

/-- Looking ahead is reading a token and giving it back. -/
theorem peek_of_next {l l₁ l₂ : Lookahead} {t : Token} (hnext : next.run l = .ok t l₁)
    (hback : pushBack.run l₁ = .ok () l₂) : peek.run l = .ok t l₂ := by
  have hagain := peek_of_pushBack hnext hback
  cases hn : l.pushedBack with
  | succ n =>
      rw [run_next_of_pushedBack hn, EStateM.Result.ok.injEq] at hnext
      obtain ⟨rfl, rfl⟩ := hnext
      rw [run_pushBack] at hback
      split at hback
      · have hl : { l with pushedBack := n + 1 } = l := by rw [← hn]
        simp only [EStateM.Result.ok.injEq, true_and, hl] at hback
        rwa [← hback] at hagain ⊢
      · simp at hback
  | zero =>
      rw [run_next_of_pushedBack_eq_zero hn] at hnext
      rw [run_peek_of_pushedBack_eq_zero hn]
      cases hpull : pull.run l with
      | error e l₀ => simp [hpull] at hnext
      | ok u l₀ =>
          have hzero : l₀.pushedBack = 0 := by
            rcases eq_of_pull hpull with ⟨-, -, rfl⟩ | ⟨feed, -, -, -, rfl⟩ <;> exact hn
          simp only [hpull, hzero, EStateM.Result.ok.injEq] at hnext
          obtain ⟨rfl, rfl⟩ := hnext
          rw [run_pushBack] at hback
          split at hback
          · simp only [EStateM.Result.ok.injEq, true_and] at hback
            simp [← hback]
          · simp at hback

/-- Looking ahead fails where reading does. -/
theorem peek_of_next_error {l l₁ : Lookahead} {e : ParseFault}
    (hnext : next.run l = .error e l₁) : peek.run l = .error e l₁ := by
  cases hn : l.pushedBack with
  | succ n => simp [run_next_of_pushedBack hn] at hnext
  | zero =>
      rw [run_next_of_pushedBack_eq_zero hn] at hnext
      rw [run_peek_of_pushedBack_eq_zero hn]
      cases hpull : pull.run l with
      | error e l₀ => simpa [hpull] using hnext
      | ok u l₀ => simp [hpull] at hnext

/-! ## Progress -/

/-- What is read is no longer to come. -/
theorem remaining_next {l l' : Lookahead} {t : Token} (h : next.run l = .ok t l') :
    l'.remaining ≤ l.remaining ∧ (t.kind ≠ .endOfInput → l'.remaining < l.remaining) := by
  cases hn : l.pushedBack with
  | succ n =>
      rw [run_next_of_pushedBack hn, EStateM.Result.ok.injEq] at h
      obtain ⟨rfl, rfl⟩ := h
      have hl : l = { l with pushedBack := n + 1 } := by rw [← hn]
      have hpending := pending_succ l n
      rw [← hl] at hpending
      simp only [remaining, hpending]
      constructor
      · omega
      · intro hkind
        rw [if_pos hkind]
        omega
  | zero =>
      rw [run_next_of_pushedBack_eq_zero hn] at h
      split at h
      · rename_i u l₁ hpull
        simp only [EStateM.Result.ok.injEq] at h
        obtain ⟨ht, rfl⟩ := h
        rcases eq_of_pull hpull with ⟨hfeed, rfl, rfl⟩ | ⟨feed, hfeed, rfl, hfault, rfl⟩
        · have hend : t.kind = .endOfInput := by rw [← ht, hn]; rfl
          simp [remaining, hfeed, pending_of_pushedBack_eq_zero, hn, hend]
        · have hnew : feed.next.1 = t := by rw [← ht]; simp [hn]
          have hle := feed.remaining_next_le
          simp only [remaining, hfeed, pending_of_pushedBack_eq_zero, hn, Nat.add_zero]
          refine ⟨hle, fun hkind => ?_⟩
          by_cases hterm : feed.next.1.kind.isTerminal = true
          · rw [← hnew] at hkind
            cases hcase : feed.next.1.kind <;> simp_all [TokenKind.isTerminal]
          · exact Feed.remaining_next_lt (by simpa using hterm)
      · simp at h

/-- Giving a token back makes it pending again, unless it is the end of input. -/
theorem remaining_pushBack {l l₁ l₂ : Lookahead} {t : Token} (hnext : next.run l = .ok t l₁)
    (hback : pushBack.run l₁ = .ok () l₂) :
    l₂.remaining = l₁.remaining + if t.kind ≠ .endOfInput then 1 else 0 := by
  rw [run_pushBack] at hback
  split at hback
  · simp only [EStateM.Result.ok.injEq, true_and] at hback
    subst hback
    have hpending : pending { l₁ with pushedBack := l₁.pushedBack + 1 } = l₁.pending +
        if (l₁.window.get l₁.pushedBack).kind ≠ .endOfInput then 1 else 0 :=
      pending_succ l₁ l₁.pushedBack
    rw [get_window_of_next hnext] at hpending
    simp only [remaining, hpending]
    omega
  · simp at hback

end Lookahead

end ActionTemplate
