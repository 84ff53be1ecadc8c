import ActionTemplate.Lookahead.Body
import ActionTemplate.Proofs.Delivery

/-!
# The place of a lookahead in its tokens

What a lookahead does with its window and its two numbers is to stand at a place in a sequence of
tokens: `Lookahead.At` says which tokens lie behind it, the latest of which the window keeps, and
which lie ahead. Of the latter the first few have been given back and are in the window too; the
feed delivers the others.

Reading goes one token on and giving back one token back, as long as the window reaches.
`exists_run_next` and `exists_run_next_of_error` also keep track of the line, which is that of the
token that came last from the feed.
-/

namespace ActionTemplate

open Text

/-- A token but the oldest moves one place back when a new one is kept. -/
theorem Window.get_push_succ (w : Window) (t : Token) {i : Nat} (h : i + 1 < Window.size) :
    (w.push t).get (i + 1) = w.get i := by
  unfold Window.size at h
  have hi : i = 0 ∨ i = 1 := by omega
  rcases hi with rfl | rfl <;> rfl

namespace Lookahead

variable [Alphabet]

/-- The lookahead stands behind the tokens `read` and in front of the tokens `coming`. -/
structure At (text : List Char) (l : Lookahead) (read coming : List Token) : Prop where
  feed : ∃ f, l.feed = some f ∧ f.Delivers text (coming.drop l.pushedBack)
  buffered : l.buffered = min (read.length + l.pushedBack) Window.size
  pushedBack_le : l.pushedBack ≤ l.buffered
  le_length : l.pushedBack ≤ coming.length
  window : ∀ i, i < l.buffered →
    (read ++ coming.take l.pushedBack).reverse[i]? = some (l.window.get i)
  proper : ∀ t ∈ coming.take l.pushedBack, ∀ fault, t.kind ≠ .error fault

/-- A lookahead in front of a new feed stands at the beginning of what the feed delivers. -/
theorem at_of_delivers {text : List Char} {l : Lookahead} {f : Feed} {tokens : List Token}
    (hfeed : l.feed = some f) (hback : l.pushedBack = 0) (hbuffered : l.buffered = 0)
    (h : f.Delivers text tokens) : At text l [] tokens := by
  constructor
  · exact ⟨f, hfeed, by rwa [hback]⟩
  · rw [hback, hbuffered]
    rfl
  · omega
  · omega
  · intro i hi
    omega
  · simp [hback]

variable {text : List Char} {l : Lookahead} {read coming : List Token} {t : Token}

/-! ## Reading -/

/-- Among the tokens given back, the one to be read next is in the window. -/
theorem At.get_window {n : Nat} (h : At text l read (t :: coming)) (hn : l.pushedBack = n + 1) :
    l.window.get n = t := by
  have hlt : n < l.buffered := by
    have := h.pushedBack_le
    omega
  have hlen : n ≤ coming.length := by
    have := h.le_length
    simp only [List.length_cons] at this
    omega
  -- counted from the latest, the first token ahead has the index of the last one given back
  have hget := h.window n hlt
  rw [hn, List.take_succ_cons, List.reverse_append, List.reverse_cons, List.append_assoc,
    List.getElem?_append_right (by simp [hlen])] at hget
  simpa [hlen] using hget.symm

/-- Behind a token that was given back stand one token less of these. -/
theorem At.read_again {n : Nat} (h : At text l read (t :: coming)) (hn : l.pushedBack = n + 1) :
    At text { l with pushedBack := n } (read ++ [t]) coming := by
  have hbuffered := h.buffered
  have hle := h.pushedBack_le
  have hlen := h.le_length
  have hwindow := h.window
  have hproper := h.proper
  rw [hn] at hbuffered hle hlen hwindow hproper
  constructor
  · simpa [hn] using h.feed
  · show l.buffered = min ((read ++ [t]).length + n) Window.size
    rw [hbuffered, List.length_append, List.length_singleton]
    omega
  · show n ≤ l.buffered
    omega
  · show n ≤ coming.length
    simpa using hlen
  · simpa using hwindow
  · intro u hu
    exact hproper u (by simp [hu])

/-- A new token is the latest that the window keeps. -/
theorem At.read_new {f : Feed} {rest : List Token} (h : At text l read rest)
    (hn : l.pushedBack = 0) (hrest : f.Delivers text coming) (t : Token) :
    At text ⟨some f, l.window.push t, 0, min (l.buffered + 1) Window.size⟩ (read ++ [t])
      coming := by
  have hbuffered := h.buffered
  rw [hn] at hbuffered
  constructor
  · exact ⟨f, rfl, hrest⟩
  · show min (l.buffered + 1) Window.size = min ((read ++ [t]).length + 0) Window.size
    rw [hbuffered, List.length_append, List.length_singleton]
    omega
  · exact Nat.zero_le _
  · exact Nat.zero_le _
  · intro i hi
    have hi' : i < min (l.buffered + 1) Window.size := hi
    show ((read ++ [t]) ++ []).reverse[i]? = some ((l.window.push t).get i)
    rw [List.append_nil, List.reverse_append, List.reverse_singleton, List.singleton_append]
    cases i with
    | zero => rfl
    | succ i =>
        -- the older tokens move one place back, and the oldest of three is dropped
        rw [Window.get_push_succ _ _ (by omega), List.getElem?_cons_succ]
        simpa [hn] using h.window i (by omega)
  · intro u hu
    simp at hu

/-- The next token is read, if it is no fault. If it comes from the feed, the line is its line. -/
theorem exists_run_next (h : At text l read (t :: coming)) (ht : ∀ fault, t.kind ≠ .error fault) :
    ∃ l', next.run l = .ok t l' ∧ At text l' (read ++ [t]) coming ∧
      l'.pushedBack = l.pushedBack - 1 ∧
      l'.line = if l.pushedBack = 0 then lineAt text t.pos else l.line := by
  cases hn : l.pushedBack with
  | succ n =>
      refine ⟨{ l with pushedBack := n }, ?_, h.read_again hn, rfl, rfl⟩
      rw [run_next_of_pushedBack hn, h.get_window hn]
  | zero =>
      obtain ⟨f, hfeed, hdelivers⟩ := h.feed
      rw [hn] at hdelivers
      obtain ⟨rfl, hline, hrest⟩ := hdelivers
      refine ⟨_, ?_, h.read_new hn hrest _, rfl, hline⟩
      rw [run_next_of_pushedBack_eq_zero hn, run_pull_of_proper hfeed ht]
      simp [hn]

/-- A fault is met only at the feed, and the line is its line. It is not kept. -/
theorem exists_run_next_of_error {fault : LexFault} (h : At text l read (t :: coming))
    (ht : t.kind = .error fault) :
    ∃ l', next.run l = .error (.lexical fault) l' ∧ At text l' read coming ∧ l'.pushedBack = 0 ∧
      l'.line = lineAt text t.pos := by
  cases hn : l.pushedBack with
  | succ n =>
      -- what was given back had been read before, and no fault is ever read
      exact absurd ht (h.proper t (by simp [hn]) fault)
  | zero =>
      obtain ⟨f, hfeed, hdelivers⟩ := h.feed
      rw [hn] at hdelivers
      obtain ⟨rfl, hline, hrest⟩ := hdelivers
      refine ⟨{ l with feed := some f.next.2 }, ?_, ?_, hn, hline⟩
      · rw [run_next_of_pushedBack_eq_zero hn, run_pull_of_error hfeed ht]
      · have hwindow := h.window
        rw [hn, List.take_zero] at hwindow
        constructor
        · exact ⟨f.next.2, rfl, by simpa [hn] using hrest⟩
        · exact h.buffered
        · exact h.pushedBack_le
        · simp [hn]
        · simpa [hn] using hwindow
        · simp [hn]

/-- When no more tokens come, an empty end of input is read, and kept as any other token. -/
theorem exists_run_next_of_nil (h : At text l read []) :
    ∃ l', next.run l = .ok (Token.endAt (byteLength text)) l' ∧
      At text l' (read ++ [Token.endAt (byteLength text)]) [] ∧ l'.pushedBack = 0 := by
  have hn : l.pushedBack = 0 := Nat.le_zero.mp h.le_length
  obtain ⟨f, hfeed, hdelivers⟩ := h.feed
  rw [List.drop_nil] at hdelivers
  have hnext : f.next = (Token.endAt (byteLength text), f) := hdelivers
  refine ⟨_, ?_, h.read_new hn hdelivers _, rfl⟩
  rw [run_next_of_pushedBack_eq_zero hn, run_pull_of_proper hfeed (by simp [hnext, Token.endAt])]
  simp [hn, hnext]

/-! ## Giving back -/

/-- The token behind the lookahead can be given back as long as the window keeps it. -/
theorem exists_run_pushBack (h : At text l (read ++ [t]) coming)
    (hback : l.pushedBack < Window.size) (ht : ∀ fault, t.kind ≠ .error fault) :
    ∃ l', pushBack.run l = .ok () l' ∧ At text l' read (t :: coming) ∧
      l'.pushedBack = l.pushedBack + 1 ∧ l'.line = l.line := by
  have hbuffered := h.buffered
  rw [List.length_append, List.length_singleton] at hbuffered
  have hlt : l.pushedBack < l.buffered := by omega
  refine ⟨{ l with pushedBack := l.pushedBack + 1 }, ?_, ?_, rfl, rfl⟩
  · rw [run_pushBack, if_pos hlt]
  · constructor
    · simpa using h.feed
    · show l.buffered = min (read.length + (l.pushedBack + 1)) Window.size
      omega
    · exact hlt
    · have := h.le_length
      simpa using this
    · simpa using h.window
    · intro u hu fault
      rcases List.mem_cons.mp hu with rfl | hu
      · exact ht fault
      · exact h.proper u hu fault

/-! ## One token of lookahead

The grammar gives back no token but the one just read, and asks for the line only then. -/

/-- The lookahead stands in front of the tokens `coming`. At most one of them was given back, and
then the line is its line. -/
structure Ready (text : List Char) (l : Lookahead) (coming : List Token) : Prop where
  place : ∃ read, At text l read coming
  pushedBack_le : l.pushedBack ≤ 1
  line : ∀ t ts, l.pushedBack = 1 → coming = t :: ts → l.line = lineAt text t.pos

/-- The lookahead has just read the token `t`, which is no fault, and stands in front of the tokens
`coming`. -/
structure JustRead (text : List Char) (l : Lookahead) (t : Token) (coming : List Token) : Prop where
  place : ∃ read, At text l (read ++ [t]) coming
  pushedBack : l.pushedBack = 0
  line : l.line = lineAt text t.pos
  proper : ∀ fault, t.kind ≠ .error fault

/-- Where reading the token `t`, with the tokens `coming` behind it, can lead: to the token itself,
or, if it is a fault, to the end of the reading. -/
inductive Reads (text : List Char) (t : Token) (coming : List Token) :
    EStateM.Result ParseFault Lookahead Token → Prop where
  | token {l : Lookahead} (h : JustRead text l t coming) : Reads text t coming (.ok t l)
  | fault {l : Lookahead} {fault : LexFault} (hkind : t.kind = .error fault)
      (hline : l.line = lineAt text t.pos) : Reads text t coming (.error (.lexical fault) l)

/-- Behind the token just read the reading goes on. -/
theorem JustRead.ready (h : JustRead text l t coming) : Ready text l coming := by
  obtain ⟨read, hplace⟩ := h.place
  refine ⟨⟨read ++ [t], hplace⟩, ?_, ?_⟩
  · rw [h.pushedBack]
    exact Nat.zero_le 1
  · intro u us hback
    rw [h.pushedBack] at hback
    cases hback

/-- The token just read can be given back, and the line stays its line. -/
theorem JustRead.exists_pushBack (h : JustRead text l t coming) :
    ∃ l', pushBack.run l = .ok () l' ∧ Ready text l' (t :: coming) ∧
      l'.line = lineAt text t.pos := by
  obtain ⟨read, hplace⟩ := h.place
  have hroom : l.pushedBack < Window.size := by
    rw [h.pushedBack]
    decide
  obtain ⟨l', hrun, hplace', hback, hline⟩ := exists_run_pushBack hplace hroom h.proper
  rw [h.line] at hline
  refine ⟨l', hrun, ⟨⟨read, hplace'⟩, ?_, ?_⟩, hline⟩
  · have hzero := h.pushedBack
    omega
  · rintro u us - hcons
    cases hcons
    exact hline

/-- The next token is read. -/
theorem Ready.reads_next (h : Ready text l (t :: coming)) : Reads text t coming (next.run l) := by
  obtain ⟨read, hplace⟩ := h.place
  by_cases hkind : ∃ fault, t.kind = .error fault
  · obtain ⟨fault, hkind⟩ := hkind
    obtain ⟨l', hrun, -, -, hline⟩ := exists_run_next_of_error hplace hkind
    rw [hrun]
    exact .fault hkind hline
  · have hproper : ∀ fault, t.kind ≠ .error fault := fun fault hf => hkind ⟨fault, hf⟩
    obtain ⟨l', hrun, hplace', hback, hline⟩ := exists_run_next hplace hproper
    have hle := h.pushedBack_le
    rw [hrun]
    refine .token ⟨⟨read, hplace'⟩, by omega, ?_, hproper⟩
    -- the line is known either from the feed or from the token that was given back
    by_cases hzero : l.pushedBack = 0
    · rw [hline, if_pos hzero]
    · rw [hline, if_neg hzero]
      exact h.line t coming (by omega) rfl

/-- The next token is read without a fault if it is not terminal. -/
theorem Ready.exists_next (h : Ready text l (t :: coming)) (hkind : t.kind.isTerminal = false) :
    ∃ l', next.run l = .ok t l' ∧ JustRead text l' t coming := by
  have hread := h.reads_next
  generalize hresult : next.run l = result at hread
  cases hread with
  | @token l' hplace => exact ⟨l', rfl, hplace⟩
  | fault hfault hline =>
      rw [hfault] at hkind
      cases hkind

/-- Looking ahead shows the next token, unless it is a fault, and makes its line known. -/
theorem Ready.reads_peek (h : Ready text l (t :: coming)) :
    (∃ l', peek.run l = .ok t l' ∧ Ready text l' (t :: coming) ∧ l'.line = lineAt text t.pos) ∨
      ∃ fault l', t.kind = .error fault ∧ peek.run l = .error (.lexical fault) l' ∧
        l'.line = lineAt text t.pos := by
  have hread := h.reads_next
  generalize hresult : next.run l = result at hread
  cases hread with
  | token hplace =>
      obtain ⟨l', hback, hready, hline⟩ := hplace.exists_pushBack
      exact Or.inl ⟨l', peek_of_next hresult hback, hready, hline⟩
  | fault hfault hline => exact Or.inr ⟨_, _, hfault, peek_of_next_error hresult, hline⟩

/-- Without a token to be skipped, reading past such tokens is reading. -/
theorem Ready.reads_nextPast {skipped : List TokenKind} (h : Ready text l (t :: coming))
    (hkind : t.kind ∉ skipped) : Reads text t coming ((nextPast skipped).run l) := by
  have hread := h.reads_next
  generalize hresult : next.run l = result at hread
  cases hread with
  | token hplace =>
      rw [run_nextPast_of_not_skipped hresult fun _ => hkind]
      exact .token hplace
  | fault hfault hline =>
      rw [run_nextPast_of_error hresult]
      exact .fault hfault hline

/-- Some tokens to be skipped stand in front of the next other one, which is read. -/
theorem Ready.exists_reads_nextPast {skipped : List TokenKind} (h : Ready text l coming)
    (hrun : Run coming) (hskipped : ∀ k ∈ skipped, k.isTerminal = false) :
    ∃ us t ts, coming = us ++ t :: ts ∧ (∀ u ∈ us, u.kind ∈ skipped) ∧ t.kind ∉ skipped ∧
      Run (t :: ts) ∧ Reads text t ts ((nextPast skipped).run l) := by
  induction hrun generalizing l with
  | @last t hterminal =>
      have hkind : t.kind ∉ skipped := by
        intro hmem
        rw [hskipped _ hmem] at hterminal
        cases hterminal
      exact ⟨[], t, [], rfl, by simp, hkind, .last hterminal, h.reads_nextPast hkind⟩
  | @cons t ts hterminal hrest ih =>
      by_cases hkind : t.kind ∈ skipped
      · obtain ⟨l', hnext, hplace⟩ := h.exists_next hterminal
        obtain ⟨us, v, vs, rfl, hus, hv, hrun', hread⟩ := ih hplace.ready
        refine ⟨t :: us, v, vs, rfl, ?_, hv, hrun', ?_⟩
        · intro u hu
          rcases List.mem_cons.mp hu with rfl | hu
          · exact hkind
          · exact hus u hu
        · rw [run_nextPast_of_skipped hnext (TokenKind.ne_endOfInput hterminal) hkind]
          exact hread
      · exact ⟨[], t, ts, rfl, by simp, hkind, .cons hterminal hrest, h.reads_nextPast hkind⟩

end Lookahead

end ActionTemplate
