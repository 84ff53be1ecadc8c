import ActionTemplate.Proofs.Sound

/-!
# What a failure leaves behind

A move that fails may have read some tokens before it did, and may have built some nodes of a body.
None of it is seen in the template: a failure leaves nothing but a lookahead that is further on, and
a single read that fails leaves even the kept tokens as they were. `FailsClean` says so move by move.

A fault in the text is the last token that a feed has, `spent_of_isTerminal`, and no fault is ever
kept. So such a fault is reported once at most while a text is read: before it is met the grammar
keeps up nothing in particular, `keeps_until_fault`, and behind it the feed is spent and no other
fault can come, `keeps_spent`.
-/

namespace ActionTemplate

/-! ## Behind the last token -/

namespace Scanner

variable [Alphabet]

/-- Behind a terminal token a scanner has finished. -/
theorem finished_next {s : Scanner} (h : s.next.1.kind.isTerminal = true) :
    s.next.2.finished = true := by
  rw [next] at h ⊢
  split at h
  · rename_i hfinished
    rwa [if_pos hfinished]
  · rename_i hfinished
    rw [if_neg hfinished]
    cases hlex : Scan.lexeme.run s.cursor with
    | ok verdict c =>
        cases verdict with
        | ok kind =>
            rw [hlex] at h
            exact h
        | error fault => rfl
    | error e c => rfl

end Scanner

namespace Rendezvous

variable [Alphabet]

/-- Behind a terminal token a producer has stopped. -/
theorem producer_next {r : Rendezvous} (h : r.next.1.kind.isTerminal = true) :
    r.next.2.producer = .stopped := by
  obtain ⟨text, producer, lastPos⟩ := r
  cases producer with
  | scanning source =>
      have hkind : source.next.1.kind.isTerminal = true := h
      show (if source.next.1.kind.isTerminal = true then Producer.stopped
        else .scanning source.next.2) = _
      rw [if_pos hkind]
  | offering token source =>
      have hkind : token.kind.isTerminal = true := h
      show (if token.kind.isTerminal = true then Producer.stopped else .scanning source) = _
      rw [if_pos hkind]
  | stopped => rfl

end Rendezvous

namespace Lookahead

variable [Alphabet]

/-- Nothing but the end of input comes any more. -/
def Spent (feed : Option Feed) : Prop :=
  (draw feed).1.kind = .endOfInput ∧ (draw feed).2 = feed

/-- Behind a terminal token a feed is spent. -/
theorem spent_of_isTerminal {feed : Option Feed} (h : (draw feed).1.kind.isTerminal = true) :
    Spent (draw feed).2 := by
  cases feed with
  | none => exact ⟨rfl, rfl⟩
  | some f =>
      cases f with
      | direct scanner =>
          have hfinished : scanner.next.2.finished = true := Scanner.finished_next h
          have hnext : scanner.next.2.next = (scanner.next.2.sentinel, scanner.next.2) := by
            rw [Scanner.next, if_pos hfinished]
          show scanner.next.2.next.1.kind = .endOfInput ∧
            some (Feed.direct scanner.next.2.next.2) = some (.direct scanner.next.2)
          rw [hnext]
          exact ⟨rfl, rfl⟩
      | handedOver rendezvous =>
          have hstopped : rendezvous.next.2.producer = .stopped := Rendezvous.producer_next h
          have hnext : rendezvous.next.2.next =
              (Token.endAt (Text.byteLength rendezvous.next.2.text), rendezvous.next.2) := by
            rw [Rendezvous.next, hstopped]
            rfl
          show rendezvous.next.2.next.1.kind = .endOfInput ∧
            some (Feed.handedOver rendezvous.next.2.next.2) = some (.handedOver rendezvous.next.2)
          rw [hnext]
          exact ⟨rfl, rfl⟩

/-! ## Faults of the text -/

/-- Where looking ahead fails, reading does. -/
theorem next_of_peek_error {l l' : Lookahead} {e : ParseFault} (h : peek.run l = .error e l') :
    next.run l = .error e l' := by
  cases hn : l.pushedBack with
  | succ n =>
      rw [run_peek_of_pushedBack hn] at h
      cases h
  | zero =>
      rw [run_peek_of_pushedBack_eq_zero hn] at h
      rw [run_next_of_pushedBack_eq_zero hn]
      cases hpull : pull.run l with
      | ok t l₁ =>
          rw [hpull] at h
          cases h
      | error e₁ l₁ =>
          rw [hpull] at h
          exact h

/-- Where the grammar meets a fault of the text, the feed is spent. -/
theorem keeps_until_fault :
    Keeps (fun _ => True) fun e l => e.isLexical = true → Spent l.feed := by
  refine keeps_of_next (fun _ _ _ => trivial) ?_ (fun _ _ _ => trivial) ?_
  · intro l l' e _ _ hnext _
    obtain ⟨fault, -, hkind, rfl⟩ := eq_of_next_error hnext
    exact spent_of_isTerminal (by rw [hkind]; rfl)
  · intro l found _ _ hlexical
    cases hlexical

/-- From a feed that is spent the grammar meets no fault of the text, and it stays spent. -/
theorem keeps_spent :
    Keeps (fun l => Spent l.feed) fun e l => e.isLexical = false ∧ Spent l.feed := by
  refine keeps_of_next ?_ ?_ (fun _ hspent _ => hspent) fun _ hspent => ⟨rfl, hspent⟩
  · intro l l' t _ hspent hnext
    rcases eq_of_next hnext with ⟨n, -, -, rfl⟩ | ⟨-, -, -, rfl⟩
    · exact hspent
    · show Spent (draw l.feed).2
      rwa [hspent.2]
  · intro l l' e _ hspent hnext
    obtain ⟨fault, -, hkind, -⟩ := eq_of_next_error hnext
    rw [hspent.1] at hkind
    cases hkind

end Lookahead

/-! ## Moves that fail -/

namespace Template

variable [Alphabet]

omit [Alphabet] in
/-- A template fails where the computation on its tokens does. -/
theorem exists_of_run_map_eq_error {α : Type} {t t' : Template} {r : Reading α} {f : α → Yield}
    {e : ParseError} (h : t.run (f <$> r) = (.error e, t')) :
    ∃ l, r.run t.lookahead = .error e.fault l ∧ t' = { t with lookahead := l } := by
  rw [run, Stateful.run_map] at h
  cases hrun : r.run t.lookahead with
  | ok a l =>
      rw [hrun] at h
      cases h
  | error fault l =>
      rw [hrun] at h
      cases h
      exact ⟨l, rfl, rfl⟩

/-- What the moves of a template leave behind. -/
structure FailsClean (t : Template) : Prop where
  /-- Giving back too much changes nothing. -/
  pushBack : ∀ e t', t.perform .pushBack = (.error e, t') → t' = t
  /-- A read or a look ahead that fails has met a fault of the text and changes nothing but the
  feed. -/
  read : ∀ m e t', m = .next ∨ m = .peek → t.perform m = (.error e, t') →
    e.isLexical = true ∧ ∃ feed, t' = { t with lookahead := { t.lookahead with feed } }
  /-- Whether it fails or not, a move that reads changes nothing but the lookahead, unless it reads
  a body. -/
  frame : ∀ m r, m.reading? = some r → m ≠ .body →
    ∃ lookahead, (t.perform m).2 = { t with lookahead }
  /-- Reading a body that fails changes nothing but the lookahead, whatever actions have been
  read. -/
  body_error : ∀ e t', t.perform .body = (.error e, t') → ∃ lookahead, t' = { t with lookahead }
  /-- Reading a body that does not fail gives the template the body read, and changes nothing else
  but the lookahead. -/
  body_ok : ∀ y t', t.perform .body = (.ok y, t') →
    ∃ b lookahead, Lookahead.body.run t.lookahead = .ok b lookahead ∧
      t' = { t with lookahead, root := some b }

/-- A failure leaves nothing behind but a lookahead that is further on. -/
theorem failsClean (t : Template) : t.FailsClean where
  pushBack := by
    intro e t' hperform
    rw [perform_pushBack] at hperform
    split at hperform
    · cases hperform
    · exact (Prod.mk.inj hperform).2.symm
  read := by
    intro m e t' hm hperform
    have hnext : ∃ l', Lookahead.next.run t.lookahead = .error e.fault l' ∧
        t' = { t with lookahead := l' } := by
      rcases hm with rfl | rfl
      · exact exists_of_run_map_eq_error hperform
      · obtain ⟨l', hpeek, ht'⟩ := exists_of_run_map_eq_error hperform
        exact ⟨l', Lookahead.next_of_peek_error hpeek, ht'⟩
    obtain ⟨l', hrun, rfl⟩ := hnext
    obtain ⟨fault, hfault, -, rfl⟩ := Lookahead.eq_of_next_error hrun
    refine ⟨?_, _, rfl⟩
    rw [ParseError.isLexical, hfault]
    rfl
  frame := by
    intro m r hm hbody
    rw [perform_eq_run hm hbody]
    exact ⟨_, run_frame t r⟩
  body_error := by
    intro e t' hperform
    rw [perform_body] at hperform
    split at hperform
    · cases hperform
    · exact ⟨_, (Prod.mk.inj hperform).2.symm⟩
  body_ok := by
    intro y t' hperform
    rw [perform_body] at hperform
    split at hperform
    · rename_i b l hrun
      exact ⟨b, l, hrun, (Prod.mk.inj hperform).2.symm⟩
    · cases hperform

/-! ## Faults of the text in a row -/

omit [Alphabet] in
/-- Whether a move has met a fault of the text. -/
def metFault : Except ParseError Yield → Bool
  | .ok _ => false
  | .error e => e.isLexical

/-- Behind the last token no move meets a fault of the text, and no other token comes. -/
theorem spent_perform {t : Template} (h : t.lookahead.Sound) (hspent : Lookahead.Spent t.lookahead.feed)
    {m : Move} (hstart : ∀ functions feed, m ≠ .start functions feed) :
    metFault (t.perform m).1 = false ∧ Lookahead.Spent (t.perform m).2.lookahead.feed := by
  rcases m.reading_cases with ⟨r, hm⟩ | ⟨name, rfl⟩ | rfl | ⟨functions, feed, rfl⟩
  · rcases (perform_keeps Lookahead.keeps_spent hm h hspent).2 with
      ⟨⟨y, hy⟩, hspent'⟩ | ⟨e, he, -, hlexical, hspent'⟩ | ⟨-, ⟨e, he, hoverflow⟩, hsame⟩
    · rw [hy]
      exact ⟨rfl, hspent'⟩
    · rw [he]
      exact ⟨hlexical, hspent'⟩
    · rw [he, hsame, metFault, ParseError.isLexical, hoverflow]
      exact ⟨rfl, hspent⟩
  · exact ⟨rfl, hspent⟩
  · exact ⟨rfl, rfl, rfl⟩
  · exact absurd rfl (hstart functions feed)

/-- Behind a fault of the text no other token comes. -/
theorem spent_of_metFault {t : Template} (h : t.lookahead.Sound) {m : Move}
    (hfault : metFault (t.perform m).1 = true) : Lookahead.Spent (t.perform m).2.lookahead.feed := by
  rcases m.reading_cases with ⟨r, hm⟩ | ⟨name, rfl⟩ | rfl | ⟨functions, feed, rfl⟩
  · rcases (perform_keeps Lookahead.keeps_until_fault hm h trivial).2 with
      ⟨⟨y, hy⟩, -⟩ | ⟨e, he, -, hspent⟩ | ⟨-, ⟨e, he, hoverflow⟩, -⟩
    · rw [hy] at hfault
      cases hfault
    · rw [he] at hfault
      exact hspent hfault
    · rw [he, metFault, ParseError.isLexical, hoverflow] at hfault
      cases hfault
  · cases hfault
  · cases hfault
  · cases hfault

/-- Behind the last token no number of moves meets a fault of the text, unless another text is
begun. -/
theorem countP_metFault_of_spent {t : Template} (h : t.lookahead.Sound)
    (hspent : Lookahead.Spent t.lookahead.feed) {moves : List Move}
    (hstart : ∀ m ∈ moves, ∀ functions feed, m ≠ .start functions feed) :
    (t.performAll moves).1.countP metFault = 0 := by
  induction moves generalizing t with
  | nil => rfl
  | cons m moves ih =>
      obtain ⟨hfirst, hlater⟩ := List.forall_mem_cons.mp hstart
      obtain ⟨hmet, hspent'⟩ := spent_perform h hspent hfirst
      rw [performAll, List.countP_cons, hmet, ih (sound_perform h m) hspent' hlater]
      rfl

/-- A fault of the text is met at most once, unless another text is begun. -/
theorem countP_metFault_le_one {t : Template} (h : t.lookahead.Sound) {moves : List Move}
    (hstart : ∀ m ∈ moves, ∀ functions feed, m ≠ .start functions feed) :
    (t.performAll moves).1.countP metFault ≤ 1 := by
  induction moves generalizing t with
  | nil => exact Nat.zero_le 1
  | cons m moves ih =>
      obtain ⟨-, hlater⟩ := List.forall_mem_cons.mp hstart
      have hsound := sound_perform h m
      rw [performAll, List.countP_cons]
      cases hmet : metFault (t.perform m).1 with
      | false => exact ih hsound hlater
      | true =>
          rw [countP_metFault_of_spent hsound (spent_of_metFault h hmet) hlater]
          exact Nat.le_refl 1

/-- A move that fails leaves nothing behind but a lookahead that is further on. From the beginning of
one text to that of the next, whatever moves are made, at most one of them meets a fault of the
text. -/
theorem failures_leave_no_trace (t : Template) :
    t.FailsClean ∧ ∀ functions feed moves,
      (∀ m ∈ moves, ∀ functions' feed', m ≠ Move.start functions' feed') →
        ((t.start functions feed).performAll moves).1.countP metFault ≤ 1 :=
  ⟨t.failsClean, fun _ feed _ hstart =>
    countP_metFault_le_one (t.lookahead.sound_restart feed) hstart⟩

end Template

/-- In a text that is one bad number the first read meets the fault, and among all moves it is the
only one that does. -/
theorem failures_leave_no_trace_of_bad_number :
    (∀ m ∈ [Template.Move.next, .pushBack, .peek, .body],
        ∀ functions feed, m ≠ Template.Move.start functions feed) ∧
      Template.metFault ((({ name := "page" } : Template).start [] (Feed.ofString .inline "9z")).perform
        .next).1 = true ∧
      ((({ name := "page" } : Template).start [] (Feed.ofString .inline "9z")).performAll
        [.next, .pushBack, .peek, .body]).1.countP Template.metFault ≤ 1 := by
  have hstart : ∀ m ∈ [Template.Move.next, .pushBack, .peek, .body],
      ∀ functions feed, m ≠ Template.Move.start functions feed := by simp
  refine ⟨hstart, by decide +kernel, ?_⟩
  exact (Template.failures_leave_no_trace { name := "page" }).2 [] _ _ hstart

end ActionTemplate
