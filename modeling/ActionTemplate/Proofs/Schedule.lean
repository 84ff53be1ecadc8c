import ActionTemplate.Session
import ActionTemplate.Proofs.Reading
import ActionTemplate.Text.Letters
import Mathlib.Logic.Relation
import Mathlib.Logic.Function.Iterate

/-!
# Every schedule gives the same answers

However the steps of a producer and a reader fall, the reader is answered with what a scanner hands
out that is asked directly. `Session.Sound` is what all reachable sessions have in common: as many
requests as were answered lead a scanner to a place, and there the producer is about to compute the
next token, offers it, or has stopped.

A reader that waits is answered and a producer whose reader has left is released, as in none of these
cases both parties wait for each other. The reader never finds the producer gone too early.
-/

namespace ActionTemplate

open Text

section

variable [Alphabet]

/-! ## A scanner after some requests -/

namespace Scanner

/-- The scanner after `k` requests. -/
def after (s : Scanner) (k : Nat) : Scanner := (fun s => s.next.2)^[k] s

/-- One more request. -/
theorem after_succ (s : Scanner) (k : Nat) : s.after (k + 1) = (s.after k).next.2 :=
  Function.iterate_succ_apply' _ _ _

/-- Some requests and some more. -/
theorem after_add (s : Scanner) (j k : Nat) : s.after (j + k) = (s.after j).after k := by
  rw [after, Nat.add_comm]
  exact Function.iterate_add_apply _ k j s

/-- A scanner at rest answers every request with an empty end of input. -/
def AtRest (text : List Char) (s : Scanner) : Prop := s.next = (Token.endAt (byteLength text), s)

/-- A scanner hands out tokens proper until it is at rest. -/
theorem at_or_atRest_after (text : String) (k : Nat) :
    ((ofString text).after k).text = text.toList ∧
      ((∃ before after, ((ofString text).after k).At before after) ∨
        ((ofString text).after k).AtRest text.toList) := by
  induction k with
  | zero => exact ⟨rfl, Or.inl ⟨[], text.toList, at_ofString text⟩⟩
  | succ k ih =>
      obtain ⟨htext, ⟨before, after, hat⟩ | hrest⟩ := ih
      · rw [after_succ]
        refine ⟨hat.text_next.trans htext, ?_⟩
        cases hkind : ((ofString text).after k).next.1.kind.isTerminal with
        | false => exact Or.inl (hat.exists_at_next hkind)
        | true =>
            have hnext := hat.next_next hkind
            rw [htext] at hnext
            exact Or.inr hnext
      · have hsame : (ofString text).after (k + 1) = (ofString text).after k := by
          rw [after_succ, hrest]
        rw [hsame]
        exact ⟨htext, Or.inr hrest⟩

/-- Whatever is asked for, the text stays. -/
theorem text_after (text : String) (k : Nat) : ((ofString text).after k).text = text.toList :=
  (at_or_atRest_after text k).1

/-- Behind the terminal token a scanner is at rest. -/
theorem atRest_after_of_isTerminal {text : String} {j k : Nat}
    (h : ((ofString text).after j).next.1.kind.isTerminal = true) (hjk : j < k) :
    ((ofString text).after k).AtRest text.toList := by
  induction k with
  | zero => omega
  | succ k ih =>
      obtain ⟨htext, hplace⟩ := at_or_atRest_after text k
      rcases Nat.lt_succ_iff_lt_or_eq.mp hjk with hlt | rfl
      · have hrest := ih hlt
        rw [after_succ, show ((ofString text).after k).next.2 = (ofString text).after k by rw [hrest]]
        exact hrest
      · rw [after_succ]
        rcases hplace with ⟨before, after, hat⟩ | hrest
        · have hnext := hat.next_next h
          rw [htext] at hnext
          exact hnext
        · rw [show ((ofString text).after j).next.2 = (ofString text).after j by rw [hrest]]
          exact hrest

end Scanner

/-! ## A feed after some requests -/

namespace Feed

/-- The feed after `k` requests. -/
def after (f : Feed) (k : Nat) : Feed := (fun f => f.next.2)^[k] f

/-- A feed that cuts on demand is its scanner. -/
theorem after_direct (s : Scanner) (k : Nat) : (direct s).after k = direct (s.after k) := by
  induction k with
  | zero => rfl
  | succ k ih =>
      rw [after, Function.iterate_succ_apply', ← after, ih, Scanner.after_succ]
      rfl

/-- Two feeds that deliver the same tokens cannot be told apart by any number of requests. -/
theorem Delivers.after_eq {text : List Char} {f g : Feed} {tokens : List Token}
    (hf : f.Delivers text tokens) (hg : g.Delivers text tokens) (hline : f.line = g.line) (k : Nat) :
    (f.after k).next.1 = (g.after k).next.1 ∧ (f.after k).line = (g.after k).line := by
  induction k generalizing f g tokens with
  | zero =>
      refine ⟨?_, hline⟩
      show f.next.1 = g.next.1
      cases tokens with
      | nil => rw [show f.next = _ from hf, show g.next = _ from hg]
      | cons t ts => rw [hf.1, hg.1]
  | succ k ih =>
      show (f.next.2.after k).next.1 = (g.next.2.after k).next.1 ∧
        (f.next.2.after k).line = (g.next.2.after k).line
      cases tokens with
      | nil =>
          rw [show f.next = _ from hf, show g.next = _ from hg]
          exact ih hf hg hline
      | cons t ts => exact ih hf.2.2 hg.2.2 (hf.2.1.trans hg.2.1.symm)

/-- What a feed delivers, if it is anything, is settled by its next answer. -/
theorem Delivers.of_next_eq {text : List Char} {f g : Feed} {tokens : List Token}
    (hf : f.Delivers text tokens) (hne : tokens ≠ []) (h : g.next = f.next) :
    g.Delivers text tokens := by
  cases tokens with
  | nil => exact absurd rfl hne
  | cons t ts =>
      rw [Delivers, h]
      exact hf

/-- The token on offer is the one that the producer would have computed on request. -/
theorem next_handedOver_offering (c : Scanner) (text : List Char) (lastPos : Nat) :
    (handedOver ⟨text, .offering c.next.1 c.next.2, lastPos⟩).next =
      (handedOver ⟨text, .scanning c, lastPos⟩).next := rfl

end Feed

/-! ## What reachable sessions have in common -/

namespace Session

/-- Where the producer of a session is if the next request for a token is the scanner's `c`. -/
inductive Stage (text : List Char) (c : Scanner) (s : Session) : Prop where
  /-- It is about to compute the next token. -/
  | scanning (hproducer : s.rendezvous.producer = .scanning c)
      (hat : ∃ before after, c.At before after) (hcomputed : s.computed = s.handedOver)
  /-- It offers the next token. -/
  | offering (hproducer : s.rendezvous.producer = .offering c.next.1 c.next.2)
      (hat : ∃ before after, c.At before after) (hcomputed : s.computed = s.handedOver + 1)
  /-- It has handed over the terminal token, and the reader knows. -/
  | ended (hproducer : s.rendezvous.producer = .stopped) (hfinished : s.finished = true)
      (hrest : c.AtRest text) (hcomputed : s.computed = s.handedOver)
  /-- It was refused the token it offered, because the reader has left. -/
  | refused (hproducer : s.rendezvous.producer = .stopped) (hleft : s.reader.hasLeft = true)
      (hcomputed : s.computed = s.handedOver + 1)

/-- The session answers like a scanner of the text. -/
structure Sound (text : String) (s : Session) : Prop where
  text_eq : s.rendezvous.text = text.toList
  line : s.line = ((Scanner.ofString text).after s.answers.length).line
  answers : ∀ k t, s.answers[k]? = some t → t = ((Scanner.ofString text).after k).next.1
  stage : Stage text.toList ((Scanner.ofString text).after s.answers.length) s
  handedOver_le : s.handedOver ≤ s.answers.length
  stopped : s.running = false → s.rendezvous.producer = .stopped
  attached : s.attached = true
  gone : s.reader = .gone → s.running = false

variable {text : String} {s s' : Session}

/-- A session begins with no token asked for and none computed. -/
theorem sound_ofString (text : String) : Sound text (ofString text) where
  text_eq := rfl
  line := rfl
  answers := by simp [ofString]
  stage := .scanning rfl ⟨[], text.toList, Scanner.at_ofString text⟩ rfl
  handedOver_le := Nat.le_refl 0
  stopped := nofun
  attached := rfl
  gone := nofun

/-! ### One step -/

/-- The producer computes the token that the scanner would hand out. -/
theorem Sound.prepare {source : Scanner} (h : Sound text s)
    (hproducer : s.rendezvous.producer = .scanning source) :
    Sound text
      { s.withProducer s.rendezvous.producer.prepare with computed := s.computed + 1 } where
  text_eq := h.text_eq
  line := h.line
  answers := h.answers
  stage := by
    cases h.stage with
    | scanning hscanning hat hcomputed =>
        refine .offering ?_ hat (congrArg (· + 1) hcomputed)
        show s.rendezvous.producer.prepare = _
        rw [hscanning]
        rfl
    | offering hoffering => simp [hproducer] at hoffering
    | ended hstopped => simp [hproducer] at hstopped
    | refused hstopped => simp [hproducer] at hstopped
  handedOver_le := h.handedOver_le
  stopped := by
    intro hgone
    have hstopped := h.stopped hgone
    simp [hproducer] at hstopped
  attached := h.attached
  gone := h.gone

/-- A refused producer has computed one token in vain. -/
theorem Sound.refuse {token : Token} {source : Scanner} (h : Sound text s)
    (hproducer : s.rendezvous.producer = .offering token source)
    (hleft : s.reader.hasLeft = true) : Sound text (s.withProducer .stopped) where
  text_eq := h.text_eq
  line := h.line
  answers := h.answers
  stage := by
    cases h.stage with
    | scanning hscanning => simp [hproducer] at hscanning
    | offering hoffering hat hcomputed => exact .refused rfl hleft hcomputed
    | ended hstopped => simp [hproducer] at hstopped
    | refused hstopped => simp [hproducer] at hstopped
  handedOver_le := h.handedOver_le
  stopped := fun _ => rfl
  attached := h.attached
  gone := h.gone

/-- A producer that goes has stopped. -/
theorem Sound.exit (h : Sound text s) (hproducer : s.rendezvous.producer = .stopped) :
    Sound text { s with running := false } where
  text_eq := h.text_eq
  line := h.line
  answers := h.answers
  stage := by
    cases h.stage with
    | scanning hscanning => simp [hproducer] at hscanning
    | offering hoffering => simp [hproducer] at hoffering
    | ended hstopped hfinished hrest hcomputed => exact .ended hstopped hfinished hrest hcomputed
    | refused hstopped hleft hcomputed => exact .refused hstopped hleft hcomputed
  handedOver_le := h.handedOver_le
  stopped := fun _ => hproducer
  attached := h.attached
  gone := fun _ => rfl

/-- What the reader is about may change, but a reader that has left does not come back, and it is
not gone before the producer. -/
theorem Sound.withReader {reader : Reader} (h : Sound text s)
    (hleft : s.reader.hasLeft = true → reader.hasLeft = true)
    (hgone : reader = .gone → s.running = false) : Sound text { s with reader } where
  text_eq := h.text_eq
  line := h.line
  answers := h.answers
  stage := by
    cases h.stage with
    | scanning hscanning hat hcomputed => exact .scanning hscanning hat hcomputed
    | offering hoffering hat hcomputed => exact .offering hoffering hat hcomputed
    | ended hstopped hfinished hrest hcomputed => exact .ended hstopped hfinished hrest hcomputed
    | refused hstopped hbefore hcomputed => exact .refused hstopped (hleft hbefore) hcomputed
  handedOver_le := h.handedOver_le
  stopped := h.stopped
  attached := h.attached
  gone := hgone

/-- One more answer, if it is the scanner's. -/
theorem Sound.answers_append {t : Token} (h : Sound text s)
    (ht : t = ((Scanner.ofString text).after s.answers.length).next.1) (k : Nat) (u : Token)
    (hu : (s.answers ++ [t])[k]? = some u) : u = ((Scanner.ofString text).after k).next.1 := by
  rcases Nat.lt_or_ge k s.answers.length with hlt | hge
  · rw [List.getElem?_append_left hlt] at hu
    exact h.answers k u hu
  · rw [List.getElem?_append_right hge] at hu
    obtain ⟨hk, rfl⟩ := List.getElem?_eq_some_iff.mp hu
    have hlen : k = s.answers.length := by
      simp only [List.length_singleton] at hk
      omega
    subst hlen
    simpa using ht

/-- The token handed over is the one that the scanner would hand out. Behind the terminal token the
producer stops, and the scanner is at rest. -/
theorem Sound.take {token : Token} {producer : Producer} (h : Sound text s)
    (hover : s.rendezvous.producer.handOver? = some (token, producer)) :
    Sound text (s.take token producer) := by
  obtain ⟨c, hc⟩ : ∃ c, c = (Scanner.ofString text).after s.answers.length := ⟨_, rfl⟩
  have hstage := h.stage
  rw [← hc] at hstage
  cases hstage with
  | scanning hscanning => simp [hscanning, Producer.handOver?] at hover
  | ended hstopped => simp [hstopped, Producer.handOver?] at hover
  | refused hstopped => simp [hstopped, Producer.handOver?] at hover
  | offering hoffering hat hcomputed =>
      obtain ⟨before, after, hat⟩ := hat
      have htext : c.text = text.toList := by
        rw [hc]
        exact Scanner.text_after text _
      have hafter : (Scanner.ofString text).after (s.take token producer).answers.length =
          c.next.2 := by
        rw [length_answers_take, Scanner.after_succ, hc]
      rw [hoffering, Producer.handOver?, Option.some.injEq, Prod.mk.injEq] at hover
      obtain ⟨rfl, rfl⟩ := hover
      constructor
      case text_eq => exact h.text_eq
      case line =>
        rw [hafter, hat.line_next, htext, ← h.text_eq]
        rfl
      case answers => exact h.answers_append (by rw [hc])
      case stage =>
        rw [hafter]
        cases hkind : c.next.1.kind.isTerminal with
        | true =>
            have hrest := hat.next_next hkind
            rw [htext] at hrest
            refine .ended rfl ?_ hrest hcomputed
            show (s.finished || c.next.1.kind.isTerminal) = true
            rw [hkind, Bool.or_true]
        | false =>
            exact .scanning rfl (hat.exists_at_next hkind) hcomputed
      case handedOver_le =>
        rw [length_answers_take]
        exact Nat.succ_le_succ h.handedOver_le
      case stopped =>
        intro hgone
        have hstopped := h.stopped hgone
        simp [hoffering] at hstopped
      case attached => exact h.attached
      case gone =>
        intro hnever
        cases hnever

/-- A waiting reader that finds the producer gone has been given the terminal token, and the scanner
is at rest, too. -/
theorem Sound.giveUp (h : Sound text s) (hreader : s.reader = .waiting)
    (hgone : s.running = false) : Sound text s.giveUp := by
  have hproducer := h.stopped hgone
  cases h.stage with
  | scanning hscanning => simp [hproducer] at hscanning
  | offering hoffering => simp [hproducer] at hoffering
  | refused _ hleft => simp [hreader, Reader.hasLeft] at hleft
  | ended _ hfinished hrest hcomputed =>
      have hafter : (Scanner.ofString text).after s.giveUp.answers.length =
          (Scanner.ofString text).after s.answers.length := by
        rw [length_answers_giveUp, Scanner.after_succ, hrest]
      constructor
      case text_eq => exact h.text_eq
      case line =>
        rw [hafter]
        exact h.line
      case answers => exact h.answers_append (by rw [hrest, h.text_eq])
      case stage =>
        rw [hafter]
        exact .ended hproducer rfl hrest hcomputed
      case handedOver_le =>
        rw [length_answers_giveUp]
        exact Nat.le_succ_of_le h.handedOver_le
      case stopped => exact h.stopped
      case attached =>
        show (s.attached && s.finished) = true
        rw [h.attached, hfinished, Bool.and_true]
      case gone =>
        intro hnever
        cases hnever

/-- Every step keeps what reachable sessions have in common. -/
theorem Sound.step (h : Sound text s) (hstep : Step s s') : Sound text s' := by
  cases hstep with
  | prepare hproducer => exact h.prepare hproducer
  | refuse hproducer hleft => exact h.refuse hproducer hleft
  | exit hproducer _ => exact h.exit hproducer
  | request hreader => exact h.withReader (by simp [hreader, Reader.hasLeft]) nofun
  | handOver _ hover => exact h.take hover
  | giveUp hreader hgone => exact h.giveUp hreader hgone
  | leave hreader => exact h.withReader (fun _ => rfl) nofun
  | join _ hgone => exact h.withReader (fun _ => rfl) fun _ => hgone h.attached

/-- All sessions that can be reached answer like a scanner. -/
theorem sound_of_reachable (h : Relation.ReflTransGen Step (ofString text) s) : Sound text s := by
  induction h with
  | refl => exact sound_ofString text
  | tail _ hstep ih => exact ih.step hstep

/-! ### The rest of a session in turns -/

/-- Unless the reader has left, what is delivered if the parties take turns from now on is what a
scanner delivers that is asked directly. -/
theorem Stage.exists_delivers {text : List Char} {c : Scanner} (h : Stage text c s)
    (htext : c.text = text) (hsame : s.rendezvous.text = text)
    (hstays : s.reader.hasLeft = false) :
    ∃ tokens, (Feed.handedOver s.rendezvous).Delivers text tokens ∧
      (Feed.direct c).Delivers text tokens := by
  have hform : s.rendezvous = ⟨c.text, s.rendezvous.producer, s.rendezvous.lastPos⟩ := by
    rw [htext, ← hsame]
  rw [hform]
  cases h with
  | scanning hproducer hat =>
      obtain ⟨before, after, hat⟩ := hat
      rw [hproducer, ← htext]
      exact ⟨c.drain.1, Feed.delivers_drain (.handedOver _) hat, Feed.delivers_drain .direct hat⟩
  | offering hproducer hat =>
      obtain ⟨before, after, hat⟩ := hat
      rw [hproducer, ← htext]
      refine ⟨c.drain.1, ?_, Feed.delivers_drain .direct hat⟩
      exact (Feed.delivers_drain (.handedOver _) hat).of_next_eq
        (Scanner.division_drain hat).run.ne_nil (Feed.next_handedOver_offering c _ _)
  | ended hproducer _ hrest =>
      refine ⟨[], ?_, ?_⟩
      · rw [hproducer, htext]
        rfl
      · rw [Feed.Delivers, Feed.next, hrest]
  | refused _ hleft => simp [hstays] at hleft

/-- If from some moment on the producer and the reader take turns, the reader is answered like a
scanner, too. -/
theorem Sound.feed_after (h : Sound text s) (hstays : s.reader.hasLeft = false) (k : Nat) :
    ((Feed.handedOver s.rendezvous).after k).next.1 =
        ((Scanner.ofString text).after (s.answers.length + k)).next.1 ∧
      ((Feed.handedOver s.rendezvous).after k).line =
        ((Scanner.ofString text).after (s.answers.length + k)).line := by
  have htext := Scanner.text_after text s.answers.length
  obtain ⟨tokens, hfeed, hdirect⟩ := h.stage.exists_delivers htext h.text_eq hstays
  have heq := hfeed.after_eq hdirect h.line k
  rw [Feed.after_direct, ← Scanner.after_add] at heq
  exact heq

/-! ### No party waits for ever -/

/-- While the reader waits, or the producer is still there after the reader has left, there is a
step to take. -/
theorem Sound.exists_step (h : Sound text s)
    (hbusy : s.reader = .waiting ∨ s.reader.hasLeft = true ∧ s.running = true) :
    ∃ s', Step s s' := by
  cases h.stage with
  | scanning hproducer => exact ⟨_, .prepare hproducer⟩
  | offering hproducer =>
      rcases hbusy with hreader | ⟨hleft, -⟩
      · exact ⟨_, .handOver hreader (by rw [hproducer, Producer.handOver?])⟩
      · exact ⟨_, .refuse hproducer hleft⟩
  | ended hproducer | refused hproducer =>
      cases hrunning : s.running with
      | true => exact ⟨_, .exit hproducer hrunning⟩
      | false =>
          rcases hbusy with hreader | ⟨-, hthere⟩
          · exact ⟨_, .giveUp hreader hrunning⟩
          · simp [hrunning] at hthere

/-- A reader that waits can be answered. -/
theorem Sound.exists_answer (h : Sound text s) (hreader : s.reader = .waiting) :
    ∃ s' t, Relation.ReflTransGen Step s s' ∧ s'.reader = .idle ∧ s'.answers = s.answers ++ [t] := by
  cases h.stage with
  | scanning hproducer =>
      have hprepare := Relation.ReflTransGen.single (Step.prepare hproducer)
      exact ⟨_, _, hprepare.tail (.handOver hreader (by rw [withProducer, hproducer]; rfl)), rfl, rfl⟩
  | offering hproducer =>
      exact ⟨_, _, .single (.handOver hreader (by rw [hproducer]; rfl)), rfl, rfl⟩
  | refused _ hleft => simp [hreader, Reader.hasLeft] at hleft
  | ended hproducer =>
      cases hrunning : s.running with
      | true =>
          have hexit := Relation.ReflTransGen.single (Step.exit hproducer hrunning)
          exact ⟨_, _, hexit.tail (.giveUp hreader rfl), rfl, rfl⟩
      | false => exact ⟨_, _, .single (.giveUp hreader hrunning), rfl, rfl⟩

/-- From any moment on, a reader that asks for nothing may ask for a token and be answered. -/
theorem exists_reachable_answer (h : Relation.ReflTransGen Step (ofString text) s)
    (hreader : s.reader = .idle) :
    ∃ s' t, Relation.ReflTransGen Step (ofString text) s' ∧ s'.reader = .idle ∧
      s'.answers = s.answers ++ [t] := by
  have hasked := h.tail (Step.request hreader)
  obtain ⟨s', t, hanswered, hidle, hanswers⟩ := (sound_of_reachable hasked).exists_answer rfl
  exact ⟨s', t, hasked.trans hanswered, hidle, hanswers⟩

/-- A reader that has left is gone only after the producer. -/
theorem running_eq_false_of_gone (h : Relation.ReflTransGen Step (ofString text) s)
    (hgone : s.reader = .gone) : s.running = false :=
  (sound_of_reachable h).gone hgone

/-- The producer is never more than one token ahead of the reader. -/
theorem Sound.computed_le (h : Sound text s) : s.computed ≤ s.handedOver + 1 := by
  cases h.stage with
  | scanning _ _ hcomputed => omega
  | offering _ _ hcomputed => omega
  | ended _ _ _ hcomputed => omega
  | refused _ _ hcomputed => omega

/-! ### The main result -/

/-- Whatever steps a producer and a reader of a text have taken, in whatever order: the reader's
requests were answered as a scanner of the text answers them, also behind the terminal token, and
the line is the scanner's line; no token was computed before all earlier ones were handed over; and
the parties do not block each other. If they take turns from there on, the reader is answered like
the scanner again, and so a parse does not depend on the delivery. -/
theorem agrees_of_reachable (h : Relation.ReflTransGen Step (ofString text) s) :
    (∀ k t, s.answers[k]? = some t → t = ((Scanner.ofString text).after k).next.1) ∧
      (∀ (j k : Nat) (t u : Token), s.answers[j]? = some t → t.kind.isTerminal = true → j < k →
        s.answers[k]? = some u → u = Token.endAt (byteLength text.toList)) ∧
      s.line = ((Scanner.ofString text).after s.answers.length).line ∧
      (s.computed ≤ s.handedOver + 1 ∧ s.handedOver ≤ s.answers.length) ∧
      (s.reader = .waiting ∨ s.reader.hasLeft = true ∧ s.running = true → ∃ s', Step s s') ∧
      (s.reader.hasLeft = false → ∀ k,
        ((Feed.handedOver s.rendezvous).after k).next.1 =
            ((Scanner.ofString text).after (s.answers.length + k)).next.1 ∧
          ((Feed.handedOver s.rendezvous).after k).line =
            ((Scanner.ofString text).after (s.answers.length + k)).line) ∧
      ∀ (t : Template) (options : Options) (set : TemplateSet),
        t.parse text (options.withDelivery .concurrent) set =
          t.parse text (options.withDelivery .inline) set := by
  have hsound := sound_of_reachable h
  refine ⟨hsound.answers, ?_, hsound.line, ⟨hsound.computed_le, hsound.handedOver_le⟩,
    hsound.exists_step, hsound.feed_after, ?_⟩
  · intro j k t u ht hkind hjk hu
    rw [hsound.answers j t ht] at hkind
    rw [hsound.answers k u hu, Scanner.atRest_after_of_isTerminal hkind hjk]
  · intro t options set
    rw [Template.parse_eq, Template.parse_eq]

end Session

end

namespace Session

/-- A reader of one letter that asks for a fourth token. -/
theorem agrees_of_one_letter : ∃ s : Session, Relation.ReflTransGen Step (ofString "a") s ∧
    s.reader = .waiting ∧
    s.answers = [⟨.identifier, "a", 0⟩, ⟨.endOfInput, "", 1⟩, ⟨.endOfInput, "", 1⟩] ∧
    s.line = 1 ∧ s.computed ≤ s.handedOver + 1 ∧ ∃ s', Step s s' := by
  have hstart : Relation.ReflTransGen Step (ofString "a") (ofString "a") := .refl
  obtain ⟨s₁, t₁, hreach₁, hidle₁, hanswers₁⟩ := exists_reachable_answer hstart rfl
  obtain ⟨s₂, t₂, hreach₂, hidle₂, hanswers₂⟩ := exists_reachable_answer hreach₁ hidle₁
  obtain ⟨s₃, t₃, hreach₃, hidle₃, hanswers₃⟩ := exists_reachable_answer hreach₂ hidle₂
  obtain ⟨s, hreach, hreader, hall⟩ : ∃ s : Session,
      Relation.ReflTransGen Step (ofString "a") s ∧ s.reader = .waiting ∧
        s.answers = [t₁, t₂, t₃] := by
    refine ⟨_, hreach₃.tail (Step.request hidle₃), rfl, ?_⟩
    show s₃.answers = _
    rw [hanswers₃, hanswers₂, hanswers₁]
    rfl
  obtain ⟨hanswers, -, hline, ⟨hcomputed, -⟩, hstep, -, -⟩ := agrees_of_reachable hreach
  rw [hall] at hanswers hline
  refine ⟨s, hreach, hreader, ?_, ?_, hcomputed, hstep (Or.inl hreader)⟩
  · rw [hall, hanswers 0 t₁ rfl, hanswers 1 t₂ rfl, hanswers 2 t₃ rfl]
    decide +kernel
  · rw [hline]
    show ((Scanner.ofString "a").after 3).line = 1
    decide +kernel

end Session

end ActionTemplate
