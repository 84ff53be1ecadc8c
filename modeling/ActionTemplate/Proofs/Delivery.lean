import ActionTemplate.Feed
import ActionTemplate.Proofs.Division

/-!
# What a feed delivers

A feed `Delivers` a sequence of tokens if it answers one request after the other with them and every
further request with an empty end of input, and if it knows at each token the line of that token.

Both kinds of feed draw on one scanner, and `delivers_ofString` is the conclusion: whether a text is
cut on demand or by a producer, what is delivered are the tokens that a new scanner hands out up to
the terminal one. They are a `Run`, a sequence in which only the last token is terminal.
-/

namespace ActionTemplate

open Text

/-! ## Runs of tokens -/

/-- A sequence of tokens of which the last one, and no other, is terminal. -/
inductive Run : List Token → Prop where
  | last {t : Token} (h : t.kind.isTerminal = true) : Run [t]
  | cons {t : Token} {ts : List Token} (h : t.kind.isTerminal = false) (hs : Run ts) : Run (t :: ts)

/-- A run has a token, its last one at least. -/
theorem Run.ne_nil {ts : List Token} (h : Run ts) : ts ≠ [] := by
  cases h <;> simp

/-- Behind a token that is not terminal a run goes on. -/
theorem Run.tail {t : Token} {ts : List Token} (h : Run (t :: ts))
    (hkind : t.kind.isTerminal = false) : Run ts := by
  cases h with
  | last hlast => simp [hkind] at hlast
  | cons _ hs => exact hs

/-- Behind a terminal token a run has ended. -/
theorem Run.eq_nil {t : Token} {ts : List Token} (h : Run (t :: ts))
    (hkind : t.kind.isTerminal = true) : ts = [] := by
  cases h with
  | last _ => rfl
  | cons hnot _ => simp [hkind] at hnot

variable [Alphabet]

/-- A text is divided into a run of tokens. -/
theorem Division.run {pos : Nat} {text : List Char} {tokens : List Token}
    (h : Division pos text tokens) : Run tokens := by
  induction h with
  | endOfInput hfillers => exact .last rfl
  | fault hfillers hcuts => exact .last rfl
  | token hfillers hcuts hkind hrest ih => exact .cons hkind ih

namespace Feed

/-! ## Deliveries -/

/-- The feed answers with the given tokens, one after the other, and then with empty ends of
input. -/
def Delivers (text : List Char) : Feed → List Token → Prop
  | f, [] => f.next = (Token.endAt (byteLength text), f)
  | f, t :: ts => f.next.1 = t ∧ f.next.2.line = lineAt text t.pos ∧ Delivers text f.next.2 ts

/-- The feed draws on the scanner `s`, none of whose tokens it holds. -/
inductive DrawsOn (s : Scanner) : Feed → Prop where
  | direct : DrawsOn s (direct s)
  | handedOver (lastPos : Nat) : DrawsOn s (handedOver ⟨s.text, .scanning s, lastPos⟩)

/-- A feed answers with the next token of its scanner. If that is not the last one, it draws on what
the scanner has become; otherwise it has an empty end of input for every further request. -/
theorem next_of_drawsOn {f : Feed} {s : Scanner} {before after : List Char} (h : f.DrawsOn s)
    (hat : s.At before after) :
    f.next.1 = s.next.1 ∧ f.next.2.line = lineAt s.text s.next.1.pos ∧
      (s.next.1.kind.isTerminal = false → f.next.2.DrawsOn s.next.2) ∧
      (s.next.1.kind.isTerminal = true → f.next.2.Delivers s.text []) := by
  have htext := hat.text_next
  have hline := hat.line_next
  cases h with
  | direct =>
      refine ⟨rfl, hline, fun _ => .direct, ?_⟩
      intro hkind
      show (s.next.2.next.1, Feed.direct s.next.2.next.2) = (Token.endAt (byteLength s.text), _)
      rw [hat.next_next hkind]
      rfl
  | handedOver lastPos =>
      -- the producer goes on scanning or stops, depending on the token that is handed over
      cases hkind : s.next.1.kind.isTerminal with
      | false =>
          have hstep : (handedOver ⟨s.text, .scanning s, lastPos⟩).next =
              (s.next.1, handedOver ⟨s.next.2.text, .scanning s.next.2, s.next.1.pos⟩) := by
            simp [next, Rendezvous.next, Producer.prepare, Producer.handOver?, hkind, htext]
          rw [hstep]
          refine ⟨rfl, ?_, fun _ => .handedOver _, fun hnot => by simp at hnot⟩
          show lineAt s.next.2.text s.next.1.pos = lineAt s.text s.next.1.pos
          rw [htext]
      | true =>
          have hstep : (handedOver ⟨s.text, .scanning s, lastPos⟩).next =
              (s.next.1, handedOver ⟨s.text, .stopped, s.next.1.pos⟩) := by
            simp [next, Rendezvous.next, Producer.prepare, Producer.handOver?, hkind]
          rw [hstep]
          exact ⟨rfl, rfl, fun hnot => by simp at hnot, fun _ => rfl⟩

/-- What a feed delivers are the tokens of the scanner that it draws on. -/
theorem delivers_drain {f : Feed} {s : Scanner} {before after : List Char} (h : f.DrawsOn s)
    (hat : s.At before after) : f.Delivers s.text s.drain.1 := by
  fun_induction Scanner.drain s generalizing f before after with
  | case1 s hterminal =>
      obtain ⟨hfirst, hline, -, hend⟩ := next_of_drawsOn h hat
      exact ⟨hfirst, hline, hend hterminal⟩
  | case2 s hterminal tokens s' hdrain ih =>
      obtain ⟨hfirst, hline, hmore, -⟩ := next_of_drawsOn h hat
      have hkind : s.next.1.kind.isTerminal = false := by simpa using hterminal
      obtain ⟨before', after', hat'⟩ := hat.exists_at_next hkind
      have hrest := ih (hmore hkind) hat'
      rw [hdrain, hat.text_next] at hrest
      exact ⟨hfirst, hline, hrest⟩

/-- However the tokens of a text are delivered, they are those that a new scanner hands out. -/
theorem delivers_ofString (delivery : Delivery) (text : String) :
    (ofString delivery text).Delivers text.toList (Scanner.ofString text).drain.1 := by
  have hdraws : (ofString delivery text).DrawsOn (Scanner.ofString text) := by
    cases delivery with
    | concurrent => exact .handedOver 0
    | inline => exact .direct
  exact delivers_drain hdraws (Scanner.at_ofString text)

end Feed

end ActionTemplate
