import ActionTemplate.Scanner

/-!
# Tokens handed over one at a time

A producer cuts a text into tokens on its own and offers each of them at a meeting point that holds
nothing: it computes the next token, offers it, and goes on only when the reader has taken it. After
it has handed over the terminal token it stops. The reader of a `Rendezvous` takes the offered
token, waiting for the producer to make its offer if it has not yet; once the producer has stopped,
it gets an empty end of input behind the text.

The two parts are separate: `Producer.prepare` is the producer's own step, `Producer.handOver?` the
step that both take together.
-/

namespace ActionTemplate

/-! ## The producer -/

/-- A producer of tokens. -/
inductive Producer where
  /-- It is about to compute the next token. -/
  | scanning (source : Scanner)
  /-- It has computed a token and offers it. -/
  | offering (token : Token) (source : Scanner)
  /-- It has stopped. -/
  | stopped
  deriving DecidableEq, Repr

namespace Producer

/-- Compute the next token and offer it, unless one is on offer or the producer has stopped. -/
def prepare [Alphabet] : Producer → Producer
  | scanning source => offering source.next.1 source.next.2
  | p => p

/-- Hand over the token on offer. The producer stops behind the terminal token. -/
def handOver? : Producer → Option (Token × Producer)
  | offering token source =>
      some (token, if token.kind.isTerminal then stopped else scanning source)
  | _ => none

/-- A bound on the number of tokens still to be handed over that are not terminal. -/
def remaining : Producer → Nat
  | scanning source => source.remaining
  | offering token source =>
      if token.kind.isTerminal then 0 else source.remaining + 1
  | stopped => 0

/-- Preparing an offer does not make more tokens. -/
theorem remaining_prepare_le [Alphabet] (p : Producer) : p.prepare.remaining ≤ p.remaining := by
  cases p with
  | scanning source =>
      simp only [prepare, remaining]
      split
      · exact Nat.zero_le _
      · rename_i hkind
        exact Scanner.remaining_next_lt (by simpa using hkind)
  | offering token source => exact Nat.le_refl _
  | stopped => exact Nat.le_refl _

/-- A token that is not terminal, once handed over, leaves fewer to come. -/
theorem remaining_lt_of_handOver? {p p' : Producer} {t : Token}
    (h : p.handOver? = some (t, p')) (ht : t.kind.isTerminal = false) :
    p'.remaining < p.remaining := by
  cases p with
  | scanning source => simp [handOver?] at h
  | offering token source =>
      simp only [handOver?, Option.some.injEq, Prod.mk.injEq] at h
      obtain ⟨rfl, rfl⟩ := h
      simp [remaining, ht]
  | stopped => simp [handOver?] at h

/-- After a terminal token nothing is left to come. -/
theorem remaining_eq_zero_of_handOver? {p p' : Producer} {t : Token}
    (h : p.handOver? = some (t, p')) (ht : t.kind.isTerminal = true) : p'.remaining = 0 := by
  cases p with
  | scanning source => simp [handOver?] at h
  | offering token source =>
      simp only [handOver?, Option.some.injEq, Prod.mk.injEq] at h
      obtain ⟨rfl, rfl⟩ := h
      simp [remaining, ht]
  | stopped => simp [handOver?] at h

/-- Only a producer that has stopped has no offer to make. -/
theorem handOver?_prepare_eq_none [Alphabet] {p : Producer} (h : p.prepare.handOver? = none) :
    p = stopped := by
  cases p with
  | scanning source => simp [prepare, handOver?] at h
  | offering token source => simp [prepare, handOver?] at h
  | stopped => rfl

end Producer

/-! ## The reader -/

/-- A reader of the tokens that a producer hands over. -/
structure Rendezvous where
  /-- The whole text. -/
  text : List Char
  /-- The other side. -/
  producer : Producer
  /-- The byte offset of the latest token that was handed over. -/
  lastPos : Nat := 0
  deriving DecidableEq, Repr

namespace Rendezvous

/-- A reader of the tokens of a text, its producer not having begun. -/
def ofString (text : String) : Rendezvous :=
  { text := text.toList, producer := .scanning (Scanner.ofString text) }

/-- The line of the latest token handed over; line one before there is any. -/
def line (r : Rendezvous) : Nat := Text.lineAt r.text r.lastPos

/-- Take the next token, waiting for the producer to offer it. -/
def next [Alphabet] (r : Rendezvous) : Token × Rendezvous :=
  match r.producer.prepare.handOver? with
  | some (token, producer) => (token, { r with producer, lastPos := token.pos })
  | none => (Token.endAt (Text.byteLength r.text), r)

/-- A bound on the number of tokens still to come that are not terminal. -/
def remaining (r : Rendezvous) : Nat := r.producer.remaining

/-- A token that is not terminal brings the end closer. -/
theorem remaining_next_lt [Alphabet] {r : Rendezvous}
    (h : r.next.1.kind.isTerminal = false) :
    r.next.2.remaining < r.remaining := by
  rw [next] at h ⊢
  split at h
  · rename_i token producer hover
    exact Nat.lt_of_lt_of_le (Producer.remaining_lt_of_handOver? hover h)
      (Producer.remaining_prepare_le r.producer)
  · simp [Token.endAt, TokenKind.isTerminal] at h

/-- After a terminal token nothing remains. -/
theorem remaining_next_eq_zero [Alphabet] {r : Rendezvous}
    (h : r.next.1.kind.isTerminal = true) :
    r.next.2.remaining = 0 := by
  rw [next] at h ⊢
  split
  · rename_i token producer hover
    rw [hover] at h
    exact Producer.remaining_eq_zero_of_handOver? hover h
  · rename_i hover
    simp [remaining, Producer.handOver?_prepare_eq_none hover, Producer.remaining]

end Rendezvous

end ActionTemplate
