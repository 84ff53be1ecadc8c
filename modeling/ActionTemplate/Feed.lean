import ActionTemplate.Rendezvous

/-!
# Where tokens come from

A template is read from a feed of tokens, which cuts the text itself, token by token as they are
asked for, or takes them from a producer that works on its own. Either way the feed knows the line
of the token that it gave last.
-/

namespace ActionTemplate

/-- How tokens reach the reader of a template. -/
inductive Delivery where
  /-- A producer works on its own and hands the tokens over. -/
  | concurrent
  /-- Each token is cut when it is asked for. -/
  | inline
  deriving DecidableEq, Repr

/-- A source of tokens. -/
inductive Feed where
  /-- The text is cut on demand. -/
  | direct (scanner : Scanner)
  /-- The tokens are handed over by a producer. -/
  | handedOver (rendezvous : Rendezvous)
  deriving DecidableEq, Repr

namespace Feed

/-- The feed for the tokens of a text. -/
def ofString (delivery : Delivery) (text : String) : Feed :=
  match delivery with
  | .concurrent => handedOver (Rendezvous.ofString text)
  | .inline => direct (Scanner.ofString text)

/-- The line of the token given last; line one before there is any. -/
def line : Feed → Nat
  | direct scanner => scanner.line
  | handedOver rendezvous => rendezvous.line

/-- A bound on the number of tokens still to come that are not terminal. -/
def remaining : Feed → Nat
  | direct scanner => scanner.remaining
  | handedOver rendezvous => rendezvous.remaining

variable [Alphabet]

/-- The next token. -/
def next : Feed → Token × Feed
  | direct scanner => (scanner.next.1, direct scanner.next.2)
  | handedOver rendezvous => (rendezvous.next.1, handedOver rendezvous.next.2)

/-- A token that is not terminal brings the end closer. -/
theorem remaining_next_lt {f : Feed} (h : f.next.1.kind.isTerminal = false) :
    f.next.2.remaining < f.remaining := by
  cases f with
  | direct scanner => exact Scanner.remaining_next_lt h
  | handedOver rendezvous => exact Rendezvous.remaining_next_lt h

/-- After a terminal token nothing remains. -/
theorem remaining_next_eq_zero {f : Feed} (h : f.next.1.kind.isTerminal = true) :
    f.next.2.remaining = 0 := by
  cases f with
  | direct scanner => exact Scanner.remaining_next_eq_zero h
  | handedOver rendezvous => exact Rendezvous.remaining_next_eq_zero h

/-- No token makes more of them come. -/
theorem remaining_next_le (f : Feed) : f.next.2.remaining ≤ f.remaining := by
  cases h : f.next.1.kind.isTerminal with
  | false => exact Nat.le_of_lt (remaining_next_lt h)
  | true => simp [remaining_next_eq_zero h]

end Feed

end ActionTemplate
