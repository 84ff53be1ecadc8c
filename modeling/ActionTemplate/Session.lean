import ActionTemplate.Rendezvous

/-!
# Producer and reader on their own

`Rendezvous.next` lets the producer and the reader take turns. On their own they take their steps in
any order: the producer may have computed a token long before it is asked for, and the reader may
have to wait for it. `Session` is the state of both, and `Session.Step` one step of either, or of
both when a token is handed over.

The reader may leave the meeting point whenever it is not waiting. The token on offer is then
refused, the producer stops, and the reader is gone only after the producer is.

What was answered and how many tokens were computed and handed over is written down in the session,
but no step depends on it.
-/

namespace ActionTemplate

/-- What a reader is about. -/
inductive Reader where
  /-- It asks for nothing. -/
  | idle
  /-- It has asked for a token and has no answer yet. -/
  | waiting
  /-- It has left the meeting point and waits for the producer to be gone. -/
  | leaving
  /-- It is gone. -/
  | gone
  deriving DecidableEq, Repr

/-- Whether the reader has left the meeting point. -/
def Reader.hasLeft : Reader → Bool
  | idle => false
  | waiting => false
  | leaving => true
  | gone => true

/-- A producer and a reader. -/
structure Session where
  /-- The meeting point: the producer's state, and what the reader knows of the text. -/
  rendezvous : Rendezvous
  /-- What the reader is about. -/
  reader : Reader := .idle
  /-- Whether the reader knows that no further token will be handed over. -/
  finished : Bool := false
  /-- Whether the producer is still there. A producer that has stopped is there for a while. -/
  running : Bool := true
  /-- Whether the reader has yet to wait for the producer to be gone. -/
  attached : Bool := true
  /-- The answers to the reader's requests. -/
  answers : List Token := []
  /-- The number of tokens that the producer has computed. -/
  computed : Nat := 0
  /-- The number of tokens that were handed over. -/
  handedOver : Nat := 0
  deriving DecidableEq, Repr

namespace Session

/-- Neither the producer nor the reader of the text has begun. -/
def ofString (text : String) : Session := { rendezvous := Rendezvous.ofString text }

/-- The line of the latest token handed over; line one before there is any. -/
def line (s : Session) : Nat := s.rendezvous.line

/-- The session with another state of the producer. -/
def withProducer (s : Session) (producer : Producer) : Session :=
  { s with rendezvous := { s.rendezvous with producer } }

/-- The session after a token was handed over to the waiting reader. -/
def take (s : Session) (token : Token) (producer : Producer) : Session :=
  { s with
    rendezvous := { s.rendezvous with producer, lastPos := token.pos }
    reader := .idle
    finished := s.finished || token.kind.isTerminal
    answers := s.answers ++ [token]
    handedOver := s.handedOver + 1 }

/-- The session after the waiting reader has found the producer gone. If no terminal token was
handed over, it was gone too early, and the reader sees to that at once. -/
def giveUp (s : Session) : Session :=
  { s with
    reader := .idle
    finished := true
    attached := s.attached && s.finished
    answers := s.answers ++ [Token.endAt (Text.byteLength s.rendezvous.text)] }

/-- A token handed over is one more answer. -/
theorem length_answers_take (s : Session) (token : Token) (producer : Producer) :
    (s.take token producer).answers.length = s.answers.length + 1 := by
  simp [take]

/-- An end of input is one more answer. -/
theorem length_answers_giveUp (s : Session) :
    s.giveUp.answers.length = s.answers.length + 1 := by
  simp [giveUp]

/-- One step of the producer, of the reader, or of both. -/
inductive Step [Alphabet] : Session → Session → Prop where
  /-- The producer computes the next token and offers it. -/
  | prepare {s : Session} {source : Scanner} (h : s.rendezvous.producer = .scanning source) :
      Step s { s.withProducer s.rendezvous.producer.prepare with computed := s.computed + 1 }
  /-- The producer stops because nobody will take the token it offers. -/
  | refuse {s : Session} {token : Token} {source : Scanner}
      (h : s.rendezvous.producer = .offering token source) (hleft : s.reader.hasLeft = true) :
      Step s (s.withProducer .stopped)
  /-- The producer, having stopped, goes. -/
  | exit {s : Session} (h : s.rendezvous.producer = .stopped) (hrunning : s.running = true) :
      Step s { s with running := false }
  /-- The reader asks for a token. -/
  | request {s : Session} (h : s.reader = .idle) : Step s { s with reader := .waiting }
  /-- The token on offer is handed over. -/
  | handOver {s : Session} {token : Token} {producer : Producer} (h : s.reader = .waiting)
      (hover : s.rendezvous.producer.handOver? = some (token, producer)) :
      Step s (s.take token producer)
  /-- The reader finds the producer gone. -/
  | giveUp {s : Session} (h : s.reader = .waiting) (hgone : s.running = false) : Step s s.giveUp
  /-- The reader leaves the meeting point. -/
  | leave {s : Session} (h : s.reader = .idle) : Step s { s with reader := .leaving }
  /-- The reader goes, after the producer if it has yet to wait for it. -/
  | join {s : Session} (h : s.reader = .leaving) (hgone : s.attached = true → s.running = false) :
      Step s { s with reader := .gone }

end Session

end ActionTemplate
