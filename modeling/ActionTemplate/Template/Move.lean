import ActionTemplate.Template.Basic

/-!
# Reading a template by hand

A template can be read move by move: one token at a time with tokens given back, one item at a time,
or the whole body at once, and the reading can be stopped and begun again over another text at any
time. `perform` makes one move, `performAll` several in a row. A move that fails is not the end: the
next one goes on from the state that the failure left.
-/

namespace ActionTemplate

namespace Template

/-- The moves of reading a template. -/
inductive Move where
  | next
  | peek
  | pushBack
  | nextPastSpaces
  | nextPastWhite
  | finishLine
  | action
  | body
  /-- Bring a variable into scope. -/
  | pushVar (name : String)
  /-- Be done with reading. -/
  | stop
  /-- Begin again over other tokens. -/
  | start (functions : List FunctionTable) (feed : Feed)
  deriving DecidableEq, Repr

/-- What a move yields if it does not fail. -/
inductive Yield where
  /-- The token read or looked at. -/
  | token (t : Token)
  /-- The item read. -/
  | item (i : Lookahead.Item)
  /-- Nothing but the new state. -/
  | done
  deriving DecidableEq, Repr

/-- Make one move. -/
def perform [Alphabet] (t : Template) : Move → Except ParseError Yield × Template
  | .next => t.run (Yield.token <$> Lookahead.next)
  | .peek => t.run (Yield.token <$> Lookahead.peek)
  | .pushBack => t.run ((fun _ => Yield.done) <$> Lookahead.pushBack)
  | .nextPastSpaces => t.run (Yield.token <$> Lookahead.nextPastSpaces)
  | .nextPastWhite => t.run (Yield.token <$> Lookahead.nextPastWhite)
  | .finishLine => t.run ((fun _ => Yield.done) <$> Lookahead.finishLine)
  | .action => t.run (Yield.item <$> Lookahead.action)
  | .body => (t.readBody.1.map fun _ => .done, t.readBody.2)
  | .pushVar name => (.ok .done, t.pushVar name)
  | .stop => (.ok .done, t.stop)
  | .start functions feed => (.ok .done, t.start functions feed)

/-- Make several moves in a row, failures included. -/
def performAll [Alphabet] (t : Template) : List Move → List (Except ParseError Yield) × Template
  | [] => ([], t)
  | m :: ms =>
      ((t.perform m).1 :: ((t.perform m).2.performAll ms).1, ((t.perform m).2.performAll ms).2)

end Template

end ActionTemplate
