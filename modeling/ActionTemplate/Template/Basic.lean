import ActionTemplate.Lookahead.Body
import ActionTemplate.Options

/-!
# Templates

A template has a name and, once its text has been read, a body. While the text is being read the
template also holds the state of the reading: the lookahead over its tokens, the variables in scope
and the tables of functions. `start` begins with a text and `stop` is done with it; between them
`run` performs one computation on the tokens, and a fault is reported with the name under which the
template is read and the line of the token that came last.

`start` resets the numbers of the lookahead but leaves its window alone, as no token of it can be
given back any more.
-/

namespace ActionTemplate

/-- The lookahead in front of a new feed. The window is kept, but none of its tokens counts. -/
def Lookahead.restart (l : Lookahead) (feed : Feed) : Lookahead :=
  { l with feed := some feed, pushedBack := 0, buffered := 0 }

/-- A template. -/
structure Template where
  /-- The name under which the template is registered. -/
  name : String
  /-- The name under which its text is read; faults are reported with it. -/
  parseName : String := ""
  /-- The text. -/
  text : String := ""
  /-- The body, if the text has been read. -/
  root : Option Body := none
  /-- The state of the tokens while the text is read. -/
  lookahead : Lookahead := {}
  /-- The variables in scope while the text is read. -/
  vars : List String := []
  /-- The functions that can be called, known while the text is read. -/
  functions : List FunctionTable := []
  deriving DecidableEq, Repr

namespace Template

/-- Whether a template has no content: no body, or a body that holds nothing but empty lists. -/
def isEmpty (t : Template) : Bool := t.root.all Body.isEmpty

/-- Whether the text is being read. -/
def isParsing (t : Template) : Bool := t.lookahead.feed.isSome

/-! ## Reading a text -/

/-- Begin to read tokens. The value that the template is given, `$`, is the only variable in
scope. -/
def start (t : Template) (functions : List FunctionTable) (feed : Feed) : Template :=
  { t with root := none, lookahead := t.lookahead.restart feed, vars := ["$"], functions }

/-- Be done with reading. The state of the reading is dropped. -/
def stop (t : Template) : Template :=
  { t with lookahead := {}, vars := [], functions := [] }

/-- Bring a variable into scope. -/
def pushVar (t : Template) (name : String) : Template := { t with vars := t.vars ++ [name] }

/-- A fault at the place that the reading has reached. -/
def errorAt (t : Template) (fault : ParseFault) : ParseError :=
  ⟨fault, t.parseName, t.lookahead.line⟩

/-- Perform a computation on the tokens. -/
def run {α : Type} (t : Template) (m : Reading α) : Except ParseError α × Template :=
  match m.run t.lookahead with
  | .ok a lookahead => (.ok a, { t with lookahead })
  | .error fault lookahead =>
      (.error ({ t with lookahead }.errorAt fault), { t with lookahead })

/-- Read the body. On a fault the body is what it was before. -/
def readBody [Alphabet] (t : Template) : Except ParseError Unit × Template :=
  match t.run Lookahead.body with
  | (.ok body, t') => (.ok (), { t' with root := some body })
  | (.error e, t') => (.error e, t')

end Template

end ActionTemplate
