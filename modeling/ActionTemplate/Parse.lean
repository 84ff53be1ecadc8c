import ActionTemplate.Template.Set
import ActionTemplate.Text.Letters

/-!
# Parsing templates

`Template.parse` reads a text as the body of a template and registers the template in a set. A
second template with content under the same name is a fault, and after any fault the set is empty.
`parse` does the same in a set of its own.
-/

namespace ActionTemplate

namespace Template

/-- Whether both templates have content, so that one cannot take the place of the other. -/
def conflicts (old new : Template) : Bool := !old.isEmpty && !new.isEmpty

/-- The fault of giving a name with content new content. -/
def checkRedefinition (t : Template) (set : TemplateSet) : Except ParseError Unit :=
  if (set.get? t.name).any (conflicts · t) then .error (t.errorAt (.multipleDefinition t.name))
  else .ok ()

/-- The template with the reading of a text begun under its own name. -/
def begun (t : Template) (text : String) (options : Options) : Template :=
  { t with parseName := t.name, text }.start options.functions
    (Feed.ofString options.delivery text)

/-- Read a text as the body of the template and register the template under its name. The result is
the template that is registered under the name then, and the set. -/
def parse [Alphabet] (t : Template) (text : String) (options : Options) (set : TemplateSet) :
    Except ParseError Template × TemplateSet :=
  match (t.begun text options).readBody with
  | (.error e, _) => (.error e, .empty)
  | (.ok (), read) =>
      match read.checkRedefinition set with
      | .error e => (.error e, .empty)
      | .ok () => (.ok (set.register read.stop).1, (set.register read.stop).2)

end Template

/-- Read a text as a template with the given name. The result is a set with that template. -/
def parse [Alphabet] (name text : String) (options : Options) : Except ParseError TemplateSet :=
  match ({ name } : Template).parse text options .empty with
  | (.ok _, set) => .ok set
  | (.error e, _) => .error e

end ActionTemplate
