import ActionTemplate.Template.Basic

/-!
# Dumps

A dump shows a value with the names of its parts, for whoever looks for a mistake. A record is its
name and its fields between braces, a list is its items between brackets, and texts are quoted. Of a
template the state of the reading is shown in part, and two dots stand for the rest.
-/

namespace ActionTemplate

namespace Dump

open Text

/-- Items between brackets. -/
def brackets (items : List String) : String := "[" ++ ", ".intercalate items ++ "]"

/-- Quoted texts between brackets. -/
def texts (items : List String) : String := brackets (items.map quote)

/-- The name of a record and, between braces, its fields. -/
def record (name : String) (fields : List String) : String :=
  name ++ " \x7b " ++ ", ".intercalate fields ++ " \x7d"

/-- A field of a record. -/
def field (name value : String) : String := name ++ ": " ++ value

/-- A value in a wrapper. -/
def wrapped (name value : String) : String := name ++ "(" ++ value ++ ")"

/-- A truth value. -/
def truth (b : Bool) : String := if b then "true" else "false"

/-! ## Nodes -/

/-- A list of nodes, given the dumps of the nodes. -/
def listNode (pos : Nat) (nodes : List String) : String :=
  record "ListNode" [field "pos" (decimal pos), field "nodes" (brackets nodes)]

mutual

/-- A node. -/
def node : Node → String
  | .list pos nodes => wrapped "List" (listNode pos (nodeList nodes))
  | .action pos line =>
      wrapped "Action"
        (record "ActionNode" [field "pos" (decimal pos), field "line" (decimal line)])
  | .command pos args =>
      wrapped "Command"
        (record "CommandNode" [field "pos" (decimal pos), field "args" (brackets (nodeList args))])
  | .reference pos ident =>
      wrapped "Variable"
        (record "VariableNode" [field "pos" (decimal pos), field "ident" (texts ident)])

/-- The nodes of a sequence, one by one. -/
def nodeList : List Node → List String
  | [] => []
  | n :: ns => node n :: nodeList ns

end

/-- The body of a template, or that there is none. -/
def root : Option Body → String
  | none => "None"
  | some body => wrapped "Some" (listNode body.pos (nodeList body.nodes))

end Dump

/-! ## Templates and options -/

/-- The dump of a template. -/
def Template.dump (t : Template) : String :=
  Dump.record "Tree"
    [Dump.field "name" (Text.quote t.name), Dump.field "parse_name" (Text.quote t.parseName),
      Dump.field "root" (Dump.root t.root), Dump.field "parsing" (Dump.truth t.isParsing),
      Dump.field "vars" (Dump.texts t.vars),
      Dump.field "funcs" (Text.decimal t.functions.length), ".."]

/-- The name of a delivery. -/
def Delivery.name : Delivery → String
  | concurrent => "Concurrent"
  | inline => "Inline"

/-- The dump of options. The names in a table have no order of their own, so there is no dump if a
table has more than one. -/
def Options.dump? (o : Options) : Option String :=
  if o.functions.all fun table => table.names.length ≤ 1 then
    some (Dump.record "ParseOptions"
      [Dump.field "mode" o.delivery.name,
        Dump.field "funcs" (Dump.brackets (o.functions.map fun table => Dump.texts table.names))])
  else none

end ActionTemplate
