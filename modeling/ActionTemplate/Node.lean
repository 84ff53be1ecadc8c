/-!
# Nodes

A template is a tree. Its inner nodes are lists and commands, its leaves actions and references. A
node is empty if it holds nothing but empty lists. In its written form the items of a list follow
one another directly, those of a command are separated by blanks, and every action is an empty pair
of double braces.

Nodes are compared with all their positions and lines, and the comparison is decidable.
-/

namespace ActionTemplate

/-- An element of a template. Each carries the byte offset where it starts. -/
inductive Node where
  /-- A sequence of nodes. -/
  | list (pos : Nat) (nodes : List Node)
  /-- A place where something is evaluated, and its line. -/
  | action (pos line : Nat)
  /-- A command and its arguments. -/
  | command (pos : Nat) (args : List Node)
  /-- A reference to a variable and, one after the other, to fields in it. -/
  | reference (pos : Nat) (ident : List String)
  deriving Repr

namespace Node

instance : Inhabited Node := ⟨list 0 []⟩

/-! ## Equality -/

mutual

/-- Decides whether two nodes are equal. -/
def decEq : (m n : Node) → Decidable (m = n)
  | list p ms, list q ns =>
      if hpos : p = q then
        match decEqs ms ns with
        | isTrue h => isTrue (by rw [hpos, h])
        | isFalse h => isFalse (by simp [h])
      else isFalse (by simp [hpos])
  | action p k, action q l =>
      if h : p = q ∧ k = l then isTrue (by rw [h.1, h.2]) else isFalse (by simpa using h)
  | command p ms, command q ns =>
      if hpos : p = q then
        match decEqs ms ns with
        | isTrue h => isTrue (by rw [hpos, h])
        | isFalse h => isFalse (by simp [h])
      else isFalse (by simp [hpos])
  | reference p ss, reference q ts =>
      if h : p = q ∧ ss = ts then isTrue (by rw [h.1, h.2]) else isFalse (by simpa using h)
  | list .., action .. => isFalse (by simp)
  | list .., command .. => isFalse (by simp)
  | list .., reference .. => isFalse (by simp)
  | action .., list .. => isFalse (by simp)
  | action .., command .. => isFalse (by simp)
  | action .., reference .. => isFalse (by simp)
  | command .., list .. => isFalse (by simp)
  | command .., action .. => isFalse (by simp)
  | command .., reference .. => isFalse (by simp)
  | reference .., list .. => isFalse (by simp)
  | reference .., action .. => isFalse (by simp)
  | reference .., command .. => isFalse (by simp)

/-- Decides whether two sequences of nodes are equal. -/
def decEqs : (ms ns : List Node) → Decidable (ms = ns)
  | [], [] => isTrue rfl
  | [], _ :: _ => isFalse (by simp)
  | _ :: _, [] => isFalse (by simp)
  | m :: ms, n :: ns =>
      match decEq m n, decEqs ms ns with
      | isTrue hm, isTrue hms => isTrue (by rw [hm, hms])
      | isFalse hm, _ => isFalse (by simp [hm])
      | _, isFalse hms => isFalse (by simp [hms])

end

instance : DecidableEq Node := decEq

/-! ## Positions, emptiness, written form -/

/-- The byte offset where a node starts. -/
def pos : Node → Nat
  | list p _ => p
  | action p _ => p
  | command p _ => p
  | reference p _ => p

mutual

/-- Whether a node holds nothing but empty lists. -/
def isEmpty : Node → Bool
  | list _ nodes => allEmpty nodes
  | _ => false

/-- Whether all nodes of a sequence are empty. -/
def allEmpty : List Node → Bool
  | [] => true
  | n :: ns => n.isEmpty && allEmpty ns

end

/-- A sequence is empty if each of its nodes is. -/
theorem allEmpty_eq_all (ns : List Node) : allEmpty ns = ns.all isEmpty := by
  induction ns with
  | nil => rfl
  | cons n ns ih => rw [allEmpty, List.all_cons, ih]

mutual

/-- The written form of a node. -/
def display : Node → String
  | list _ nodes => String.join (displays nodes)
  | action .. => "\x7b\x7b\x7d\x7d"
  | command _ args => " ".intercalate (displays args)
  | reference _ ident => ".".intercalate ident

/-- The written forms of the nodes of a sequence. -/
def displays : List Node → List String
  | [] => []
  | n :: ns => n.display :: displays ns

end

/-- The nodes of a sequence are written one by one. -/
theorem displays_eq_map (ns : List Node) : displays ns = ns.map display := by
  induction ns with
  | nil => rfl
  | cons n ns ih => rw [displays, List.map_cons, ih]

/-! ## Dotted references -/

/-- The reference with a dotted form such as `$x.name`: the pieces between the dots, empty ones
included. -/
def ofDotted (pos : Nat) (dotted : String) : Node :=
  reference pos ((dotted.toList.splitOn '.').map String.ofList)

end Node

/-! ## Bodies -/

/-- The content of a whole template: a list of nodes that is no part of another node. -/
structure Body where
  pos : Nat
  nodes : List Node
  deriving DecidableEq, Repr

namespace Body

/-- A body as a node. -/
def toNode (b : Body) : Node := .list b.pos b.nodes

/-- Whether a body holds nothing but empty lists. -/
def isEmpty (b : Body) : Bool := b.toNode.isEmpty

/-- The written form of a body. -/
def display (b : Body) : String := b.toNode.display

end Body

/-! ## Markers -/

/-- A closing word that was read where an action was expected. It is no part of a template. -/
inductive Marker where
  | endMark
  | elseMark
  deriving DecidableEq, Repr

/-- The written form of a marker. -/
def Marker.display : Marker → String
  | endMark => "\x7b\x7bend\x7d\x7d"
  | elseMark => "\x7b\x7belse\x7d\x7d"

end ActionTemplate
