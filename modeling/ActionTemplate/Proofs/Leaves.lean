import ActionTemplate.Node
import Mathlib.Logic.Relation

/-!
# The leaves of a node

Lists do nothing but group other nodes. What a node comes to, whether it is empty and how it is
written, is told by its `leaves`, the nodes other than lists that are met from left to right when
only lists are entered. So the grouping may be changed, `Regroups`, a list be replaced by what it
holds or a list without leaves be put in, anywhere in a node and any number of times:
`told_by_leaves`.

An empty node is written as nothing. The converse does not hold, as a command without arguments is
a leaf that is written as nothing.
-/

namespace ActionTemplate

namespace Node

/-! ## Leaves -/

mutual

/-- The nodes other than lists that are met from left to right when only lists are entered. -/
def leaves : Node → List Node
  | list _ nodes => leavesOf nodes
  | action pos line => [action pos line]
  | command pos args => [command pos args]
  | reference pos ident => [reference pos ident]

/-- The leaves of a sequence of nodes. -/
def leavesOf : List Node → List Node
  | [] => []
  | n :: ns => n.leaves ++ leavesOf ns

end

/-- Whether a node is a list. -/
def isList : Node → Bool
  | list .. => true
  | _ => false

/-- The leaves of two sequences, one behind the other. -/
theorem leavesOf_append (ms ns : List Node) : leavesOf (ms ++ ns) = leavesOf ms ++ leavesOf ns := by
  induction ms with
  | nil => rfl
  | cons m ms ih => rw [List.cons_append, leavesOf, leavesOf, ih, List.append_assoc]

mutual

/-- No leaf is a list. -/
theorem isList_of_mem_leaves (n : Node) : ∀ leaf ∈ n.leaves, leaf.isList = false := by
  cases n with
  | list pos nodes => exact isList_of_mem_leavesOf nodes
  | action pos line => simp [leaves, isList]
  | command pos args => simp [leaves, isList]
  | reference pos ident => simp [leaves, isList]

/-- No leaf of a sequence is a list. -/
theorem isList_of_mem_leavesOf (ns : List Node) : ∀ leaf ∈ leavesOf ns, leaf.isList = false := by
  cases ns with
  | nil => simp [leavesOf]
  | cons n ns =>
      intro leaf hleaf
      rw [leavesOf, List.mem_append] at hleaf
      rcases hleaf with hleaf | hleaf
      · exact isList_of_mem_leaves n leaf hleaf
      · exact isList_of_mem_leavesOf ns leaf hleaf

end

/-! ## Emptiness and written form -/

mutual

/-- A node is empty if it has no leaves. -/
theorem isEmpty_eq (n : Node) : n.isEmpty = n.leaves.isEmpty := by
  cases n with
  | list pos nodes => exact allEmpty_eq nodes
  | action pos line => rfl
  | command pos args => rfl
  | reference pos ident => rfl

/-- All nodes of a sequence are empty if it has no leaves. -/
theorem allEmpty_eq (ns : List Node) : allEmpty ns = (leavesOf ns).isEmpty := by
  cases ns with
  | nil => rfl
  | cons n ns =>
      rw [allEmpty, leavesOf, isEmpty_eq n, allEmpty_eq ns]
      cases n.leaves <;> rfl

end

mutual

/-- A node is written as its leaves are, one behind the other. -/
theorem display_eq_join (n : Node) : n.display = String.join (n.leaves.map display) := by
  cases n with
  | list pos nodes => exact join_displays nodes
  | action pos line => simp [leaves]
  | command pos args => simp [leaves]
  | reference pos ident => simp [leaves]

/-- A sequence is written as its leaves are, one behind the other. -/
theorem join_displays (ns : List Node) :
    String.join (displays ns) = String.join ((leavesOf ns).map display) := by
  cases ns with
  | nil => rfl
  | cons n ns =>
      rw [displays, leavesOf, String.join_cons, List.map_append, String.join_append,
        display_eq_join n, join_displays ns]

end

/-! ## Grouping -/

/-- The second node is the first one with the grouping changed in one place. -/
inductive Regroups : Node → Node → Prop where
  /-- A list in a list is replaced by what it holds. -/
  | splice (pos inner : Nat) (before nodes after : List Node) :
      Regroups (list pos (before ++ list inner nodes :: after)) (list pos (before ++ nodes ++ after))
  /-- A list without leaves is put into a list. -/
  | insert (pos inner : Nat) (before nodes after : List Node) (h : (list inner nodes).leaves = []) :
      Regroups (list pos (before ++ after)) (list pos (before ++ list inner nodes :: after))
  /-- The place is within a node of a list. -/
  | inList {m n : Node} (pos : Nat) (before after : List Node) (h : Regroups m n) :
      Regroups (list pos (before ++ m :: after)) (list pos (before ++ n :: after))
  /-- The place is within an argument of a command. -/
  | inCommand {m n : Node} (pos : Nat) (before after : List Node) (h : Regroups m n) :
      Regroups (command pos (before ++ m :: after)) (command pos (before ++ n :: after))

/-- Two nodes with the same leaves are both empty or both not, and are written in the same way. -/
theorem same_of_leaves_eq {m n : Node} (h : m.leaves = n.leaves) :
    m.isEmpty = n.isEmpty ∧ m.display = n.display := by
  rw [isEmpty_eq, isEmpty_eq, display_eq_join, display_eq_join, h]
  exact ⟨rfl, rfl⟩

/-- A change of the grouping changes neither whether a node is empty nor how it is written. -/
theorem Regroups.same {m n : Node} (h : Regroups m n) :
    m.isEmpty = n.isEmpty ∧ m.display = n.display := by
  induction h with
  | splice pos inner before nodes after =>
      apply same_of_leaves_eq
      simp only [leaves, leavesOf_append, leavesOf, List.append_assoc]
  | insert pos inner before nodes after h =>
      apply same_of_leaves_eq
      simp only [leaves, leavesOf_append, leavesOf] at h ⊢
      rw [h, List.nil_append]
  | inList pos before after h ih =>
      -- the leaves of the node need not stay the same, as the place can be within a command
      constructor
      · simp only [isEmpty, allEmpty_eq_all, List.all_append, List.all_cons, ih.1]
      · simp only [display, displays_eq_map, List.map_append, List.map_cons, ih.2]
  | inCommand pos before after h ih =>
      constructor
      · rfl
      · simp only [display, displays_eq_map, List.map_append, List.map_cons, ih.2]

/-- Any number of such changes, each made or taken back, changes neither. -/
theorem same_of_eqvGen_regroups {m n : Node} (h : Relation.EqvGen Regroups m n) :
    m.isEmpty = n.isEmpty ∧ m.display = n.display := by
  induction h with
  | rel m n h => exact h.same
  | refl n => exact ⟨rfl, rfl⟩
  | symm m n h ih => exact ⟨ih.1.symm, ih.2.symm⟩
  | trans l m n h h' ih ih' => exact ⟨ih.1.trans ih'.1, ih.2.trans ih'.2⟩

/-- A node is empty exactly if it has no leaves, and it is written as its leaves are, none of which is
a list. So an empty node is written as nothing, and the grouping makes no difference. -/
theorem told_by_leaves (n : Node) :
    (∀ leaf ∈ n.leaves, leaf.isList = false) ∧ (n.isEmpty = true ↔ n.leaves = []) ∧
      n.display = String.join (n.leaves.map display) ∧ (n.isEmpty = true → n.display = "") ∧
      ∀ m, Relation.EqvGen Regroups n m → m.isEmpty = n.isEmpty ∧ m.display = n.display := by
  have hempty : n.isEmpty = true ↔ n.leaves = [] := by rw [isEmpty_eq, List.isEmpty_iff]
  refine ⟨isList_of_mem_leaves n, hempty, display_eq_join n, ?_, ?_⟩
  · intro h
    rw [display_eq_join, hempty.mp h]
    rfl
  · intro m h
    exact same_of_eqvGen_regroups (.symm _ _ h)

-- a leaf that is written as nothing
example : (list 0 [command 3 []]).display = "" ∧ (list 0 [command 3 []]).isEmpty = false := by
  decide

/-- An action that stands in a list of its own, which is taken away, and an empty list beside it. -/
theorem told_by_leaves_of_grouped_action :
    (action 2 1 ∈ (list 0 [list 0 [], list 2 [action 2 1]]).leaves ∧ (action 2 1).isList = false) ∧
      ((list 0 [list 0 [], list 2 []]).isEmpty = true ∧
        (list 0 [list 0 [], list 2 []]).display = "") ∧
      Relation.EqvGen Regroups (list 0 [list 0 [], list 2 [action 2 1]]) (list 0 [action 2 1]) ∧
      (list 0 [action 2 1]).isEmpty = (list 0 [list 0 [], list 2 [action 2 1]]).isEmpty ∧
      (list 0 [action 2 1]).display = (list 0 [list 0 [], list 2 [action 2 1]]).display := by
  have hleaf : action 2 1 ∈ (list 0 [list 0 [], list 2 [action 2 1]]).leaves := by decide
  have hempty : (list 0 [list 0 [], list 2 []]).isEmpty = true := rfl
  have hregroup : Relation.EqvGen Regroups (list 0 [list 0 [], list 2 [action 2 1]])
      (list 0 [action 2 1]) :=
    .trans _ _ _ (.rel _ _ (.splice 0 2 [list 0 []] [action 2 1] []))
      (.symm _ _ (.rel _ _ (.insert 0 0 [] [] [action 2 1] rfl)))
  obtain ⟨hlist, -, -, -, hsame⟩ := told_by_leaves (list 0 [list 0 [], list 2 [action 2 1]])
  obtain ⟨-, -, -, hnothing, -⟩ := told_by_leaves (list 0 [list 0 [], list 2 []])
  exact ⟨⟨hleaf, hlist _ hleaf⟩, ⟨hempty, hnothing hempty⟩, hregroup, hsame _ hregroup⟩

end Node

end ActionTemplate
