import ActionTemplate.Lookahead.Basic
import ActionTemplate.Node

/-!
# The grammar of a template

A template is read line by line. A line whose first token is neither white space nor a closing word
is an action, which starts at that token and takes the rest of the line. A closing word at the head
of a line is a marker, and as there is nothing to close it is a fault. Lines without any such token
hold nothing.

The head of a line is read, given back and read again by the action it begins. `remaining_of_action`
says that the action nevertheless brings the end closer, which is why `actions` ends.
-/

namespace ActionTemplate

namespace Lookahead

variable [Alphabet]

/-! ## White space -/

/-- Read on to the first token that is none of the kinds skipped. The end of input is never
skipped. -/
def nextPast (skipped : List TokenKind) : Reading Token := fun l =>
  match _hnext : next.run l with
  | .ok t l' =>
      if _h : t.kind ≠ .endOfInput ∧ t.kind ∈ skipped then nextPast skipped l' else .ok t l'
  | .error e l' => .error e l'
termination_by l => l.remaining
decreasing_by exact (remaining_next _hnext).2 _h.1

/-- Read on to the first token that is not a run of blanks. -/
def nextPastSpaces : Reading Token := nextPast [.space]

/-- Read on to the first token that is neither a run of blanks nor a line break. -/
def nextPastWhite : Reading Token := nextPast [.space, .endOfLine]

/-- A token of a kind to be skipped is skipped. -/
theorem run_nextPast_of_skipped {skipped : List TokenKind} {l l' : Lookahead} {t : Token}
    (h : next.run l = .ok t l') (hend : t.kind ≠ .endOfInput) (hkind : t.kind ∈ skipped) :
    (nextPast skipped).run l = (nextPast skipped).run l' := by
  rw [Stateful.run_eq, nextPast, h]
  exact dif_pos ⟨hend, hkind⟩

/-- A token of any other kind is the one read. -/
theorem run_nextPast_of_not_skipped {skipped : List TokenKind} {l l' : Lookahead} {t : Token}
    (h : next.run l = .ok t l') (hkind : t.kind ≠ .endOfInput → t.kind ∉ skipped) :
    (nextPast skipped).run l = .ok t l' := by
  rw [Stateful.run_eq, nextPast, h]
  exact dif_neg fun hskip => hkind hskip.1 hskip.2

/-- A fault ends the search. -/
theorem run_nextPast_of_error {skipped : List TokenKind} {l l' : Lookahead} {e : ParseFault}
    (h : next.run l = .error e l') : (nextPast skipped).run l = .error e l' := by
  rw [Stateful.run_eq, nextPast, h]

/-- Reading on ends with one read from a place that is no further from the end. -/
theorem exists_next_of_nextPast {skipped : List TokenKind} {l l' : Lookahead} {t : Token}
    (h : (nextPast skipped).run l = .ok t l') :
    (∃ l₀ : Lookahead, l₀.remaining ≤ l.remaining ∧ next.run l₀ = .ok t l') ∧
      (t.kind ≠ .endOfInput → t.kind ∉ skipped) := by
  rw [Stateful.run_eq] at h
  fun_induction nextPast skipped l with
  | case1 l u l₁ hnext hskip ih =>
      obtain ⟨⟨l₀, hle, hl₀⟩, hkind⟩ := ih h
      have hlt := (remaining_next hnext).2 hskip.1
      exact ⟨⟨l₀, by omega, hl₀⟩, hkind⟩
  | case2 l u l₁ hnext hskip =>
      simp only [EStateM.Result.ok.injEq] at h
      obtain ⟨rfl, rfl⟩ := h
      exact ⟨⟨l, Nat.le_refl _, hnext⟩, fun hend hmem => hskip ⟨hend, hmem⟩⟩
  | case3 l e l₁ hnext => simp at h

/-! ## Actions -/

/-- Read the rest of a line and the line break that ends it. An end of input is given back. -/
def finishLine : Reading Unit := fun l =>
  match _hnext : next.run l with
  | .ok t l' =>
      if t.kind = .endOfLine then .ok () l'
      else if _h : t.kind = .endOfInput then pushBack.run l'
      else finishLine l'
  | .error e l' => .error e l'
termination_by l => l.remaining
decreasing_by exact (remaining_next _hnext).2 _h

/-- A line break finishes the line. -/
theorem run_finishLine_of_endOfLine {l l' : Lookahead} {t : Token} (h : next.run l = .ok t l')
    (hkind : t.kind = .endOfLine) : finishLine.run l = .ok () l' := by
  rw [Stateful.run_eq, finishLine, h]
  exact if_pos hkind

/-- The end of input finishes the line and is given back. -/
theorem run_finishLine_of_endOfInput {l l' : Lookahead} {t : Token} (h : next.run l = .ok t l')
    (hkind : t.kind = .endOfInput) : finishLine.run l = pushBack.run l' := by
  rw [Stateful.run_eq, finishLine, h]
  simp [hkind]

/-- Any other token is passed over. -/
theorem run_finishLine_of_other {l l' : Lookahead} {t : Token} (h : next.run l = .ok t l')
    (hline : t.kind ≠ .endOfLine) (hend : t.kind ≠ .endOfInput) :
    finishLine.run l = finishLine.run l' := by
  rw [Stateful.run_eq, finishLine, h]
  simp only [hline, hend, if_false, dite_false]
  rfl

/-- A fault ends the line. -/
theorem run_finishLine_of_error {l l' : Lookahead} {e : ParseFault}
    (h : next.run l = .error e l') : finishLine.run l = .error e l' := by
  rw [Stateful.run_eq, finishLine, h]

/-- Finishing a line leads no further from the end. -/
theorem remaining_of_finishLine {l l' : Lookahead} (h : finishLine.run l = .ok () l') :
    l'.remaining ≤ l.remaining := by
  rw [Stateful.run_eq] at h
  fun_induction finishLine l with
  | case1 l t l₁ hnext hline =>
      simp only [EStateM.Result.ok.injEq, true_and] at h
      exact h ▸ (remaining_next hnext).1
  | case2 l t l₁ hnext hline hend =>
      have hback := remaining_pushBack hnext h
      rw [if_neg (by simpa using hend)] at hback
      have hle := (remaining_next hnext).1
      omega
  | case3 l t l₁ hnext hline hend ih =>
      have hlt := (remaining_next hnext).2 hend
      have hle := ih h
      omega
  | case4 l e l₁ hnext => simp at h

/-- What a line holds. -/
inductive Item where
  /-- A node of the template. -/
  | node (n : Node)
  /-- A closing word. -/
  | closing (m : Marker)
  deriving DecidableEq, Repr

/-- The marker that a token of some kind is, if it is one. -/
def marker? : TokenKind → Option Marker
  | .keyword .endWord => some .endMark
  | .keyword .elseWord => some .elseMark
  | _ => none

/-- Read the item whose head has just been read. A closing word is an item by itself; any other head
is given back and begins an action, to which the rest of the line belongs. -/
def itemFrom (head : Token) : Reading Item :=
  match marker? head.kind with
  | some m => pure (.closing m)
  | none => do
      pushBack
      let start ← peek
      let line := (← get).line
      finishLine
      return .node (.action start.pos line)

/-- Read the item that begins at the next token that is not a run of blanks. -/
def action : Reading Item := do
  let head ← nextPastSpaces
  itemFrom head

/-- An action read from a head that was given back brings the end closer: the head is not read a
third time. -/
theorem remaining_of_action {l l₁ l₂ l₃ : Lookahead} {head : Token} {item : Item}
    (hhead : nextPastWhite.run l = .ok head l₁) (hend : head.kind ≠ .endOfInput)
    (hback : pushBack.run l₁ = .ok () l₂) (haction : action.run l₂ = .ok item l₃) :
    l₃.remaining < l.remaining := by
  obtain ⟨⟨l₀, hle, hnext⟩, hwhite⟩ := exists_next_of_nextPast hhead
  have hlt := (remaining_next hnext).2 hend
  have hkind := hwhite hend
  simp only [List.mem_cons, List.not_mem_nil, or_false, not_or] at hkind
  have hagain : next.run l₂ = .ok head l₁ := next_of_pushBack hnext hback
  have hspaces : nextPastSpaces.run l₂ = .ok head l₁ :=
    run_nextPast_of_not_skipped hagain fun _ => by simpa using hkind.1
  suffices hl₃ : l₃.remaining ≤ l₁.remaining by omega
  rw [action, Stateful.run_bind_of_ok hspaces, itemFrom] at haction
  cases hmarker : marker? head.kind with
  | some m =>
      simp only [hmarker, EStateM.run_pure, EStateM.Result.ok.injEq] at haction
      exact Nat.le_of_eq (congrArg remaining haction.2.symm)
  | none =>
      simp only [hmarker] at haction
      rw [Stateful.run_bind_of_ok hback, Stateful.run_bind_of_ok (peek_of_pushBack hnext hback),
        Stateful.run_bind_of_ok (EStateM.run_get _)] at haction
      obtain ⟨_, l₄, hfinish, hpure⟩ := Stateful.exists_of_run_bind_eq_ok haction
      rw [run_finishLine_of_other hagain hkind.2 hend] at hfinish
      rw [EStateM.run_pure, EStateM.Result.ok.injEq] at hpure
      exact hpure.2 ▸ remaining_of_finishLine hfinish

/-! ## Bodies -/

/-- Read the actions up to the end of input. -/
def actions : Reading (List Node) := fun l =>
  match _hhead : nextPastWhite.run l with
  | .error e l₁ => .error e l₁
  | .ok head l₁ =>
      if _hend : head.kind = .endOfInput then .ok [] l₁
      else
        match _hback : pushBack.run l₁ with
        | .error e l₂ => .error e l₂
        | .ok _ l₂ =>
            match _haction : action.run l₂ with
            | .error e l₃ => .error e l₃
            | .ok (.closing m) l₃ => .error (.unexpected m.display) l₃
            | .ok (.node n) l₃ =>
                match actions l₃ with
                | .error e l₄ => .error e l₄
                | .ok nodes l₄ => .ok (n :: nodes) l₄
termination_by l => l.remaining
decreasing_by exact remaining_of_action _hhead _hend _hback _haction

/-- A fault in front of the next line ends the reading. -/
theorem run_actions_of_error {l l₁ : Lookahead} {e : ParseFault}
    (h : nextPastWhite.run l = .error e l₁) : actions.run l = .error e l₁ := by
  rw [Stateful.run_eq, actions, h]

/-- At the end of input there are no more actions. -/
theorem run_actions_of_endOfInput {l l₁ : Lookahead} {head : Token}
    (h : nextPastWhite.run l = .ok head l₁) (hend : head.kind = .endOfInput) :
    actions.run l = .ok [] l₁ := by
  rw [Stateful.run_eq, actions, h]
  exact dif_pos hend

/-- Otherwise the head is given back and the next item is read. If it is an action, others may
follow. -/
theorem run_actions_of_head {l l₁ l₂ : Lookahead} {head : Token}
    (h : nextPastWhite.run l = .ok head l₁) (hend : head.kind ≠ .endOfInput)
    (hback : pushBack.run l₁ = .ok () l₂) :
    actions.run l = match action.run l₂ with
      | .error e l₃ => .error e l₃
      | .ok (.closing m) l₃ => .error (.unexpected m.display) l₃
      | .ok (.node n) l₃ => ((n :: ·) <$> actions).run l₃ := by
  rw [Stateful.run_eq, actions, h]
  simp only [hend, dite_false]
  split
  · rename_i e l₃ hfail
    rw [hback] at hfail
    cases hfail
  · rename_i u l₃ hsuccess
    rw [hback, EStateM.Result.ok.injEq] at hsuccess
    obtain ⟨-, rfl⟩ := hsuccess
    split
    · rename_i haction
      rw [haction]
    · rename_i haction
      rw [haction]
    · rename_i haction
      rw [haction]
      simp only [Stateful.run_map]
      rw [Stateful.run_eq]
      split <;> simp_all

/-- Read the body of a template, which starts at the first token and goes on to the end of input. -/
def body : Reading Body := do
  let first ← peek
  let nodes ← actions
  return ⟨first.pos, nodes⟩

end Lookahead

end ActionTemplate
