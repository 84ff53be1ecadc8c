import ActionTemplate.Proofs.Sound

/-!
# A body stage by stage

The reading of a body goes through stages. In each of them one token is read, or looked at, and the
stage tells whether it is given back, where the reading goes on, or that it has ended. A line that
holds something takes four of them: its head is found and given back, read once more and given back
again, looked at, and then the line is read from its head to its end.

`Stage.step` is this reader. It does what the grammar does: `Stage.finish` is what the grammar has
left to do in a stage, and `Stage.finish_eq` says that it is one step and what is left then.

As every step has just one access that can let a token come, `Runs` can keep account of the tokens
that come in the course of a reading.
-/

namespace ActionTemplate

namespace Lookahead

variable [Alphabet]

/-! ## The loops of the grammar

Each of them reads one token, or one item, and goes on depending on it.
-/

/-- Reading past some tokens is reading one and going on if it is one of them. -/
theorem nextPast_eq (skipped : List TokenKind) :
    nextPast skipped = (do
      let t ← next
      if t.kind ≠ .endOfInput ∧ t.kind ∈ skipped then nextPast skipped else return t) := by
  funext l
  show (nextPast skipped).run l = EStateM.run _ l
  cases hnext : next.run l with
  | error e l' => rw [run_nextPast_of_error hnext, Stateful.run_bind_of_error hnext]
  | ok t l' =>
      rw [Stateful.run_bind_of_ok hnext]
      by_cases hskip : t.kind ≠ .endOfInput ∧ t.kind ∈ skipped
      · rw [run_nextPast_of_skipped hnext hskip.1 hskip.2, if_pos hskip]
      · rw [run_nextPast_of_not_skipped hnext fun hend hmem => hskip ⟨hend, hmem⟩, if_neg hskip]
        rfl

/-- Finishing a line is reading one token and going on if it does not end the line. -/
theorem finishLine_eq :
    finishLine = (do
      let t ← next
      if t.kind = .endOfLine then return ()
      else if t.kind = .endOfInput then pushBack
      else finishLine) := by
  funext l
  show finishLine.run l = EStateM.run _ l
  cases hnext : next.run l with
  | error e l' => rw [run_finishLine_of_error hnext, Stateful.run_bind_of_error hnext]
  | ok t l' =>
      rw [Stateful.run_bind_of_ok hnext]
      by_cases hline : t.kind = .endOfLine
      · rw [run_finishLine_of_endOfLine hnext hline, if_pos hline]
        rfl
      · rw [if_neg hline]
        by_cases hend : t.kind = .endOfInput
        · rw [run_finishLine_of_endOfInput hnext hend, if_pos hend]
        · rw [run_finishLine_of_other hnext hline hend, if_neg hend]

/-- The actions are those of the next line that holds something, and the others. -/
theorem actions_eq :
    actions = (do
      let head ← nextPastWhite
      if head.kind = .endOfInput then return []
      else
        pushBack
        match ← action with
        | .closing m => throw (.unexpected m.display)
        | .node n => (n :: ·) <$> actions) := by
  funext l
  show actions.run l = EStateM.run _ l
  cases hhead : nextPastWhite.run l with
  | error e l₁ => rw [run_actions_of_error hhead, Stateful.run_bind_of_error hhead]
  | ok head l₁ =>
      rw [Stateful.run_bind_of_ok hhead]
      by_cases hend : head.kind = .endOfInput
      · rw [run_actions_of_endOfInput hhead hend, if_pos hend]
        rfl
      · rw [if_neg hend]
        cases hback : pushBack.run l₁ with
        | error e l₂ =>
            rw [Stateful.run_bind_of_error hback, Stateful.run_eq, actions, hhead]
            simp only [hend, dite_false]
            split
            · rename_i e' l₃ hfail
              rw [hback, EStateM.Result.error.injEq] at hfail
              rw [hfail.1, hfail.2]
            · rename_i u l₃ hsuccess
              rw [hback] at hsuccess
              cases hsuccess
        | ok u l₂ =>
            rw [run_actions_of_head hhead hend hback, Stateful.run_bind_of_ok hback]
            cases haction : action.run l₂ with
            | error e l₃ => rw [Stateful.run_bind_of_error haction]
            | ok item l₃ =>
                rw [Stateful.run_bind_of_ok haction]
                cases item <;> rfl

/-! ## Stages -/

/-- How far the reading of a body has come. Behind the opening a stage holds the position of the body
and the nodes read so far. -/
inductive Stage where
  /-- Nothing has been read. -/
  | opening
  /-- The head of the next line that holds something is looked for. -/
  | between (pos : Nat) (nodes : List Node)
  /-- A head has been found and given back. -/
  | heading (pos : Nat) (nodes : List Node)
  /-- The head is that of an action, and has been given back once more. -/
  | starting (pos : Nat) (nodes : List Node)
  /-- The line of the action is read. -/
  | within (pos : Nat) (nodes : List Node) (action : Node)

/-- What a step leads to. -/
inductive Turn where
  /-- The reading goes on in some stage. -/
  | into (stage : Stage)
  /-- The body has been read. -/
  | done (body : Body)

namespace Stage

/-- One step in a stage. -/
def step : Stage → Reading Turn
  | opening => do
      let first ← peek
      return .into (.between first.pos [])
  | between pos nodes => do
      let t ← next
      if t.kind = .endOfInput then return .done ⟨pos, nodes⟩
      else if t.kind ∈ [TokenKind.space, .endOfLine] then return .into (.between pos nodes)
      else
        pushBack
        return .into (.heading pos nodes)
  | heading pos nodes => do
      let t ← next
      if t.kind = .space then return .into (.heading pos nodes)
      else
        match marker? t.kind with
        | some m => throw (.unexpected m.display)
        | none =>
            pushBack
            return .into (.starting pos nodes)
  | starting pos nodes => do
      let start ← peek
      let line := (← get).line
      return .into (.within pos nodes (.action start.pos line))
  | within pos nodes action => do
      let t ← next
      if t.kind = .endOfLine then return .into (.between pos (nodes ++ [action]))
      else if t.kind = .endOfInput then
        pushBack
        return .into (.between pos (nodes ++ [action]))
      else return .into (.within pos nodes action)

/-- What is left to do when the item of a line has been read. -/
def resume (pos : Nat) (nodes : List Node) : Item → Reading Body
  | .closing m => throw (.unexpected m.display)
  | .node n => (fun more => ⟨pos, nodes ++ n :: more⟩) <$> actions

/-- What the grammar has left to do in a stage. -/
def finish : Stage → Reading Body
  | opening => body
  | between pos nodes => (fun more => ⟨pos, nodes ++ more⟩) <$> actions
  | heading pos nodes => action >>= resume pos nodes
  | starting pos nodes => do
      let start ← peek
      let line := (← get).line
      finishLine
      resume pos nodes (.node (.action start.pos line))
  | within pos nodes action => do
      finishLine
      resume pos nodes (.node action)

/-- What the grammar has left to do after a step. -/
def conclude : Turn → Reading Body
  | .into s => s.finish
  | .done body => pure body

/-! ### A step and what is left then -/

theorem finish_opening : opening.finish = opening.step >>= conclude := by
  simp [finish, step, conclude, body]

theorem finish_starting (pos : Nat) (nodes : List Node) :
    (starting pos nodes).finish = (starting pos nodes).step >>= conclude := by
  simp [finish, step, conclude]

theorem finish_within (pos : Nat) (nodes : List Node) (action : Node) :
    (within pos nodes action).finish = (within pos nodes action).step >>= conclude := by
  rw [finish, finishLine_eq, step, bind_assoc, bind_assoc]
  congr 1
  funext t
  by_cases hline : t.kind = .endOfLine
  · simp [hline, conclude, finish, resume]
  · by_cases hend : t.kind = .endOfInput
    · simp [hend, conclude, finish, resume]
    · simp [hline, hend, conclude, finish]

theorem finish_between (pos : Nat) (nodes : List Node) :
    (between pos nodes).finish = (between pos nodes).step >>= conclude := by
  have hactions := congrArg ((fun more => (⟨pos, nodes ++ more⟩ : Body)) <$> ·) actions_eq
  simp only [map_bind] at hactions
  rw [finish, hactions, step, bind_assoc, nextPastWhite, nextPast_eq, bind_assoc]
  congr 1
  funext t
  by_cases hend : t.kind = .endOfInput
  · simp [hend, conclude]
  · by_cases hwhite : t.kind ∈ [TokenKind.space, .endOfLine]
    · rw [if_pos ⟨hend, hwhite⟩, if_neg hend, if_pos hwhite, pure_bind, conclude, finish, hactions,
        nextPastWhite]
    · rw [if_neg fun hskip => hwhite hskip.2, if_neg hend, if_neg hwhite, pure_bind, if_neg hend]
      simp only [map_bind, bind_assoc, pure_bind, conclude, finish]
      congr 1
      funext u
      congr 1
      funext item
      cases item with
      | closing m => rfl
      | node n => simp [resume]

theorem finish_heading (pos : Nat) (nodes : List Node) :
    (heading pos nodes).finish = (heading pos nodes).step >>= conclude := by
  rw [finish, action, nextPastSpaces, nextPast_eq, step]
  simp only [bind_assoc]
  congr 1
  funext t
  by_cases hspace : t.kind = .space
  · simp [hspace, conclude, finish, action, nextPastSpaces]
  · rw [if_neg (by simp [hspace]), if_neg hspace, pure_bind, itemFrom]
    cases marker? t.kind with
    | some m => rfl
    | none => simp [conclude, finish, resume]

/-- What the grammar has left to do in a stage is a step and what is left then. -/
theorem finish_eq (s : Stage) : s.finish = s.step >>= conclude := by
  cases s with
  | opening => exact finish_opening
  | between pos nodes => exact finish_between pos nodes
  | heading pos nodes => exact finish_heading pos nodes
  | starting pos nodes => exact finish_starting pos nodes
  | within pos nodes action => exact finish_within pos nodes action

end Stage

/-! ## Keeping account -/

/-- The token that comes from the feed at the next read or look ahead. None comes as long as there
are tokens given back. -/
def letsCome (l : Lookahead) : List Token := if l.pushedBack = 0 then [(draw l.feed).1] else []

/-- From a stage the reading ends after `n` steps with the given result, and the given tokens have
come from the feed by then. -/
inductive Runs : Nat → Stage → Lookahead → List Token →
    EStateM.Result ParseFault Lookahead Body → Prop where
  /-- The body has been read. -/
  | done {s : Stage} {l l' : Lookahead} {body : Body} (hstep : s.step.run l = .ok (.done body) l') :
      Runs 1 s l l.letsCome (.ok body l')
  /-- There is a fault. -/
  | failed {s : Stage} {l l' : Lookahead} {e : ParseFault} (hstep : s.step.run l = .error e l') :
      Runs 1 s l l.letsCome (.error e l')
  /-- The reading goes on. -/
  | into {s s' : Stage} {l l' : Lookahead} {n : Nat} {ts : List Token}
      {r : EStateM.Result ParseFault Lookahead Body} (hstep : s.step.run l = .ok (.into s') l')
      (hrest : Runs n s' l' ts r) : Runs (n + 1) s l (l.letsCome ++ ts) r

variable {s : Stage} {l : Lookahead} {n : Nat} {ts : List Token}
  {r : EStateM.Result ParseFault Lookahead Body}

/-- The stages lead to what the grammar leads to. -/
theorem Runs.result (h : Runs n s l ts r) : s.finish.run l = r := by
  induction h with
  | done hstep => rw [Stage.finish_eq, Stateful.run_bind_of_ok hstep]; rfl
  | failed hstep => rw [Stage.finish_eq, Stateful.run_bind_of_error hstep]
  | into hstep hrest ih => rw [Stage.finish_eq, Stateful.run_bind_of_ok hstep]; exact ih

/-- There is one number of steps to the end, and one account of the tokens that have come. -/
theorem Runs.unique {n' : Nat} {ts' : List Token} {r' : EStateM.Result ParseFault Lookahead Body}
    (h : Runs n s l ts r) (h' : Runs n' s l ts' r') : n = n' ∧ ts = ts' ∧ r = r' := by
  have hresult : r = r' := h.result.symm.trans h'.result
  induction h generalizing n' ts' with
  | done hstep =>
      cases h' with
      | done hstep' => exact ⟨rfl, rfl, hresult⟩
      | failed hstep' => cases hstep.symm.trans hstep'
      | into hstep' hrest' => cases hstep.symm.trans hstep'
  | failed hstep =>
      cases h' with
      | done hstep' => cases hstep.symm.trans hstep'
      | failed hstep' => exact ⟨rfl, rfl, hresult⟩
      | into hstep' hrest' => cases hstep.symm.trans hstep'
  | into hstep hrest ih =>
      cases h' with
      | done hstep' => cases hstep.symm.trans hstep'
      | failed hstep' => cases hstep.symm.trans hstep'
      | into hstep' hrest' =>
          cases hstep.symm.trans hstep'
          obtain ⟨rfl, rfl, -⟩ := ih hrest' hresult
          exact ⟨rfl, rfl, hresult⟩

end Lookahead

end ActionTemplate
