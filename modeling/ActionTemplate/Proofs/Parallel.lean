import ActionTemplate.Template.Move

/-!
# Readings side by side

Two lookaheads can be read from side by side, and what relates them then may be kept up by each
move. The grammar reads tokens in one way only: it reads a token, and it gives back no other token
than the one just read. So a relation that is kept up by `next`, and by giving back behind `next`,
is kept up by everything that the grammar does.

`Compatible` says what has to be shown of reading and giving back. What follows are
`Compatible.nextPast`, `Compatible.finishLine`, `Compatible.action`, `Compatible.actions` and
`Compatible.body`, each by the recursion of the operation. A property of one lookahead is the
relation of the lookahead to itself, and `Leads.run_self` says what follows for it.
-/

namespace ActionTemplate

namespace Lookahead

variable {α β : Type}

/-! ## Results side by side -/

/-- Two results agree: both are the same value in states related by `S`, or the same fault in states
related by `E`. -/
inductive Related (S : Lookahead → Lookahead → Prop) (E : ParseFault → Lookahead → Lookahead → Prop) :
    EStateM.Result ParseFault Lookahead α → EStateM.Result ParseFault Lookahead α → Prop where
  | ok {a : α} {l l' : Lookahead} (h : S l l') : Related S E (.ok a l) (.ok a l')
  | error {e : ParseFault} {l l' : Lookahead} (h : E e l l') : Related S E (.error e l) (.error e l')

/-- From states related by `R` a computation leads to states related by `S`, or to the same fault in
states related by `E`. -/
def Leads (R S : Lookahead → Lookahead → Prop) (E : ParseFault → Lookahead → Lookahead → Prop)
    (m : Reading α) : Prop :=
  ∀ ⦃l l' : Lookahead⦄, R l l' → Related S E (m.run l) (m.run l')

variable {R S T : Lookahead → Lookahead → Prop} {E : ParseFault → Lookahead → Lookahead → Prop}

/-- Two computations in a row lead to where the second one leads. -/
theorem Leads.bind {m : Reading α} {f : α → Reading β} (hm : Leads R S E m)
    (hf : ∀ a, Leads S T E (f a)) : Leads R T E (m >>= f) := by
  intro l l' h
  have hresult := hm h
  generalize hl : m.run l = result at hresult
  generalize hl' : m.run l' = result' at hresult
  cases hresult with
  | ok hS =>
      rw [Stateful.run_bind_of_ok hl, Stateful.run_bind_of_ok hl']
      exact hf _ hS
  | error hE =>
      rw [Stateful.run_bind_of_error hl, Stateful.run_bind_of_error hl']
      exact .error hE

/-- A computation that does nothing leads nowhere else. -/
theorem leads_pure (a : α) (h : ∀ l l', R l l' → S l l') : Leads R S E (pure a) :=
  fun l l' hR => .ok (h l l' hR)

/-- Applying a function to what is computed does not change where it leads. -/
theorem Leads.map {m : Reading α} (hm : Leads R S E m) (f : α → β) : Leads R S E (f <$> m) := by
  rw [← bind_pure_comp]
  exact hm.bind fun a => leads_pure (f a) fun _ _ h => h

/-- A computation that leads somewhere also leads to all that contains it. -/
theorem Leads.mono {m : Reading α} (hm : Leads R S E m) (h : ∀ l l', S l l' → T l l') :
    Leads R T E m := by
  intro l l' hR
  have hresult := hm hR
  generalize m.run l = result at hresult
  generalize m.run l' = result' at hresult
  cases hresult with
  | ok hS => exact .ok (h _ _ hS)
  | error hE => exact .error hE

/-- What a computation does to one lookahead is told by what it does to the lookahead and itself. -/
theorem Leads.run_self {m : Reading α} (hm : Leads R S E m) {l : Lookahead} (h : R l l) :
    match m.run l with
    | .ok _ l' => S l' l'
    | .error e l' => E e l' l' := by
  have hresult := hm h
  generalize m.run l = result at hresult
  cases hresult with
  | ok hS => exact hS
  | error hE => exact hE

/-! ## What reading and giving back keep up -/

variable [Alphabet]

/-- Reading a token leads from `R` to `S`, and giving it back leads from `S` to `R` again. -/
structure Compatible (R S : Lookahead → Lookahead → Prop)
    (E : ParseFault → Lookahead → Lookahead → Prop) : Prop where
  next : Leads R S E next
  room : ∀ {l l'}, S l l' → l.pushedBack < l.buffered ∧ l'.pushedBack < l'.buffered
  givenBack : ∀ {l l'}, S l l' →
    R { l with pushedBack := l.pushedBack + 1 } { l' with pushedBack := l'.pushedBack + 1 }
  forget : ∀ {l l'}, S l l' → R l l'
  line : ∀ {l l'}, R l l' → l.line = l'.line
  unexpected : ∀ {l l' found}, R l l' → E (.unexpected found) l l'

/-- A token just read is given back without a fault. -/
theorem Compatible.pushBack (h : Compatible R S E) : Leads S R E pushBack := by
  intro l l' hS
  obtain ⟨hroom, hroom'⟩ := h.room hS
  rw [run_pushBack, run_pushBack, if_pos hroom, if_pos hroom']
  exact .ok (h.givenBack hS)

/-- Looking ahead is reading a token and giving it back. -/
theorem Compatible.peek (h : Compatible R S E) : Leads R R E peek := by
  intro l l' hR
  have hread := h.next hR
  generalize hl : Lookahead.next.run l = result at hread
  generalize hl' : Lookahead.next.run l' = result' at hread
  cases hread with
  | ok hS =>
      obtain ⟨hroom, hroom'⟩ := h.room hS
      rw [peek_of_next hl (by rw [run_pushBack, if_pos hroom]),
        peek_of_next hl' (by rw [run_pushBack, if_pos hroom'])]
      exact .ok (h.givenBack hS)
  | error hE =>
      rw [peek_of_next_error hl, peek_of_next_error hl']
      exact .error hE

/-- Reading past some tokens ends with reading one. -/
theorem Leads.nextPast (hnext : Leads R S E Lookahead.next) (hforget : ∀ l l', S l l' → R l l')
    (skipped : List TokenKind) : Leads R S E (nextPast skipped) := by
  intro l l' hR
  -- each token skipped brings the end of the first lookahead closer
  induction hn : l.remaining using Nat.strongRecOn generalizing l l' with
  | ind n ih =>
      have hread := hnext hR
      generalize hl : Lookahead.next.run l = result at hread
      generalize hl' : Lookahead.next.run l' = result' at hread
      cases hread with
      | @ok t l₁ l₁' hS =>
          by_cases hskip : t.kind ≠ .endOfInput ∧ t.kind ∈ skipped
          · rw [run_nextPast_of_skipped hl hskip.1 hskip.2,
              run_nextPast_of_skipped hl' hskip.1 hskip.2]
            have hlt := (remaining_next hl).2 hskip.1
            exact ih l₁.remaining (hn ▸ hlt) (hforget _ _ hS) rfl
          · have hkind : t.kind ≠ .endOfInput → t.kind ∉ skipped :=
              fun hend hmem => hskip ⟨hend, hmem⟩
            rw [run_nextPast_of_not_skipped hl hkind, run_nextPast_of_not_skipped hl' hkind]
            exact .ok hS
      | error hE =>
          rw [run_nextPast_of_error hl, run_nextPast_of_error hl']
          exact .error hE

/-- Reading past some tokens leads to where reading a token does. -/
theorem Compatible.nextPast (h : Compatible R S E) (skipped : List TokenKind) :
    Leads R S E (nextPast skipped) :=
  h.next.nextPast (fun _ _ => h.forget) skipped

/-- A line is finished by reading, and an end of input is given back. -/
theorem Compatible.finishLine (h : Compatible R S E) : Leads R R E finishLine := by
  intro l l' hR
  -- each token passed over brings the end of the first lookahead closer
  induction hn : l.remaining using Nat.strongRecOn generalizing l l' with
  | ind n ih =>
      have hread := h.next hR
      generalize hl : Lookahead.next.run l = result at hread
      generalize hl' : Lookahead.next.run l' = result' at hread
      cases hread with
      | @ok t l₁ l₁' hS =>
          by_cases hline : t.kind = .endOfLine
          · rw [run_finishLine_of_endOfLine hl hline, run_finishLine_of_endOfLine hl' hline]
            exact .ok (h.forget hS)
          · by_cases hend : t.kind = .endOfInput
            · rw [run_finishLine_of_endOfInput hl hend, run_finishLine_of_endOfInput hl' hend]
              exact h.pushBack hS
            · rw [run_finishLine_of_other hl hline hend, run_finishLine_of_other hl' hline hend]
              have hlt := (remaining_next hl).2 hend
              exact ih l₁.remaining (hn ▸ hlt) (h.forget hS) rfl
      | error hE =>
          rw [run_finishLine_of_error hl, run_finishLine_of_error hl']
          exact .error hE

/-- From a head just read an item is read. Its line is the same on both sides. -/
theorem Compatible.itemFrom (h : Compatible R S E) (head : Token) : Leads S R E (itemFrom head) := by
  unfold Lookahead.itemFrom
  cases marker? head.kind with
  | some m => exact leads_pure _ fun _ _ => h.forget
  | none =>
      refine h.pushBack.bind fun _ => h.peek.bind fun start => ?_
      intro l l' hR
      rw [Stateful.run_bind_of_ok (EStateM.run_get l), Stateful.run_bind_of_ok (EStateM.run_get l'),
        h.line hR]
      exact (h.finishLine.bind fun _ => leads_pure _ fun _ _ hR => hR) hR

/-- Reading an item is reading its head and going on from there. -/
theorem Compatible.action (h : Compatible R S E) : Leads R R E action :=
  (h.nextPast [.space]).bind h.itemFrom

/-- All actions are read one after the other, and the head of each is given back once. -/
theorem Compatible.actions (h : Compatible R S E) : Leads R R E actions := by
  intro l l' hR
  -- an action brings the end of the first lookahead closer
  induction hn : l.remaining using Nat.strongRecOn generalizing l l' with
  | ind n ih =>
      have hread : Related S E (nextPastWhite.run l) (nextPastWhite.run l') := h.nextPast _ hR
      generalize hl : nextPastWhite.run l = result at hread
      generalize hl' : nextPastWhite.run l' = result' at hread
      cases hread with
      | error hE =>
          rw [run_actions_of_error hl, run_actions_of_error hl']
          exact .error hE
      | @ok head l₁ l₁' hS =>
          by_cases hend : head.kind = .endOfInput
          · rw [run_actions_of_endOfInput hl hend, run_actions_of_endOfInput hl' hend]
            exact .ok (h.forget hS)
          · obtain ⟨hroom, hroom'⟩ := h.room hS
            have hback : Lookahead.pushBack.run l₁ =
                .ok () { l₁ with pushedBack := l₁.pushedBack + 1 } := by
              rw [run_pushBack, if_pos hroom]
            have hback' : Lookahead.pushBack.run l₁' =
                .ok () { l₁' with pushedBack := l₁'.pushedBack + 1 } := by
              rw [run_pushBack, if_pos hroom']
            rw [run_actions_of_head hl hend hback, run_actions_of_head hl' hend hback']
            have hitem := h.action (h.givenBack hS)
            generalize haction :
              Lookahead.action.run { l₁ with pushedBack := l₁.pushedBack + 1 } = item at hitem
            generalize
              Lookahead.action.run { l₁' with pushedBack := l₁'.pushedBack + 1 } = item' at hitem
            cases hitem with
            | error hE => exact .error hE
            | @ok i l₃ l₃' hR' =>
                cases i with
                | closing m => exact .error (h.unexpected hR')
                | node n =>
                    have hlt := remaining_of_action hl hend hback haction
                    have hrest := ih l₃.remaining (hn ▸ hlt) hR' rfl
                    simp only [Stateful.run_map]
                    generalize Lookahead.actions.run l₃ = rest at hrest
                    generalize Lookahead.actions.run l₃' = rest' at hrest
                    cases hrest with
                    | ok hR'' => exact .ok hR''
                    | error hE => exact .error hE

/-- A body is its first token, looked at, and all actions. -/
theorem Compatible.body (h : Compatible R S E) : Leads R R E body :=
  h.peek.bind fun _ => h.actions.bind fun _ => leads_pure _ fun _ _ hR => hR

end Lookahead

/-! ## Moves that read -/

namespace Template

variable [Alphabet]

/-- The computation on the tokens that a move performs, if it performs one. -/
def Move.reading? : Move → Option (Reading Yield)
  | .next => some (Yield.token <$> Lookahead.next)
  | .peek => some (Yield.token <$> Lookahead.peek)
  | .pushBack => some ((fun _ => Yield.done) <$> Lookahead.pushBack)
  | .nextPastSpaces => some (Yield.token <$> Lookahead.nextPastSpaces)
  | .nextPastWhite => some (Yield.token <$> Lookahead.nextPastWhite)
  | .finishLine => some ((fun _ => Yield.done) <$> Lookahead.finishLine)
  | .action => some (Yield.item <$> Lookahead.action)
  | .body => some ((fun _ => Yield.done) <$> Lookahead.body)
  | .pushVar _ => none
  | .stop => none
  | .start _ _ => none

/-- A move reads, or it brings a variable into scope, is done with reading or begins again. -/
theorem Move.reading_cases (m : Move) : (∃ r, m.reading? = some r) ∨ (∃ name, m = .pushVar name) ∨
    m = .stop ∨ ∃ functions feed, m = .start functions feed := by
  cases m with
  | pushVar name => exact Or.inr (Or.inl ⟨name, rfl⟩)
  | stop => exact Or.inr (Or.inr (Or.inl rfl))
  | start functions feed => exact Or.inr (Or.inr (Or.inr ⟨functions, feed, rfl⟩))
  | _ => exact Or.inl ⟨_, rfl⟩

/-- A move that reads keeps up what reading and giving back keep up, unless it gives back by
itself. -/
theorem leads_of_reading {R S : Lookahead → Lookahead → Prop}
    {E : ParseFault → Lookahead → Lookahead → Prop} (h : Lookahead.Compatible R S E) {m : Move}
    {r : Reading Yield} (hm : m.reading? = some r) (hback : m ≠ .pushBack) :
    Lookahead.Leads R R E r := by
  cases m with
  | next => cases hm; exact (h.next.map _).mono fun _ _ => h.forget
  | peek => cases hm; exact h.peek.map _
  | pushBack => exact absurd rfl hback
  | nextPastSpaces => cases hm; exact ((h.nextPast _).map _).mono fun _ _ => h.forget
  | nextPastWhite => cases hm; exact ((h.nextPast _).map _).mono fun _ _ => h.forget
  | finishLine => cases hm; exact h.finishLine.map _
  | action => cases hm; exact h.action.map _
  | body => cases hm; exact h.body.map _
  | pushVar name => cases hm
  | stop => cases hm
  | start functions feed => cases hm

end Template

end ActionTemplate
