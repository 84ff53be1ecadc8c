import ActionTemplate.Proofs.Stages
import ActionTemplate.Proofs.Upcoming

/-!
# The tokens that come for a body

While the body of a text is read its tokens come from the feed one after the other, each of them once.
If the body is read to its end all of them come, and otherwise those up to the one at fault, which is
an error in the text or a closing word at the head of a line. No token is asked for behind the last.

What is kept up is where the lookahead stands, `Standing`: between the tokens read and those coming,
at most one of which has been given back. `standing_next` and `standing_peek` say what an access
leads to, `steps` what follows for a step of any stage, and `exists_runs` for a whole reading. A
reading ends because every step makes the `weight` smaller, in which a token that is still in the
feed counts more than one that has come and been given back.
-/

namespace ActionTemplate

open Text

variable [Alphabet]

namespace Lookahead

/-! ## Standing in the tokens -/

/-- Between the tokens `read` and `coming`, at most one of which has been given back, the lookahead
stands. The tokens `came` have come from the feed, which was `f` at first. -/
structure Standing (text : List Char) (f : Feed) (l : Lookahead) (read coming came : List Token) :
    Prop where
  place : At text l read coming
  run : Run coming
  pushedBack_le : l.pushedBack ≤ 1
  came_eq : came = read ++ coming.take l.pushedBack
  feed : l.feed = some (f.after came.length)

/-- The token `t`, which is no fault, has just been read. It is the last that has come. -/
structure Behind (text : List Char) (f : Feed) (l : Lookahead) (read : List Token) (t : Token)
    (coming : List Token) : Prop where
  place : At text l (read ++ [t]) coming
  run : Run (t :: coming)
  pushedBack : l.pushedBack = 0
  proper : ∀ fault, t.kind ≠ .error fault
  feed : l.feed = some (f.after (read ++ [t]).length)

variable {text : List Char} {f : Feed} {l : Lookahead} {read coming came : List Token} {t : Token}

/-- With the token that an access lets come, those up to the next one have come. -/
theorem Standing.came_append (h : Standing text f l read (t :: coming) came) :
    came ++ l.letsCome = read ++ [t] := by
  have hle := h.pushedBack_le
  rw [h.came_eq, letsCome]
  by_cases hzero : l.pushedBack = 0
  · obtain ⟨g, hfeed, hdelivers⟩ := h.place.feed
    rw [hzero, List.drop_zero] at hdelivers
    rw [if_pos hzero, hzero, hfeed, List.take_zero, List.append_nil, draw, hdelivers.1]
  · have hone : l.pushedBack = 1 := by omega
    simp [hone]

/-- The feed after an access is the one after these tokens. -/
theorem Standing.feed_append (h : Standing text f l read (t :: coming) came) :
    after l.feed l.letsCome.length = some (f.after (read ++ [t]).length) := by
  rw [← h.came_append, List.length_append, h.feed]
  exact congrArg some (f.after_add _ _).symm

/-- A read leaves the feed after the token that it lets come. -/
theorem feed_of_next {l' : Lookahead} (h : next.run l = .ok t l') :
    l'.feed = after l.feed l.letsCome.length := by
  rcases eq_of_next h with ⟨n, hn, -, rfl⟩ | ⟨hn, -, -, rfl⟩
  · simp [letsCome, hn]
  · simp [letsCome, hn, after_succ]

/-- So does a read that fails. -/
theorem feed_of_next_error {l' : Lookahead} {e : ParseFault} (h : next.run l = .error e l') :
    l'.feed = after l.feed l.letsCome.length := by
  rcases next_cases l with ⟨n, -, hrun⟩ | ⟨hn, ⟨fault, -, hrun⟩ | ⟨-, hrun⟩⟩ <;> rw [h] at hrun
  · cases hrun
  · obtain rfl := (EStateM.Result.error.inj hrun).2
    simp [letsCome, hn, after_succ]
  · cases hrun

/-- The next token is read, or it is an error and the last that has come. -/
theorem Standing.next_cases (h : Standing text f l read (t :: coming) came) :
    (∃ fault l', t.kind = .error fault ∧ next.run l = .error (.lexical fault) l' ∧
        l'.feed = some (f.after (read ++ [t]).length)) ∨
      ∃ l', next.run l = .ok t l' ∧ Behind text f l' read t coming := by
  by_cases hkind : ∃ fault, t.kind = .error fault
  · obtain ⟨fault, hkind⟩ := hkind
    obtain ⟨l', hrun, -⟩ := exists_run_next_of_error h.place hkind
    exact Or.inl ⟨fault, l', hkind, hrun, by rw [feed_of_next_error hrun, h.feed_append]⟩
  · have hproper : ∀ fault, t.kind ≠ .error fault := fun fault hf => hkind ⟨fault, hf⟩
    obtain ⟨l', hrun, hplace, hback, -⟩ := exists_run_next h.place hproper
    have hle := h.pushedBack_le
    refine Or.inr ⟨l', hrun, hplace, h.run, by omega, hproper, ?_⟩
    rw [feed_of_next hrun, h.feed_append]

/-- Behind a token that is not terminal the lookahead stands in front of others. -/
theorem Behind.standing (h : Behind text f l read t coming) (hkind : t.kind.isTerminal = false) :
    Standing text f l (read ++ [t]) coming (read ++ [t]) :=
  ⟨h.place, h.run.tail hkind, by simp [h.pushedBack], by simp [h.pushedBack], h.feed⟩

/-- The token just read can be given back. -/
theorem Behind.exists_pushBack (h : Behind text f l read t coming) :
    ∃ l', pushBack.run l = .ok () l' ∧ l'.pushedBack = 1 ∧
      Standing text f l' read (t :: coming) (read ++ [t]) := by
  have hroom : l.pushedBack < Window.size := by
    rw [h.pushedBack]
    decide
  obtain ⟨l', hrun, hplace, hback, -⟩ := exists_run_pushBack h.place hroom h.proper
  rw [h.pushedBack] at hback
  refine ⟨l', hrun, hback, hplace, h.run, Nat.le_of_eq hback, ?_, ?_⟩
  · rw [hback]
    rfl
  · rw [run_pushBack] at hrun
    split at hrun
    · simp only [EStateM.Result.ok.injEq, true_and] at hrun
      rw [← hrun]
      exact h.feed
    · cases hrun

/-- The next token is looked at, and counts as given back, or it is an error. -/
theorem Standing.peek_cases (h : Standing text f l read (t :: coming) came) :
    (∃ fault l', t.kind = .error fault ∧ peek.run l = .error (.lexical fault) l' ∧
        l'.feed = some (f.after (read ++ [t]).length)) ∨
      ∃ l', peek.run l = .ok t l' ∧ l'.pushedBack = 1 ∧
        Standing text f l' read (t :: coming) (read ++ [t]) := by
  rcases h.next_cases with ⟨fault, l', hkind, hrun, hfeed⟩ | ⟨l', hrun, hbehind⟩
  · exact Or.inl ⟨fault, l', hkind, peek_of_next_error hrun, hfeed⟩
  · obtain ⟨l₂, hback, hone, hstanding⟩ := hbehind.exists_pushBack
    exact Or.inr ⟨l₂, peek_of_next hrun hback, hone, hstanding⟩

/-! ## The place of a stage -/

/-- Between the last line break and the end of these tokens there are only blanks. -/
def Leading (read : List Token) : Prop :=
  ∀ u ∈ read.reverse.takeWhile fun u => decide (u.kind ≠ .endOfLine), u.kind = .space

/-- A line that holds something begins with a token that is neither terminal nor white space. -/
def Heads (coming : List Token) : Prop :=
  ∃ t ts, coming = t :: ts ∧ t.kind.isTerminal = false ∧ t.kind ∉ [TokenKind.space, .endOfLine]

/-- Where a lookahead stands in a stage that has given back so many tokens. -/
def Stage.Fits (pushedBack : Nat) (read coming : List Token) : Stage → Prop
  | opening => pushedBack = 0 ∧ read = []
  | between _ _ => Leading read ∨ ∃ t, coming = [t]
  | heading _ _ => pushedBack = 1 ∧ Leading read ∧ Heads coming
  | starting _ _ => pushedBack = 1 ∧ Heads coming
  | within _ _ _ => pushedBack = 1 → Heads coming

/-- The rank of a stage among those with the same tokens to come. -/
def Stage.rank : Stage → Nat
  | opening => 0
  | between _ _ => 3
  | heading _ _ => 2
  | starting _ _ => 1
  | within _ _ _ => 0

/-- A bound on the steps from a stage to the end. A token that is still in the feed weighs as much
as all that can be done with tokens that have come. -/
def weight (s : Stage) (l : Lookahead) (coming : List Token) : Nat :=
  5 * (coming.length - l.pushedBack) + l.pushedBack + s.rank

/-- The token `t`, with the tokens `before` in front of it, is what is wrong. -/
inductive Offends (before : List Token) (t : Token) : ParseFault → Prop where
  /-- It is an error in the text. -/
  | error {fault : LexFault} (hkind : t.kind = .error fault) : Offends before t (.lexical fault)
  /-- It is a closing word at the head of a line. -/
  | closing {m : Marker} (hmarker : marker? t.kind = some m) (hleading : Leading before) :
      Offends before t (.unexpected m.display)

omit [Alphabet] in
/-- What is known of the first token. -/
theorem Heads.first (h : Heads (t :: coming)) :
    t.kind.isTerminal = false ∧ t.kind ∉ [TokenKind.space, .endOfLine] := by
  obtain ⟨u, us, hu, hkind⟩ := h
  obtain ⟨rfl, rfl⟩ := List.cons_eq_cons.mp hu
  exact hkind

omit [Alphabet] in
theorem leading_nil : Leading [] := by
  simp [Leading]

omit [Alphabet] in
/-- Behind white space the head of a line is still to come. -/
theorem leading_append {u : Token} (h : Leading read) (hu : u.kind ∈ [TokenKind.space, .endOfLine]) :
    Leading (read ++ [u]) := by
  simp only [List.mem_cons, List.not_mem_nil, or_false] at hu
  rcases hu with hu | hu
  · simpa [Leading, hu] using h
  · simp [Leading, hu]

omit [Alphabet] in
/-- Behind a line break the head of a line is to come, whatever stands in front. -/
theorem leading_append_endOfLine (read : List Token) {u : Token} (hu : u.kind = .endOfLine) :
    Leading (read ++ [u]) := by
  simp [Leading, hu]

/-! ## Steps -/

/-- What a step can do where the tokens `came` have come: go on nearer to the end, end with the body
when all tokens have come, or end with a fault at the token that came last. -/
inductive Steps (text : List Char) (f : Feed) (s : Stage) (l : Lookahead)
    (read coming came : List Token) : Prop where
  | into (s' : Stage) (l' : Lookahead) (read' coming' : List Token)
      (hstep : s.step.run l = .ok (.into s') l')
      (hsplit : read' ++ coming' = read ++ coming)
      (hstanding : Standing text f l' read' coming' (came ++ l.letsCome))
      (hfits : s'.Fits l'.pushedBack read' coming')
      (hweight : weight s' l' coming' < weight s l coming)
  | done (body : Body) (l' : Lookahead) (hstep : s.step.run l = .ok (.done body) l')
      (hcame : came ++ l.letsCome = read ++ coming)
      (hend : ∃ u, coming = [u] ∧ u.kind = .endOfInput)
      (hfeed : l'.feed = some (f.after (came ++ l.letsCome).length))
      (hweight : 0 < weight s l coming)
  | failed (e : ParseFault) (l' : Lookahead) (t : Token) (rest : List Token)
      (hstep : s.step.run l = .error e l') (hsplit : coming = t :: rest)
      (hcame : came ++ l.letsCome = read ++ [t]) (hoffends : Offends read t e)
      (hfeed : l'.feed = some (f.after (came ++ l.letsCome).length))
      (hweight : 0 < weight s l coming)

/-- As long as there are tokens to come there is something to do. -/
theorem Standing.weight_pos (h : Standing text f l read (t :: coming) came) (s : Stage) :
    0 < weight s l (t :: coming) := by
  have hle := h.pushedBack_le
  simp only [weight, List.length_cons]
  omega

/-- A step that meets an error in the text fails with it. -/
theorem Standing.steps_of_error (h : Standing text f l read (t :: coming) came) {s : Stage}
    {fault : LexFault} {l' : Lookahead} (hkind : t.kind = .error fault)
    (hstep : s.step.run l = .error (.lexical fault) l')
    (hfeed : l'.feed = some (f.after (read ++ [t]).length)) :
    Steps text f s l read (t :: coming) came :=
  .failed _ l' t coming hstep rfl h.came_append (.error hkind) (by rw [h.came_append, hfeed])
    (h.weight_pos s)

/-- At the opening the first token is looked at. -/
theorem steps_opening (h : Standing text f l read (t :: coming) came)
    (hfits : Stage.opening.Fits l.pushedBack read (t :: coming)) :
    Steps text f .opening l read (t :: coming) came := by
  obtain ⟨hzero, rfl⟩ := hfits
  rcases h.peek_cases with ⟨fault, l', hkind, hrun, hfeed⟩ | ⟨l', hrun, hone, hstanding⟩
  · refine h.steps_of_error hkind ?_ hfeed
    rw [Stage.step, Stateful.run_bind_of_error hrun]
  · refine .into (.between t.pos []) l' [] (t :: coming) ?_ rfl (h.came_append ▸ hstanding)
      (Or.inl leading_nil) ?_
    · rw [Stage.step, Stateful.run_bind_of_ok hrun]
      rfl
    · simp only [weight, hone, hzero, Stage.rank, List.length_cons]
      omega

/-- Between two lines white space is passed, a head is given back, and the end of input ends the
body. -/
theorem steps_between {pos : Nat} {nodes : List Node}
    (h : Standing text f l read (t :: coming) came)
    (hfits : (Stage.between pos nodes).Fits l.pushedBack read (t :: coming)) :
    Steps text f (.between pos nodes) l read (t :: coming) came := by
  have hle := h.pushedBack_le
  rcases h.next_cases with ⟨fault, l', hkind, hrun, hfeed⟩ | ⟨l', hrun, hbehind⟩
  · refine h.steps_of_error hkind ?_ hfeed
    rw [Stage.step, Stateful.run_bind_of_error hrun]
  · cases hterminal : t.kind.isTerminal with
    | true =>
        -- the only terminal token that is no error
        have hend := TokenKind.eq_endOfInput hterminal hbehind.proper
        obtain rfl := h.run.eq_nil hterminal
        refine .done ⟨pos, nodes⟩ l' ?_ h.came_append ⟨t, rfl, hend⟩
          (by rw [h.came_append, hbehind.feed]) (h.weight_pos _)
        rw [Stage.step, Stateful.run_bind_of_ok hrun, if_pos hend]
        rfl
    | false =>
        have hend : t.kind ≠ .endOfInput := TokenKind.ne_endOfInput hterminal
        have hleading : Leading read := by
          rcases hfits with hleading | ⟨u, hu⟩
          · exact hleading
          · obtain ⟨rfl, rfl⟩ := List.cons_eq_cons.mp hu
            exact absurd rfl (h.run.tail hterminal).ne_nil
        by_cases hwhite : t.kind ∈ [TokenKind.space, .endOfLine]
        · refine .into (.between pos nodes) l' (read ++ [t]) coming ?_ (by simp)
            (h.came_append ▸ hbehind.standing hterminal) (Or.inl (leading_append hleading hwhite)) ?_
          · rw [Stage.step, Stateful.run_bind_of_ok hrun, if_neg hend, if_pos hwhite]
            rfl
          · simp only [weight, hbehind.pushedBack, Stage.rank, List.length_cons]
            omega
        · obtain ⟨l₂, hback, hone, hstanding⟩ := hbehind.exists_pushBack
          refine .into (.heading pos nodes) l₂ read (t :: coming) ?_ rfl
            (h.came_append ▸ hstanding) ⟨hone, hleading, t, coming, rfl, hterminal, hwhite⟩ ?_
          · rw [Stage.step, Stateful.run_bind_of_ok hrun, if_neg hend, if_neg hwhite,
              Stateful.run_bind_of_ok hback]
            rfl
          · simp only [weight, hone, Stage.rank, List.length_cons]
            omega

/-- The head of a line is a closing word, which is a fault, or it is given back once more. -/
theorem steps_heading {pos : Nat} {nodes : List Node}
    (h : Standing text f l read (t :: coming) came)
    (hfits : (Stage.heading pos nodes).Fits l.pushedBack read (t :: coming)) :
    Steps text f (.heading pos nodes) l read (t :: coming) came := by
  obtain ⟨hback, hleading, hheads⟩ := hfits
  rcases h.next_cases with ⟨fault, l', hkind, hrun, hfeed⟩ | ⟨l', hrun, hbehind⟩
  · refine h.steps_of_error hkind ?_ hfeed
    rw [Stage.step, Stateful.run_bind_of_error hrun]
  · have hspace : t.kind ≠ .space := fun hspace => hheads.first.2 (by simp [hspace])
    cases hmarker : marker? t.kind with
    | some m =>
        refine .failed _ l' t coming ?_ rfl h.came_append (.closing hmarker hleading)
          (by rw [h.came_append, hbehind.feed]) (h.weight_pos _)
        rw [Stage.step, Stateful.run_bind_of_ok hrun, if_neg hspace, hmarker]
        rfl
    | none =>
        obtain ⟨l₂, hback₂, hone, hstanding⟩ := hbehind.exists_pushBack
        refine .into (.starting pos nodes) l₂ read (t :: coming) ?_ rfl
          (h.came_append ▸ hstanding) ⟨hone, hheads⟩ ?_
        · rw [Stage.step, Stateful.run_bind_of_ok hrun, if_neg hspace, hmarker]
          simp only
          rw [Stateful.run_bind_of_ok hback₂]
          rfl
        · simp only [weight, hone, hback, Stage.rank, List.length_cons]
          omega

/-- The head of an action is looked at. -/
theorem steps_starting {pos : Nat} {nodes : List Node}
    (h : Standing text f l read (t :: coming) came)
    (hfits : (Stage.starting pos nodes).Fits l.pushedBack read (t :: coming)) :
    Steps text f (.starting pos nodes) l read (t :: coming) came := by
  obtain ⟨hback, hheads⟩ := hfits
  rcases h.peek_cases with ⟨fault, l', hkind, hrun, hfeed⟩ | ⟨l', hrun, hone, hstanding⟩
  · refine h.steps_of_error hkind ?_ hfeed
    rw [Stage.step, Stateful.run_bind_of_error hrun]
  · refine .into (.within pos nodes (.action t.pos l'.line)) l' read (t :: coming) ?_ rfl
      (h.came_append ▸ hstanding) (fun _ => hheads) ?_
    · rw [Stage.step, Stateful.run_bind_of_ok hrun]
      rfl
    · simp only [weight, hone, hback, Stage.rank, List.length_cons]
      omega

/-- Within a line a token is passed, unless it ends the line; an end of input is given back. -/
theorem steps_within {pos : Nat} {nodes : List Node} {action : Node}
    (h : Standing text f l read (t :: coming) came)
    (hfits : (Stage.within pos nodes action).Fits l.pushedBack read (t :: coming)) :
    Steps text f (.within pos nodes action) l read (t :: coming) came := by
  have hle := h.pushedBack_le
  rcases h.next_cases with ⟨fault, l', hkind, hrun, hfeed⟩ | ⟨l', hrun, hbehind⟩
  · refine h.steps_of_error hkind ?_ hfeed
    rw [Stage.step, Stateful.run_bind_of_error hrun]
  · -- what ends the line is not its head, which has been given back
    have hzero : t.kind.isTerminal = true ∨ t.kind = .endOfLine → l.pushedBack = 0 := by
      intro hends
      by_contra hback
      obtain ⟨hterminal, hwhite⟩ := (hfits (by omega)).first
      rcases hends with hends | hends
      · rw [hends] at hterminal
        cases hterminal
      · exact hwhite (by simp [hends])
    by_cases hline : t.kind = .endOfLine
    · have hback := hzero (Or.inr hline)
      refine .into (.between pos (nodes ++ [action])) l' (read ++ [t]) coming ?_ (by simp)
        (h.came_append ▸ hbehind.standing (by rw [hline]; rfl))
        (Or.inl (leading_append_endOfLine read hline)) ?_
      · rw [Stage.step, Stateful.run_bind_of_ok hrun, if_pos hline]
        rfl
      · simp only [weight, hback, hbehind.pushedBack, Stage.rank, List.length_cons]
        omega
    · by_cases hend : t.kind = .endOfInput
      · have hterminal : t.kind.isTerminal = true := by rw [hend]; rfl
        have hback := hzero (Or.inl hterminal)
        obtain ⟨l₂, hback₂, hone, hstanding⟩ := hbehind.exists_pushBack
        refine .into (.between pos (nodes ++ [action])) l₂ read (t :: coming) ?_ rfl
          (h.came_append ▸ hstanding) (Or.inr ⟨t, by rw [h.run.eq_nil hterminal]⟩) ?_
        · rw [Stage.step, Stateful.run_bind_of_ok hrun, if_neg hline, if_pos hend,
            Stateful.run_bind_of_ok hback₂]
          rfl
        · simp only [weight, hback, hone, Stage.rank, List.length_cons]
          omega
      · have hterminal : t.kind.isTerminal = false := by
          rw [← Bool.not_eq_true]
          exact fun hterminal => hend (TokenKind.eq_endOfInput hterminal hbehind.proper)
        refine .into (.within pos nodes action) l' (read ++ [t]) coming ?_ (by simp)
          (h.came_append ▸ hbehind.standing hterminal) (fun hone => ?_) ?_
        · rw [Stage.step, Stateful.run_bind_of_ok hrun, if_neg hline, if_neg hend]
          rfl
        · rw [hbehind.pushedBack] at hone
          cases hone
        · simp only [weight, hbehind.pushedBack, Stage.rank, List.length_cons]
          omega

/-- What a step does in any stage. -/
theorem steps {s : Stage} (h : Standing text f l read coming came)
    (hfits : s.Fits l.pushedBack read coming) : Steps text f s l read coming came := by
  obtain ⟨t, coming, rfl⟩ := List.exists_cons_of_ne_nil h.run.ne_nil
  cases s with
  | opening => exact steps_opening h hfits
  | between pos nodes => exact steps_between h hfits
  | heading pos nodes => exact steps_heading h hfits
  | starting pos nodes => exact steps_starting h hfits
  | within pos nodes action => exact steps_within h hfits

/-! ## A whole reading -/

/-- How a reading ends when the tokens `came` of all the tokens have come: with a body when these are
all, and otherwise with a fault at the last of them. The feed, `f` at first, has been asked once for
each of them. -/
inductive Stops (f : Feed) (tokens came : List Token) :
    EStateM.Result ParseFault Lookahead Body → Prop where
  | done {body : Body} {l : Lookahead} {init : List Token} {last : Token} (hcame : came = tokens)
      (hlast : tokens = init ++ [last]) (hkind : last.kind = .endOfInput)
      (hfeed : l.feed = some (f.after came.length)) : Stops f tokens came (.ok body l)
  | failed {e : ParseFault} {l : Lookahead} {before rest : List Token} {t : Token}
      (hcame : came = before ++ [t]) (htokens : tokens = before ++ t :: rest)
      (hoffends : Offends before t e) (hfeed : l.feed = some (f.after came.length)) :
      Stops f tokens came (.error e l)

/-- From any stage the reading ends within the number of steps that its weight allows. -/
theorem exists_runs {s : Stage} (h : Standing text f l read coming came)
    (hfits : s.Fits l.pushedBack read coming) :
    ∃ n ≤ weight s l coming, ∃ ts r, Runs n s l ts r ∧ Stops f (read ++ coming) (came ++ ts) r := by
  induction hk : weight s l coming using Nat.strongRecOn
    generalizing s l read coming came with
  | ind k ih =>
      subst hk
      cases steps h hfits with
      | into s' l' read' coming' hstep hsplit hstanding hfits' hweight =>
          obtain ⟨n, hn, ts, r, hruns, hstops⟩ := ih _ hweight hstanding hfits' rfl
          rw [hsplit, List.append_assoc] at hstops
          exact ⟨n + 1, by omega, _, r, .into hstep hruns, hstops⟩
      | done body l' hstep hcame hend hfeed hweight =>
          obtain ⟨u, rfl, hkind⟩ := hend
          exact ⟨1, hweight, _, _, .done hstep, .done hcame rfl hkind hfeed⟩
      | failed e l' t rest hstep hsplit hcame hoffends hfeed hweight =>
          subst hsplit
          exact ⟨1, hweight, _, _, .failed hstep, .failed hcame rfl hoffends hfeed⟩

omit [Alphabet] in
/-- Tokens in front of others are not terminal. -/
theorem isTerminal_eq_false_of_append {before rest : List Token} (h : Run (before ++ rest))
    (hrest : rest ≠ []) : ∀ u ∈ before, u.kind.isTerminal = false := by
  induction before with
  | nil => simp
  | cons t before ih =>
      cases hterminal : t.kind.isTerminal with
      | true =>
          have hnil : before ++ rest = [] := h.eq_nil hterminal
          exact absurd (List.append_eq_nil_iff.mp hnil).2 hrest
      | false =>
          intro u hu
          rcases List.mem_cons.mp hu with rfl | hu
          · exact hterminal
          · exact ih (h.tail hterminal) u hu

/-- Of the tokens that have come only the last can be terminal. -/
theorem Stops.isTerminal_eq_false {f : Feed} {tokens came : List Token}
    {r : EStateM.Result ParseFault Lookahead Body} (h : Stops f tokens came r) (hrun : Run tokens) :
    ∀ u ∈ came.dropLast, u.kind.isTerminal = false := by
  cases h with
  | done hcame hlast hkind hfeed =>
      rw [hcame, hlast, List.dropLast_concat]
      exact isTerminal_eq_false_of_append (hlast ▸ hrun) (List.cons_ne_nil _ _)
  | failed hcame htokens hoffends hfeed =>
      rw [hcame, List.dropLast_concat]
      exact isTerminal_eq_false_of_append (htokens ▸ hrun) (List.cons_ne_nil _ _)

/-- A lookahead in front of a new feed for a text stands at its first token. -/
theorem standing_restart (l : Lookahead) (delivery : Delivery) (text : String) :
    Standing text.toList (Feed.ofString delivery text) (l.restart (Feed.ofString delivery text)) []
      (Scanner.ofString text).drain.1 [] :=
  ⟨at_of_delivers rfl rfl rfl (Feed.delivers_ofString delivery text),
    (Scanner.division_ofString text).run, Nat.zero_le 1, rfl, rfl⟩

end Lookahead

/-! ## The body of a text -/

namespace Template

/-- The reading of a body comes to its end after `n` steps, and the given tokens have come by then.
It stands in front of a new feed, `f`, which has the given tokens. -/
structure Pulls (begun : Template) (f : Feed) (tokens : List Token) (n : Nat) (pulled : List Token) :
    Prop where
  /-- The steps are those of the grammar. -/
  runs : Lookahead.Runs n .opening begun.lookahead pulled (Lookahead.body.run begun.lookahead)
  /-- There are at most five of them for each token. -/
  bound : n ≤ 5 * tokens.length
  /-- The feed has been asked once for each token that has come. -/
  feed : begun.readBody.2.lookahead.feed = some (f.after pulled.length)
  /-- No token comes behind a terminal one. -/
  terminal : ∀ t ∈ pulled.dropLast, t.kind.isTerminal = false
  /-- When the body has been read, all tokens have come, up to the end of input. -/
  ok : begun.readBody.1 = .ok () →
    pulled = tokens ∧ ∃ init last, tokens = init ++ [last] ∧ last.kind = .endOfInput
  /-- Otherwise those up to the one at fault have come. -/
  error : ∀ e, begun.readBody.1 = .error e → ∃ before t rest, tokens = before ++ t :: rest ∧
    pulled = before ++ [t] ∧ Lookahead.Offends before t e.fault

/-- When the grammar yields a body, it is the body of the template. -/
theorem readBody_of_ok {t : Template} {body : Body} {l : Lookahead}
    (h : Lookahead.body.run t.lookahead = .ok body l) :
    t.readBody = (.ok (), { t with lookahead := l, root := some body }) := by
  rw [readBody, run, h]

/-- When the grammar fails, its fault is reported. -/
theorem readBody_of_error {t : Template} {fault : ParseFault} {l : Lookahead}
    (h : Lookahead.body.run t.lookahead = .error fault l) :
    t.readBody = (.error ({ t with lookahead := l }.errorAt fault), { t with lookahead := l }) := by
  rw [readBody, run, h]

/-- Reading the body of a text ends, and each of the tokens that come for it comes once: all of them
if the body is read, and otherwise those up to the one at fault. -/
theorem readBody_pulls (t : Template) (functions : List FunctionTable) (delivery : Delivery)
    (text : String) :
    ∃ n pulled, (t.start functions (Feed.ofString delivery text)).Pulls (Feed.ofString delivery text)
      (Scanner.ofString text).drain.1 n pulled := by
  have hstanding := t.lookahead.standing_restart delivery text
  obtain ⟨n, hn, pulled, r, hruns, hstops⟩ :=
    Lookahead.exists_runs (s := .opening) hstanding ⟨rfl, rfl⟩
  rw [List.nil_append, List.nil_append] at hstops
  have hterminal := hstops.isTerminal_eq_false hstanding.run
  refine ⟨n, pulled, ?_⟩
  generalize hbegun : t.start functions (Feed.ofString delivery text) = begun
  have hlookahead : begun.lookahead = t.lookahead.restart (Feed.ofString delivery text) := by
    rw [← hbegun, start]
  rw [← hlookahead] at hruns
  have hbody : Lookahead.body.run begun.lookahead = r := hruns.result
  cases hstops with
  | @done body l init last hcame hlast hkind hfeed =>
      have hread := readBody_of_ok hbody
      refine ⟨hbody ▸ hruns, hn, by rw [hread, ← hfeed], hterminal, ?_, ?_⟩
      · exact fun _ => ⟨hcame, init, last, hlast, hkind⟩
      · intro e he
        rw [hread] at he
        cases he
  | @failed fault l before rest u hcame htokens hoffends hfeed =>
      have hread := readBody_of_error hbody
      refine ⟨hbody ▸ hruns, hn, by rw [hread, ← hfeed], hterminal, ?_, ?_⟩
      · intro hok
        rw [hread] at hok
        cases hok
      · intro e he
        rw [hread] at he
        cases he
        exact ⟨before, u, rest, htokens, hcame, hoffends⟩

end Template

end ActionTemplate
