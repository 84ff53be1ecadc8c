import ActionTemplate.Parse
import ActionTemplate.Proofs.Lines
import ActionTemplate.Proofs.Place
import ActionTemplate.Proofs.Tiling

/-!
# Reading agrees with the lines

The reading of a template looks for the head of the next action across blank lines, gives it back,
reads it again and finishes its line. Nevertheless it yields what `readLines` tells from the lines of
tokens: `Ready.reads_line` is the step, for one action and its line, and `Ready.agrees_actions` the
simulation, by induction on the tokens that come.

From it follows `Template.parse_eq`, what a parse leads to, whatever the template and the set are. A
parse into a set of its own is the last result.
-/

namespace ActionTemplate

open Text

/-! ## Reading to the end of a line -/

namespace Lookahead

variable [Alphabet] {text : List Char} {l : Lookahead} {head e : Token} {us vs ts : List Token}

/-- Where finishing a line whose last token is `e`, with the tokens `vs` behind it, can lead. -/
inductive Finishes (text : List Char) (e : Token) (vs : List Token) :
    EStateM.Result ParseFault Lookahead Unit → Prop where
  | endOfLine {l : Lookahead} (hkind : e.kind = .endOfLine) (h : Ready text l vs) :
      Finishes text e vs (.ok () l)
  | endOfInput {l : Lookahead} (hkind : e.kind = .endOfInput) (h : Ready text l (e :: vs)) :
      Finishes text e vs (.ok () l)
  | fault {l : Lookahead} {fault : LexFault} (hkind : e.kind = .error fault)
      (hline : l.line = lineAt text e.pos) : Finishes text e vs (.error (.lexical fault) l)

/-- A line is finished behind its last token, or in front of it if that is the end of input. -/
theorem Ready.finishes (h : Ready text l (us ++ e :: vs)) (hus : ∀ u ∈ us, u.kind.endsLine = false)
    (he : e.kind.endsLine = true) : Finishes text e vs (finishLine.run l) := by
  induction us generalizing l with
  | nil =>
      have hread := h.reads_next
      generalize hresult : next.run l = result at hread
      cases hread with
      | @token l' hplace =>
          by_cases hkind : e.kind = .endOfLine
          · rw [run_finishLine_of_endOfLine hresult hkind]
            exact .endOfLine hkind hplace.ready
          · have hterminal : e.kind.isTerminal = true := by
              simpa [TokenKind.endsLine, hkind] using he
            have hend := TokenKind.eq_endOfInput hterminal hplace.proper
            obtain ⟨l₁, hback, hready, -⟩ := hplace.exists_pushBack
            rw [run_finishLine_of_endOfInput hresult hend, hback]
            exact .endOfInput hend hready
      | fault hkind hline =>
          rw [run_finishLine_of_error hresult]
          exact .fault hkind hline
  | cons u us ih =>
      have hu : u.kind.endsLine = false := hus u List.mem_cons_self
      obtain ⟨hnot, hterminal⟩ : u.kind ≠ .endOfLine ∧ u.kind.isTerminal = false := by
        simpa [TokenKind.endsLine] using hu
      obtain ⟨l', hnext, hplace⟩ := h.exists_next hterminal
      rw [run_finishLine_of_other hnext hnot (TokenKind.ne_endOfInput hterminal)]
      exact ih hplace.ready fun v hv => hus v (List.mem_cons_of_mem u hv)

/-! ## Reading an item -/

/-- The head of an item is read whatever blanks could stand in front of it. -/
theorem Ready.exists_nextPastSpaces (h : Ready text l (head :: ts)) (hspace : head.kind ≠ .space)
    (hkind : head.kind.isTerminal = false) :
    ∃ l', nextPastSpaces.run l = .ok head l' ∧ JustRead text l' head ts := by
  have hskipped : head.kind ∉ [TokenKind.space] := by simpa using hspace
  have hread := h.reads_nextPast hskipped
  generalize hresult : (nextPast [.space]).run l = result at hread
  cases hread with
  | @token l' hplace => exact ⟨l', hresult, hplace⟩
  | fault hfault hline =>
      rw [hfault] at hkind
      cases hkind

/-- A closing word is an item by itself. -/
theorem Ready.exists_run_action_of_marker {m : Marker} (h : Ready text l (head :: ts))
    (hmarker : marker? head.kind = some m) :
    ∃ l', action.run l = .ok (.closing m) l' ∧ l'.line = lineAt text head.pos := by
  obtain ⟨hspace, hkind⟩ : head.kind ≠ .space ∧ head.kind.isTerminal = false := by
    cases hcase : head.kind <;> rw [hcase] at hmarker <;> simp_all [marker?, TokenKind.isTerminal]
  obtain ⟨l', hrun, hplace⟩ := h.exists_nextPastSpaces hspace hkind
  refine ⟨l', ?_, hplace.line⟩
  rw [action, Stateful.run_bind_of_ok hrun, itemFrom, hmarker]
  rfl

/-- Any other head begins an action, which ends where the line is finished. -/
theorem Ready.exists_run_action (h : Ready text l (head :: ts)) (hspace : head.kind ≠ .space)
    (hkind : head.kind.isTerminal = false) (hmarker : marker? head.kind = none) :
    ∃ l', Ready text l' (head :: ts) ∧ action.run l = match finishLine.run l' with
      | .ok _ l₁ => .ok (.node (.action head.pos (lineAt text head.pos))) l₁
      | .error e l₁ => .error e l₁ := by
  obtain ⟨l₁, hrun, hplace⟩ := h.exists_nextPastSpaces hspace hkind
  obtain ⟨l₂, hback, hready, -⟩ := hplace.exists_pushBack
  rcases hready.reads_peek with ⟨l₃, hpeek, hready', hline⟩ | ⟨fault, l₃, hfault, -, -⟩
  · refine ⟨l₃, hready', ?_⟩
    rw [action, Stateful.run_bind_of_ok hrun, itemFrom, hmarker]
    show (pushBack >>= _).run l₁ = _
    rw [Stateful.run_bind_of_ok hback, Stateful.run_bind_of_ok hpeek,
      Stateful.run_bind_of_ok (EStateM.run_get l₃), hline, EStateM.run_bind]
    cases finishLine.run l₃ <;> rfl
  · rw [hfault] at hkind
    cases hkind

/-! ## Reading all items -/

/-- A reading of the tokens `coming` ends as the reading of their lines does. If it comes to the end
of input, the line is that of the last token; otherwise it is that of the offending token. -/
inductive Agrees (text : List Char) (coming : List Token) :
    Except Offence (List Node) → EStateM.Result ParseFault Lookahead (List Node) → Prop where
  | nodes {nodes : List Node} {l : Lookahead}
      (hend : ∀ t, coming.getLast? = some t →
        t.kind = .endOfInput ∧ l.line = lineAt text t.pos) :
      Agrees text coming (.ok nodes) (.ok nodes l)
  | offence {offence : Offence} {l : Lookahead} (hline : l.line = lineAt text offence.pos) :
      Agrees text coming (.error offence) (.error offence.fault l)

/-- An action in front of what is read comes first. -/
theorem Agrees.cons {coming : List Token} {result : Except Offence (List Node)} {l : Lookahead}
    (h : Agrees text ts result (actions.run l)) (hlast : coming.getLast? = ts.getLast?) (n : Node) :
    Agrees text coming (result.map ([n] ++ ·)) (((n :: ·) <$> actions).run l) := by
  rw [Stateful.run_map]
  generalize actions.run l = reading at h
  cases h with
  | nodes hend => exact .nodes fun t ht => hend t (hlast ▸ ht)
  | offence hline => exact .offence hline

/-- An action is read as its line is: both meet the same fault in it, or yield the same node. What
is left to be read holds what the other lines do. -/
theorem Ready.reads_line (h : Ready text l (head :: ts)) (hts : Run ts) (hspace : head.kind ≠ .space)
    (hinner : head.kind.endsLine = false) (hmarker : marker? head.kind = none) :
    (∃ offence l', action.run l = .error offence.fault l' ∧ l'.line = lineAt text offence.pos ∧
        readLines text (linesOf (head :: ts)) = .error offence) ∨
      ∃ node l' rest, action.run l = .ok (.node node) l' ∧ Ready text l' rest ∧ Run rest ∧
        rest.length < (head :: ts).length ∧ (head :: ts).getLast? = rest.getLast? ∧
        readLines text (linesOf (head :: ts)) = (readLines text (linesOf rest)).map ([node] ++ ·) := by
  obtain ⟨hbreak, hkind⟩ : head.kind ≠ .endOfLine ∧ head.kind.isTerminal = false := by
    simpa [TokenKind.endsLine] using hinner
  obtain ⟨l₁, hready, haction⟩ := h.exists_run_action hspace hkind hmarker
  obtain ⟨us, e, vs, rfl, hus, he⟩ := hts.exists_line
  have hus' : ∀ u ∈ head :: us, u.kind.endsLine = false := by
    intro u hu
    rcases List.mem_cons.mp hu with rfl | hu
    · exact hinner
    · exact hus u hu
  have hcut : linesOf (head :: us ++ e :: vs) = (head :: us ++ [e]) :: linesOf vs :=
    linesOf_append_cons hus' (he.imp And.left And.right)
  have hline := readLine_append_of_action hspace hmarker hus' (e := e) text
  have hends : e.kind.endsLine = true := by
    rcases he with ⟨hbreak, -⟩ | ⟨hterminal, -⟩ <;> simp [TokenKind.endsLine, *]
  -- the head is read again, as the first token of the line that is finished
  rw [← List.cons_append] at hready ⊢
  have hfinish := hready.finishes hus' hends
  rw [hcut, haction]
  generalize finishLine.run l₁ = result at hfinish
  cases hfinish with
  | endOfLine hbreak hready' =>
      have hvs : Run vs := by
        rcases he with ⟨-, hvs⟩ | ⟨hterminal, -⟩
        · exact hvs
        · rw [hbreak] at hterminal
          cases hterminal
      have hok : faultIn? [e] = none := by simp [faultIn?, hbreak]
      rw [hok] at hline
      refine Or.inr ⟨_, _, vs, rfl, hready', hvs, ?_, ?_, readLines_cons_of_ok hline _⟩
      · simp only [List.length_append, List.length_cons]
        omega
      · rw [List.append_cons, List.getLast?_append_of_ne_nil _ hvs.ne_nil]
  | endOfInput hend hready' =>
      -- the end of input was given back, so a line without content is still to be read
      obtain rfl : vs = [] := by
        rcases he with ⟨hbreak, -⟩ | ⟨-, hvs⟩
        · rw [hbreak] at hend
          cases hend
        · exact hvs
      have hok : faultIn? [e] = none := by simp [faultIn?, hend]
      rw [hok] at hline
      refine Or.inr ⟨_, _, [e], rfl, hready', .last (by rw [hend]; rfl), ?_, ?_, ?_⟩
      · simp
      · rw [List.getLast?_append_cons]
      · rw [readLines_linesOf_endOfInput hend]
        exact readLines_cons_of_ok hline _
  | @fault l₂ fault hfault hline' =>
      have hbad : faultIn? [e] = some (fault, e.pos) := by simp [faultIn?, hfault]
      rw [hbad] at hline
      exact Or.inl ⟨⟨.lexical fault, e.pos⟩, l₂, rfl, hline', readLines_cons_of_error hline _⟩

/-- Actions are read up to the end of input or to the first offence, which is that of the first
line in which there is one. -/
theorem Ready.agrees_actions {coming : List Token} (h : Ready text l coming) (hrun : Run coming) :
    Agrees text coming (readLines text (linesOf coming)) (actions.run l) := by
  have hskipped : ∀ k ∈ [TokenKind.space, .endOfLine], k.isTerminal = false := by decide
  -- an action takes a whole line, so the induction is on the number of tokens that come
  induction hn : coming.length using Nat.strong_induction_on generalizing coming l with
  | _ n ih =>
      obtain ⟨us, head, ts, rfl, hus, hhead, hrun', hread⟩ := h.exists_reads_nextPast hrun hskipped
      obtain ⟨hspace, hbreak⟩ : head.kind ≠ .space ∧ head.kind ≠ .endOfLine := by
        simpa using hhead
      obtain ⟨line, lines, hlines⟩ := exists_linesOf_cons head ts
      rw [readLines_linesOf_append text hus (by simp)]
      generalize hresult : (nextPast [.space, .endOfLine]).run l = result at hread
      cases hread with
      | fault hfault hline =>
          rw [run_actions_of_error hresult, hlines,
            readLines_cons_of_error (readLine_cons_of_error hfault text line)]
          exact .offence hline
      | @token l₁ hplace =>
          by_cases hend : head.kind = .endOfInput
          · obtain rfl : ts = [] := hrun'.eq_nil (by rw [hend]; rfl)
            rw [run_actions_of_endOfInput hresult hend, readLines_linesOf_endOfInput hend]
            refine .nodes fun t ht => ?_
            rw [List.getLast?_concat, Option.some.injEq] at ht
            rw [← ht]
            exact ⟨hend, hplace.line⟩
          · have hkind : head.kind.isTerminal = false := by
              rw [← Bool.not_eq_true]
              exact fun hterminal => hend (TokenKind.eq_endOfInput hterminal hplace.proper)
            obtain ⟨l₂, hback, hready, -⟩ := hplace.exists_pushBack
            rw [run_actions_of_head hresult hend hback]
            cases hmarker : marker? head.kind with
            | some m =>
                obtain ⟨l₃, haction, hline⟩ := hready.exists_run_action_of_marker hmarker
                rw [haction, hlines,
                  readLines_cons_of_error (readLine_cons_of_marker hmarker text line)]
                exact .offence hline
            | none =>
                have hinner : head.kind.endsLine = false := by
                  simp [TokenKind.endsLine, hbreak, hkind]
                rcases hready.reads_line (hrun'.tail hkind) hspace hinner hmarker with
                  ⟨offence, l₃, haction, hline, herror⟩ |
                  ⟨node, l₃, rest, haction, hready', hrest, hlt, hlast, hnodes⟩
                · rw [haction, herror]
                  exact .offence hline
                · rw [haction, hnodes]
                  have hlength : rest.length < n := by
                    rw [← hn, List.length_append]
                    omega
                  refine (ih rest.length hlength hready' hrest rfl).cons ?_ node
                  rw [List.getLast?_append_cons, hlast]

/-! ## Reading a body -/

/-- A body starts at its first token, and it is read as its lines are. -/
theorem Ready.reads_body (h : Ready text l (head :: ts)) (hrun : Run (head :: ts)) :
    (∃ offence l', body.run l = .error offence.fault l' ∧ l'.line = lineAt text offence.pos ∧
        readLines text (linesOf (head :: ts)) = .error offence) ∨
      ∃ nodes l' last, body.run l = .ok ⟨head.pos, nodes⟩ l' ∧ (head :: ts).getLast? = some last ∧
        last.kind = .endOfInput ∧ l'.line = lineAt text last.pos ∧
        readLines text (linesOf (head :: ts)) = .ok nodes := by
  rcases h.reads_peek with ⟨l₁, hpeek, hready, -⟩ | ⟨fault, l₁, hfault, hpeek, hline⟩
  · have hagrees := hready.agrees_actions hrun
    rw [body, Stateful.run_bind_of_ok hpeek]
    generalize hlines : readLines text (linesOf (head :: ts)) = result at hagrees
    generalize hactions : actions.run l₁ = reading at hagrees
    cases hagrees with
    | @nodes nodes l₂ hend =>
        obtain ⟨last, hlast⟩ := List.getLast?_isSome.mpr hrun.ne_nil |> Option.isSome_iff_exists.mp
        obtain ⟨hkind, hline⟩ := hend last hlast
        rw [Stateful.run_bind_of_ok hactions]
        exact Or.inr ⟨nodes, l₂, last, rfl, hlast, hkind, hline, rfl⟩
    | @offence offence l₂ hline =>
        rw [Stateful.run_bind_of_error hactions]
        exact Or.inl ⟨offence, l₂, rfl, hline, rfl⟩
  · -- the very first token is a fault, which is then the head of the first line
    obtain ⟨line, lines, hlines⟩ := exists_linesOf_cons head ts
    refine Or.inl ⟨⟨.lexical fault, head.pos⟩, l₁, ?_, hline, ?_⟩
    · rw [body, Stateful.run_bind_of_error hpeek]
    · rw [hlines, readLines_cons_of_error (readLine_cons_of_error hfault text line)]

end Lookahead

/-! ## Lines at the end -/

/-- There is no line break among fillers. -/
theorem unbroken_of_fillers [Alphabet] {fillers : List Char}
    (h : ∀ x ∈ fillers, isFiller x = true) : ∀ x ∈ fillers, isLineBreak x = false :=
  fun x hx => (eq_false_of_isFiller (h x hx)).1

/-- Without line breaks there are no line feeds. -/
theorem newlines_eq_zero {u : List Char} (h : ∀ x ∈ u, isLineBreak x = false) :
    newlines u = 0 := by
  rw [newlines, List.count_eq_zero]
  intro hmem
  cases h '\n' hmem

/-- The end of input is on the last line of the text. -/
theorem Division.lineAt_endOfInput [Alphabet] {text : List Char} {tokens : List Token}
    (h : Division 0 text tokens) {t : Token} (ht : t ∈ tokens) (hkind : t.kind = .endOfInput) :
    lineAt text t.pos = 1 + newlines text := by
  obtain ⟨before, fillers, core, after, rfl, hpos, -, hfillers, hcuts⟩ :=
    h.exists_cuts t ht (by simp [hkind])
  rw [hkind] at hcuts
  obtain ⟨-, rfl, rfl⟩ := hcuts.eq_nil_of_isTerminal rfl
  rw [hpos, Nat.zero_add, lineAt, List.append_assoc, takeBytes_byteLength_append]
  simp [newlines_eq_zero (unbroken_of_fillers hfillers)]

/-! ## Parsing -/

namespace Template

/-- The template as which a text has been read. -/
def read (name text : String) (nodes : List Node) : Template :=
  { name, parseName := name, text, root := some ⟨0, nodes⟩ }

variable [Alphabet]

/-- What a text holds, told from the lines of its tokens. -/
def contentOf (text : String) : Except Offence (List Node) :=
  readLines text.toList (linesOf (Scanner.ofString text).drain.1)

/-- A reading that has been begun is in front of all tokens of its text. -/
theorem ready_begun (t : Template) (text : String) (options : Options) :
    Lookahead.Ready text.toList (t.begun text options).lookahead
      (Scanner.ofString text).drain.1 := by
  refine ⟨⟨[], ?_⟩, Nat.zero_le 1, ?_⟩
  · exact Lookahead.at_of_delivers rfl rfl rfl (Feed.delivers_ofString options.delivery text)
  · rintro u us hback -
    cases hback

/-- Reading a body that has been begun leads to the content of the text. Behind it the reading is on
the last line, or on that of the offending token. -/
theorem readBody_begun (t : Template) (text : String) (options : Options) :
    (∃ offence t', (t.begun text options).readBody =
          (.error ⟨offence.fault, t.name, lineAt text.toList offence.pos⟩, t') ∧
        contentOf text = .error offence) ∨
      ∃ nodes t', (t.begun text options).readBody = (.ok (), t') ∧
        t'.stop = read t.name text nodes ∧ t'.name = t.name ∧ t'.parseName = t.name ∧
        t'.lookahead.line = 1 + newlines text.toList ∧ contentOf text = .ok nodes := by
  have hdivision := Scanner.division_ofString text
  have hready := t.ready_begun text options
  unfold contentOf
  generalize (Scanner.ofString text).drain.1 = tokens at hdivision hready
  have hrun := hdivision.run
  cases htokens : tokens with
  | nil => exact absurd htokens hrun.ne_nil
  | cons head ts =>
      rw [htokens] at hdivision hready hrun
      have hhead : head.pos = 0 := hdivision.pos_head? head rfl
      rcases hready.reads_body hrun with ⟨offence, l, hbody, hline, hlines⟩ |
        ⟨nodes, l, last, hbody, hlast, hkind, hline, hlines⟩
      · refine Or.inl ⟨offence, { t.begun text options with lookahead := l }, ?_, hlines⟩
        rw [readBody, run, hbody, ← hline]
        rfl
      · refine Or.inr ⟨nodes, { t.begun text options with lookahead := l, root := some ⟨0, nodes⟩ },
          ?_, rfl, rfl, rfl, ?_, hlines⟩
        · rw [readBody, run, hbody, hhead]
        · show l.line = 1 + newlines text.toList
          rw [hline]
          exact hdivision.lineAt_endOfInput (List.mem_of_getLast? hlast) hkind

/-- A parse fails if the text holds an offence, or if the name has content already and the text has
some, too. Otherwise the template is registered. -/
theorem parse_eq (t : Template) (text : String) (options : Options) (set : TemplateSet) :
    t.parse text options set = match contentOf text with
      | .error offence =>
          (.error ⟨offence.fault, t.name, lineAt text.toList offence.pos⟩, .empty)
      | .ok nodes =>
          if (set.get? t.name).any (conflicts · (read t.name text nodes)) then
            (.error ⟨.multipleDefinition t.name, t.name, 1 + newlines text.toList⟩, .empty)
          else
            (.ok (set.register (read t.name text nodes)).1,
              (set.register (read t.name text nodes)).2) := by
  unfold parse
  rcases t.readBody_begun text options with ⟨offence, t', hread, hcontent⟩ |
    ⟨nodes, t', hread, hstop, hname, hparse, hline, hcontent⟩
  · rw [hread, hcontent]
  · -- being done with the reading does not change the body
    have hconflict : ∀ old, conflicts old t' = conflicts old (read t.name text nodes) := by
      intro old
      rw [← hstop]
      rfl
    simp only [hread, hcontent, checkRedefinition, hname, errorAt, hparse, hline, hstop, hconflict]
    cases (set.get? t.name).any (conflicts · (read t.name text nodes)) <;> rfl

end Template

/-- A parse into a set of its own leads to the set of the one template that the text is read as. -/
theorem parse_eq_put [Alphabet] (name text : String) (options : Options) :
    parse name text options = match Template.contentOf text with
      | .error offence => .error ⟨offence.fault, name, lineAt text.toList offence.pos⟩
      | .ok nodes => .ok (TemplateSet.empty.put (Template.read name text nodes)) := by
  rw [parse, Template.parse_eq]
  cases Template.contentOf text <;> rfl

/-- A text is parsed as the lines of its tokens tell: they hold the nodes of the only template in the
set, or else the first offence in them is the error. -/
theorem parse_eq_readLines [Alphabet] (name text : String) (options : Options) :
    (parse name text options).map TemplateSet.entries =
      match readLines text.toList (linesOf (Scanner.ofString text).drain.1) with
      | .error offence =>
          .error ⟨offence.fault, name, lineAt text.toList offence.pos⟩
      | .ok nodes => .ok [(name, { name, parseName := name, text, root := some ⟨0, nodes⟩ })] := by
  have hcontent : Template.contentOf text =
      readLines text.toList (linesOf (Scanner.ofString text).drain.1) := rfl
  rw [parse, Template.parse_eq, ← hcontent]
  cases Template.contentOf text <;> rfl

-- two actions, with a blank line between them
example : (parse "page" "a b\n\n.c" {}).map TemplateSet.entries = .ok [("page",
    { name := "page", parseName := "page", text := "a b\n\n.c",
      root := some ⟨0, [.action 0 1, .action 5 3]⟩ })] := by
  decide +kernel

-- the closing word is the offending token, and its line is reported
example : parse "page" "a b\n\n.c\nend" {} =
    .error ⟨.unexpected Marker.endMark.display, "page", 4⟩ := by
  decide +kernel

end ActionTemplate
