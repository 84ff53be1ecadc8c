import ActionTemplate.Proofs.Delivery

/-!
# A text is divided in one way only

`Cuts` was read off from the scan of a token, so it holds of what the scan finds. Here it is shown
to hold of nothing else: `Cuts.exists_run` leads the scan, one case for each constructor, to the cut
that is given. Hence a text is cut in one way, `Cuts.unique`, and divided in one way,
`Division.unique`. Whatever division of a text is at hand, it is the one that a scanner finds.
-/

namespace ActionTemplate

open Text

variable [Alphabet]

namespace Scan

/-! ## Leading the scan to a cut -/

/-- A numeral in front of a word is taken together with the first character of the word. -/
theorem exists_run_completeNumeral_of_runsOn {c : Cursor} {u rest : List Char} {x : Char}
    (hahead : c.ahead = u ++ x :: rest) (hu : numeralSpan (u ++ x :: rest) = u)
    (hx : isWord x = true) :
    ∃ c', completeNumeral.run c = .ok false c' ∧ c.Moves (u ++ [x]) c' := by
  rcases exists_run_completeNumeral c with ⟨c', -, hmove, hword⟩ | ⟨y, c', hrun, hmove, -⟩
  · rw [hahead, hu] at hmove
    have hrest : x :: rest = c'.ahead := by simpa [hahead] using hmove.ahead
    rw [← hrest] at hword
    simp [hx] at hword
  · rw [hahead, hu] at hmove
    obtain ⟨rfl, -⟩ : x = y ∧ rest = c'.ahead := by simpa [hahead] using hmove.ahead
    exact ⟨c', hrun, hmove⟩

/-- A numeral with a sign behind it leads to a second numeral. -/
theorem exists_run_number_of_sign {c : Cursor} {u ahead : List Char}
    (hahead : c.ahead = u ++ ahead) (hu : numeralSpan (u ++ ahead) = u)
    (hsign : ahead.head?.any isSign = true) :
    ∃ c₁, number.run c = imaginaryPart.run c₁ ∧ c.Moves u c₁ ∧ c₁.ahead = ahead := by
  have hword : ahead.head?.any isWord = false := by
    cases ahead with
    | nil => rfl
    | cons x rest => simpa using isWord_eq_false_of_isSign (by simpa using hsign)
  obtain ⟨c₁, hrun, hmove⟩ := exists_run_completeNumeral_of_complete hahead hu hword
  have hahead₁ : c₁.ahead = ahead := by simpa [hahead] using hmove.ahead.symm
  refine ⟨c₁.past [], ?_, by simpa using hmove.trans c₁.moves_past_nil, hahead₁⟩
  rw [number, Stateful.run_bind_of_ok hrun, if_pos rfl, Stateful.run_bind_of_ok (run_peek c₁),
    hahead₁, if_pos hsign]

/-- A text that begins with a numeral is scanned as a number. -/
theorem run_bareLexeme_of_beginsNumeral {c : Cursor} {u rest : List Char}
    (hahead : c.ahead = u ++ rest) (hbegin : beginsNumeral u = true) :
    bareLexeme.run c = number.run (c.past []) := by
  cases u with
  | nil => simp [beginsNumeral] at hbegin
  | cons x u =>
      have hx : (isSign x || x.isDigit) = true := by simpa [beginsNumeral] using hbegin
      obtain ⟨hbreak, hblank⟩ := isLineBreak_isBlank_eq_false_of_sign_or_digit hx
      exact run_bareLexeme_of_number hahead hbreak hblank hx

/-- A text that begins with a word is scanned as that word, and judged by what follows it. -/
theorem exists_run_bareLexeme_of_word {c : Cursor} {u rest : List Char}
    (hahead : c.ahead = u ++ rest) (hne : u ≠ []) (hu : ∀ x ∈ u, isWord x = true)
    (hdigit : u.head?.any Char.isDigit = false) (hword : rest.head?.any isWord = false) :
    ∃ c', c.Moves u c' ∧ bareLexeme.run c =
      match rest.head?.filter (fun x => !mayFollowWord x) with
        | some x => .ok (.error (.badCharacter x)) c'
        | none => .ok (.ok (.ofWord c'.token)) c' := by
  obtain ⟨c₁, hrun, hmove⟩ := reads_acceptWhile isWord (c.past [])
  have hahead₀ : (c.past []).ahead = u ++ rest := hahead
  rw [hahead₀, takeWhile_append_of_head? hu hword] at hmove
  have hahead₁ : c₁.ahead = rest := by simpa [hahead] using hmove.ahead.symm
  refine ⟨c₁.past [], by simpa using c.moves_past_nil.trans (hmove.trans c₁.moves_past_nil), ?_⟩
  have hbare : bareLexeme.run c = word.run (c.past []) := by
    cases u with
    | nil => exact absurd rfl hne
    | cons x u =>
        have hx : isWord x = true := hu x List.mem_cons_self
        have hnumber : (isSign x || x.isDigit) = false := by
          have hsign : isSign x = false := by
            cases hsign : isSign x with
            | false => rfl
            | true => simp [isWord_eq_false_of_isSign hsign] at hx
          simpa [hsign] using hdigit
        cases hbreak : isLineBreak x with
        | true => simp [isWord_eq_false_of_isLineBreak hbreak] at hx
        | false =>
            cases hblank : isBlank x with
            | true => simp [isWord_eq_false_of_isBlank hblank] at hx
            | false => exact run_bareLexeme_of_word hahead hbreak hblank hnumber
  rw [hbare, word, Stateful.run_bind_of_ok hrun, Stateful.run_bind_of_ok (run_peek c₁), hahead₁]
  cases rest.head?.filter fun x => !mayFollowWord x <;> rfl

/-- Where a text is cut is where the scan of a token ends, and with the same verdict. -/
theorem Cuts.exists_run {front core rest : List Char} {verdict : Verdict}
    (h : Cuts front verdict core rest) {c : Cursor} (hahead : c.ahead = core ++ rest)
    (hfront : c.lexeme.reverse = front) :
    ∃ c', bareLexeme.run c = .ok verdict c' ∧ c.Moves core c' := by
  cases h with
  | endOfInput => exact ⟨_, run_bareLexeme_of_nil hahead, c.moves_step_of_nil hahead⟩
  | endOfLine hx =>
      exact ⟨_, run_bareLexeme_of_isLineBreak hahead hx, c.moves_step_of_cons hahead⟩
  | @space x u _ hx hu hrest =>
      have hbreak : isLineBreak x = false := by
        cases hbreak : isLineBreak x with
        | false => rfl
        | true => simp [(isBlank_isSign_eq_false_of_isLineBreak hbreak).1] at hx
      have htake : c.step.2.ahead.takeWhile isBlank = u := by
        rw [Cursor.ahead_step, hahead]
        exact takeWhile_append_of_head? hu hrest
      have hmove := (c.moves_step_of_cons hahead).trans (c.step.2.moves_past_takeWhile isBlank)
      have hrun := run_bareLexeme_of_isBlank hahead hbreak hx
      rw [htake] at hmove hrun
      exact ⟨_, hrun, hmove⟩
  | number hbegin hu hword hsign =>
      obtain ⟨c₁, hrun, hmove⟩ :=
        exists_run_completeNumeral_of_complete (c := c.past []) hahead hu hword
      have hahead₁ : c₁.ahead = rest := by simpa [hahead] using hmove.ahead.symm
      refine ⟨c₁.past [], ?_, by simpa using c.moves_past_nil.trans (hmove.trans c₁.moves_past_nil)⟩
      rw [run_bareLexeme_of_beginsNumeral hahead hbegin, Scan.number, Stateful.run_bind_of_ok hrun]
      simp [hahead₁, hsign]
  | @runsOn u x _ hbegin hu hx =>
      rw [List.append_assoc] at hahead
      obtain ⟨c₁, hrun, hmove⟩ :=
        exists_run_completeNumeral_of_runsOn (c := c.past []) hahead hu hx
      refine ⟨c₁, ?_, c.moves_past_nil.trans hmove⟩
      rw [run_bareLexeme_of_beginsNumeral hahead hbegin, Scan.number, Stateful.run_bind_of_ok hrun]
      simp [badNumber, hmove.token_eq, hfront]
  | @complex u v _ hbegin hu hsign hv hword hlast =>
      rw [List.append_assoc] at hahead
      obtain ⟨c₁, hnumber, hmove₁, hahead₁⟩ :=
        exists_run_number_of_sign (c := c.past []) hahead hu (head?_any_append hsign _)
      obtain ⟨c₂, hrun, hmove₂⟩ := exists_run_completeNumeral_of_complete hahead₁ hv hword
      refine ⟨c₂, ?_, c.moves_past_nil.trans (hmove₁.trans hmove₂)⟩
      have hlexeme : c₂.lexeme.head? = some 'i' := by
        simp [hmove₂.lexeme, List.head?_append, List.head?_reverse, hlast]
      rw [run_bareLexeme_of_beginsNumeral hahead hbegin, hnumber, imaginaryPart,
        Stateful.run_bind_of_ok hrun]
      simp [hlexeme]
  | @secondRunsOn u v x _ hbegin hu hsign hv hx =>
      rw [List.append_assoc, List.append_assoc] at hahead
      obtain ⟨c₁, hnumber, hmove₁, hahead₁⟩ :=
        exists_run_number_of_sign (c := c.past []) hahead hu (head?_any_append hsign _)
      obtain ⟨c₂, hrun, hmove₂⟩ := exists_run_completeNumeral_of_runsOn hahead₁ hv hx
      refine ⟨c₂, ?_, c.moves_past_nil.trans (hmove₁.trans hmove₂)⟩
      rw [run_bareLexeme_of_beginsNumeral hahead hbegin, hnumber, imaginaryPart,
        Stateful.run_bind_of_ok hrun]
      simp [badNumber, (hmove₁.trans hmove₂).token_eq, hfront]
  | @notImaginary u v _ hbegin hu hsign hv hword hlast =>
      rw [List.append_assoc] at hahead
      obtain ⟨c₁, hnumber, hmove₁, hahead₁⟩ :=
        exists_run_number_of_sign (c := c.past []) hahead hu (head?_any_append hsign _)
      obtain ⟨c₂, hrun, hmove₂⟩ := exists_run_completeNumeral_of_complete hahead₁ hv hword
      refine ⟨c₂, ?_, c.moves_past_nil.trans (hmove₁.trans hmove₂)⟩
      have hlexeme : c₂.lexeme.head? ≠ some 'i' := by
        cases hlast' : v.getLast? with
        | none => simp [List.getLast?_eq_none_iff.mp hlast'] at hsign
        | some y => simpa [hmove₂.lexeme, List.head?_append, hlast'] using hlast
      rw [run_bareLexeme_of_beginsNumeral hahead hbegin, hnumber, imaginaryPart,
        Stateful.run_bind_of_ok hrun]
      simp [hlexeme, badNumber, (hmove₁.trans hmove₂).token_eq, hfront]
  | word hne hu hdigit hrest =>
      have hword : rest.head?.any isWord = false := by
        cases rest with
        | nil => rfl
        | cons x rest => simpa using isWord_eq_false_of_mayFollowWord (by simpa using hrest)
      obtain ⟨c', hmove, hrun⟩ := exists_run_bareLexeme_of_word hahead hne hu hdigit hword
      refine ⟨c', ?_, hmove⟩
      have hnone : rest.head?.filter (fun x => !mayFollowWord x) = none := by
        cases hnext : rest.head? with
        | none => rfl
        | some x => simpa [hnext] using hrest
      rw [hrun, hnone, hmove.token_eq, hfront]
  | @badCharacter u x _ hne hu hdigit hword hx =>
      obtain ⟨c', hmove, hrun⟩ :=
        exists_run_bareLexeme_of_word hahead hne hu hdigit (by simpa using hword)
      refine ⟨c', ?_, hmove⟩
      rw [hrun, List.head?_cons, Option.filter_some, hx]
      rfl

/-! ## Cutting is unique -/

/-- A text is cut in one way. -/
theorem Cuts.unique {front core core' rest rest' : List Char} {verdict verdict' : Verdict}
    (h : Cuts front verdict core rest) (h' : Cuts front verdict' core' rest')
    (htext : core ++ rest = core' ++ rest') : verdict = verdict' ∧ core = core' ∧ rest = rest' := by
  let c : Cursor := ⟨front.reverse, core ++ rest, 0, 0, none⟩
  have hfront : c.lexeme.reverse = front := List.reverse_reverse front
  obtain ⟨c₁, hrun, hmove⟩ := h.exists_run (c := c) rfl hfront
  obtain ⟨c₂, hrun', hmove'⟩ := h'.exists_run (c := c) htext hfront
  rw [hrun, EStateM.Result.ok.injEq] at hrun'
  obtain ⟨hverdict, rfl⟩ := hrun'
  have hrest : rest = c₁.ahead := List.append_cancel_left hmove.ahead
  have hrest' : rest' = c₁.ahead := List.append_cancel_left (htext.symm.trans hmove'.ahead)
  rw [← hrest'] at hrest
  rw [hrest] at htext
  exact ⟨hverdict, List.append_cancel_right htext, hrest⟩

/-- A text that is cut does not begin with a filler. -/
theorem Cuts.head?_isFiller {front core rest : List Char} {verdict : Verdict}
    (h : Cuts front verdict core rest) : (core ++ rest).head?.any isFiller = false := by
  have hnumeral : ∀ {u : List Char}, beginsNumeral u = true → ∀ v,
      (u ++ v).head?.any isFiller = false := by
    intro u hu v
    cases u with
    | nil => simp [beginsNumeral] at hu
    | cons x u =>
        have hx : isSign x = true ∨ x.isDigit = true := by simpa [beginsNumeral] using hu
        have hnot := hx.imp_right isWord_of_isDigit
        simpa using isFiller_eq_false_iff.mpr (Or.inr (Or.inr hnot))
  have hword : ∀ {u : List Char}, u ≠ [] → (∀ x ∈ u, isWord x = true) → ∀ v,
      (u ++ v).head?.any isFiller = false := by
    intro u hne hu v
    cases u with
    | nil => exact absurd rfl hne
    | cons x u =>
        have hx : isWord x = true := hu x List.mem_cons_self
        simpa using isFiller_eq_false_iff.mpr (Or.inr (Or.inr (Or.inr hx)))
  cases h with
  | endOfInput => rfl
  | endOfLine hx => simpa using isFiller_eq_false_iff.mpr (Or.inl hx)
  | space hx hu hrest => simpa using isFiller_eq_false_iff.mpr (Or.inr (Or.inl hx))
  | number hbegin hu hword hsign => exact hnumeral hbegin rest
  | runsOn hbegin hu hx =>
      rw [List.append_assoc]
      exact hnumeral hbegin _
  | complex hbegin hu hsign hv hword hlast =>
      rw [List.append_assoc]
      exact hnumeral hbegin _
  | secondRunsOn hbegin hu hsign hv hx =>
      rw [List.append_assoc]
      exact hnumeral hbegin _
  | notImaginary hbegin hu hsign hv hword hlast =>
      rw [List.append_assoc]
      exact hnumeral hbegin _
  | word hne hu hdigit hrest => exact hword hne hu rest
  | badCharacter hne hu hdigit hnot hx => exact hword hne hu _

/-- What stands in front of a cut are all fillers at the beginning of the text. -/
theorem Cuts.takeWhile_isFiller {front fillers core rest : List Char} {verdict : Verdict}
    (h : Cuts front verdict core rest) (hfillers : ∀ x ∈ fillers, isFiller x = true) :
    (fillers ++ (core ++ rest)).takeWhile isFiller = fillers :=
  takeWhile_append_of_head? hfillers h.head?_isFiller

/-- A text has one cut behind its fillers. -/
theorem Cuts.unique_of_fillers {fillers fillers' core core' rest rest' : List Char}
    {verdict verdict' : Verdict} (h : Cuts fillers verdict core rest)
    (h' : Cuts fillers' verdict' core' rest') (hfillers : ∀ x ∈ fillers, isFiller x = true)
    (hfillers' : ∀ x ∈ fillers', isFiller x = true)
    (htext : fillers ++ (core ++ rest) = fillers' ++ (core' ++ rest')) :
    fillers = fillers' ∧ verdict = verdict' ∧ core = core' ∧ rest = rest' := by
  have hfront : fillers = fillers' := by
    rw [← h.takeWhile_isFiller hfillers, htext, h'.takeWhile_isFiller hfillers']
  subst hfront
  exact ⟨rfl, h.unique h' (List.append_cancel_left htext)⟩

end Scan

/-! ## Divisions -/

namespace Division

variable {pos : Nat} {text : List Char} {tokens : List Token}

/-- What the tokens of a division are when the text is cut with the given verdict: the first token,
and behind it, unless it is terminal, those of the rest. -/
def Continues (pos : Nat) (fillers core rest : List Char) (tokens : List Token) : Verdict → Prop
  | .error found => tokens = [Token.ofFault found pos]
  | .ok kind => ∃ others, tokens = ⟨kind, String.ofList (fillers ++ core), pos⟩ :: others ∧
      if kind.isTerminal then others = []
      else Division (pos + byteLength (fillers ++ core)) rest others

/-- A text that is divided is cut behind its fillers, and the rest is divided. -/
theorem exists_continues (h : Division pos text tokens) :
    ∃ fillers core rest verdict, text = fillers ++ (core ++ rest) ∧
      (∀ x ∈ fillers, isFiller x = true) ∧ Scan.Cuts fillers verdict core rest ∧
      Continues pos fillers core rest tokens verdict := by
  cases h with
  | @endOfInput _ fillers hfillers =>
      refine ⟨text, [], [], _, by simp, hfillers, .endOfInput, [], by simp, ?_⟩
      rfl
  | @fault _ fillers core rest fault hfillers hcuts =>
      exact ⟨fillers, core, rest, _, by simp, hfillers, hcuts, rfl⟩
  | @token _ fillers core rest kind others hfillers hcuts hkind hrest =>
      refine ⟨fillers, core, rest, _, by simp, hfillers, hcuts, others, rfl, ?_⟩
      simpa [hkind] using hrest

/-- A text is divided in one way. -/
theorem unique (h : Division pos text tokens) {tokens' : List Token}
    (h' : Division pos text tokens') : tokens = tokens' := by
  induction h generalizing tokens' with
  | @endOfInput pos text hfillers =>
      obtain ⟨fillers, core, rest, verdict, htext, hfillers', hcuts, hcontinues⟩ :=
        h'.exists_continues
      obtain ⟨rfl, rfl, rfl, rfl⟩ := Scan.Cuts.endOfInput.unique_of_fillers hcuts hfillers hfillers'
        (by simpa using htext)
      obtain ⟨others, rfl, rfl⟩ := hcontinues
      simp
  | @fault pos fillers core rest fault hfillers hcuts =>
      obtain ⟨fillers', core', rest', verdict, htext, hfillers', hcuts', hcontinues⟩ :=
        h'.exists_continues
      obtain ⟨rfl, rfl, rfl, rfl⟩ := hcuts.unique_of_fillers hcuts' hfillers hfillers'
        (by simpa using htext)
      exact hcontinues.symm
  | @token pos fillers core rest kind others hfillers hcuts hkind hrest ih =>
      obtain ⟨fillers', core', rest', verdict, htext, hfillers', hcuts', hcontinues⟩ :=
        h'.exists_continues
      obtain ⟨rfl, rfl, rfl, rfl⟩ := hcuts.unique_of_fillers hcuts' hfillers hfillers'
        (by simpa using htext)
      obtain ⟨others', rfl, hothers⟩ := hcontinues
      simp only [hkind, Bool.false_eq_true, if_false] at hothers
      rw [ih hothers]

end Division

end ActionTemplate
