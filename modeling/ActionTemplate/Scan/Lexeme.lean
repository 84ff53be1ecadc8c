import ActionTemplate.Scan.Numeral
import ActionTemplate.Token

/-!
# The shapes of tokens

One run of `lexeme` takes the next token of a text: first the fillers in front of it, then a line
break, a run of blanks, a number or a word, whichever the next character starts, or nothing at the
end of the text. The verdict is the kind of the token, or the fault that ends the text.

`Cuts` says the same without a cursor: with which verdict, and behind which character, a text is cut
whose fillers have been taken. The main fact is `exists_run_lexeme`, every scan of a token ends, and
it ends where `Cuts` says. That a token behind which others can follow takes at least one character,
`length_ahead_lt_of_lexeme`, is read off from it.
-/

namespace ActionTemplate

/-- The kind of a token, or the fault found in its place. -/
abbrev Verdict := Except LexFault TokenKind

namespace Scan

open Text

variable [Alphabet]

/-! ## Tokens -/

/-- Take the longest numeral and say whether it ends there; if it runs on into a word, the first
character of the word is taken as well. -/
def completeNumeral : Scan Bool := do
  numeral
  if (← peek).any isWord then
    let _ ← read
    pure false
  else pure true

/-- The verdict that the text of the token so far is no number. -/
def badNumber : Scan Verdict := do
  return .error (.badNumber (← get).token)

/-- Take the second numeral of a complex number, which has to end in `i`. -/
def imaginaryPart : Scan Verdict := do
  if ← completeNumeral then
    if (← get).lexeme.head? = some 'i' then pure (.ok .complex) else badNumber
  else badNumber

/-- Take a number. A sign directly behind the first numeral makes it complex. -/
def number : Scan Verdict := do
  if ← completeNumeral then
    if (← peek).any isSign then imaginaryPart else pure (.ok .number)
  else badNumber

/-- Take a word and look at the character behind it. -/
def word : Scan Verdict := do
  acceptWhile isWord
  match (← peek).filter (fun c => !mayFollowWord c) with
  | some c => pure (.error (.badCharacter c))
  | none => return .ok (.ofWord (← get).token)

/-- Take a token in front of which there is no filler, and judge it. -/
def bareLexeme : Scan Verdict := do
  match ← read with
  | none => pure (.ok .endOfInput)
  | some c =>
      if isLineBreak c then pure (.ok .endOfLine)
      else if isBlank c then
        acceptWhile isBlank
        pure (.ok .space)
      else
        unread
        if isSign c || c.isDigit then number else word

/-- Take the next token with the fillers in front of it, and judge it. -/
def lexeme : Scan Verdict := do
  acceptWhile isFiller
  bareLexeme

/-! ## The five beginnings -/

/-- Without anything ahead, the text has ended. -/
theorem run_bareLexeme_of_nil {c : Cursor} (h : c.ahead = []) :
    bareLexeme.run c = .ok (.ok .endOfInput) c.step.2 := by
  simp [bareLexeme, h]

/-- A line break is a token by itself. -/
theorem run_bareLexeme_of_isLineBreak {c : Cursor} {x : Char} {rest : List Char}
    (h : c.ahead = x :: rest) (hx : isLineBreak x = true) :
    bareLexeme.run c = .ok (.ok .endOfLine) c.step.2 := by
  simp [bareLexeme, h, hx]

/-- A blank is a token together with all blanks that follow it. -/
theorem run_bareLexeme_of_isBlank {c : Cursor} {x : Char} {rest : List Char}
    (h : c.ahead = x :: rest) (hbreak : isLineBreak x = false) (hx : isBlank x = true) :
    bareLexeme.run c = .ok (.ok .space) (c.step.2.past (c.step.2.ahead.takeWhile isBlank)) := by
  simp [bareLexeme, h, hbreak, hx]

/-- A sign or a digit begins a number. -/
theorem run_bareLexeme_of_number {c : Cursor} {x : Char} {rest : List Char}
    (h : c.ahead = x :: rest) (hbreak : isLineBreak x = false) (hblank : isBlank x = false)
    (hx : (isSign x || x.isDigit) = true) : bareLexeme.run c = number.run (c.past []) := by
  simp only [bareLexeme, EStateM.run_bind, run_read, Cursor.step_fst, h, List.head?_cons, hbreak,
    hblank, hx, Bool.false_eq_true, if_false, if_true, run_unread_step]

/-- Any other character begins a word. -/
theorem run_bareLexeme_of_word {c : Cursor} {x : Char} {rest : List Char}
    (h : c.ahead = x :: rest) (hbreak : isLineBreak x = false) (hblank : isBlank x = false)
    (hx : (isSign x || x.isDigit) = false) : bareLexeme.run c = word.run (c.past []) := by
  simp only [bareLexeme, EStateM.run_bind, run_read, Cursor.step_fst, h, List.head?_cons, hbreak,
    hblank, hx, Bool.false_eq_true, if_false, run_unread_step]

/-- Behind the fillers there is either nothing or a character that begins a token. -/
theorem run_lexeme (c : Cursor) :
    lexeme.run c = bareLexeme.run (c.past (c.ahead.takeWhile isFiller)) :=
  Stateful.run_bind_of_ok (run_acceptWhile isFiller c)

/-! ## Where a text is cut -/

/-- The text `core ++ rest`, which does not start with a filler, is cut behind `core` with the given
verdict. The token has the characters `front` before that. -/
inductive Cuts (front : List Char) : Verdict → List Char → List Char → Prop where
  /-- At the end there is nothing to take. -/
  | endOfInput : Cuts front (.ok .endOfInput) [] []
  /-- A line break is taken alone. -/
  | endOfLine {x : Char} {rest : List Char} (hx : isLineBreak x = true) :
      Cuts front (.ok .endOfLine) [x] rest
  /-- Blanks are taken up to something else. -/
  | space {x : Char} {u rest : List Char} (hx : isBlank x = true) (hu : ∀ y ∈ u, isBlank y = true)
      (hrest : rest.head?.any isBlank = false) : Cuts front (.ok .space) (x :: u) rest
  /-- A numeral that neither a word nor a second numeral follows is a number. -/
  | number {u rest : List Char} (hbegin : beginsNumeral u = true)
      (hu : numeralSpan (u ++ rest) = u) (hword : rest.head?.any isWord = false)
      (hsign : rest.head?.any isSign = false) : Cuts front (.ok .number) u rest
  /-- A second numeral behind the first one that ends in `i` makes it complex. -/
  | complex {u v rest : List Char} (hbegin : beginsNumeral u = true)
      (hu : numeralSpan (u ++ (v ++ rest)) = u) (hsign : v.head?.any isSign = true)
      (hv : numeralSpan (v ++ rest) = v) (hword : rest.head?.any isWord = false)
      (hlast : v.getLast? = some 'i') : Cuts front (.ok .complex) (u ++ v) rest
  /-- A numeral that runs on into a word is no number. -/
  | runsOn {u : List Char} {x : Char} {rest : List Char} (hbegin : beginsNumeral u = true)
      (hu : numeralSpan (u ++ x :: rest) = u) (hx : isWord x = true) :
      Cuts front (.error (.badNumber (String.ofList (front ++ (u ++ [x]))))) (u ++ [x]) rest
  /-- A second numeral that runs on into a word spoils the number. -/
  | secondRunsOn {u v : List Char} {x : Char} {rest : List Char} (hbegin : beginsNumeral u = true)
      (hu : numeralSpan (u ++ (v ++ x :: rest)) = u) (hsign : v.head?.any isSign = true)
      (hv : numeralSpan (v ++ x :: rest) = v) (hx : isWord x = true) :
      Cuts front (.error (.badNumber (String.ofList (front ++ (u ++ (v ++ [x]))))))
        (u ++ (v ++ [x])) rest
  /-- A second numeral that does not end in `i` spoils the number. -/
  | notImaginary {u v rest : List Char} (hbegin : beginsNumeral u = true)
      (hu : numeralSpan (u ++ (v ++ rest)) = u) (hsign : v.head?.any isSign = true)
      (hv : numeralSpan (v ++ rest) = v) (hword : rest.head?.any isWord = false)
      (hlast : v.getLast? ≠ some 'i') :
      Cuts front (.error (.badNumber (String.ofList (front ++ (u ++ v))))) (u ++ v) rest
  /-- A word is taken whole, and only some characters may follow it. -/
  | word {u rest : List Char} (hne : u ≠ []) (hu : ∀ x ∈ u, isWord x = true)
      (hdigit : u.head?.any Char.isDigit = false) (hrest : rest.head?.all mayFollowWord = true) :
      Cuts front (.ok (.ofWord (String.ofList (front ++ u)))) u rest
  /-- Any other character behind a word is a fault. -/
  | badCharacter {u : List Char} {x : Char} {rest : List Char} (hne : u ≠ [])
      (hu : ∀ x ∈ u, isWord x = true) (hdigit : u.head?.any Char.isDigit = false)
      (hword : isWord x = false) (hx : mayFollowWord x = false) :
      Cuts front (.error (.badCharacter x)) u (x :: rest)

/-! ### Numbers -/

/-- A numeral is complete, or it runs on into a word and takes one character of it. -/
theorem exists_run_completeNumeral (c : Cursor) :
    (∃ c', completeNumeral.run c = .ok true c' ∧ c.Moves (numeralSpan c.ahead) c' ∧
        c'.ahead.head?.any isWord = false) ∨
      ∃ x c', completeNumeral.run c = .ok false c' ∧ c.Moves (numeralSpan c.ahead ++ [x]) c' ∧
        isWord x = true := by
  obtain ⟨c₁, hnumeral, hmove⟩ := reads_numeral c
  cases hnext : c₁.ahead.head?.any isWord with
  | false =>
      refine Or.inl ⟨c₁.past [], ?_, ?_, hnext⟩
      · simp [completeNumeral, hnumeral, hnext]
      · simpa using hmove.trans c₁.moves_past_nil
  | true =>
      obtain ⟨c₂, hread, hmove₂⟩ := reads_read (c₁.past [])
      cases hahead : c₁.ahead with
      | nil => simp [hahead] at hnext
      | cons x rest =>
          have hx : isWord x = true := by simpa [hahead] using hnext
          refine Or.inr ⟨x, c₂, ?_, ?_, hx⟩
          · rw [completeNumeral, Stateful.run_bind_of_ok hnumeral,
              Stateful.run_bind_of_ok (run_peek c₁), if_pos hnext, Stateful.run_bind_of_ok hread]
            rfl
          · have htaken : firstIf (fun _ => true) (c₁.past []).ahead = [x] := by
              simp [hahead, firstIf, behind]
            rw [htaken] at hmove₂
            simpa using hmove.trans (c₁.moves_past_nil.trans hmove₂)

/-- A numeral in front of something that is no word is taken and complete. -/
theorem exists_run_completeNumeral_of_complete {c : Cursor} {u rest : List Char}
    (hahead : c.ahead = u ++ rest) (hu : numeralSpan (u ++ rest) = u)
    (hword : rest.head?.any isWord = false) :
    ∃ c', completeNumeral.run c = .ok true c' ∧ c.Moves u c' := by
  rcases exists_run_completeNumeral c with ⟨c', hrun, hmove, -⟩ | ⟨x, c', -, hmove, hx⟩
  · rw [hahead, hu] at hmove
    exact ⟨c', hrun, hmove⟩
  · -- the numeral would run on into a word, but no word character follows it
    rw [hahead, hu] at hmove
    have hrest : rest = x :: c'.ahead := by simpa [hahead] using hmove.ahead
    rw [hrest] at hword
    simp [hx] at hword

/-- A second numeral is judged by its last character, unless it runs on into a word. -/
theorem exists_run_imaginaryPart {c : Cursor} {u front : List Char}
    (hlexeme : c.lexeme.reverse = front ++ u) (hbegin : beginsNumeral u = true)
    (hu : numeralSpan (u ++ c.ahead) = u) (hsign : c.ahead.head?.any isSign = true) :
    ∃ verdict v c', imaginaryPart.run c = .ok verdict c' ∧ c.Moves v c' ∧
      Cuts front verdict (u ++ v) c'.ahead := by
  have hbegin' : beginsNumeral c.ahead = true := beginsNumeral_of_isSign hsign
  have hne := numeralSpan_ne_nil hbegin'
  rw [← head?_numeralSpan hbegin'] at hsign
  generalize hv : numeralSpan c.ahead = v at hne hsign
  rcases exists_run_completeNumeral c with ⟨c', hrun, hmove, hword⟩ | ⟨x, c', hrun, hmove, hx⟩
  · rw [hv] at hmove
    have hu' : numeralSpan (u ++ (v ++ c'.ahead)) = u := by rw [← hmove.ahead, hu]
    have hv' : numeralSpan (v ++ c'.ahead) = v := by rw [← hmove.ahead, hv]
    -- the cursor looks at the last character of the whole token, which is one of the second numeral
    have hlexeme' : c'.lexeme.head? = v.getLast? := by
      rw [hmove.lexeme, List.head?_append, List.head?_reverse, List.getLast?_eq_some_getLast hne]
      rfl
    by_cases hlast : v.getLast? = some 'i'
    · refine ⟨_, v, c', ?_, hmove, .complex hbegin hu' hsign hv' hword hlast⟩
      rw [imaginaryPart, Stateful.run_bind_of_ok hrun]
      simp [hlexeme', hlast]
    · refine ⟨_, v, c', ?_, hmove, .notImaginary hbegin hu' hsign hv' hword hlast⟩
      rw [imaginaryPart, Stateful.run_bind_of_ok hrun]
      simp [hlexeme', hlast, badNumber, hmove.token_eq, hlexeme]
  · rw [hv] at hmove
    have hahead : c.ahead = v ++ x :: c'.ahead := by rw [hmove.ahead]; simp
    rw [hahead] at hu hv
    refine ⟨_, v ++ [x], c', ?_, hmove, .secondRunsOn hbegin hu hsign hv hx⟩
    rw [imaginaryPart, Stateful.run_bind_of_ok hrun]
    simp [badNumber, hmove.token_eq, hlexeme]

/-- A number is one numeral or two. -/
theorem exists_run_number {c : Cursor} (h : beginsNumeral c.ahead = true) :
    ∃ verdict u c', number.run c = .ok verdict c' ∧ c.Moves u c' ∧
      Cuts c.lexeme.reverse verdict u c'.ahead := by
  have hbegin : beginsNumeral (numeralSpan c.ahead) = true := by
    rw [beginsNumeral, head?_numeralSpan h]
    exact h
  generalize hu : numeralSpan c.ahead = u at hbegin
  rcases exists_run_completeNumeral c with ⟨c₁, hrun, hmove, hword⟩ | ⟨x, c', hrun, hmove, hx⟩
  · rw [hu] at hmove
    have hu' : numeralSpan (u ++ c₁.ahead) = u := by rw [← hmove.ahead, hu]
    cases hsign : c₁.ahead.head?.any isSign with
    | false =>
        refine ⟨_, u, c₁.past [], ?_, ?_, .number hbegin hu' hword hsign⟩
        · rw [number, Stateful.run_bind_of_ok hrun]
          simp [hsign]
        · simpa using hmove.trans c₁.moves_past_nil
    | true =>
        have hlexeme : (c₁.past []).lexeme.reverse = c.lexeme.reverse ++ u := by
          simp [hmove.lexeme]
        obtain ⟨verdict, v, c', hrun', hmove', hcuts⟩ :=
          exists_run_imaginaryPart hlexeme hbegin hu' hsign
        refine ⟨verdict, u ++ v, c', ?_, ?_, hcuts⟩
        · rw [number, Stateful.run_bind_of_ok hrun, if_pos rfl,
            Stateful.run_bind_of_ok (run_peek c₁), if_pos hsign, hrun']
        · exact hmove.trans (by simpa using c₁.moves_past_nil.trans hmove')
  · rw [hu] at hmove
    have hahead : c.ahead = u ++ x :: c'.ahead := by rw [hmove.ahead]; simp
    rw [hahead] at hu
    refine ⟨_, u ++ [x], c', ?_, hmove, .runsOn hbegin hu hx⟩
    rw [number, Stateful.run_bind_of_ok hrun]
    simp [badNumber, hmove.token_eq]

/-! ### Words -/

/-- A word is judged by the character behind it. -/
theorem exists_run_word {c : Cursor} (hword : c.ahead.head?.any isWord = true)
    (hdigit : c.ahead.head?.any Char.isDigit = false) :
    ∃ verdict u c', word.run c = .ok verdict c' ∧ c.Moves u c' ∧
      Cuts c.lexeme.reverse verdict u c'.ahead := by
  obtain ⟨c₁, hrun, hmove⟩ := reads_acceptWhile isWord c
  obtain ⟨hne, hhead⟩ := head?_takeWhile hword
  have hall : ∀ x ∈ c.ahead.takeWhile isWord, isWord x = true := fun x hx => of_mem_takeWhile hx
  have hstop : c₁.ahead.head?.any isWord = false := by
    rw [hmove.ahead_eq_drop, drop_length_takeWhile]
    exact head?_dropWhile_any isWord c.ahead
  rw [← hhead] at hdigit
  generalize c.ahead.takeWhile isWord = u at hne hall hmove hdigit
  have hmove' : c.Moves u (c₁.past []) := by simpa using hmove.trans c₁.moves_past_nil
  rw [← show (c₁.past []).ahead = c₁.ahead from rfl] at hstop
  have hpeek : peek.run c₁ = .ok (c₁.past []).ahead.head? (c₁.past []) := run_peek c₁
  generalize c₁.past [] = c' at hmove' hstop hpeek
  cases hbad : c'.ahead.head?.filter fun x => !mayFollowWord x with
  | none =>
      have hrest : c'.ahead.head?.all mayFollowWord = true := by
        cases hnext : c'.ahead.head? with
        | none => rfl
        | some x => simpa [hnext] using hbad
      refine ⟨_, u, c', ?_, hmove', .word hne hall hdigit hrest⟩
      rw [word, Stateful.run_bind_of_ok hrun, Stateful.run_bind_of_ok hpeek, hbad]
      simp [hmove'.token_eq]
  | some x =>
      obtain ⟨hnext, hx⟩ := Option.filter_eq_some_iff.mp hbad
      obtain ⟨rest, hahead⟩ := List.head?_eq_some_iff.mp hnext
      have hnot : isWord x = false := by simpa [hnext] using hstop
      refine ⟨.error (.badCharacter x), u, c', ?_, hmove', ?_⟩
      · rw [word, Stateful.run_bind_of_ok hrun, Stateful.run_bind_of_ok hpeek, hbad]
        rfl
      · rw [hahead]
        exact .badCharacter hne hall hdigit hnot (by simpa using hx)

/-! ### All tokens -/

/-- Behind the fillers a text is cut as the next character says. -/
theorem exists_run_bareLexeme {c : Cursor} (h : c.ahead.head?.any isFiller = false) :
    ∃ verdict u c', bareLexeme.run c = .ok verdict c' ∧ c.Moves u c' ∧
      Cuts c.lexeme.reverse verdict u c'.ahead := by
  cases hahead : c.ahead with
  | nil =>
      refine ⟨_, [], c.step.2, run_bareLexeme_of_nil hahead, c.moves_step_of_nil hahead, ?_⟩
      rw [Cursor.ahead_step, hahead]
      exact .endOfInput
  | cons x rest =>
      have hx : isFiller x = false := by simpa [hahead] using h
      have hstep : c.Moves [x] c.step.2 := c.moves_step_of_cons hahead
      cases hbreak : isLineBreak x with
      | true =>
          exact ⟨_, [x], _, run_bareLexeme_of_isLineBreak hahead hbreak, hstep, .endOfLine hbreak⟩
      | false =>
          cases hblank : isBlank x with
          | true =>
              refine ⟨_, _, _, run_bareLexeme_of_isBlank hahead hbreak hblank,
                hstep.trans (c.step.2.moves_past_takeWhile isBlank), ?_⟩
              rw [Cursor.ahead_past_takeWhile]
              exact .space hblank (fun y hy => of_mem_takeWhile hy) (head?_dropWhile_any isBlank _)
          | false =>
              have hplace : c.Moves [] (c.past []) := c.moves_past_nil
              cases hnumber : isSign x || x.isDigit with
              | true =>
                  have hbegin : beginsNumeral (c.past []).ahead = true := by
                    simpa [beginsNumeral, hahead] using hnumber
                  obtain ⟨verdict, u, c', hrun, hmove, hcuts⟩ := exists_run_number hbegin
                  rw [run_bareLexeme_of_number hahead hbreak hblank hnumber]
                  exact ⟨verdict, u, c', hrun, hplace.trans hmove, hcuts⟩
              | false =>
                  have hword : isWord x = true := by
                    rcases isFiller_eq_false_iff.mp hx with hx | hx | hx | hx
                    · simp [hx] at hbreak
                    · simp [hx] at hblank
                    · simp [hx] at hnumber
                    · exact hx
                  have hdigit : x.isDigit = false := (Bool.or_eq_false_iff.mp hnumber).2
                  obtain ⟨verdict, u, c', hrun, hmove, hcuts⟩ := exists_run_word (c := c.past [])
                    (by simpa [hahead] using hword) (by simpa [hahead] using hdigit)
                  rw [run_bareLexeme_of_word hahead hbreak hblank hnumber]
                  exact ⟨verdict, u, c', hrun, hplace.trans hmove, hcuts⟩

/-- Every scan of a token ends with a verdict. It has taken fillers and, behind them, what the text
there is cut into. -/
theorem exists_run_lexeme (c : Cursor) :
    ∃ verdict fillers core c', lexeme.run c = .ok verdict c' ∧ c.Moves (fillers ++ core) c' ∧
      (∀ x ∈ fillers, isFiller x = true) ∧
        Cuts (c.lexeme.reverse ++ fillers) verdict core c'.ahead := by
  have hmove := c.moves_past_takeWhile isFiller
  have hstop : (c.past (c.ahead.takeWhile isFiller)).ahead.head?.any isFiller = false := by
    rw [Cursor.ahead_past_takeWhile]
    exact head?_dropWhile_any isFiller c.ahead
  obtain ⟨verdict, core, c', hrun, hmove', hcuts⟩ := exists_run_bareLexeme hstop
  refine ⟨verdict, c.ahead.takeWhile isFiller, core, c', ?_, hmove.trans hmove', ?_, ?_⟩
  · rw [run_lexeme, hrun]
  · exact fun x hx => of_mem_takeWhile hx
  · simpa using hcuts

/-! ## Progress -/

/-- Only an end of input takes no character. -/
theorem Cuts.core_ne_nil {front core rest : List Char} {verdict : Verdict}
    (h : Cuts front verdict core rest) (hverdict : verdict ≠ .ok .endOfInput) : core ≠ [] := by
  have hnumeral : ∀ {u : List Char}, beginsNumeral u = true → ∀ v : List Char, u ++ v ≠ [] := by
    rintro u hu v hnil
    obtain ⟨rfl, -⟩ := List.append_eq_nil_iff.mp hnil
    simp [beginsNumeral] at hu
  cases h with
  | endOfInput => exact absurd rfl hverdict
  | endOfLine hx => simp
  | space hx hu hrest => simp
  | number hbegin hu hword hsign => simpa using hnumeral hbegin []
  | complex hbegin hu hsign hv hword hlast => exact hnumeral hbegin _
  | runsOn hbegin hu hx => exact hnumeral hbegin _
  | secondRunsOn hbegin hu hsign hv hx => exact hnumeral hbegin _
  | notImaginary hbegin hu hsign hv hword hlast => exact hnumeral hbegin _
  | word hne hu hdigit hrest => exact hne
  | badCharacter hne hu hdigit hword hx => exact hne

/-- Where a token is cut off behind which others can follow, it has a character. -/
theorem Cuts.ne_nil {front core rest : List Char} {kind : TokenKind}
    (h : Cuts front (.ok kind) core rest) (hkind : kind.isTerminal = false) : core ≠ [] :=
  h.core_ne_nil fun hinput => TokenKind.ne_endOfInput hkind (Except.ok.inj hinput)

/-- A token that is not terminal takes at least one character. -/
theorem length_ahead_lt_of_lexeme {c c' : Cursor} {kind : TokenKind}
    (h : lexeme.run c = .ok (.ok kind) c') (hkind : kind.isTerminal = false) :
    c'.ahead.length < c.ahead.length := by
  obtain ⟨verdict, fillers, core, c₁, hrun, hmove, -, hcuts⟩ := exists_run_lexeme c
  rw [h, EStateM.Result.ok.injEq] at hrun
  obtain ⟨rfl, rfl⟩ := hrun
  have hpos := List.length_pos_iff.mpr (hcuts.ne_nil hkind)
  rw [hmove.ahead]
  simp only [List.length_append]
  omega

end Scan

end ActionTemplate
