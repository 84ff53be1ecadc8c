import ActionTemplate.Scanner

/-!
# Dividing a text into tokens

A text is divided into tokens from its beginning to its end, or to the first fault. `Division` says
so without a scanner: the fillers in front of a token and the token itself are cut off, and the rest
is divided in the same way.

A scanner stands `At` a place of its text while it has not finished. The main facts are
`exists_next_of_at`, what one request leads to, and `division_drain`, the tokens that a scanner
hands out from there are those of a division of what is left of the text.
-/

namespace ActionTemplate

open Text

variable [Alphabet]

/-! ## Divisions -/

/-- The text, which starts at the byte offset `pos`, is divided into the given tokens. The last of
them is the end of the input or a fault, behind which the text is not looked at. -/
inductive Division : Nat → List Char → List Token → Prop where
  /-- At the end there are only fillers left. -/
  | endOfInput {pos : Nat} {fillers : List Char} (hfillers : ∀ x ∈ fillers, isFiller x = true) :
      Division pos fillers [⟨.endOfInput, String.ofList fillers, pos⟩]
  /-- A fault shows where the next token should be. -/
  | fault {pos : Nat} {fillers core rest : List Char} {fault : LexFault}
      (hfillers : ∀ x ∈ fillers, isFiller x = true)
      (hcuts : Scan.Cuts fillers (.error fault) core rest) :
      Division pos (fillers ++ core ++ rest) [Token.ofFault fault pos]
  /-- A token is cut off, and others follow. -/
  | token {pos : Nat} {fillers core rest : List Char} {kind : TokenKind} {tokens : List Token}
      (hfillers : ∀ x ∈ fillers, isFiller x = true)
      (hcuts : Scan.Cuts fillers (.ok kind) core rest) (hkind : kind.isTerminal = false)
      (hrest : Division (pos + byteLength (fillers ++ core)) rest tokens) :
      Division pos (fillers ++ core ++ rest)
        (⟨kind, String.ofList (fillers ++ core), pos⟩ :: tokens)

/-- Of the kinds that the scan of a token yields only the end of the input is terminal, and nothing
is left behind it. -/
theorem Scan.Cuts.eq_nil_of_isTerminal {front core rest : List Char} {kind : TokenKind}
    (h : Scan.Cuts front (.ok kind) core rest) (hkind : kind.isTerminal = true) :
    kind = .endOfInput ∧ core = [] ∧ rest = [] := by
  generalize hverdict : (Except.ok kind : Verdict) = verdict at h
  cases h with
  | endOfInput => exact ⟨Except.ok.inj hverdict, rfl, rfl⟩
  | endOfLine hx =>
      cases hverdict
      simp [TokenKind.isTerminal] at hkind
  | space hx hu hrest =>
      cases hverdict
      simp [TokenKind.isTerminal] at hkind
  | number hbegin hu hword hsign =>
      cases hverdict
      simp [TokenKind.isTerminal] at hkind
  | complex hbegin hu hsign hv hword hlast =>
      cases hverdict
      simp [TokenKind.isTerminal] at hkind
  | word hne hu hdigit hrest =>
      cases hverdict
      simp [TokenKind.isTerminal_ofWord] at hkind
  | runsOn hbegin hu hx => simp at hverdict
  | secondRunsOn hbegin hu hsign hv hx => simp at hverdict
  | notImaginary hbegin hu hsign hv hword hlast => simp at hverdict
  | badCharacter hne hu hdigit hword hx => simp at hverdict

/-- Every token that is no fault is cut off somewhere in the text, and its offset counts the bytes
before it. -/
theorem Division.exists_cuts {pos : Nat} {text : List Char} {tokens : List Token}
    (h : Division pos text tokens) :
    ∀ t ∈ tokens, (∀ fault, t.kind ≠ .error fault) →
      ∃ before fillers core after, text = before ++ (fillers ++ core) ++ after ∧
        t.pos = pos + byteLength before ∧ t.value = String.ofList (fillers ++ core) ∧
        (∀ x ∈ fillers, isFiller x = true) ∧ Scan.Cuts fillers (.ok t.kind) core after := by
  induction h with
  | @endOfInput pos fillers hfillers =>
      intro t ht _
      rw [List.mem_singleton.mp ht]
      exact ⟨[], fillers, [], [], by simp, rfl, by simp, hfillers, .endOfInput⟩
  | fault hfillers hcuts =>
      intro t ht hfault
      rw [List.mem_singleton.mp ht] at hfault
      exact absurd rfl (hfault _)
  | @token pos fillers core rest kind tokens hfillers hcuts hkind hrest ih =>
      intro t ht hfault
      rcases List.mem_cons.mp ht with rfl | ht
      · exact ⟨[], fillers, core, rest, by simp, rfl, rfl, hfillers, hcuts⟩
      · -- the token is one of the rest, so the whole first token lies before it
        obtain ⟨before, fillers', core', after, rfl, hpos, hvalue, hfillers', hcuts'⟩ :=
          ih t ht hfault
        refine ⟨fillers ++ core ++ before, fillers', core', after, by simp, ?_, hvalue, hfillers',
          hcuts'⟩
        rw [hpos, byteLength_append (fillers ++ core)]
        omega

/-- In front of any of its tokens a division can be broken off and the rest of the text be divided
apart. What lies before that is made up of the values of the tokens in front. -/
theorem Division.exists_append {pos : Nat} {text : List Char} {init tokens : List Token}
    (h : Division pos text (init ++ tokens)) (hne : tokens ≠ []) :
    ∃ rest, text = (init.flatMap fun t => t.value.toList) ++ rest ∧
      Division (pos + byteLength (init.flatMap fun t => t.value.toList)) rest tokens := by
  induction init generalizing pos text with
  | nil => exact ⟨text, rfl, h⟩
  | cons first init ih =>
      have hne' : init ++ tokens ≠ [] := by simp [hne]
      generalize hall : first :: init ++ tokens = all at h
      cases h with
      | endOfInput hfillers => exact absurd (List.cons_eq_cons.mp hall).2 hne'
      | fault hfillers hcuts => exact absurd (List.cons_eq_cons.mp hall).2 hne'
      | @token _ fillers core rest kind others hfillers hcuts hkind hrest =>
          obtain ⟨rfl, rfl⟩ := List.cons_eq_cons.mp hall
          obtain ⟨left, rfl, hleft⟩ := ih hrest
          refine ⟨left, by simp, ?_⟩
          simpa [Nat.add_assoc] using hleft

/-! ## Scanners -/

namespace Scanner

/-- The scanner has handed out the tokens of the front part `before` of its text and none of what
lies behind it, which is `after`. -/
structure At (s : Scanner) (before after : List Char) : Prop where
  text : s.text = before ++ after
  ahead : s.cursor.ahead = after
  lexeme : s.cursor.lexeme = []
  start : s.cursor.start = byteLength before
  pos : s.cursor.pos = byteLength before
  finished : s.finished = false

omit [Alphabet] in
/-- A new scanner stands at the beginning of its text. -/
theorem at_ofString (text : String) : (ofString text).At [] text.toList :=
  ⟨rfl, rfl, rfl, rfl, rfl, rfl⟩

/-- A request leads behind the next token, or to the end. -/
theorem exists_next_of_at {s : Scanner} {before after : List Char} (h : s.At before after) :
    ∃ fillers core rest, after = fillers ++ core ++ rest ∧
      (∀ x ∈ fillers, isFiller x = true) ∧
      s.next.2.text = s.text ∧ s.next.2.lastPos = byteLength before ∧
      ((∃ kind, kind.isTerminal = false ∧ Scan.Cuts fillers (.ok kind) core rest ∧
          s.next.1 = ⟨kind, String.ofList (fillers ++ core), byteLength before⟩ ∧
          s.next.2.At (before ++ (fillers ++ core)) rest) ∨
        (core = [] ∧ rest = [] ∧ s.next.2.finished = true ∧
          s.next.1 = ⟨.endOfInput, String.ofList fillers, byteLength before⟩) ∨
        ∃ fault, Scan.Cuts fillers (.error fault) core rest ∧ s.next.2.finished = true ∧
          s.next.1 = Token.ofFault fault (byteLength before)) := by
  obtain ⟨verdict, fillers, core, c, hrun, hmove, hfillers, hcuts⟩ :=
    Scan.exists_run_lexeme s.cursor
  have hahead : after = fillers ++ core ++ c.ahead := by rw [← h.ahead, hmove.ahead]
  have hstart : c.start = byteLength before := by rw [hmove.start, h.start]
  have htoken : c.token = String.ofList (fillers ++ core) := by
    rw [hmove.token_eq, h.lexeme]
    rfl
  rw [h.lexeme, List.reverse_nil, List.nil_append] at hcuts
  refine ⟨fillers, core, c.ahead, hahead, hfillers, ?_⟩
  cases verdict with
  | error fault =>
      -- the cursor stays within the token, but a scanner that has finished never asks it again
      have hnext : s.next = (Token.ofFault fault c.start,
          { s with cursor := c, lastPos := c.start, finished := true }) := by
        rw [next, if_neg (by simp [h.finished]), hrun]
      rw [hnext, hstart]
      exact ⟨rfl, rfl, Or.inr (Or.inr ⟨fault, hcuts, rfl, rfl⟩)⟩
  | ok kind =>
      have hnext : s.next = (⟨kind, c.token, c.start⟩,
          { s with cursor := c.cut, lastPos := c.start, finished := kind.isTerminal }) := by
        rw [next, if_neg (by simp [h.finished]), hrun]
      rw [hnext, hstart, htoken]
      refine ⟨rfl, rfl, ?_⟩
      cases hkind : kind.isTerminal with
      | false =>
          refine Or.inl ⟨kind, hkind, hcuts, rfl, ?_⟩
          have hpos : c.pos = byteLength (before ++ (fillers ++ core)) := by
            rw [hmove.pos, h.pos, byteLength_append before]
          exact ⟨by simp [h.text, hahead], rfl, rfl, hpos, hpos, rfl⟩
      | true =>
          obtain ⟨rfl, rfl, hrest⟩ := hcuts.eq_nil_of_isTerminal hkind
          rw [List.append_nil]
          exact Or.inr (Or.inl ⟨rfl, hrest, rfl, rfl⟩)

/-- A request does not change the text. -/
theorem At.text_next {s : Scanner} {before after : List Char} (h : s.At before after) :
    s.next.2.text = s.text := by
  obtain ⟨fillers, core, rest, -, -, htext, -⟩ := exists_next_of_at h
  exact htext

/-- After a request the line is that of the token handed out. -/
theorem At.line_next {s : Scanner} {before after : List Char} (h : s.At before after) :
    s.next.2.line = lineAt s.text s.next.1.pos := by
  obtain ⟨fillers, core, rest, -, -, htext, hlast, hnext⟩ := exists_next_of_at h
  have hpos : s.next.1.pos = byteLength before := by
    rcases hnext with ⟨kind, -, -, heq, -⟩ | ⟨-, -, -, heq⟩ | ⟨fault, -, -, heq⟩ <;> rw [heq]
    rfl
  rw [line, htext, hlast, hpos]

/-- Behind a token that is not terminal the scanner stands at a place again. -/
theorem At.exists_at_next {s : Scanner} {before after : List Char} (h : s.At before after)
    (hkind : s.next.1.kind.isTerminal = false) :
    ∃ before' after', s.next.2.At before' after' := by
  obtain ⟨fillers, core, rest, -, -, -, -, hnext⟩ := exists_next_of_at h
  rcases hnext with ⟨kind, -, -, -, hat⟩ | ⟨-, -, -, heq⟩ | ⟨fault, -, -, heq⟩
  · exact ⟨_, _, hat⟩
  · rw [heq] at hkind
    cases hkind
  · rw [heq] at hkind
    cases hkind

/-- Behind the terminal token every request is answered by an empty end of input. -/
theorem At.next_next {s : Scanner} {before after : List Char} (h : s.At before after)
    (hkind : s.next.1.kind.isTerminal = true) :
    s.next.2.next = (Token.endAt (byteLength s.text), s.next.2) := by
  obtain ⟨fillers, core, rest, -, -, htext, -, hnext⟩ := exists_next_of_at h
  have hfinished : s.next.2.finished = true := by
    rcases hnext with ⟨kind, hnot, -, heq, -⟩ | ⟨-, -, hfinished, -⟩ | ⟨fault, -, hfinished, -⟩
    · simp [heq, hnot] at hkind
    · exact hfinished
    · exact hfinished
  rw [next, if_pos hfinished, sentinel, htext]

/-- The tokens that a scanner hands out are those of a division of the text before it. -/
theorem division_drain {s : Scanner} {before after : List Char} (h : s.At before after) :
    Division (byteLength before) after s.drain.1 := by
  fun_induction drain s generalizing before after with
  | case1 s hterminal =>
      obtain ⟨fillers, core, rest, rfl, hfillers, -, -, hnext⟩ := exists_next_of_at h
      rcases hnext with ⟨kind, hkind, -, heq, -⟩ | ⟨rfl, rfl, -, heq⟩ | ⟨fault, hcuts, -, heq⟩
      · rw [heq] at hterminal
        simp [hkind] at hterminal
      · rw [heq, List.append_nil, List.append_nil]
        exact .endOfInput hfillers
      · rw [heq]
        exact .fault hfillers hcuts
  | case2 s hterminal tokens s' hdrain ih =>
      obtain ⟨fillers, core, rest, rfl, hfillers, -, -, hnext⟩ := exists_next_of_at h
      rcases hnext with ⟨kind, hkind, hcuts, heq, hat⟩ | ⟨-, -, -, heq⟩ | ⟨fault, -, -, heq⟩
      · have hrest := ih hat
        rw [byteLength_append, hdrain] at hrest
        rw [heq]
        exact .token hfillers hcuts hkind hrest
      · rw [heq] at hterminal
        simp [TokenKind.isTerminal] at hterminal
      · rw [heq] at hterminal
        simp [Token.ofFault, TokenKind.isTerminal] at hterminal

/-- A text is divided into the tokens that a new scanner hands out. -/
theorem division_ofString (text : String) : Division 0 text.toList (ofString text).drain.1 :=
  division_drain (at_ofString text)

end Scanner

end ActionTemplate
