import ActionTemplate.Proofs.Rejection

/-!
# Cutting a text behind a line

No scan of a token looks beyond a line break. So if a text ends in one, or is empty, the tokens of a
longer text that begins with it are the tokens of both parts: `Division.append` says so of divisions,
where a fault in the first part ends all, and `drain_append` of what a scanner hands out.

Places and lines are counted on from the first part. Within it they are as if nothing followed.
-/

namespace ActionTemplate

open Text

/-! ## Tokens further on -/

/-- The token as it is when `n` bytes more stand in front of the text. -/
def Token.moved (n : Nat) (t : Token) : Token := { t with pos := n + t.pos }

/-- The tokens of a text whose first part has the tokens `ts` and whose second part has, at their
places in the whole, the tokens `us`. The end of the first part is none of the whole, but a fault in
it ends all. -/
def continued (ts us : List Token) : List Token :=
  match faultIn? ts with
  | some _ => ts
  | none => ts.dropLast ++ us

/-- A token that is not terminal stays in front. -/
theorem continued_cons {t : Token} {ts : List Token} (ht : t.kind.isTerminal = false)
    (hts : ts ≠ []) (us : List Token) : continued (t :: ts) us = t :: continued ts us := by
  unfold continued
  rw [faultIn?_cons ht, List.dropLast_cons_of_ne_nil hts]
  cases faultIn? ts <;> rfl

/-- A fault is in the first part or in the second. -/
theorem faultIn?_continued {ts : List Token} (h : Run ts) (us : List Token) :
    faultIn? (continued ts us) = (faultIn? ts).or (faultIn? us) := by
  induction h with
  | @last t hterminal =>
      cases hfault : faultIn? [t] <;> simp [continued, hfault]
  | @cons t ts hkind hrest ih =>
      rw [continued_cons hkind hrest.ne_nil, faultIn?_cons hkind, faultIn?_cons hkind, ih]

/-- A fault moves with its token. -/
theorem faultIn?_map_moved (n : Nat) (ts : List Token) :
    faultIn? (ts.map (Token.moved n)) = (faultIn? ts).map fun found => (found.1, n + found.2) := by
  unfold faultIn?
  induction ts with
  | nil => rfl
  | cons t ts ih =>
      rw [List.map_cons, List.findSome?_cons, List.findSome?_cons, ih]
      simp only [Token.moved]
      cases t.kind <;> rfl

variable [Alphabet]

/-! ## Cuts in front of more text -/

namespace Scan

/-- A token is a line break, or it contains none. -/
theorem Cuts.isLineBreak_cases {front core rest : List Char} {verdict : Verdict}
    (h : Cuts front verdict core rest) :
    (∃ x, isLineBreak x = true ∧ core = [x] ∧ verdict = .ok .endOfLine) ∨
      ∀ c ∈ core, isLineBreak c = false := by
  have hnumeral : ∀ {u rest : List Char}, numeralSpan (u ++ rest) = u →
      ∀ c ∈ u, isLineBreak c = false := fun hu =>
    unbroken_numerals _ (isLongest_numerals_iff.mpr hu).mem
  have hword : ∀ {c : Char}, isWord c = true → isLineBreak c = false := by
    intro c hc
    cases hbreak : isLineBreak c with
    | false => rfl
    | true => simp [isWord_eq_false_of_isLineBreak hbreak] at hc
  have hblank : ∀ {c : Char}, isBlank c = true → isLineBreak c = false := by
    intro c hc
    cases hbreak : isLineBreak c with
    | false => rfl
    | true => simp [(isBlank_isSign_eq_false_of_isLineBreak hbreak).1] at hc
  cases h with
  | @endOfLine x _ hx => exact Or.inl ⟨x, hx, rfl, rfl⟩
  | endOfInput => exact Or.inr (by simp)
  | space hx hu hrest => exact Or.inr (List.forall_mem_cons.mpr ⟨hblank hx, fun c hc => hblank (hu c hc)⟩)
  | number hbegin hu hnot hsign => exact Or.inr (hnumeral hu)
  | complex hbegin hu hsign hv hnot hlast =>
      exact Or.inr (List.forall_mem_append.mpr ⟨hnumeral hu, hnumeral hv⟩)
  | runsOn hbegin hu hx =>
      exact Or.inr (List.forall_mem_append.mpr ⟨hnumeral hu, by simpa using hword hx⟩)
  | secondRunsOn hbegin hu hsign hv hx =>
      exact Or.inr (List.forall_mem_append.mpr ⟨hnumeral hu,
        List.forall_mem_append.mpr ⟨hnumeral hv, by simpa using hword hx⟩⟩)
  | notImaginary hbegin hu hsign hv hnot hlast =>
      exact Or.inr (List.forall_mem_append.mpr ⟨hnumeral hu, hnumeral hv⟩)
  | word hne hu hdigit hrest => exact Or.inr fun c hc => hword (hu c hc)
  | badCharacter hne hu hdigit hnot hx => exact Or.inr fun c hc => hword (hu c hc)

/-- Behind what is left at least one character, more text may follow. -/
theorem Cuts.append_of_ne_nil {front core rest : List Char} {verdict : Verdict}
    (h : Cuts front verdict core rest) (hne : rest ≠ []) (more : List Char) :
    Cuts front verdict core (rest ++ more) := by
  have hhead : ∀ {p : Char → Bool} {b : Bool}, rest.head?.any p = b →
      (rest ++ more).head?.any p = b := by
    rintro p b rfl
    rw [List.head?_append_of_ne_nil _ hne]
  cases h with
  | endOfInput => exact absurd rfl hne
  | endOfLine hx => exact .endOfLine hx
  | space hx hu hrest => exact .space hx hu (hhead hrest)
  | number hbegin hu hword hsign =>
      exact .number hbegin (numeralSpan_append_of_ne_nil hu hne more) (hhead hword) (hhead hsign)
  | complex hbegin hu hsign hv hword hlast =>
      have hu' := numeralSpan_append_of_ne_nil hu (by simp [hne]) more
      rw [List.append_assoc] at hu'
      exact .complex hbegin hu' hsign (numeralSpan_append_of_ne_nil hv hne more) (hhead hword) hlast
  | runsOn hbegin hu hx =>
      exact .runsOn hbegin (numeralSpan_append_of_ne_nil hu (by simp) more) hx
  | secondRunsOn hbegin hu hsign hv hx =>
      have hu' := numeralSpan_append_of_ne_nil hu (by simp) more
      rw [List.append_assoc] at hu'
      exact .secondRunsOn hbegin hu' hsign (numeralSpan_append_of_ne_nil hv (by simp) more) hx
  | notImaginary hbegin hu hsign hv hword hlast =>
      have hu' := numeralSpan_append_of_ne_nil hu (by simp [hne]) more
      rw [List.append_assoc] at hu'
      exact .notImaginary hbegin hu' hsign (numeralSpan_append_of_ne_nil hv hne more)
        (hhead hword) hlast
  | word hne' hu hdigit hrest =>
      refine .word hne' hu hdigit ?_
      rwa [List.head?_append_of_ne_nil _ hne]
  | badCharacter hne' hu hdigit hword hx => exact .badCharacter hne' hu hdigit hword hx

/-- In a text that ends in a line break only a line break is the last token in front of the end. -/
theorem Cuts.eq_endOfLine_or_ne_nil {front core rest : List Char} {verdict : Verdict}
    (h : Cuts front verdict core rest) (hend : (core ++ rest).getLast?.all isLineBreak = true)
    (hinput : verdict ≠ .ok .endOfInput) :
    (∃ x, isLineBreak x = true ∧ core = [x] ∧ verdict = .ok .endOfLine) ∨ rest ≠ [] := by
  refine h.isLineBreak_cases.imp_right fun hnot => ?_
  rintro rfl
  have hne := h.core_ne_nil hinput
  rw [List.append_nil, List.getLast?_eq_some_getLast hne] at hend
  simp [hnot _ (List.getLast_mem hne)] at hend

/-- Behind the end of a line more text may follow. -/
theorem Cuts.append {front core rest : List Char} {verdict : Verdict}
    (h : Cuts front verdict core rest) (hend : (core ++ rest).getLast?.all isLineBreak = true)
    (hinput : verdict ≠ .ok .endOfInput) (more : List Char) :
    Cuts front verdict core (rest ++ more) := by
  rcases h.eq_endOfLine_or_ne_nil hend hinput with ⟨x, hx, rfl, rfl⟩ | hne
  · exact .endOfLine hx
  · exact h.append_of_ne_nil hne more

end Scan

/-! ## Divisions of two parts -/

omit [Alphabet] in
/-- What is left at the end of a text ends as the text does. -/
theorem getLast?_all_of_append {p : Char → Bool} {u v : List Char}
    (h : (u ++ v).getLast?.all p = true) : v.getLast?.all p = true := by
  cases v with
  | nil => rfl
  | cons x v => rwa [List.getLast?_append_of_ne_nil _ (by simp)] at h

/-- Fillers do not end in a line break. -/
theorem eq_nil_of_fillers {fillers : List Char} (hfillers : ∀ x ∈ fillers, isFiller x = true)
    (hend : fillers.getLast?.all isLineBreak = true) : fillers = [] := by
  cases hlast : fillers.getLast? with
  | none => exact List.getLast?_eq_none_iff.mp hlast
  | some x =>
      have hx := hfillers x (List.mem_of_getLast? hlast)
      simp only [hlast, Option.all_some] at hend
      simp [isFiller, hend] at hx

namespace Division

variable {pos : Nat} {text : List Char} {tokens : List Token}

/-- With more text in front the tokens stand further on. -/
theorem moved (h : Division pos text tokens) (n : Nat) :
    Division (n + pos) text (tokens.map (Token.moved n)) := by
  induction h with
  | endOfInput hfillers => exact .endOfInput hfillers
  | fault hfillers hcuts => exact .fault hfillers hcuts
  | token hfillers hcuts hkind hrest ih =>
      rw [← Nat.add_assoc] at ih
      exact .token hfillers hcuts hkind ih

/-- A text that ends in a line break, or is empty, can be divided together with what follows it. -/
theorem append (h : Division pos text tokens) (hend : text.getLast?.all isLineBreak = true)
    {more : List Char} {others : List Token} (hmore : Division (pos + byteLength text) more others) :
    Division pos (text ++ more) (continued tokens others) := by
  induction h with
  | @endOfInput pos fillers hfillers =>
      obtain rfl := eq_nil_of_fillers hfillers hend
      exact hmore
  | @fault pos fillers core rest fault hfillers hcuts =>
      have hend' := getLast?_all_of_append (List.append_assoc _ _ _ ▸ hend)
      rw [List.append_assoc]
      exact .fault hfillers (hcuts.append hend' (by simp) more)
  | @token pos fillers core rest kind tokens hfillers hcuts hkind hrest ih =>
      have hend' := getLast?_all_of_append (List.append_assoc _ _ _ ▸ hend)
      have hinput : (Except.ok kind : Verdict) ≠ .ok .endOfInput := by
        simpa using TokenKind.ne_endOfInput hkind
      have hothers := ih (getLast?_all_of_append hend)
        (by rwa [byteLength_append, ← Nat.add_assoc] at hmore)
      rw [List.append_assoc, continued_cons hkind hrest.run.ne_nil]
      exact .token hfillers (hcuts.append hend' hinput more) hkind hothers

/-- If a text ends in a line break, or is empty, so do its tokens up to the end of input. -/
theorem endOfLine_of_getLast? (h : Division pos text tokens)
    (hend : text.getLast?.all isLineBreak = true) (hfault : faultIn? tokens = none) :
    tokens.dropLast.getLast?.all (fun t => decide (t.kind = .endOfLine)) = true := by
  induction h with
  | endOfInput hfillers => rfl
  | fault hfillers hcuts => rfl
  | @token pos fillers core rest kind tokens hfillers hcuts hkind hrest ih =>
      have hfault' : faultIn? tokens = none := by
        rwa [faultIn?_cons hkind] at hfault
      have hrestEnd := getLast?_all_of_append hend
      rw [List.dropLast_cons_of_ne_nil hrest.run.ne_nil]
      by_cases hnil : tokens.dropLast = []
      · -- this is the last token, so nothing but the end of input follows it
        have hnone : rest = [] := by
          cases hrest with
          | endOfInput hfillers' => exact eq_nil_of_fillers hfillers' hrestEnd
          | fault hfillers' hcuts' => simp [faultIn?, Token.ofFault] at hfault'
          | token hfillers' hcuts' hkind' hrest' =>
              rw [List.dropLast_cons_of_ne_nil hrest'.run.ne_nil] at hnil
              cases hnil
        have hinput : (Except.ok kind : Verdict) ≠ .ok .endOfInput := by
          simpa using TokenKind.ne_endOfInput hkind
        rcases hcuts.eq_endOfLine_or_ne_nil
          (getLast?_all_of_append (List.append_assoc _ _ _ ▸ hend)) hinput with
          ⟨x, -, -, hkind'⟩ | hne
        · simpa [hnil] using Except.ok.inj hkind'
        · exact absurd hnone hne
      · rw [← List.singleton_append, List.getLast?_append_of_ne_nil _ hnil]
        exact ih hrestEnd hfault'

/-- No token starts behind the text. -/
theorem pos_le (h : Division pos text tokens) : ∀ t ∈ tokens, t.pos ≤ pos + byteLength text := by
  induction h with
  | endOfInput hfillers => simp
  | fault hfillers hcuts => simp [Token.ofFault]
  | token hfillers hcuts hkind hrest ih =>
      intro t ht
      rcases List.mem_cons.mp ht with rfl | ht
      · exact Nat.le_add_right _ _
      · have := ih t ht
        rw [byteLength_append]
        omega

end Division

/-- A scanner hands out the tokens of both parts. -/
theorem Scanner.drain_append {u v : String} (hu : u.toList.getLast?.all isLineBreak = true) :
    (ofString (u ++ v)).drain.1 = continued (ofString u).drain.1
      ((ofString v).drain.1.map (Token.moved (byteLength u.toList))) := by
  have hwhole := division_ofString (u ++ v)
  have hsecond := (division_ofString v).moved (byteLength u.toList)
  rw [Nat.add_zero] at hsecond
  rw [String.toList_append] at hwhole
  exact hwhole.unique ((division_ofString u).append hu (by rwa [Nat.zero_add]))

end ActionTemplate
