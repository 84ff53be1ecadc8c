import ActionTemplate.Proofs.Composition
import ActionTemplate.Proofs.Shape
import Mathlib.Data.List.DropRight

/-!
# The outline of a text

What a template holds can be told from the characters of its text, without any token. Cut at its line
breaks a text falls into segments. A segment has content if there is a sign or a word character in
it, and then it is an action; the action starts behind the last blank in front of the first content,
as fillers belong to the token that follows them. Other segments hold nothing, however many fillers
there are in them.

`Division.nodes_eq_outlineFrom` follows a division of the text into tokens: blanks and line breaks
are passed over one by one, and the head of a line decides for the line. The last result says what
this makes of a parse that succeeds.
-/

namespace ActionTemplate

open Text

/-! ## Content -/

namespace Text

variable [Alphabet]

/-- A character that gives content to its line: a sign or a word character. -/
def isContent (c : Char) : Bool := isSign c || isWord c

/-- A blank is no content. -/
theorem isContent_eq_false_of_isBlank {c : Char} (h : isBlank c = true) : isContent c = false := by
  rw [isContent, isSign_eq_false_of_isBlank h, isWord_eq_false_of_isBlank h]
  rfl

/-- A line break is no content. -/
theorem isContent_eq_false_of_isLineBreak {c : Char} (h : isLineBreak c = true) :
    isContent c = false := by
  rw [isContent, (isBlank_isSign_eq_false_of_isLineBreak h).2, isWord_eq_false_of_isLineBreak h]
  rfl

/-- A filler is no content. -/
theorem isContent_eq_false_of_isFiller {c : Char} (h : isFiller c = true) :
    isContent c = false := by
  obtain ⟨-, -, hsign, hword⟩ := eq_false_of_isFiller h
  rw [isContent, hsign, hword]
  rfl

end Text

/-! ## Segments -/

/-- A piece of a text between two line breaks, or between a line break and an end of the text. -/
structure Segment where
  /-- The text in front of the piece. -/
  before : List Char
  /-- The characters of the piece. -/
  chars : List Char
  deriving DecidableEq, Repr

/-- The segments of a text of which the part `before` and, behind it, the piece `seg` of a segment
have been seen. -/
def segmentsFrom (before seg : List Char) : List Char → List Segment
  | [] => [⟨before, seg⟩]
  | c :: u =>
      if isLineBreak c then ⟨before, seg⟩ :: segmentsFrom (before ++ seg ++ [c]) [] u
      else segmentsFrom before (seg ++ [c]) u

/-- The segments of a text. -/
def segments (text : List Char) : List Segment := segmentsFrom [] [] text

/-- Without a line break the segment goes on. -/
theorem segmentsFrom_append {w : List Char} (hw : ∀ c ∈ w, isLineBreak c = false)
    (before seg u : List Char) :
    segmentsFrom before seg (w ++ u) = segmentsFrom before (seg ++ w) u := by
  induction w generalizing seg with
  | nil => simp
  | cons c w ih =>
      obtain ⟨hc, hw⟩ := List.forall_mem_cons.mp hw
      rw [List.cons_append, segmentsFrom, if_neg (by simp [hc]), ih hw]
      simp

/-- The segments are the pieces that are left when the text is split at its line breaks. -/
theorem map_chars_segments (text : List Char) :
    (segments text).map Segment.chars = text.splitOnP isLineBreak := by
  have hfrom : ∀ before seg, (segmentsFrom before seg text).map Segment.chars =
      (text.splitOnP isLineBreak).modifyHead (seg ++ ·) := by
    induction text with
    | nil =>
        intro before seg
        simp [segmentsFrom, List.splitOnP_nil]
    | cons c u ih =>
        intro before seg
        rw [List.splitOnP_cons_eq_if_modifyHead, segmentsFrom]
        split
        · rw [List.map_cons, ih]
          cases List.splitOnP isLineBreak u <;> simp
        · rw [ih, List.modifyHead_modifyHead]
          congr 1
          funext w
          simp
  rw [segments, hfrom]
  cases List.splitOnP isLineBreak text <;> simp

/-- A segment is a piece of the text without a line break, and both ends of it are line breaks or ends
of the text. -/
theorem exists_of_mem_segments {s : Segment} {text : List Char} (h : s ∈ segments text) :
    ∃ after, text = s.before ++ s.chars ++ after ∧ (∀ c ∈ s.chars, isLineBreak c = false) ∧
      s.before.getLast?.all isLineBreak = true ∧ after.head?.all isLineBreak = true := by
  have hfrom : ∀ before seg, before.getLast?.all isLineBreak = true →
      (∀ c ∈ seg, isLineBreak c = false) → s ∈ segmentsFrom before seg text →
      ∃ after, before ++ seg ++ text = s.before ++ s.chars ++ after ∧
        (∀ c ∈ s.chars, isLineBreak c = false) ∧
        s.before.getLast?.all isLineBreak = true ∧ after.head?.all isLineBreak = true := by
    clear h
    induction text with
    | nil =>
        intro before seg hbefore hseg hs
        obtain rfl := List.mem_singleton.mp hs
        exact ⟨[], rfl, hseg, hbefore, rfl⟩
    | cons c u ih =>
        intro before seg hbefore hseg hs
        rw [segmentsFrom] at hs
        split at hs
        · rename_i hbreak
          rcases List.mem_cons.mp hs with rfl | hs
          · exact ⟨c :: u, rfl, hseg, hbefore, by simpa using hbreak⟩
          · obtain ⟨after, htext, hends⟩ := ih _ _ (by simpa using hbreak) (by simp) hs
            exact ⟨after, by rw [← htext]; simp, hends⟩
        · rename_i hbreak
          have hseg' : ∀ d ∈ seg ++ [c], isLineBreak d = false :=
            List.forall_mem_append.mpr ⟨hseg, by simpa using hbreak⟩
          obtain ⟨after, htext, hends⟩ := ih _ _ hbefore hseg' hs
          exact ⟨after, by rw [← htext]; simp, hends⟩
  exact hfrom [] [] rfl (by simp) h

namespace Segment

variable [Alphabet]

/-- Whether there is content in the segment. -/
def hasContent (s : Segment) : Bool := s.chars.any isContent

/-- What stands in front of the first content, up to the last blank there. -/
def lead (s : Segment) : List Char :=
  (s.chars.takeWhile fun c => !isContent c).rdropWhile fun c => !isBlank c

/-- The action that begins behind the lead of the segment. -/
def action (s : Segment) : Node :=
  .action (byteLength (s.before ++ s.lead)) (1 + newlines s.before)

end Segment

section

variable [Alphabet]

/-- The actions of the segments with content. -/
def actionsOf (ss : List Segment) : List Node := (ss.filter Segment.hasContent).map Segment.action

/-- The outline of a text: an action for each segment that has content, in their order. -/
def outline (text : List Char) : List Node := actionsOf (segments text)

/-- The actions of two sequences of segments come one behind the other. -/
theorem actionsOf_append (ss ss' : List Segment) :
    actionsOf (ss ++ ss') = actionsOf ss ++ actionsOf ss' := by
  simp [actionsOf]

/-- There is content in a text if there is content in one of its segments. -/
theorem any_hasContent_segments (text : List Char) :
    (segments text).any Segment.hasContent = text.any isContent := by
  have hfrom : ∀ before seg, (segmentsFrom before seg text).any Segment.hasContent =
      (seg ++ text).any isContent := by
    induction text with
    | nil =>
        intro before seg
        simp [segmentsFrom, Segment.hasContent]
    | cons c u ih =>
        intro before seg
        rw [segmentsFrom]
        split
        · rename_i hbreak
          rw [List.any_cons, ih, Segment.hasContent]
          simp [isContent_eq_false_of_isLineBreak hbreak]
        · rw [ih]
          simp
  exact hfrom [] []

/-! ## Leads -/

/-- A piece of a line that leads up to the next token: there is no content in it, and no filler at its
end. -/
structure IsLead (seg : List Char) : Prop where
  skipped : ∀ c ∈ seg, isContent c = false ∧ isLineBreak c = false
  last : seg.getLast?.all isBlank = true

/-- At the beginning of a line nothing leads up to the first token. -/
theorem isLead_nil : IsLead [] := ⟨by simp, rfl⟩

/-- A lead ends on the line that it begins on. -/
theorem IsLead.lineAt_eq {seg : List Char} (h : IsLead seg) (before u : List Char) :
    lineAt (before ++ seg ++ u) (byteLength (before ++ seg)) = 1 + newlines before := by
  have hnone : newlines seg = 0 := newlines_eq_zero fun c hc => (h.skipped c hc).2
  rw [lineAt, takeBytes_byteLength_append, newlines_append, hnone, Nat.add_zero]

/-- There is no content in a lead and in the fillers behind it. -/
theorem IsLead.not_content {seg fillers : List Char} (h : IsLead seg)
    (hfillers : ∀ c ∈ fillers, isFiller c = true) : ∀ c ∈ seg ++ fillers, isContent c = false :=
  List.forall_mem_append.mpr ⟨fun c hc => (h.skipped c hc).1, fun c hc =>
    isContent_eq_false_of_isFiller (hfillers c hc)⟩

/-- Fillers and the blanks behind them lead on. -/
theorem IsLead.append {seg fillers : List Char} (h : IsLead seg)
    (hfillers : ∀ c ∈ fillers, isFiller c = true) {u : List Char} (hne : u ≠ [])
    (hu : ∀ c ∈ u, isBlank c = true) : IsLead (seg ++ (fillers ++ u)) := by
  constructor
  · refine List.forall_mem_append.mpr ⟨h.skipped, List.forall_mem_append.mpr ⟨?_, ?_⟩⟩
    · intro c hc
      exact ⟨isContent_eq_false_of_isFiller (hfillers c hc), unbroken_of_fillers hfillers c hc⟩
    · intro c hc
      exact ⟨isContent_eq_false_of_isBlank (hu c hc),
        isLineBreak_eq_false_of (p := isBlank) (by decide) (by decide) (hu c hc)⟩
  · rw [← List.append_assoc, List.getLast?_append_of_ne_nil _ hne, Option.all_eq_true]
    exact fun c hc => hu c (List.mem_of_getLast? hc)

/-- In front of fillers and content a segment has the lead that is there. -/
theorem lead_eq {before seg fillers w : List Char} {x : Char} (hseg : IsLead seg)
    (hfillers : ∀ c ∈ fillers, isFiller c = true) (hx : isContent x = true) :
    Segment.lead ⟨before, seg ++ (fillers ++ x :: w)⟩ = seg := by
  have hskip : ∀ c ∈ seg ++ fillers, (!isContent c) = true := by
    intro c hc
    simp [hseg.not_content hfillers c hc]
  have htaken : (seg ++ (fillers ++ x :: w)).takeWhile (fun c => !isContent c) = seg ++ fillers := by
    rw [← List.append_assoc, List.takeWhile_append_of_pos hskip,
      List.takeWhile_cons_of_neg (by simp [hx]), List.append_nil]
  have hdropped : ∀ c ∈ fillers.reverse, (!isBlank c) = true := by
    intro c hc
    simp [(eq_false_of_isFiller (hfillers c (List.mem_reverse.mp hc))).2.1]
  rw [Segment.lead, htaken, List.rdropWhile, List.reverse_append,
    List.dropWhile_append_of_pos hdropped]
  -- what is left is the lead itself, as it ends in a blank
  show seg.rdropWhile _ = seg
  rw [List.rdropWhile_eq_self_iff]
  intro hne
  have hlast := hseg.last
  rw [List.getLast?_eq_some_getLast hne] at hlast
  simpa using hlast

/-! ## Actions of segments -/

/-- The outline of what is left of a text of which `before` and, behind it, the piece `seg` of a
segment have been seen. -/
def outlineFrom (before seg u : List Char) : List Node := actionsOf (segmentsFrom before seg u)

/-- A segment without content holds nothing. -/
theorem actionsOf_singleton_of_not_content {before seg : List Char}
    (h : ∀ c ∈ seg, isContent c = false) : actionsOf [⟨before, seg⟩] = [] := by
  have hnot : (Segment.mk before seg).hasContent = false := by
    simpa [Segment.hasContent] using h
  simp [actionsOf, hnot]

/-- A segment with content is an action where the lead ends. -/
theorem actionsOf_singleton_of_content {before seg fillers w : List Char} {x : Char}
    (hseg : IsLead seg) (hfillers : ∀ c ∈ fillers, isFiller c = true) (hx : isContent x = true) :
    actionsOf [⟨before, seg ++ (fillers ++ x :: w)⟩] =
      [.action (byteLength (before ++ seg)) (1 + newlines before)] := by
  have hcontent : (Segment.mk before (seg ++ (fillers ++ x :: w))).hasContent = true := by
    simp [Segment.hasContent, hx]
  simp [actionsOf, hcontent, Segment.action, lead_eq hseg hfillers hx]

/-- Without a line break the segment goes on. -/
theorem outlineFrom_append {w : List Char} (hw : ∀ c ∈ w, isLineBreak c = false)
    (before seg u : List Char) :
    outlineFrom before seg (w ++ u) = outlineFrom before (seg ++ w) u := by
  rw [outlineFrom, segmentsFrom_append hw, outlineFrom]

/-- The last segment has no line break at its end. -/
theorem outlineFrom_of_unbroken {w : List Char} (hw : ∀ c ∈ w, isLineBreak c = false)
    (before seg : List Char) : outlineFrom before seg w = actionsOf [⟨before, seg ++ w⟩] := by
  have hlast := outlineFrom_append hw before seg []
  rwa [List.append_nil] at hlast

/-- At a line break a segment ends and another one begins. -/
theorem outlineFrom_of_break {w : List Char} (hw : ∀ c ∈ w, isLineBreak c = false) {b : Char}
    (hb : isLineBreak b = true) (before seg rest : List Char) :
    outlineFrom before seg (w ++ b :: rest) = actionsOf [⟨before, seg ++ w⟩] ++
      outlineFrom (before ++ (seg ++ w) ++ [b]) [] rest := by
  rw [outlineFrom_append hw, outlineFrom, segmentsFrom, if_pos hb, ← List.singleton_append,
    actionsOf_append]
  rfl

/-- Fillers behind a lead hold nothing at the end of the text. -/
theorem outlineFrom_of_fillers {seg fillers : List Char} (hseg : IsLead seg)
    (hfillers : ∀ c ∈ fillers, isFiller c = true) (before : List Char) :
    outlineFrom before seg fillers = [] := by
  rw [outlineFrom_of_unbroken (unbroken_of_fillers hfillers)]
  exact actionsOf_singleton_of_not_content (hseg.not_content hfillers)

/-- Fillers behind a lead hold nothing in front of a line break. -/
theorem outlineFrom_of_fillers_break {seg fillers : List Char} (hseg : IsLead seg)
    (hfillers : ∀ c ∈ fillers, isFiller c = true) {b : Char} (hb : isLineBreak b = true)
    (before rest : List Char) : outlineFrom before seg (fillers ++ b :: rest) =
      outlineFrom (before ++ (seg ++ fillers) ++ [b]) [] rest := by
  rw [outlineFrom_of_break (unbroken_of_fillers hfillers) hb,
    actionsOf_singleton_of_not_content (hseg.not_content hfillers), List.nil_append]

/-! ## Following a division -/

/-- A numeral begins with content. -/
theorem exists_content_of_beginsNumeral {u : List Char} (h : beginsNumeral u = true) :
    ∃ x v, u = x :: v ∧ isContent x = true := by
  cases u with
  | nil => cases h
  | cons x v =>
      have hx : isSign x = true ∨ x.isDigit = true := by simpa [beginsNumeral] using h
      refine ⟨x, v, rfl, Bool.or_eq_true_iff.mpr (hx.imp_right isWord_of_isDigit)⟩

/-- A token that is neither white space nor terminal has content behind its fillers. -/
theorem Scan.Cuts.exists_content {fillers core rest : List Char} {kind : TokenKind}
    (h : Scan.Cuts fillers (.ok kind) core rest) (hspace : kind ≠ .space)
    (hkind : kind.endsLine = false) : ∃ x v, core = x :: v ∧ isContent x = true := by
  have hshaped := shaped_of_cuts h
  cases kind with
  | error fault => cases hkind
  | endOfInput => cases hkind
  | endOfLine => cases hkind
  | space => exact absurd rfl hspace
  | number => exact exists_content_of_beginsNumeral hshaped.1.begins
  | complex =>
      obtain ⟨u, v, rfl, hu, -⟩ := hshaped
      exact exists_content_of_beginsNumeral (head?_any_append hu.begins v)
  | _ =>
      obtain ⟨x, v, rfl⟩ := List.exists_cons_of_ne_nil hshaped.1.ne_nil
      exact ⟨x, v, rfl, Bool.or_eq_true_iff.mpr (Or.inr (hshaped.1.isWord x List.mem_cons_self))⟩

/-- A token that does not end its line contains no line break behind its fillers. -/
theorem Scan.Cuts.unbroken_core {fillers core rest : List Char} {kind : TokenKind}
    (h : Scan.Cuts fillers (.ok kind) core rest) (hkind : kind.endsLine = false) :
    ∀ c ∈ core, isLineBreak c = false := by
  rcases h.isLineBreak_cases with ⟨_, -, -, hverdict⟩ | hcore
  · rw [Except.ok.inj hverdict] at hkind
    cases hkind
  · exact hcore

/-- A token that does not end its line contains no line break. -/
theorem Division.unbroken_value {pos : Nat} {u : List Char} {tokens : List Token}
    (h : Division pos u tokens) {t : Token} (ht : t ∈ tokens) (hkind : t.kind.endsLine = false) :
    ∀ c ∈ t.value.toList, isLineBreak c = false := by
  obtain ⟨_, fillers, core, _, -, -, hvalue, hfillers, hcuts⟩ := h.exists_cuts t ht (by
    rintro fault hfault
    rw [hfault] at hkind
    cases hkind)
  rw [hvalue, String.toList_ofList]
  exact List.forall_mem_append.mpr ⟨unbroken_of_fillers hfillers, hcuts.unbroken_core hkind⟩

/-- The tokens of a line make up a piece of the text without a line break, at the end of which there
is a line break or the end of the text. -/
theorem Division.exists_line {pos : Nat} {u : List Char} {us vs : List Token} {e : Token}
    (h : Division pos u (us ++ e :: vs)) (hus : ∀ t ∈ us, t.kind.endsLine = false)
    (he : e.kind = .endOfLine ∨ e.kind = .endOfInput) :
    ∃ w, (∀ c ∈ w, isLineBreak c = false) ∧
      ((∃ b rest, isLineBreak b = true ∧ u = w ++ b :: rest ∧
          Division (pos + byteLength (w ++ [b])) rest vs) ∨
        u = w ∧ vs = []) := by
  obtain ⟨rest, rfl, hrest⟩ := h.exists_append (List.cons_ne_nil e vs)
  have hvalues : ∀ c ∈ us.flatMap fun t => t.value.toList, isLineBreak c = false := by
    intro c hc
    obtain ⟨t, ht, hmem⟩ := List.mem_flatMap.mp hc
    exact h.unbroken_value (List.mem_append_left _ ht) (hus t ht) c hmem
  generalize (us.flatMap fun t => t.value.toList) = values at hrest hvalues ⊢
  cases hrest with
  | endOfInput hfillers =>
      exact ⟨values ++ rest, List.forall_mem_append.mpr ⟨hvalues, unbroken_of_fillers hfillers⟩,
        Or.inr ⟨rfl, rfl⟩⟩
  | fault hfillers hcuts => simp [Token.ofFault] at he
  | @token _ fillers core after kind _ hfillers hcuts hkind hafter =>
      refine ⟨values ++ fillers,
        List.forall_mem_append.mpr ⟨hvalues, unbroken_of_fillers hfillers⟩, Or.inl ?_⟩
      obtain rfl : kind = .endOfLine := he.resolve_right (TokenKind.ne_endOfInput hkind)
      obtain ⟨b, rfl, hb⟩ : ∃ b, core = [b] ∧ isLineBreak b = true := shaped_of_cuts hcuts
      exact ⟨b, after, hb, by simp, by simpa [Nat.add_assoc] using hafter⟩

/-- A line that does not begin with white space is an action if nothing is wrong in the text. Behind
the line break at its end other lines follow. -/
theorem Division.exists_action_line {pos : Nat} {rest text : List Char} {t : Token}
    {tokens : List Token} {nodes : List Node} (h : Division pos rest tokens)
    (hspace : t.kind ≠ .space) (hline : t.kind.endsLine = false)
    (hok : readLines text (linesOf (t :: tokens)) = .ok nodes) :
    ∃ w, (∀ c ∈ w, isLineBreak c = false) ∧
      ((∃ b after vs others, isLineBreak b = true ∧ rest = w ++ b :: after ∧
          Division (pos + byteLength (w ++ [b])) after vs ∧ vs.length < tokens.length ∧
          readLines text (linesOf vs) = .ok others ∧
          nodes = .action t.pos (lineAt text t.pos) :: others) ∨
        rest = w ∧ nodes = [.action t.pos (lineAt text t.pos)]) := by
  cases hmarker : Lookahead.marker? t.kind with
  | some m =>
      obtain ⟨line, lines, hlines⟩ := exists_linesOf_cons t tokens
      rw [hlines, readLines_cons_of_error (readLine_cons_of_marker hmarker text line)] at hok
      cases hok
  | none =>
      obtain ⟨us, e, vs, rfl, hus, he⟩ := h.run.exists_line
      have hinner : ∀ u ∈ t :: us, u.kind.endsLine = false := List.forall_mem_cons.mpr ⟨hline, hus⟩
      rw [← List.cons_append, linesOf_append_cons hinner (he.imp And.left And.right)] at hok
      obtain ⟨first, others, hread, hothers, rfl⟩ := exists_of_readLines_cons hok
      rw [readLine_append_of_action hspace hmarker hinner] at hread
      cases hfault : faultIn? [e] with
      | some found =>
          rw [hfault] at hread
          cases hread
      | none =>
          rw [hfault] at hread
          obtain rfl := Except.ok.inj hread
          have hend : e.kind = .endOfLine ∨ e.kind = .endOfInput :=
            he.imp And.left fun hlast => eq_endOfInput_of_faultIn? hlast.1 hfault
          obtain ⟨w, hw, ⟨b, after, hb, rfl, hafter⟩ | ⟨rfl, rfl⟩⟩ := h.exists_line hus hend
          · refine ⟨w, hw, Or.inl ⟨b, after, vs, others, hb, rfl, hafter, ?_, hothers, rfl⟩⟩
            simp only [List.length_append, List.length_cons]
            omega
          · obtain rfl := Except.ok.inj hothers
            exact ⟨_, hw, Or.inr ⟨rfl, rfl⟩⟩

/-- What the lines of some tokens hold is the outline of the text that is divided into these tokens.
The line that the text begins in may have begun before, with a lead. -/
theorem Division.nodes_eq_outlineFrom {before seg u : List Char} {tokens : List Token}
    {nodes : List Node} (h : Division (byteLength (before ++ seg)) u tokens) (hseg : IsLead seg)
    (hok : readLines (before ++ seg ++ u) (linesOf tokens) = .ok nodes) :
    nodes = outlineFrom before seg u := by
  -- an action takes a whole line, so the induction is on the number of tokens
  induction hn : tokens.length using Nat.strong_induction_on
    generalizing before seg u tokens nodes with
  | _ n ih =>
      generalize hpos : byteLength (before ++ seg) = pos at h
      cases h with
      | endOfInput hfillers =>
          rw [readLines_linesOf_endOfInput rfl] at hok
          rw [outlineFrom_of_fillers hseg hfillers, ← Except.ok.inj hok]
      | @fault _ fillers core rest fault hfillers hcuts =>
          obtain ⟨line, lines, hlines⟩ := exists_linesOf_cons (Token.ofFault fault pos) []
          rw [hlines, readLines_cons_of_error (readLine_cons_of_error rfl _ line)] at hok
          cases hok
      | @token _ fillers core rest kind tokens hfillers hcuts hkind hrest =>
          subst hpos
          have hlength : tokens.length < n := by simp [← hn]
          rw [← byteLength_append] at hrest
          by_cases hspace : kind = .space
          · obtain ⟨hne, hblank, -⟩ : core ≠ [] ∧ (∀ x ∈ core, isBlank x = true) ∧
                Stops isBlank rest := by
              subst hspace
              exact shaped_of_cuts hcuts
            have hlead := hseg.append hfillers hne hblank
            have hunbroken : ∀ c ∈ fillers ++ core, isLineBreak c = false := fun c hc =>
              (hlead.skipped c (List.mem_append_right seg hc)).2
            rw [readLines_linesOf_cons_of_space hspace _ hrest.run.ne_nil] at hok
            rw [outlineFrom_append hunbroken]
            exact ih tokens.length hlength (by simpa using hrest) hlead (by simpa using hok) rfl
          · by_cases hbreak : kind = .endOfLine
            · obtain ⟨b, rfl, hb⟩ : ∃ b, core = [b] ∧ isLineBreak b = true := by
                subst hbreak
                exact shaped_of_cuts hcuts
              rw [readLines_linesOf_cons_of_endOfLine hbreak] at hok
              rw [List.append_assoc, List.singleton_append,
                outlineFrom_of_fillers_break hseg hfillers hb]
              exact ih tokens.length hlength (by simpa using hrest) isLead_nil (by simpa using hok) rfl
            · have hline : kind.endsLine = false := by
                simp [TokenKind.endsLine, hbreak, hkind]
              obtain ⟨x, v, rfl, hx⟩ := hcuts.exists_content hspace hline
              obtain ⟨w, hw, hend⟩ := hrest.exists_action_line hspace hline hok
              have hunbroken : ∀ c ∈ fillers ++ x :: (v ++ w), isLineBreak c = false := by
                refine List.forall_mem_append.mpr ⟨unbroken_of_fillers hfillers, ?_⟩
                exact List.forall_mem_append.mpr ⟨hcuts.unbroken_core hline, hw⟩
              rw [hseg.lineAt_eq] at hend
              rcases hend with
                ⟨b, after, vs, others, hb, rfl, hafter, hlt, hothers, rfl⟩ | ⟨rfl, rfl⟩
              · have htext : fillers ++ x :: v ++ (w ++ b :: after) =
                    fillers ++ x :: (v ++ w) ++ b :: after := by simp
                rw [htext, outlineFrom_of_break hunbroken hb,
                  actionsOf_singleton_of_content hseg hfillers hx, List.singleton_append]
                congr 1
                exact ih vs.length (by omega) (by simpa [Nat.add_assoc] using hafter) isLead_nil
                  (by simpa using hothers) rfl
              · have htext : fillers ++ x :: v ++ rest = fillers ++ x :: (v ++ rest) := by simp
                rw [htext, outlineFrom_of_unbroken hunbroken,
                  actionsOf_singleton_of_content hseg hfillers hx]

/-! ## The template of a text -/

/-- What a text holds is its outline. -/
theorem contentOf_eq_outline {text : String} {nodes : List Node}
    (h : Template.contentOf text = .ok nodes) : nodes = outline text.toList := by
  have hdivision : Division (byteLength ([] ++ [])) text.toList (Scanner.ofString text).drain.1 :=
    Scanner.division_ofString text
  exact hdivision.nodes_eq_outlineFrom isLead_nil h

/-- The nodes of an outline are written as pairs of braces, one for each segment with content. -/
theorem displays_outline (text : List Char) :
    Node.displays (outline text) =
      List.replicate ((segments text).countP Segment.hasContent) "\x7b\x7b\x7d\x7d" := by
  have hdisplay : Node.display ∘ Segment.action = fun _ => "\x7b\x7b\x7d\x7d" := rfl
  rw [Node.displays_eq_map, outline, actionsOf, List.map_map, hdisplay, List.map_const',
    List.countP_eq_length_filter]

/-- No node of an outline is empty. -/
theorem allEmpty_outline_iff (text : List Char) :
    Node.allEmpty (outline text) = true ↔ outline text = [] := by
  rw [Node.allEmpty_eq_all, outline, actionsOf, List.all_map]
  cases (segments text).filter Segment.hasContent with
  | nil => simp
  | cons s ss => simp [Segment.action, Node.isEmpty]

/-- An outline is empty if there is no content in the text. -/
theorem outline_eq_nil_iff (text : List Char) :
    outline text = [] ↔ ∀ c ∈ text, isContent c = false := by
  rw [outline, actionsOf, List.map_eq_nil_iff, List.filter_eq_nil_iff, ← List.any_eq_false,
    any_hasContent_segments, List.any_eq_false]
  simp only [Bool.not_eq_true]

/-- The body of a template that is parsed from a text is the outline of the text: there is an action
for each segment with content, in order, where the lead of the segment ends, and nothing else. So the
template is empty if there is no content in the text, and in its written form there is a pair of
braces for each of these segments. -/
theorem outline_of_parse {name text : String} {options : Options} {set : TemplateSet}
    (h : parse name text options = .ok set) :
    ∃ t, set.get? name = some t ∧ t.root = some ⟨0, outline text.toList⟩ ∧
      (t.isEmpty = true ↔ ∀ c ∈ text.toList, isContent c = false) ∧
      t.root.map Body.display = some (String.join (List.replicate
        ((segments text.toList).countP Segment.hasContent) "\x7b\x7b\x7d\x7d")) := by
  rw [parse_eq_put] at h
  cases hcontent : Template.contentOf text with
  | error offence =>
      rw [hcontent] at h
      cases h
  | ok nodes =>
      rw [hcontent] at h
      obtain rfl := Except.ok.inj h
      obtain rfl := contentOf_eq_outline hcontent
      refine ⟨_, TemplateSet.get?_put_self .empty (Template.read name text (outline text.toList)),
        rfl, ?_, ?_⟩
      · rw [← outline_eq_nil_iff, ← allEmpty_outline_iff]
        rfl
      · rw [← displays_outline]
        rfl

end

/-- Of three lines with fillers the first and the last are actions, the first of them behind a
character of two bytes. -/
theorem outline_of_three_lines : ∃ set t,
    parse "page" "¿ (+1\r\n .;\n\t.b" {} = .ok set ∧ set.get? "page" = some t ∧
      t.root = some ⟨0, [.action 3 1, .action 13 3]⟩ ∧ t.isEmpty = false ∧
      t.root.map Body.display = some "\x7b\x7b\x7d\x7d\x7b\x7b\x7d\x7d" := by
  have hread : (parse "page" "¿ (+1\r\n .;\n\t.b" {}).isOk = true := by decide +kernel
  cases hset : parse "page" "¿ (+1\r\n .;\n\t.b" {} with
  | error e =>
      rw [hset] at hread
      cases hread
  | ok set =>
      obtain ⟨t, hget, hroot, hempty, hdisplay⟩ := outline_of_parse hset
      refine ⟨set, t, rfl, hget, ?_, ?_, ?_⟩
      · rw [hroot]
        decide +kernel
      · rw [← Bool.not_eq_true, hempty]
        exact fun hnone => absurd (hnone '1' (by decide)) (by decide)
      · rw [hdisplay]
        decide +kernel

end ActionTemplate
