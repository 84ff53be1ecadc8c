import ActionTemplate.Lookahead.Body
import ActionTemplate.Proofs.Delivery

/-!
# Templates line by line

What a template holds can be told from its tokens alone, line by line and without giving any token
back: `readLine` says what a line of tokens holds, or which token in it is the offending one, and
`readLines` takes the lines in their order.

The equations of this file say where lines end, that blanks and blank lines hold nothing, and what
the head of a line makes of it.
-/

namespace ActionTemplate

open Text

/-! ## Lines of tokens -/

/-- The tokens cut into lines, behind each line break. -/
def linesOf : List Token → List (List Token)
  | [] => []
  | t :: ts =>
      if t.kind = .endOfLine then [t] :: linesOf ts
      else
        match linesOf ts with
        | [] => [[t]]
        | line :: lines => (t :: line) :: lines

/-- The first token of a line that is not a run of blanks. -/
def headOf? (line : List Token) : Option Token := line.find? fun t => decide (t.kind ≠ .space)

/-- The first fault in a line and its byte offset. -/
def faultIn? (line : List Token) : Option (LexFault × Nat) :=
  line.findSome? fun t =>
    match t.kind with
    | .error fault => some (fault, t.pos)
    | _ => none

/-- A fault of a template and the byte offset of the offending token. -/
structure Offence where
  fault : ParseFault
  pos : Nat
  deriving DecidableEq, Repr

/-- What a line holds: nothing, if it has no head or its head ends it, and an action otherwise. A
closing word at the head or a fault in an action is an offence. -/
def readLine (text : List Char) (line : List Token) : Except Offence (List Node) :=
  match headOf? line with
  | none => .ok []
  | some head =>
      match head.kind with
      | .endOfLine => .ok []
      | .endOfInput => .ok []
      | .keyword .endWord => .error ⟨.unexpected Marker.endMark.display, head.pos⟩
      | .keyword .elseWord => .error ⟨.unexpected Marker.elseMark.display, head.pos⟩
      | .error fault => .error ⟨.lexical fault, head.pos⟩
      | _ =>
          -- the rest of the line belongs to the action, and so does a fault in it
          match faultIn? line with
          | some (fault, pos) => .error ⟨.lexical fault, pos⟩
          | none => .ok [.action head.pos (lineAt text head.pos)]

/-- What some lines hold, in their order. The first offence counts. -/
def readLines (text : List Char) : List (List Token) → Except Offence (List Node)
  | [] => .ok []
  | line :: lines => do
      let nodes ← readLine text line
      let others ← readLines text lines
      return nodes ++ others

/-! ### Cutting -/

/-- A token within a line is none that ends it. -/
def TokenKind.endsLine (k : TokenKind) : Bool := k = .endOfLine || k.isTerminal

/-- A token within a line is no line break. -/
theorem TokenKind.ne_endOfLine_of_endsLine_eq_false {k : TokenKind} (h : k.endsLine = false) :
    k ≠ .endOfLine := of_decide_eq_false (Bool.or_eq_false_iff.mp h).1

/-- A token within a line is not terminal. -/
theorem TokenKind.isTerminal_of_endsLine_eq_false {k : TokenKind} (h : k.endsLine = false) :
    k.isTerminal = false := (Bool.or_eq_false_iff.mp h).2

/-- A line goes up to the first token that ends it. -/
theorem linesOf_append_cons {us vs : List Token} {e : Token}
    (hus : ∀ u ∈ us, u.kind.endsLine = false) (he : e.kind = .endOfLine ∨ vs = []) :
    linesOf (us ++ e :: vs) = (us ++ [e]) :: linesOf vs := by
  induction us with
  | nil =>
      rw [List.nil_append, List.nil_append, linesOf]
      by_cases hkind : e.kind = .endOfLine
      · rw [if_pos hkind]
      · obtain rfl : vs = [] := he.resolve_left hkind
        rw [if_neg hkind]
        rfl
  | cons u us ih =>
      have hu := TokenKind.ne_endOfLine_of_endsLine_eq_false (hus u List.mem_cons_self)
      have hrest := ih fun v hv => hus v (List.mem_cons_of_mem u hv)
      rw [List.cons_append, linesOf, if_neg hu, hrest]
      rfl

/-- A run of tokens has a first line, behind which the others follow. -/
theorem Run.exists_line {ts : List Token} (h : Run ts) :
    ∃ us e vs, ts = us ++ e :: vs ∧ (∀ u ∈ us, u.kind.endsLine = false) ∧
      (e.kind = .endOfLine ∧ Run vs ∨ e.kind.isTerminal = true ∧ vs = []) := by
  induction h with
  | @last t hterminal => exact ⟨[], t, [], rfl, by simp, Or.inr ⟨hterminal, rfl⟩⟩
  | @cons t ts hterminal hrest ih =>
      by_cases hkind : t.kind = .endOfLine
      · exact ⟨[], t, ts, rfl, by simp, Or.inl ⟨hkind, hrest⟩⟩
      · obtain ⟨us, e, vs, rfl, hus, he⟩ := ih
        refine ⟨t :: us, e, vs, rfl, ?_, he⟩
        intro u hu
        rcases List.mem_cons.mp hu with rfl | hu
        · simp [TokenKind.endsLine, hkind, hterminal]
        · exact hus u hu

/-- Cutting some tokens leaves at least one line. -/
theorem linesOf_ne_nil {ts : List Token} (h : ts ≠ []) : linesOf ts ≠ [] := by
  cases ts with
  | nil => exact absurd rfl h
  | cons t ts =>
      unfold linesOf
      split
      · simp
      · split <;> simp

/-- A token that is not terminal is no fault. -/
theorem faultIn?_cons {t : Token} (ht : t.kind.isTerminal = false) (ts : List Token) :
    faultIn? (t :: ts) = faultIn? ts := by
  unfold faultIn?
  rw [List.findSome?_cons]
  cases hkind : t.kind with
  | error fault =>
      rw [hkind] at ht
      cases ht
  | _ => rfl

/-- There is no fault among tokens that are not terminal. -/
theorem faultIn?_append {us : List Token} (hus : ∀ u ∈ us, u.kind.isTerminal = false)
    (ts : List Token) : faultIn? (us ++ ts) = faultIn? ts := by
  induction us with
  | nil => rfl
  | cons u us ih =>
      rw [List.cons_append, faultIn?_cons (hus u List.mem_cons_self)]
      exact ih fun v hv => hus v (List.mem_cons_of_mem u hv)

/-- The fault found is that of one of the tokens. -/
theorem exists_mem_of_faultIn? {ts : List Token} {fault : LexFault} {pos : Nat}
    (h : faultIn? ts = some (fault, pos)) : ∃ t ∈ ts, t.kind = .error fault ∧ t.pos = pos := by
  obtain ⟨t, ht, hfound⟩ := List.exists_of_findSome?_eq_some h
  refine ⟨t, ht, ?_⟩
  cases hkind : t.kind with
  | error found => simpa [hkind] using hfound
  | _ => simp [hkind] at hfound

/-! ### Blanks and blank lines -/

/-- Blanks in front of a line do not matter. -/
theorem readLine_cons_of_space {t : Token} (h : t.kind = .space) (text : List Char)
    (line : List Token) : readLine text (t :: line) = readLine text line := by
  have hhead : headOf? (t :: line) = headOf? line := by simp [headOf?, h]
  have hfault : faultIn? (t :: line) = faultIn? line := by simp [faultIn?, h]
  unfold readLine
  rw [hhead, hfault]

/-- A line break alone is a line that holds nothing. -/
theorem readLines_linesOf_cons_of_endOfLine {t : Token} (h : t.kind = .endOfLine)
    (text : List Char) (ts : List Token) :
    readLines text (linesOf (t :: ts)) = readLines text (linesOf ts) := by
  have hline : readLine text [t] = .ok [] := by simp [readLine, headOf?, h]
  rw [linesOf, if_pos h, readLines, hline]
  cases readLines text (linesOf ts) <;> rfl

/-- Blanks belong to the line behind them. -/
theorem readLines_linesOf_cons_of_space {t : Token} (h : t.kind = .space) (text : List Char)
    {ts : List Token} (hts : ts ≠ []) :
    readLines text (linesOf (t :: ts)) = readLines text (linesOf ts) := by
  have hkind : t.kind ≠ .endOfLine := by simp [h]
  rw [linesOf, if_neg hkind]
  cases hlines : linesOf ts with
  | nil => exact absurd hlines (linesOf_ne_nil hts)
  | cons line lines =>
      show readLines text ((t :: line) :: lines) = readLines text (line :: lines)
      rw [readLines, readLines, readLine_cons_of_space h]

/-- White space in front of some tokens holds nothing. -/
theorem readLines_linesOf_append {us ts : List Token} (text : List Char)
    (hus : ∀ u ∈ us, u.kind ∈ [TokenKind.space, .endOfLine]) (hts : ts ≠ []) :
    readLines text (linesOf (us ++ ts)) = readLines text (linesOf ts) := by
  induction us with
  | nil => rfl
  | cons u us ih =>
      have hrest := ih fun v hv => hus v (List.mem_cons_of_mem u hv)
      have hu : u.kind = .space ∨ u.kind = .endOfLine := by
        simpa using hus u List.mem_cons_self
      rw [List.cons_append, ← hrest]
      rcases hu with hu | hu
      · exact readLines_linesOf_cons_of_space hu text (by simp [hts])
      · exact readLines_linesOf_cons_of_endOfLine hu text (us ++ ts)

/-! ### Heads -/

/-- Some tokens have a first line, which starts where they do. -/
theorem exists_linesOf_cons (t : Token) (ts : List Token) :
    ∃ line lines, linesOf (t :: ts) = (t :: line) :: lines := by
  unfold linesOf
  split
  · exact ⟨[], _, rfl⟩
  · split
    · exact ⟨[], [], rfl⟩
    · exact ⟨_, _, rfl⟩

/-- A line that begins with the end of input holds nothing. -/
theorem readLine_cons_of_endOfInput {head : Token} (h : head.kind = .endOfInput)
    (text : List Char) (line : List Token) : readLine text (head :: line) = .ok [] := by
  simp [readLine, headOf?, h]

/-- A fault at the head of a line is the offence. -/
theorem readLine_cons_of_error {head : Token} {fault : LexFault} (h : head.kind = .error fault)
    (text : List Char) (line : List Token) :
    readLine text (head :: line) = .error ⟨.lexical fault, head.pos⟩ := by
  simp [readLine, headOf?, h]

/-- A closing word at the head of a line is the offence. -/
theorem readLine_cons_of_marker {head : Token} {m : Marker}
    (h : Lookahead.marker? head.kind = some m) (text : List Char) (line : List Token) :
    readLine text (head :: line) = .error ⟨.unexpected m.display, head.pos⟩ := by
  unfold Lookahead.marker? at h
  split at h
  · rename_i hkind
    cases h
    simp [readLine, headOf?, hkind]
  · rename_i hkind
    cases h
    simp [readLine, headOf?, hkind]
  · cases h

/-- Any other head begins an action, unless there is a fault further on in the line. -/
theorem readLine_cons_of_action {head : Token} (hspace : head.kind ≠ .space)
    (hline : head.kind.endsLine = false) (hmarker : Lookahead.marker? head.kind = none)
    (text : List Char) (line : List Token) :
    readLine text (head :: line) = match faultIn? (head :: line) with
      | some (fault, pos) => .error ⟨.lexical fault, pos⟩
      | none => .ok [.action head.pos (lineAt text head.pos)] := by
  have hhead : headOf? (head :: line) = some head := by simp [headOf?, hspace]
  unfold readLine
  rw [hhead]
  cases hkind : head.kind with
  | space => exact absurd hkind hspace
  | endOfLine => simp [hkind, TokenKind.endsLine] at hline
  | endOfInput => simp [hkind, TokenKind.endsLine, TokenKind.isTerminal] at hline
  | error fault => simp [hkind, TokenKind.endsLine, TokenKind.isTerminal] at hline
  | keyword word => cases word <;> simp_all [Lookahead.marker?]
  | _ => simp only [hkind]

/-- Of a line that is an action only the last token can be a fault. -/
theorem readLine_append_of_action {head e : Token} {us : List Token} (hspace : head.kind ≠ .space)
    (hmarker : Lookahead.marker? head.kind = none)
    (hus : ∀ u ∈ head :: us, u.kind.endsLine = false) (text : List Char) :
    readLine text (head :: us ++ [e]) = match faultIn? [e] with
      | some (fault, pos) => .error ⟨.lexical fault, pos⟩
      | none => .ok [.action head.pos (lineAt text head.pos)] := by
  have hfault : faultIn? (head :: us ++ [e]) = faultIn? [e] :=
    faultIn?_append (fun u hu => TokenKind.isTerminal_of_endsLine_eq_false (hus u hu)) [e]
  rw [← hfault]
  exact readLine_cons_of_action hspace (hus head List.mem_cons_self) hmarker text (us ++ [e])

/-- The first line is the first in which there can be an offence. -/
theorem readLines_cons_of_error {text : List Char} {line : List Token} {offence : Offence}
    (h : readLine text line = .error offence) (lines : List (List Token)) :
    readLines text (line :: lines) = .error offence := by
  rw [readLines, h]
  rfl

/-- What the first line holds comes before what the others hold. -/
theorem readLines_cons_of_ok {text : List Char} {line : List Token} {nodes : List Node}
    (h : readLine text line = .ok nodes) (lines : List (List Token)) :
    readLines text (line :: lines) = (readLines text lines).map (nodes ++ ·) := by
  rw [readLines, h]
  cases readLines text lines <;> rfl

/-- If nothing is wrong in some lines, nothing is wrong in the first of them and in the others. -/
theorem exists_of_readLines_cons {text : List Char} {line : List Token} {lines : List (List Token)}
    {nodes : List Node} (h : readLines text (line :: lines) = .ok nodes) :
    ∃ first others, readLine text line = .ok first ∧ readLines text lines = .ok others ∧
      nodes = first ++ others := by
  cases hline : readLine text line with
  | error offence =>
      rw [readLines_cons_of_error hline] at h
      cases h
  | ok first =>
      rw [readLines_cons_of_ok hline] at h
      cases hrest : readLines text lines with
      | error offence =>
          rw [hrest] at h
          cases h
      | ok others =>
          rw [hrest] at h
          exact ⟨first, others, rfl, rfl, (Except.ok.inj h).symm⟩

/-- At the end of input there are no more lines that hold anything. -/
theorem readLines_linesOf_endOfInput {e : Token} (h : e.kind = .endOfInput) (text : List Char) :
    readLines text (linesOf [e]) = .ok [] := by
  have hlines : linesOf [e] = [[e]] := by simp [linesOf, h]
  rw [hlines, readLines_cons_of_ok (readLine_cons_of_endOfInput h text [])]
  rfl

end ActionTemplate
