import ActionTemplate.Proofs.Division
import Mathlib.Data.List.Chain

/-!
# Tokens tile the text

No character of a text is lost or handed out twice. The tokens of a text lie side by side: the first
starts at the beginning, each of the others where the one before it ends, and the value of a token
is the piece of the text at its place. If the text has no fault, the values make it up as a whole;
otherwise they make up what lies before the fault. Places are counted in bytes.
-/

namespace ActionTemplate

open Text

/-- The piece is what the text holds from the byte offset `pos` on, for as many bytes as the piece
has. -/
def OccursAt (text piece : String) (pos : Nat) : Prop :=
  ∃ before after : String, text = before ++ piece ++ after ∧ before.utf8ByteSize = pos

/-- The text that the values of some tokens make up. -/
def joined (tokens : List Token) : String := String.join (tokens.map Token.value)

/-- The tokens lie side by side in the text, from its beginning to its end or to a fault. -/
structure Tiles (text : String) (tokens : List Token) : Prop where
  /-- The last token is terminal, and it is the only one. -/
  terminal : ∃ init last, tokens = init ++ [last] ∧ last.kind.isTerminal = true ∧
    ∀ t ∈ init, t.kind.isTerminal = false
  /-- The first token starts at the beginning. -/
  first : ∀ t, tokens.head? = some t → t.pos = 0
  /-- The value of a token is the piece of the text at its place. -/
  occurs : ∀ t ∈ tokens, (∀ fault, t.kind ≠ .error fault) → OccursAt text t.value t.pos
  /-- A token starts where the one before it ends. -/
  adjacent : tokens.IsChain fun t u => u.pos = t.pos + t.value.utf8ByteSize
  /-- Tokens further on start at greater offsets. -/
  ascending : tokens.Pairwise fun t u => t.pos < u.pos
  /-- Without a fault the values make up the whole text. -/
  whole : ∀ last, tokens.getLast? = some last → last.kind = .endOfInput → joined tokens = text
  /-- Otherwise they make up what lies before the fault. -/
  front : ∀ last fault, tokens.getLast? = some last → last.kind = .error fault →
    last.pos ≤ text.utf8ByteSize ∧ OccursAt text (joined tokens.dropLast) 0 ∧
      (joined tokens.dropLast).utf8ByteSize = last.pos

/-! ## Joining -/

/-- The values of some tokens are joined character by character. -/
theorem joined_eq_ofList (tokens : List Token) :
    joined tokens = String.ofList (tokens.flatMap fun t => t.value.toList) := by
  unfold joined
  induction tokens with
  | nil => rfl
  | cons t tokens ih =>
      rw [List.map_cons, List.flatMap_cons, String.ofList_append, ← ih, String.ofList_toList]
      simp [String.join_cons]

namespace Division

variable [Alphabet] {pos : Nat} {text : List Char} {tokens : List Token}

/-! ## Places -/

/-- The first token starts where the text does. -/
theorem pos_head? (h : Division pos text tokens) : ∀ t, tokens.head? = some t → t.pos = pos := by
  intro t ht
  cases h <;> cases ht <;> rfl

/-- No token starts in front of the text. -/
theorem le_pos (h : Division pos text tokens) : ∀ t ∈ tokens, pos ≤ t.pos := by
  induction h with
  | endOfInput hfillers => simp
  | fault hfillers hcuts => simp [Token.ofFault]
  | token hfillers hcuts hkind hrest ih =>
      intro t ht
      rcases List.mem_cons.mp ht with rfl | ht
      · exact Nat.le_refl _
      · have := ih t ht
        omega

/-- Tokens lie side by side. -/
theorem isChain (h : Division pos text tokens) :
    tokens.IsChain fun t u => u.pos = t.pos + t.value.utf8ByteSize := by
  induction h with
  | endOfInput hfillers => simp
  | fault hfillers hcuts => simp
  | @token pos fillers core rest kind tokens hfillers hcuts hkind hrest ih =>
      rw [List.isChain_cons]
      refine ⟨?_, ih⟩
      intro u hu
      rw [hrest.pos_head? u hu]
      simp

/-- A token that is not the last has at least one byte, so the next ones start behind it. -/
theorem pairwise_lt (h : Division pos text tokens) : tokens.Pairwise fun t u => t.pos < u.pos := by
  induction h with
  | endOfInput hfillers => simp
  | fault hfillers hcuts => simp
  | @token pos fillers core rest kind tokens hfillers hcuts hkind hrest ih =>
      rw [List.pairwise_cons]
      refine ⟨?_, ih⟩
      intro u hu
      have hle := hrest.le_pos u hu
      -- fillers alone are no token, and what is not a filler has at least one byte
      have hsize : byteLength (fillers ++ core) ≠ 0 := by
        rw [Ne, byteLength_eq_zero_iff, List.append_eq_nil_iff]
        exact fun hnil => hcuts.ne_nil hkind hnil.2
      show pos < u.pos
      omega

/-! ## Values -/

/-- The values before the terminal token make up the text before it, and together with an end of
input all of it. -/
theorem exists_eq_concat (h : Division pos text tokens) :
    ∃ init last rest, tokens = init ++ [last] ∧ last.kind.isTerminal = true ∧
      (∀ t ∈ init, t.kind.isTerminal = false) ∧
      text = (init.flatMap fun t => t.value.toList) ++ rest ∧
      last.pos = pos + byteLength (init.flatMap fun t => t.value.toList) ∧
      (last.kind = .endOfInput → last.value.toList = rest) := by
  induction h with
  | @endOfInput pos fillers hfillers =>
      exact ⟨[], _, fillers, rfl, rfl, by simp, rfl, rfl, by simp⟩
  | @fault pos fillers core rest fault hfillers hcuts =>
      exact ⟨[], _, fillers ++ core ++ rest, rfl, rfl, by simp, rfl, rfl, by simp [Token.ofFault]⟩
  | @token pos fillers core rest kind tokens hfillers hcuts hkind hrest ih =>
      obtain ⟨init, last, left, rfl, hlast, hinit, rfl, hpos, hvalue⟩ := ih
      refine ⟨⟨kind, String.ofList (fillers ++ core), pos⟩ :: init, last, left, rfl, hlast, ?_, ?_,
        ?_, hvalue⟩
      · intro t ht
        rcases List.mem_cons.mp ht with rfl | ht
        · exact hkind
        · exact hinit t ht
      · simp
      · rw [hpos, List.flatMap_cons, String.toList_ofList, byteLength_append (fillers ++ core),
          Nat.add_assoc]

end Division

/-! ## The tiling -/

/-- A text at the beginning of which a division starts is tiled by it. -/
theorem Division.tiles [Alphabet] {text : String} {tokens : List Token}
    (h : Division 0 text.toList tokens) : Tiles text tokens := by
  obtain ⟨init, last, rest, hsplit, hlast, hinit, htext, hpos, hvalue⟩ := h.exists_eq_concat
  have hfront : text = joined init ++ String.ofList rest := by
    rw [joined_eq_ofList, ← String.ofList_append, ← htext, String.ofList_toList]
  have hsize : (joined init).utf8ByteSize = last.pos := by
    rw [joined_eq_ofList, utf8ByteSize_ofList, hpos, Nat.zero_add]
  refine ⟨⟨init, last, hsplit, hlast, hinit⟩, h.pos_head?, ?_, h.isChain, h.pairwise_lt, ?_, ?_⟩
  · -- the value of a token is cut out of the text, so the text around it is at hand
    intro t ht hfault
    obtain ⟨before, fillers, core, after, htext', hpos', hvalue, -, -⟩ := h.exists_cuts t ht hfault
    refine ⟨String.ofList before, String.ofList after, ?_, ?_⟩
    · rw [← String.ofList_toList (s := text), htext', hvalue]
      simp [String.append_assoc]
    · rw [utf8ByteSize_ofList, hpos', Nat.zero_add]
  · -- without a fault the last value is all that is left
    intro t ht hkind
    rw [hsplit, List.getLast?_concat, Option.some.injEq] at ht
    subst ht
    have hrest : String.ofList rest = last.value := by
      rw [← hvalue hkind, String.ofList_toList]
    rw [hfront, hrest, hsplit, joined_eq_ofList, joined_eq_ofList]
    simp
  · intro t fault ht hkind
    rw [hsplit, List.getLast?_concat, Option.some.injEq] at ht
    subst ht
    rw [hsplit, List.dropLast_concat, hsize]
    refine ⟨?_, ⟨"", String.ofList rest, ?_, rfl⟩, rfl⟩
    · rw [hfront, String.utf8ByteSize_append, hsize]
      omega
    · rw [hfront]
      simp

/-- The tokens that a scanner hands out up to the terminal one tile its text. -/
theorem tiles_drain [Alphabet] (text : String) : Tiles text (Scanner.ofString text).drain.1 :=
  (Scanner.division_ofString text).tiles

end ActionTemplate
