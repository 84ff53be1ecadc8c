import ActionTemplate.Proofs.Division
import ActionTemplate.Text.Letters

/-!
# The shapes of the kinds of token

The value of a token is a run of fillers and, behind it, a core whose shape depends on the kind of
the token: `Shaped` says how. It also says what may follow, so that no token could have been longer.
The kind of a word is a matter of the whole value, fillers included: `(true` is an identifier, and
`.if` a field.
-/

namespace ActionTemplate

open Text Scan

/-! ## Words -/

/-- The kind of a token that ends in a word, told by the value of the token. -/
structure NamedBy (value : String) (kind : TokenKind) : Prop where
  elseWord : kind = .keyword .elseWord ↔ value = "else"
  endWord : kind = .keyword .endWord ↔ value = "end"
  ifWord : kind = .keyword .ifWord ↔ value = "if"
  nil : kind = .nil ↔ value = "nil"
  field : kind = .field ↔ value.toList.head? = some '.'
  bool : kind = .bool ↔ value = "true" ∨ value = "false"
  identifier : kind = .identifier ↔
    value ∉ ["else", "end", "if", "nil", "true", "false"] ∧ value.toList.head? ≠ some '.'

/-- The kind of a word is the one that the value tells. -/
theorem namedBy_ofWord (value : String) : NamedBy value (.ofWord value) := by
  by_cases hreserved : value ∈ ["else", "end", "if", "nil", "true", "false"]
  · simp only [List.mem_cons, List.not_mem_nil, or_false] at hreserved
    -- each of the six words is a value of its own, so all questions about it can be computed
    rcases hreserved with rfl | rfl | rfl | rfl | rfl | rfl <;> constructor <;> decide
  · simp only [List.mem_cons, List.not_mem_nil, or_false, not_or] at hreserved
    obtain ⟨helse, hend, hif, hnil, htrue, hfalse⟩ := hreserved
    by_cases hpoint : value.toList.head? = some '.'
    · have hkind : TokenKind.ofWord value = .field := by
        simp [TokenKind.ofWord, TokenKind.reserved?, helse, hend, hif, hnil, hpoint]
      rw [hkind]
      constructor <;> simp [helse, hend, hif, hnil, htrue, hfalse, hpoint]
    · have hkind : TokenKind.ofWord value = .identifier := by
        simp [TokenKind.ofWord, TokenKind.reserved?, helse, hend, hif, hnil, hpoint, htrue, hfalse]
      rw [hkind]
      constructor <;> simp [helse, hend, hif, hnil, htrue, hfalse, hpoint]

/-- The character behind a token, if there is one, has not the property `p`. -/
def Stops (p : Char → Bool) (rest : List Char) : Prop := ∀ x, rest.head? = some x → p x = false

/-- A run that ends stops at what follows. -/
theorem stops_of_any {p : Char → Bool} {rest : List Char} (h : rest.head?.any p = false) :
    Stops p rest := by
  intro x hx
  simpa [hx] using h

section

variable [Alphabet]

/-- The piece `u` is a whole word, and what follows it may stand behind a word. -/
structure IsWholeWord (u rest : List Char) : Prop where
  ne_nil : u ≠ []
  isWord : ∀ x ∈ u, isWord x = true
  head : Stops Char.isDigit u
  follow : ∀ x, rest.head? = some x → mayFollowWord x = true

/-! ## Numbers -/

/-- The piece `u` is the whole numeral that stands in front of `rest`: it begins as a numeral does,
and the scan of a numeral that starts in front of it ends behind it, wherever in a text that is. -/
structure IsWholeNumeral (u rest : List Char) : Prop where
  begins : beginsNumeral u = true
  taken : ∀ c : Cursor, c.ahead = u ++ rest →
    ∃ c', completeNumeral.run c = .ok true c' ∧ c.Moves u c'

/-- A numeral with no word behind it is a whole one. -/
theorem isWholeNumeral_of_numeralSpan {u rest : List Char} (hbegin : beginsNumeral u = true)
    (hu : numeralSpan (u ++ rest) = u) (hword : rest.head?.any isWord = false) :
    IsWholeNumeral u rest := by
  refine ⟨hbegin, ?_⟩
  intro c hahead
  exact exists_run_completeNumeral_of_complete hahead hu hword

/-! ## All kinds -/

/-- The core of a token of the given kind, which stands between `fillers` and `rest`. -/
def Shaped (fillers core rest : List Char) : TokenKind → Prop
  | .endOfLine => ∃ x, core = [x] ∧ isLineBreak x = true
  | .space => core ≠ [] ∧ (∀ x ∈ core, isBlank x = true) ∧ Stops isBlank rest
  | .number => IsWholeNumeral core rest ∧ Stops isWord rest ∧ Stops isSign rest
  | .complex => ∃ u v, core = u ++ v ∧ IsWholeNumeral u (v ++ rest) ∧ IsWholeNumeral v rest ∧
      (∃ x, v.head? = some x ∧ isSign x = true) ∧ v.getLast? = some 'i' ∧ Stops isWord rest
  | .endOfInput => core = [] ∧ rest = []
  | .error _ => False
  | kind => IsWholeWord core rest ∧ NamedBy (String.ofList (fillers ++ core)) kind

/-- The shape of a token that ends in a word. -/
theorem shaped_of_endsInWord {fillers core rest : List Char} {kind : TokenKind}
    (hkind : kind.endsInWord = true) (hword : IsWholeWord core rest)
    (hname : NamedBy (String.ofList (fillers ++ core)) kind) : Shaped fillers core rest kind := by
  cases kind with
  | identifier => exact ⟨hword, hname⟩
  | field => exact ⟨hword, hname⟩
  | bool => exact ⟨hword, hname⟩
  | nil => exact ⟨hword, hname⟩
  | keyword word => exact ⟨hword, hname⟩
  | error fault => cases hkind
  | endOfInput => cases hkind
  | number => cases hkind
  | complex => cases hkind
  | space => cases hkind
  | endOfLine => cases hkind

/-- The core that is cut off with some kind has its shape. -/
theorem shaped_of_cuts {fillers core rest : List Char} {kind : TokenKind}
    (h : Cuts fillers (.ok kind) core rest) : Shaped fillers core rest kind := by
  generalize hverdict : (Except.ok kind : Verdict) = verdict at h
  cases h with
  | endOfInput =>
      cases hverdict
      exact ⟨rfl, rfl⟩
  | @endOfLine x rest hx =>
      cases hverdict
      exact ⟨x, rfl, hx⟩
  | space hx hu hrest =>
      cases hverdict
      refine ⟨by simp, ?_, stops_of_any hrest⟩
      intro y hy
      rcases List.mem_cons.mp hy with rfl | hy
      · exact hx
      · exact hu y hy
  | number hbegin hu hword hsign =>
      cases hverdict
      exact ⟨isWholeNumeral_of_numeralSpan hbegin hu hword, stops_of_any hword, stops_of_any hsign⟩
  | @complex u v rest hbegin hu hsign hv hword hlast =>
      cases hverdict
      -- the second numeral starts with a sign, which ends the first one as it is no word character
      cases hv' : v with
      | nil => simp [hv'] at hsign
      | cons x w =>
          rw [hv'] at hu hv hsign hlast
          have hx : isSign x = true := by simpa using hsign
          have hbegin' : beginsNumeral (x :: w) = true := by simp [beginsNumeral, hx]
          have hword' : (x :: w ++ rest).head?.any isWord = false := by
            simpa using isWord_eq_false_of_isSign hx
          exact ⟨u, x :: w, rfl, isWholeNumeral_of_numeralSpan hbegin hu hword',
            isWholeNumeral_of_numeralSpan hbegin' hv hword, ⟨x, rfl, hx⟩, hlast, stops_of_any hword⟩
  | word hne hu hdigit hrest =>
      cases hverdict
      apply shaped_of_endsInWord (TokenKind.endsInWord_ofWord _)
      · refine ⟨hne, hu, stops_of_any hdigit, ?_⟩
        intro x hx
        simpa [hx] using hrest
      · exact namedBy_ofWord _
  | runsOn hbegin hu hx => simp at hverdict
  | secondRunsOn hbegin hu hsign hv hx => simp at hverdict
  | notImaginary hbegin hu hsign hv hword hlast => simp at hverdict
  | badCharacter hne hu hdigit hword hx => simp at hverdict

/-! ## The tokens of a text -/

/-- Every token of a text that is no fault has the shape of its kind, and what follows it shows that
it could not have been longer. -/
theorem shaped_of_mem_drain (text : String) {t : Token}
    (ht : t ∈ (Scanner.ofString text).drain.1) (hfault : ∀ fault, t.kind ≠ .error fault) :
    ∃ before fillers core after, text.toList = before ++ (fillers ++ core) ++ after ∧
      t.pos = byteLength before ∧ t.value = String.ofList (fillers ++ core) ∧
      (∀ x ∈ fillers, isFiller x = true) ∧ Shaped fillers core after t.kind := by
  obtain ⟨before, fillers, core, after, htext, hpos, hvalue, hfillers, hcuts⟩ :=
    (Scanner.division_ofString text).exists_cuts t ht hfault
  refine ⟨before, fillers, core, after, htext, ?_, hvalue, hfillers, shaped_of_cuts hcuts⟩
  rw [hpos, Nat.zero_add]

end

/-- The complex number of a condition, which stands behind a bracket, has its shape. -/
theorem shaped_complex_of_condition :
    (⟨.complex, "(1-0x2i", 3⟩ : Token) ∈ (Scanner.ofString "if (1-0x2i\n").drain.1 ∧
      ∃ before fillers core after, "if (1-0x2i\n".toList = before ++ (fillers ++ core) ++ after ∧
        3 = byteLength before ∧ "(1-0x2i" = String.ofList (fillers ++ core) ∧
        (∀ x ∈ fillers, isFiller x = true) ∧ Shaped fillers core after .complex := by
  have hmem : (⟨.complex, "(1-0x2i", 3⟩ : Token) ∈ (Scanner.ofString "if (1-0x2i\n").drain.1 := by
    decide +kernel
  exact ⟨hmem, shaped_of_mem_drain "if (1-0x2i\n" hmem fun fault => by simp⟩

end ActionTemplate
