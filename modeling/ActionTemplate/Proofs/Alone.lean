import ActionTemplate.Proofs.Rejection
import ActionTemplate.Text.Letters

/-!
# A token by itself

Nothing of what stands around a token is needed to recognize it. Its value, taken as a text of its
own, is that token again and nothing else, `tokenize_value`, and so the kind of a token can be told
from its value.

What follows a token shows where it ends, and so does the end of the text: `Cuts.alone`.
-/

namespace ActionTemplate

open Text

/-- The tokens of the text that is the value of a token: the token at the beginning, and the end of
input unless the token is that itself. -/
def Token.alone (t : Token) : List Token :=
  { t with pos := 0 } ::
    if t.kind = .endOfInput then [] else [Token.endAt t.value.utf8ByteSize]

/-- A numeral that is a text of its own is taken whole. -/
theorem Text.numeralSpan_of_mem {u : List Char} (h : u ∈ numerals) : numeralSpan u = u :=
  isLongest_numerals_iff.mp ⟨List.prefix_rfl, h, fun _ hfront _ => hfront.length_le⟩

/-- What is taken of a text as a numeral is taken of itself. -/
theorem Text.numeralSpan_self {u rest : List Char} (h : numeralSpan (u ++ rest) = u) :
    numeralSpan u = u :=
  numeralSpan_of_mem (isLongest_numerals_iff.mpr h).mem

section

variable [Alphabet]

/-- Where a token is cut off, it is also cut off if the text ends there. -/
theorem Scan.Cuts.alone {front core rest : List Char} {kind : TokenKind}
    (h : Cuts front (.ok kind) core rest) : Cuts front (.ok kind) core [] := by
  generalize hverdict : (Except.ok kind : Verdict) = verdict at h
  cases h with
  | endOfInput => exact .endOfInput
  | endOfLine hx => exact .endOfLine hx
  | space hx hu hrest => exact .space hx hu rfl
  | @number u _ hbegin hu hword hsign =>
      refine .number hbegin ?_ rfl rfl
      rw [List.append_nil, numeralSpan_self hu]
  | @complex u v _ hbegin hu hsign hv hword hlast =>
      refine .complex hbegin ?_ hsign ?_ rfl hlast
      · -- the sign of the second numeral still shows where the first one ends
        rw [List.append_nil]
        cases v with
        | nil => simp at hsign
        | cons x v => exact numeralSpan_append_cons_iff.mpr (numeralSpan_append_cons_iff.mp hu)
      · rw [List.append_nil, numeralSpan_self hv]
  | word hne hu hdigit hrest => exact .word hne hu hdigit rfl
  | runsOn hbegin hu hx => cases hverdict
  | secondRunsOn hbegin hu hsign hv hx => cases hverdict
  | notImaginary hbegin hu hsign hv hword hlast => cases hverdict
  | badCharacter hne hu hdigit hword hx => cases hverdict

/-- Whatever division of a text without a fault is at hand, the text is cut into its tokens. -/
theorem Division.tokenize_eq {text : String} {tokens : List Token}
    (h : Division 0 text.toList tokens) (hfault : faultIn? tokens = none) :
    tokenize text = .ok tokens := by
  have htokens := (Scanner.division_ofString text).unique h
  rw [ActionTemplate.tokenize_eq, htokens, hfault]

/-- The value of a token is divided into that token and nothing else. -/
theorem Division.alone {fillers core rest : List Char} {kind : TokenKind}
    (hfillers : ∀ x ∈ fillers, isFiller x = true) (hcuts : Scan.Cuts fillers (.ok kind) core rest)
    (pos : Nat) :
    Division 0 (fillers ++ core) (Token.alone ⟨kind, String.ofList (fillers ++ core), pos⟩) := by
  cases hkind : kind.isTerminal with
  | true =>
      obtain ⟨rfl, rfl, -⟩ := hcuts.eq_nil_of_isTerminal hkind
      rw [List.append_nil]
      exact .endOfInput hfillers
  | false =>
      have hend : Division (0 + byteLength (fillers ++ core)) []
          [Token.endAt (byteLength (fillers ++ core))] := by
        rw [Nat.zero_add]
        exact .endOfInput (by simp)
      have hdivision := Division.token hfillers hcuts.alone hkind hend
      rw [List.append_nil] at hdivision
      simpa [Token.alone, TokenKind.ne_endOfInput hkind] using hdivision

omit [Alphabet] in
/-- By itself a token that is no fault leads to none. -/
theorem faultIn?_alone {t : Token} (hfault : ∀ fault, t.kind ≠ .error fault) :
    faultIn? t.alone = none := by
  obtain ⟨kind, value, pos⟩ := t
  cases kind with
  | error fault => exact absurd rfl (hfault fault)
  | _ => rfl

/-- The value of a token is cut into that token and nothing else. -/
theorem tokenize_eq_alone {text : String} {t : Token} (ht : t ∈ (Scanner.ofString text).drain.1)
    (hfault : ∀ fault, t.kind ≠ .error fault) : tokenize t.value = .ok t.alone := by
  obtain ⟨_, fillers, core, _, -, -, hvalue, hfillers, hcuts⟩ :=
    (Scanner.division_ofString text).exists_cuts t ht hfault
  have hdivision := Division.alone hfillers hcuts t.pos
  rw [← hvalue] at hdivision
  refine Division.tokenize_eq ?_ (faultIn?_alone hfault)
  rw [hvalue, String.toList_ofList]
  exact hdivision

/-- The value of a token that is no fault, taken as a text, is cut into that token, which then is at
the beginning, and the end of input behind it, unless the token is the end of input. So two tokens
with the same value, of whatever texts, are of the same kind. -/
theorem tokenize_value {text : String} {t : Token} (ht : t ∈ (Scanner.ofString text).drain.1)
    (hfault : ∀ fault, t.kind ≠ .error fault) :
    tokenize t.value = .ok t.alone ∧
      ∀ (text' : String) (u : Token), u ∈ (Scanner.ofString text').drain.1 →
        (∀ fault, u.kind ≠ .error fault) → u.value = t.value → u.kind = t.kind := by
  refine ⟨tokenize_eq_alone ht hfault, ?_⟩
  intro text' u hu hfault' hvalue
  have halone := tokenize_eq_alone hu hfault'
  rw [hvalue, tokenize_eq_alone ht hfault] at halone
  obtain ⟨hsame, -⟩ := List.cons_eq_cons.mp (Except.ok.inj halone)
  exact (congrArg Token.kind hsame).symm

end

/-- The complex number behind a bracket is found again in its value, and every token with this value
is a complex number. -/
theorem tokenize_value_of_condition :
    (⟨.complex, "(1-0x2i", 3⟩ : Token) ∈ (Scanner.ofString "if (1-0x2i\n").drain.1 ∧
      tokenize "(1-0x2i" = .ok [⟨.complex, "(1-0x2i", 0⟩, ⟨.endOfInput, "", 7⟩] ∧
      ∀ (text : String) (u : Token), u ∈ (Scanner.ofString text).drain.1 →
        (∀ fault, u.kind ≠ .error fault) → u.value = "(1-0x2i" → u.kind = .complex := by
  have hmem : (⟨.complex, "(1-0x2i", 3⟩ : Token) ∈ (Scanner.ofString "if (1-0x2i\n").drain.1 := by
    decide +kernel
  obtain ⟨halone, hkind⟩ := tokenize_value hmem nofun
  exact ⟨hmem, halone, hkind⟩

end ActionTemplate
