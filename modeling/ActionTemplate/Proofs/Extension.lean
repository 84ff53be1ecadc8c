import ActionTemplate.Proofs.Concat
import ActionTemplate.Proofs.Requests
import ActionTemplate.Text.Letters

/-!
# More text behind a text

To tell where a token ends, a scan looks at one character behind it and at no other. So a token that
ends before the end of a text is a token of every longer text that begins in the same way, with the
same tokens in front of it. A fault stays, too, unless it showed at the end of the text.

`Division.exists_replace` says what may be exchanged in a division: in front of any of its tokens it
may be continued by another division, as long as the character that was seen there stays.
-/

namespace ActionTemplate

open Text

/-- The fault of a token at the byte offset `pos` showed in front of the end of a text of `size`
bytes. A character that may not follow a word has been seen; what is no number has to end earlier
than the text. -/
def LexFault.ShowsBefore (size pos : Nat) : LexFault → Prop
  | .badNumber lexeme => pos + lexeme.utf8ByteSize < size
  | .badCharacter _ => True

section

variable [Alphabet]

/-! ## Cuts -/

namespace Scan

/-- The lexeme of what is no number is all that has been taken. -/
theorem Cuts.lexeme_eq {front core rest : List Char} {lexeme : String}
    (h : Cuts front (.error (.badNumber lexeme)) core rest) : lexeme = String.ofList (front ++ core) := by
  generalize hverdict : (Except.error (.badNumber lexeme) : Verdict) = verdict at h
  cases h with
  | runsOn hbegin hu hx =>
      cases hverdict
      rfl
  | secondRunsOn hbegin hu hsign hv hx =>
      cases hverdict
      rfl
  | notImaginary hbegin hu hsign hv hword hlast =>
      cases hverdict
      rfl
  | _ => cases hverdict

/-- Where a fault showed in front of the end, something is left behind it. -/
theorem Cuts.ne_nil_of_showsBefore {fillers core rest : List Char} {fault : LexFault} {pos : Nat}
    (h : Cuts fillers (.error fault) core rest)
    (hshows : fault.ShowsBefore (pos + byteLength (fillers ++ core ++ rest)) pos) : rest ≠ [] := by
  cases fault with
  | badNumber lexeme =>
      rintro rfl
      rw [LexFault.ShowsBefore, h.lexeme_eq, utf8ByteSize_ofList, List.append_nil] at hshows
      exact Nat.lt_irrefl _ hshows
  | badCharacter c =>
      generalize hverdict : (Except.error (.badCharacter c) : Verdict) = verdict at h
      cases h with
      | badCharacter hne hu hdigit hword hx => simp
      | _ => cases hverdict

end Scan

/-! ## Divisions -/

namespace Division

variable {pos : Nat} {text : List Char} {init later tokens : List Token} {t last : Token}

/-- Every text can be divided, wherever it starts. -/
theorem exists_division (pos : Nat) (text : List Char) : ∃ tokens, Division pos text tokens := by
  have h := (Scanner.division_ofString (String.ofList text)).moved pos
  rw [String.toList_ofList, Nat.add_zero] at h
  exact ⟨_, h⟩

/-- In front of any of its tokens a division can be continued by another one, if more text follows and
what was left of the text there is not empty. -/
theorem exists_replace (h : Division pos text (init ++ tokens)) (hne : tokens ≠ []) :
    ∃ before rest, text = before ++ rest ∧ Division (pos + byteLength before) rest tokens ∧
      ∀ {more : List Char} {tokens' : List Token}, rest ≠ [] →
        Division (pos + byteLength before) (rest ++ more) tokens' →
        Division pos (text ++ more) (init ++ tokens') := by
  induction init generalizing pos text with
  | nil => exact ⟨[], text, rfl, h, fun _ h' => h'⟩
  | cons first init ih =>
      have hmore : init ++ tokens ≠ [] := by simp [hne]
      generalize hall : first :: init ++ tokens = all at h
      cases h with
      | endOfInput hfillers => exact absurd (List.cons_eq_cons.mp hall).2 hmore
      | fault hfillers hcuts => exact absurd (List.cons_eq_cons.mp hall).2 hmore
      | @token _ fillers core rest kind others hfillers hcuts hkind hrest =>
          obtain ⟨rfl, rfl⟩ := List.cons_eq_cons.mp hall
          obtain ⟨before, left, rfl, hleft, hreplace⟩ := ih hrest
          have hpos : pos + byteLength (fillers ++ core) + byteLength before =
              pos + byteLength (fillers ++ core ++ before) := by
            rw [byteLength_append _ before, Nat.add_assoc]
          rw [hpos] at hleft hreplace
          refine ⟨fillers ++ core ++ before, left, by simp, hleft, ?_⟩
          intro more tokens' hnonempty h'
          -- as something is left at the end, something is left behind the first token
          have hrest' : before ++ left ≠ [] := by simp [hnonempty]
          rw [List.append_assoc]
          exact .token hfillers (hcuts.append_of_ne_nil hrest' more) hkind (hreplace hnonempty h')

/-- A token that ends before the end of the text stays, with all tokens in front of it, when more text
follows. -/
theorem exists_append_of_lt (h : Division pos text (init ++ t :: later))
    (hfault : ∀ fault, t.kind ≠ .error fault)
    (hend : t.pos + t.value.utf8ByteSize < pos + byteLength text) (more : List Char) :
    ∃ later', Division pos (text ++ more) (init ++ t :: later') := by
  obtain ⟨before, rest, rfl, hrest, hreplace⟩ := h.exists_replace (List.cons_ne_nil t later)
  have hpos : t.pos = pos + byteLength before := hrest.pos_head? t rfl
  rw [hpos, byteLength_append] at hend
  have hnonempty : rest ≠ [] := by
    rintro rfl
    rw [byteLength_nil] at hend
    omega
  generalize hall : t :: later = all at hrest
  cases hrest with
  | endOfInput hfillers =>
      -- the end of input ends where the text does
      obtain ⟨rfl, -⟩ := List.cons_eq_cons.mp hall
      rw [utf8ByteSize_ofList] at hend
      omega
  | fault hfillers hcuts =>
      obtain ⟨rfl, -⟩ := List.cons_eq_cons.mp hall
      exact absurd rfl (hfault _)
  | @token _ fillers core rest kind others hfillers hcuts hkind hothers =>
      obtain ⟨rfl, rfl⟩ := List.cons_eq_cons.mp hall
      have hleft : rest ≠ [] := by
        rintro rfl
        rw [utf8ByteSize_ofList, List.append_nil] at hend
        omega
      obtain ⟨later', hlater⟩ :=
        exists_division (pos + byteLength before + byteLength (fillers ++ core)) (rest ++ more)
      refine ⟨later', hreplace hnonempty ?_⟩
      rw [List.append_assoc]
      exact .token hfillers (hcuts.append_of_ne_nil hleft more) hkind hlater

/-- A fault that showed before the end of the text stays, with all tokens in front of it, when more
text follows. -/
theorem append_of_showsBefore {fault : LexFault} (h : Division pos text (init ++ [last]))
    (hkind : last.kind = .error fault)
    (hshows : fault.ShowsBefore (pos + byteLength text) last.pos) (more : List Char) :
    Division pos (text ++ more) (init ++ [last]) := by
  obtain ⟨before, rest, rfl, hrest, hreplace⟩ := h.exists_replace (List.cons_ne_nil last [])
  rw [hrest.pos_head? last rfl, byteLength_append, ← Nat.add_assoc] at hshows
  generalize hall : [last] = all at hrest
  cases hrest with
  | endOfInput hfillers =>
      obtain ⟨rfl, -⟩ := List.cons_eq_cons.mp hall
      cases hkind
  | @fault _ fillers core rest found hfillers hcuts =>
      obtain ⟨rfl, -⟩ := List.cons_eq_cons.mp hall
      obtain rfl : found = fault := TokenKind.error.inj hkind
      refine hreplace ?_ ?_
      · simp [hcuts.core_ne_nil]
      · rw [List.append_assoc]
        exact .fault hfillers (hcuts.append_of_ne_nil (hcuts.ne_nil_of_showsBefore hshows) more)
  | token hfillers hcuts hnot hothers =>
      obtain ⟨rfl, -⟩ := List.cons_eq_cons.mp hall
      cases hkind
      cases hnot

end Division

/-! ## Scanners -/

namespace Scanner

/-- A token of the sequence that starts before the end of the text is one of those up to the terminal
one. -/
theorem exists_drain_eq_of_endless {text : String} {k : Nat} {t : Token}
    (ht : endless text k = t) (hpos : t.pos < text.utf8ByteSize) :
    ∃ init later, (ofString text).drain.1 = init ++ t :: later ∧ init.length = k := by
  cases hget : (ofString text).drain.1[k]? with
  | none =>
      rw [endless, hget] at ht
      rw [← ht] at hpos
      exact absurd hpos (Nat.lt_irrefl _)
  | some u =>
      rw [endless, hget, Option.getD_some] at ht
      obtain ⟨hk, rfl⟩ := List.getElem?_eq_some_iff.mp hget
      refine ⟨(ofString text).drain.1.take k, (ofString text).drain.1.drop (k + 1), ?_,
        List.length_take_of_le (Nat.le_of_lt hk)⟩
      rw [← ht, ← List.drop_eq_getElem_cons hk, List.take_append_drop]

/-- If more text behind a text changes none of the tokens, they are on the same lines. -/
theorem line_after_append {text more : String}
    (h : (ofString (text ++ more)).drain.1 = (ofString text).drain.1) (k : Nat) :
    ((ofString (text ++ more)).after k).line = ((ofString text).after k).line := by
  rw [line_after, line_after, h]
  refine congrArg (Option.getD · 1) (Option.map_congr fun t ht => ?_)
  have hmem : t ∈ (ofString text).drain.1 :=
    List.mem_of_mem_take (List.mem_of_getLast? ht)
  have hle := (division_ofString text).pos_le t hmem
  rw [Nat.zero_add] at hle
  rw [String.toList_append, lineAt_append_of_le hle]

/-- A text whose last token is a fault is rejected for it. -/
theorem tokenize_eq_error_of_getLast? {text : String} {last : Token} {fault : LexFault}
    (hlast : (ofString text).drain.1.getLast? = some last) (hkind : last.kind = .error fault) :
    tokenize text = .error ⟨fault, last.pos, lineAt text.toList last.pos⟩ := by
  obtain ⟨init, hdrain⟩ := List.getLast?_eq_some_iff.mp hlast
  rcases tokenize_cases hdrain with ⟨hinput, -⟩ | ⟨found, hfound, htokenize⟩
  · rw [hinput] at hkind
    cases hkind
  · obtain rfl : fault = found := TokenKind.error.inj (hkind.symm.trans hfound)
    exact htokenize

/-- What has been cut off before the end of a text does not depend on what follows the text. Whatever
that is, each token that ends earlier is handed out in answer to the same request. If the text ends in
a fault that showed earlier, the tokens are the same and so is the fault, its place and its line. -/
theorem unaffected_by_append (text more : String) :
    (∀ k t, ((ofString text).after k).next.1 = t → (∀ fault, t.kind ≠ .error fault) →
        t.pos + t.value.utf8ByteSize < text.utf8ByteSize →
        ((ofString (text ++ more)).after k).next.1 = t) ∧
      ∀ last fault, (ofString text).drain.1.getLast? = some last → last.kind = .error fault →
        fault.ShowsBefore text.utf8ByteSize last.pos →
        (ofString (text ++ more)).drain.1 = (ofString text).drain.1 ∧
          tokenize text = .error ⟨fault, last.pos, lineAt text.toList last.pos⟩ ∧
          tokenize (text ++ more) = tokenize text ∧
          ∀ k, ((ofString (text ++ more)).after k).line = ((ofString text).after k).line := by
  have hdivision := division_ofString text
  have hlonger := division_ofString (text ++ more)
  rw [String.toList_append] at hlonger
  constructor
  · intro k t ht hfault hend
    rw [next_after] at ht
    obtain ⟨init, later, hdrain, rfl⟩ := exists_drain_eq_of_endless ht (by omega)
    rw [hdrain] at hdivision
    obtain ⟨later', hkept⟩ := hdivision.exists_append_of_lt hfault
      (by rwa [byteLength_toList, Nat.zero_add]) more.toList
    rw [next_after, endless, hlonger.unique hkept]
    simp
  · intro last fault hlast hkind hshows
    obtain ⟨init, hdrain⟩ := List.getLast?_eq_some_iff.mp hlast
    have hkept : Division 0 (text.toList ++ more.toList) (init ++ [last]) := by
      rw [hdrain] at hdivision
      exact hdivision.append_of_showsBefore hkind
        (by rwa [byteLength_toList, Nat.zero_add]) more.toList
    have hsame : (ofString (text ++ more)).drain.1 = (ofString text).drain.1 := by
      rw [hdrain, hlonger.unique hkept]
    have hle : last.pos ≤ byteLength text.toList := by
      have h := hdivision.pos_le last (List.mem_of_getLast? hlast)
      rwa [Nat.zero_add] at h
    refine ⟨hsame, tokenize_eq_error_of_getLast? hlast hkind, ?_, line_after_append hsame⟩
    rw [tokenize_eq_error_of_getLast? hlast hkind,
      tokenize_eq_error_of_getLast? (hsame ▸ hlast) hkind, String.toList_append,
      lineAt_append_of_le hle]

end Scanner

end

/-- Before the last blank of a text the tokens are settled, and so is a fault that showed there: a
letter behind the blank changes nothing. -/
theorem Scanner.unaffected_by_letter :
    ((ofString ("(1-0x2i 9z " ++ "x")).after 0).next.1 = ⟨.complex, "(1-0x2i", 0⟩ ∧
      (ofString "(1-0x2i 9z ").drain.1.getLast? = some (Token.ofFault (.badNumber "9z") 8) ∧
      8 + "9z".utf8ByteSize < "(1-0x2i 9z ".utf8ByteSize ∧
      tokenize ("(1-0x2i 9z " ++ "x") = .error ⟨.badNumber "9z", 8, 1⟩ := by
  obtain ⟨hkept, hfault⟩ := unaffected_by_append "(1-0x2i 9z " "x"
  have hfirst : ((ofString "(1-0x2i 9z ").after 0).next.1 = ⟨.complex, "(1-0x2i", 0⟩ := by
    decide +kernel
  have hlast : (ofString "(1-0x2i 9z ").drain.1.getLast? =
      some (Token.ofFault (.badNumber "9z") 8) := by
    decide +kernel
  have hshows : 8 + "9z".utf8ByteSize < "(1-0x2i 9z ".utf8ByteSize := by decide
  obtain ⟨-, htokenize, hsame, -⟩ := hfault _ (.badNumber "9z") hlast rfl hshows
  refine ⟨hkept 0 _ hfirst nofun (by decide), hlast, hshows, ?_⟩
  rw [hsame, htokenize]
  decide +kernel

end ActionTemplate
