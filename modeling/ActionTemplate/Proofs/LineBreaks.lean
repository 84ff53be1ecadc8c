import ActionTemplate.Proofs.Concat
import ActionTemplate.Proofs.Requests
import ActionTemplate.Proofs.Shape

/-!
# Line breaks and lines

A line break is always the last character of a token that is a line break. No other token contains
one, neither in front of its core, nor within it, nor in the message of a fault. So the lines that a
scanner counts in its text can be counted in the tokens that it has handed out: `line_after_eq`.

The messages are settled character by character, `unbroken_quote` and `unbroken_codePoint`; the tokens
by `Division.breaksAtEnd`.
-/

namespace ActionTemplate

open Text

/-! ## Messages -/

namespace Text

/-- No digit is a line break, in lower or in upper case. -/
theorem isLineBreak_digitChar : ∀ d < 16, isLineBreak (Nat.digitChar d) = false ∧
    isLineBreak (Nat.digitChar d).toUpper = false := by
  decide

/-- The form of a character between quotes contains no line break. -/
theorem unbroken_escape (c : Char) : ∀ x ∈ escape c, isLineBreak x = false := by
  unfold escape
  split_ifs with hnull htab hreturn hfeed hquote hbackslash hunprintable
  -- the two-letter forms
  iterate 6 · simp [isLineBreak]
  · have hmark : ∀ x ∈ ['\\', 'u', '\x7b'], isLineBreak x = false := by simp [isLineBreak]
    have hnumber : ∀ x ∈ hexadecimal c.toNat, isLineBreak x = false := by
      intro x hx
      obtain ⟨d, hd, rfl⟩ := exists_of_mem_hexadecimal hx
      exact (isLineBreak_digitChar d hd).1
    refine List.forall_mem_append.mpr ⟨?_, by simp [isLineBreak]⟩
    exact List.forall_mem_append.mpr ⟨hmark, hnumber⟩
  · simp [isLineBreak, hreturn, hfeed]

/-- A quoted text contains no line break. -/
theorem unbroken_quote (s : String) : ∀ x ∈ (quote s).toList, isLineBreak x = false := by
  intro x hx
  rw [quote, String.toList_ofList, quotedChars] at hx
  rcases List.mem_cons.mp hx with rfl | hx
  · rfl
  · rcases List.mem_append.mp hx with hx | hx
    · obtain ⟨c, -, hc⟩ := List.mem_flatMap.mp hx
      exact unbroken_escape c x hc
    · rw [List.mem_singleton.mp hx]
      rfl

/-- The code point of a character contains no line break. -/
theorem unbroken_codePoint (c : Char) : ∀ x ∈ (codePoint c).toList, isLineBreak x = false := by
  intro x hx
  rcases cases_of_mem_codePoint hx with rfl | rfl | ⟨d, hd, rfl⟩
  · rfl
  · rfl
  · exact (isLineBreak_digitChar d hd).2

end Text

/-- The message of a fault contains no line break, unless that is the character at fault. -/
theorem LexFault.unbroken_message {fault : LexFault}
    (h : ∀ c, fault = .badCharacter c → isLineBreak c = false) :
    ∀ x ∈ fault.message.toList, isLineBreak x = false := by
  cases fault with
  | badNumber lexeme =>
      have hmessage : (badNumber lexeme).message.toList =
          "bad number syntax: ".toList ++ (quote lexeme).toList := String.toList_append
      rw [hmessage]
      exact List.forall_mem_append.mpr ⟨by simp [isLineBreak], unbroken_quote lexeme⟩
  | badCharacter c =>
      have hmessage : (badCharacter c).message =
          "bad character " ++ codePoint c ++ " '" ++ String.singleton c ++ "'" := rfl
      have hc : isLineBreak c = false := h c rfl
      rw [hmessage]
      simp only [String.toList_append, String.toList_singleton]
      refine List.forall_mem_append.mpr ⟨?_, by simp [isLineBreak]⟩
      refine List.forall_mem_append.mpr ⟨?_, by simpa using hc⟩
      refine List.forall_mem_append.mpr ⟨?_, by simp [isLineBreak]⟩
      exact List.forall_mem_append.mpr ⟨by simp [isLineBreak], unbroken_codePoint c⟩

/-! ## Tokens -/

namespace Token

/-- A line break belongs to the value of a token only as the last character of a token that is a line
break, and there it does. -/
def BreaksAtEnd (t : Token) : Prop :=
  if t.kind = .endOfLine then
    ∃ front x, t.value.toList = front ++ [x] ∧ isLineBreak x = true ∧
      ∀ c ∈ front, isLineBreak c = false
  else ∀ c ∈ t.value.toList, isLineBreak c = false

/-- Whether a token is a line break, and the line break a line feed. -/
def endsInLineFeed (t : Token) : Bool :=
  t.kind = .endOfLine && t.value.toList.getLast? = some '\n'

/-- A token that ends in a line feed contains one line feed, and any other token none. -/
theorem BreaksAtEnd.newlines_value {t : Token} (h : t.BreaksAtEnd) :
    newlines t.value.toList = if t.endsInLineFeed then 1 else 0 := by
  unfold BreaksAtEnd at h
  split at h
  · rename_i hkind
    obtain ⟨front, x, hvalue, hx, hfront⟩ := h
    have hends : t.endsInLineFeed = decide (x = '\n') := by
      simp [endsInLineFeed, hkind, hvalue]
    rw [hends, hvalue, newlines_append, newlines_eq_zero hfront, Nat.zero_add, newlines,
      List.count_singleton]
    simp
  · rename_i hkind
    rw [newlines_eq_zero h]
    simp [endsInLineFeed, hkind]

/-- There are as many line feeds in some tokens as there are tokens that end in one. -/
theorem newlines_flatMap_value {tokens : List Token} (h : ∀ t ∈ tokens, t.BreaksAtEnd) :
    newlines (tokens.flatMap fun t => t.value.toList) = tokens.countP endsInLineFeed := by
  induction tokens with
  | nil => rfl
  | cons t tokens ih =>
      obtain ⟨hfirst, hrest⟩ := List.forall_mem_cons.mp h
      rw [List.flatMap_cons, newlines_append, hfirst.newlines_value, ih hrest, List.countP_cons,
        Nat.add_comm]

end Token

section

variable [Alphabet]

/-- No character at fault is a line break, as a line break may follow a word. -/
theorem Scan.Cuts.isLineBreak_of_badCharacter {front core rest : List Char} {x : Char}
    (h : Cuts front (.error (.badCharacter x)) core rest) : isLineBreak x = false := by
  generalize hverdict : (Except.error (.badCharacter x) : Verdict) = verdict at h
  cases h with
  | badCharacter hne hu hdigit hword hx =>
      cases hverdict
      simp only [mayFollowWord, Bool.or_eq_false_iff] at hx
      exact hx.1.2
  | _ => cases hverdict

/-- In every token of a text a line break is where it may be. -/
theorem Division.breaksAtEnd {pos : Nat} {text : List Char} {tokens : List Token}
    (h : Division pos text tokens) : ∀ t ∈ tokens, t.BreaksAtEnd := by
  induction h with
  | @endOfInput pos fillers hfillers =>
      intro t ht
      rw [List.mem_singleton.mp ht, Token.BreaksAtEnd, if_neg (by simp), String.toList_ofList]
      exact unbroken_of_fillers hfillers
  | @fault pos fillers core rest fault hfillers hcuts =>
      intro t ht
      rw [List.mem_singleton.mp ht, Token.BreaksAtEnd, if_neg (by simp [Token.ofFault])]
      apply LexFault.unbroken_message
      rintro c rfl
      exact hcuts.isLineBreak_of_badCharacter
  | @token pos fillers core rest kind tokens hfillers hcuts hkind hrest ih =>
      refine List.forall_mem_cons.mpr ⟨?_, ih⟩
      have hfront := unbroken_of_fillers hfillers
      rw [Token.BreaksAtEnd, String.toList_ofList]
      rcases hcuts.isLineBreak_cases with ⟨x, hx, rfl, hverdict⟩ | hcore
      · rw [if_pos (Except.ok.inj hverdict)]
        exact ⟨fillers, x, rfl, hx, hfront⟩
      · -- a token without a line break in its core is no end of a line, as that is one line break
        have hnot : kind ≠ .endOfLine := by
          rintro rfl
          obtain ⟨x, rfl, hx⟩ := shaped_of_cuts hcuts
          simp [hx] at hcore
        rw [if_neg hnot]
        exact List.forall_mem_append.mpr ⟨hfront, hcore⟩

namespace Scanner

/-! ## Lines -/

/-- What a scanner answers to some requests are the tokens proper, as far as they go, and then empty
ends of input. -/
theorem map_next_after (text : String) (k : Nat) :
    (List.range k).map (fun j => ((ofString text).after j).next.1) =
      (ofString text).drain.1.take k ++
        List.replicate (k - (ofString text).drain.1.length) (Token.endAt text.utf8ByteSize) := by
  induction k with
  | zero => simp
  | succ k ih =>
      rw [List.range_succ, List.map_append, ih, List.map_singleton, next_after, endless,
        List.take_add_one]
      cases hget : (ofString text).drain.1[k]? with
      | some t =>
          have hlt : k < (ofString text).drain.1.length := (List.getElem?_eq_some_iff.mp hget).1
          rw [Nat.sub_eq_zero_of_le hlt, Nat.sub_eq_zero_of_le (Nat.le_of_lt hlt)]
          simp
      | none =>
          have hle : (ofString text).drain.1.length ≤ k := List.getElem?_eq_none_iff.mp hget
          rw [Nat.succ_sub hle, List.replicate_succ']
          simp

/-- The line of a token is one more than the number of tokens in front of it that end in a line
feed. -/
theorem lineAt_pos {text : String} {init later : List Token} {t : Token}
    (h : (ofString text).drain.1 = init ++ t :: later) :
    lineAt text.toList t.pos = 1 + init.countP Token.endsInLineFeed := by
  have hdivision := division_ofString text
  have hbreaks : ∀ u ∈ init, u.BreaksAtEnd := fun u hu =>
    hdivision.breaksAtEnd u (by simp [h, hu])
  rw [h] at hdivision
  obtain ⟨rest, htext, hrest⟩ := hdivision.exists_append (List.cons_ne_nil t later)
  rw [hrest.pos_head? t rfl, Nat.zero_add, htext, lineAt, takeBytes_byteLength_append,
    Token.newlines_flatMap_value hbreaks]

/-- A scanner is on the line of the last token proper. -/
theorem line_after_eq (text : String) (k : Nat) :
    ((ofString text).after k).line =
      1 + ((ofString text).drain.1.take k).dropLast.countP Token.endsInLineFeed := by
  rw [line_after]
  cases hlast : ((ofString text).drain.1.take k).getLast? with
  | none =>
      rw [List.getLast?_eq_none_iff.mp hlast]
      rfl
  | some t =>
      obtain ⟨init, htake⟩ := List.getLast?_eq_some_iff.mp hlast
      have hdrain : (ofString text).drain.1 = init ++ t :: (ofString text).drain.1.drop k := by
        rw [← List.singleton_append, ← List.append_assoc, ← htake, List.take_append_drop]
      rw [htake, List.dropLast_concat, Option.map_some, Option.getD_some, lineAt_pos hdrain]

/-- With more requests the line does not decrease. -/
theorem line_after_le (text : String) {j k : Nat} (h : j ≤ k) :
    ((ofString text).after j).line ≤ ((ofString text).after k).line := by
  rw [line_after_eq, line_after_eq, List.dropLast_take_eq_take_dropLast,
    List.dropLast_take_eq_take_dropLast]
  have hfront := List.take_sublist_take_left (l := (ofString text).drain.1.dropLast)
    (Nat.sub_le_sub_right h 1)
  exact Nat.add_le_add_left hfront.countP_le 1

/-- A scanner at rest stays as it is. -/
theorem AtRest.after_eq {text : List Char} {s : Scanner} (h : s.AtRest text) (k : Nat) :
    s.after k = s := by
  induction k with
  | zero => rfl
  | succ k ih => rw [after_succ, ih, h]

/-- Behind the terminal token the line stays. -/
theorem line_after_of_isTerminal {text : String} {j k : Nat}
    (h : ((ofString text).after j).next.1.kind.isTerminal = true) (hjk : j < k) :
    ((ofString text).after k).line = ((ofString text).after (j + 1)).line := by
  have hrest := atRest_after_of_isTerminal h (Nat.lt_succ_self j)
  obtain ⟨n, rfl⟩ := Nat.exists_eq_add_of_le hjk
  rw [after_add, hrest.after_eq]

/-- In every token that is handed out a line break is where it may be. -/
theorem breaksAtEnd_next_after (text : String) (k : Nat) :
    ((ofString text).after k).next.1.BreaksAtEnd := by
  rw [next_after, endless]
  cases hget : (ofString text).drain.1[k]? with
  | some t => exact (division_ofString text).breaksAtEnd t (List.mem_of_getElem? hget)
  | none => simp [Token.BreaksAtEnd, Token.endAt]

/-- Once the end of input is handed out, a scanner is on the last line of its text. -/
theorem line_after_of_endOfInput {text : String} {last : Token} {k : Nat}
    (hlast : (ofString text).drain.1.getLast? = some last) (hkind : last.kind = .endOfInput)
    (hk : (ofString text).drain.1.length ≤ k) :
    ((ofString text).after k).line = 1 + newlines text.toList := by
  rw [line_after, List.take_of_length_le hk, hlast, Option.map_some, Option.getD_some]
  exact (division_ofString text).lineAt_endOfInput (List.mem_of_getLast? hlast) hkind

/-- The line of a scanner is told by its tokens. The requests are answered with the tokens proper and
then with empty ends of input; the line is one more than the number of tokens in front of the last
token proper that are line breaks and end in a line feed. It does not decrease, and behind the
terminal token it stays. A line break belongs to no other token and ends the token to which it
belongs, so behind the end of input all line feeds of the text have been counted. -/
theorem lines_told_by_tokens (text : String) :
    (∀ k, (List.range k).map (fun j => ((ofString text).after j).next.1) =
        (ofString text).drain.1.take k ++
          List.replicate (k - (ofString text).drain.1.length) (Token.endAt text.utf8ByteSize)) ∧
      (∀ k, ((ofString text).after k).line =
        1 + ((ofString text).drain.1.take k).dropLast.countP Token.endsInLineFeed) ∧
      (∀ j k, j ≤ k → ((ofString text).after j).line ≤ ((ofString text).after k).line) ∧
      (∀ j k, ((ofString text).after j).next.1.kind.isTerminal = true → j < k →
        ((ofString text).after k).line = ((ofString text).after (j + 1)).line) ∧
      (∀ k, ((ofString text).after k).next.1.BreaksAtEnd) ∧
      ∀ last k, (ofString text).drain.1.getLast? = some last → last.kind = .endOfInput →
        (ofString text).drain.1.length ≤ k →
        ((ofString text).after k).line = 1 + newlines text.toList := by
  refine ⟨map_next_after text, line_after_eq text, fun j k hjk => line_after_le text hjk,
    fun j k hkind hjk => line_after_of_isTerminal hkind hjk, breaksAtEnd_next_after text, ?_⟩
  intro last k hlast hkind hk
  exact line_after_of_endOfInput hlast hkind hk

end Scanner

end

end ActionTemplate
