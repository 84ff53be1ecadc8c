import ActionTemplate.Proofs.Grammar
import ActionTemplate.Proofs.Lines
import ActionTemplate.Proofs.Tiling
import ActionTemplate.Proofs.Unique

/-!
# Which texts are rejected

A text is cut into tokens up to its end, or it is rejected for the first fault. `Rejects` lists the
four ways in which what stands behind the last token can be faulty, told by characters and by the
language of numerals, without any scan. The list is complete and none of its entries is spurious:
`tokenize_eq_error_iff` says that a text is rejected exactly when one of them applies, and then with
the fault, the place and the line that the list says.

That the tokens, or the fault in their place, are what a scanner hands out is `tokenize_eq`.
-/

namespace ActionTemplate

open Text

variable [Alphabet]

/-! ## The outcome of cutting a text -/

namespace Scanner

/-- The tokens of a scanner are those it hands out, unless there is a fault among them. -/
theorem tokens_eq {s : Scanner} {before after : List Char} (h : s.At before after) :
    s.tokens = match faultIn? s.drain.1 with
      | some (fault, pos) => .error ⟨fault, pos, lineAt s.text pos⟩
      | none => .ok s.drain.1 := by
  fun_induction drain s generalizing before after with
  | case1 s hterminal =>
      rw [tokens, dif_pos hterminal]
      cases hkind : s.next.1.kind with
      | error fault => simp [faultIn?, hkind, h.line_next]
      | _ => simp [faultIn?, hkind]
  | case2 s hterminal others s' hdrain ih =>
      have hkind : s.next.1.kind.isTerminal = false := by simpa using hterminal
      obtain ⟨before', after', hat⟩ := h.exists_at_next hkind
      have hrest := ih hat
      rw [hdrain, h.text_next] at hrest
      rw [tokens, dif_neg hterminal, hrest, faultIn?_cons hkind]
      cases faultIn? others <;> rfl

end Scanner

/-- A text is cut into the tokens that a new scanner hands out, unless there is a fault among
them. -/
theorem tokenize_eq (text : String) :
    tokenize text = match faultIn? (Scanner.ofString text).drain.1 with
      | some (fault, pos) => .error ⟨fault, pos, lineAt text.toList pos⟩
      | none => .ok (Scanner.ofString text).drain.1 :=
  Scanner.tokens_eq (Scanner.at_ofString text)

/-! ## The last token -/

/-- Behind the tokens that are not terminal what is left of the text is divided into a single
token. -/
theorem Division.exists_last {pos : Nat} {text : List Char} {tokens : List Token}
    (h : Division pos text tokens) :
    ∃ init last left, tokens = init ++ [last] ∧ (∀ t ∈ init, t.kind.isTerminal = false) ∧
      text = (init.flatMap fun t => t.value.toList) ++ left ∧
      Division (pos + byteLength (init.flatMap fun t => t.value.toList)) left [last] := by
  obtain ⟨init, last, -, rfl, -, hinit, -⟩ := h.exists_eq_concat
  obtain ⟨left, rfl, hlast⟩ := h.exists_append (List.cons_ne_nil last [])
  exact ⟨init, last, left, rfl, hinit, rfl, hlast⟩

/-! ## The faults -/

/-- The text `rest`, in front of which the fillers `q` stand, is rejected with the given fault. -/
inductive Rejects (q : List Char) : List Char → LexFault → Prop where
  /-- The character behind a word, which does not begin with a digit, may not stand there. -/
  | badCharacter {w after : List Char} {c : Char} (hne : w ≠ []) (hw : ∀ x ∈ w, isWord x = true)
      (hdigit : w.head?.any Char.isDigit = false) (hc : isWord c = false)
      (hfollow : mayFollowWord c = false) : Rejects q (w ++ c :: after) (.badCharacter c)
  /-- A word follows the longest numeral. -/
  | runsOn {w after : List Char} {c : Char} (hbegin : beginsNumeral (w ++ c :: after) = true)
      (hw : IsLongest numerals w (w ++ c :: after)) (hc : isWord c = true) :
      Rejects q (w ++ c :: after) (.badNumber (String.ofList (q ++ w ++ [c])))
  /-- A sign follows the longest numeral, and a word the longest numeral from that sign on. -/
  | secondRunsOn {v w after : List Char} {c : Char}
      (hbegin : beginsNumeral (v ++ (w ++ c :: after)) = true)
      (hv : IsLongest numerals v (v ++ (w ++ c :: after)))
      (hsign : (w ++ c :: after).head?.any isSign = true)
      (hw : IsLongest numerals w (w ++ c :: after)) (hc : isWord c = true) :
      Rejects q (v ++ (w ++ c :: after)) (.badNumber (String.ofList (q ++ v ++ w ++ [c])))
  /-- A sign follows the longest numeral, and no word the longest numeral from that sign on, but it
  does not end in `i`. -/
  | notImaginary {v w after : List Char} (hbegin : beginsNumeral (v ++ (w ++ after)) = true)
      (hv : IsLongest numerals v (v ++ (w ++ after)))
      (hsign : (w ++ after).head?.any isSign = true) (hw : IsLongest numerals w (w ++ after))
      (hword : after.head?.any isWord = false) (hlast : w.getLast? ≠ some 'i') :
      Rejects q (v ++ (w ++ after)) (.badNumber (String.ofList (q ++ v ++ w)))

/-- A text is rejected with a fault exactly if it is cut with that fault. -/
theorem rejects_iff_cuts {q rest : List Char} {fault : LexFault} :
    Rejects q rest fault ↔
      ∃ core after, rest = core ++ after ∧ Scan.Cuts q (.error fault) core after := by
  constructor
  · intro h
    cases h with
    | badCharacter hne hw hdigit hc hfollow =>
        exact ⟨_, _, rfl, .badCharacter hne hw hdigit hc hfollow⟩
    | @runsOn w after c hbegin hw hc =>
        have hbegin' : beginsNumeral w = true := by
          rwa [beginsNumeral, head?_of_isLongest hw hbegin]
        refine ⟨w ++ [c], after, by simp, ?_⟩
        simpa using Scan.Cuts.runsOn hbegin' (isLongest_numerals_iff.mp hw) hc
    | @secondRunsOn v w after c hbegin hv hsign hw hc =>
        have hbegin' : beginsNumeral v = true := by
          rwa [beginsNumeral, head?_of_isLongest hv hbegin]
        have hsign' : w.head?.any isSign = true := by
          rwa [head?_of_isLongest hw (beginsNumeral_of_isSign hsign)]
        refine ⟨v ++ (w ++ [c]), after, by simp, ?_⟩
        simpa using Scan.Cuts.secondRunsOn hbegin' (isLongest_numerals_iff.mp hv) hsign'
          (isLongest_numerals_iff.mp hw) hc
    | @notImaginary v w after hbegin hv hsign hw hword hlast =>
        have hbegin' : beginsNumeral v = true := by
          rwa [beginsNumeral, head?_of_isLongest hv hbegin]
        have hsign' : w.head?.any isSign = true := by
          rwa [head?_of_isLongest hw (beginsNumeral_of_isSign hsign)]
        refine ⟨v ++ w, after, by simp, ?_⟩
        simpa using Scan.Cuts.notImaginary hbegin' (isLongest_numerals_iff.mp hv) hsign'
          (isLongest_numerals_iff.mp hw) hword hlast
  · rintro ⟨core, after, rfl, hcuts⟩
    generalize hverdict : (Except.error fault : Verdict) = verdict at hcuts
    cases hcuts with
    | badCharacter hne hu hdigit hword hx =>
        cases hverdict
        exact .badCharacter hne hu hdigit hword hx
    | @runsOn u x _ hbegin hu hx =>
        cases hverdict
        have h := Rejects.runsOn (q := q) (head?_any_append hbegin _)
          (isLongest_numerals_iff.mpr hu) hx
        simpa using h
    | @secondRunsOn u v x _ hbegin hu hsign hv hx =>
        cases hverdict
        have h := Rejects.secondRunsOn (q := q) (head?_any_append hbegin _)
          (isLongest_numerals_iff.mpr hu) (head?_any_append hsign _)
          (isLongest_numerals_iff.mpr hv) hx
        simpa using h
    | @notImaginary u v _ hbegin hu hsign hv hword hlast =>
        cases hverdict
        have h := Rejects.notImaginary (q := q) (head?_any_append hbegin _)
          (isLongest_numerals_iff.mpr hu) (head?_any_append hsign _)
          (isLongest_numerals_iff.mpr hv) hword hlast
        simpa using h
    | _ => cases hverdict

/-! ## Rejected texts -/

/-- What is left of a text behind the tokens that are not terminal is rejected with the fault that
stands in the place of the last token, and with no other. -/
theorem Division.rejects_iff {pos : Nat} {left : List Char} {last : Token}
    (h : Division pos left [last]) (fault : LexFault) :
    Rejects (left.takeWhile isFiller) (left.dropWhile isFiller) fault ↔
      last.kind = .error fault := by
  obtain ⟨fillers, core, rest, verdict, rfl, hfillers, hcuts, hcontinues⟩ := h.exists_continues
  have hdrop : (fillers ++ (core ++ rest)).dropWhile isFiller = core ++ rest := by
    rw [← drop_length_takeWhile, hcuts.takeWhile_isFiller hfillers, List.drop_left]
  rw [hcuts.takeWhile_isFiller hfillers, hdrop, rejects_iff_cuts]
  have hlast : verdict = .error fault ↔ last.kind = .error fault := by
    cases verdict with
    | error found =>
        obtain ⟨rfl, -⟩ := List.cons_eq_cons.mp hcontinues
        simp [Token.ofFault]
    | ok kind =>
        obtain ⟨others, htokens, hothers⟩ := hcontinues
        obtain ⟨rfl, rfl⟩ := List.cons_eq_cons.mp htokens
        have hterminal : kind.isTerminal = true := by
          by_contra hnot
          rw [if_neg hnot] at hothers
          exact hothers.run.ne_nil rfl
        obtain ⟨rfl, -, -⟩ := hcuts.eq_nil_of_isTerminal hterminal
        simp
  rw [← hlast]
  constructor
  · rintro ⟨core', after, htext, hcuts'⟩
    exact (hcuts.unique hcuts' htext).1
  · rintro rfl
    exact ⟨core, rest, rfl, hcuts⟩

/-- The text that the tokens in front of the terminal one make up. -/
def scanned (text : String) : List Char :=
  (joined (Scanner.ofString text).drain.1.dropLast).toList

/-- A text is rejected exactly if what follows its tokens is. The error is the fault found there, at
the end of the tokens and on the line of that place. -/
theorem tokenize_eq_error_iff (text : String) :
    ∃ left, text.toList = scanned text ++ left ∧
      ∀ e, tokenize text = .error e ↔
        ∃ fault, Rejects (left.takeWhile isFiller) (left.dropWhile isFiller) fault ∧
          e = ⟨fault, byteLength (scanned text), 1 + newlines (scanned text)⟩ := by
  obtain ⟨init, last, left, htokens, hinit, htext, hlast⟩ :=
    (Scanner.division_ofString text).exists_last
  have hscanned : scanned text = init.flatMap fun t => t.value.toList := by
    rw [scanned, htokens, List.dropLast_concat, joined_eq_ofList, String.toList_ofList]
  rw [← hscanned] at htext hlast
  refine ⟨left, htext, fun e => ?_⟩
  have hpos : last.pos = byteLength (scanned text) := by
    simpa using hlast.pos_head? last rfl
  have hline : lineAt text.toList last.pos = 1 + newlines (scanned text) := by
    rw [hpos, htext, lineAt, takeBytes_byteLength_append]
  simp only [hlast.rejects_iff]
  rw [tokenize_eq, htokens, faultIn?_append hinit]
  cases hkind : last.kind with
  | error fault => simp [faultIn?, hkind, hpos ▸ hline, hpos, eq_comm]
  | _ => simp [faultIn?, hkind]

end ActionTemplate
