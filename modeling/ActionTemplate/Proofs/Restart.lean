import ActionTemplate.Proofs.Concat
import ActionTemplate.Proofs.Schedule

/-!
# Starting again at a token

What a scanner hands out depends on the text that is left and on nothing before it. So a text can be
cut in front of any of its tokens, and a new scanner over the second part hands out the tokens from
there on, at places counted from the cut. `restarts_at_token` says so of the tokens, of every request
up to the terminal one and behind it, and of the lines.

The tokens of the second part are settled by `Division.unique`, and what the requests are answered
with follows from what is delivered, by `Delivers.after_moved`.
-/

namespace ActionTemplate

open Text

section

variable [Alphabet]

/-! ## Feeds further on -/

namespace Feed

/-- After as many requests as there are tokens in front, a feed delivers the tokens behind them. -/
theorem Delivers.after_append {text : List Char} {f : Feed} {init tokens : List Token}
    (h : f.Delivers text (init ++ tokens)) : (f.after init.length).Delivers text tokens := by
  induction init generalizing f with
  | nil => exact h
  | cons t init ih => exact ih h.2.2

/-- A feed delivers the tokens of another one, but further on in a longer text. Then it answers each
request as the other one does, but further on, and afterwards is as many lines further on. -/
theorem Delivers.after_moved {text rest : List Char} {bytes lines : Nat} {f g : Feed}
    {tokens : List Token} (hf : f.Delivers text (tokens.map (Token.moved bytes)))
    (hg : g.Delivers rest tokens) (hbytes : byteLength text = bytes + byteLength rest)
    (hlines : ∀ pos, lineAt text (bytes + pos) = lines + lineAt rest pos)
    (hline : tokens = [] → f.line = lines + g.line) (k : Nat) :
    (f.after k).next.1 = (g.after k).next.1.moved bytes ∧
      (f.after (k + 1)).line = lines + (g.after (k + 1)).line := by
  -- a request for a token leads to what is delivered behind it, and at rest it leads nowhere
  induction k generalizing f g tokens with
  | zero =>
      show f.next.1 = g.next.1.moved bytes ∧ f.next.2.line = lines + g.next.2.line
      cases tokens with
      | nil =>
          rw [show f.next = _ from hf, show g.next = _ from hg, hbytes]
          exact ⟨rfl, hline rfl⟩
      | cons t ts =>
          obtain ⟨hfirst, hfline, -⟩ := hf
          obtain ⟨hgfirst, hgline, -⟩ := hg
          rw [hfirst, hgfirst, hfline, hgline]
          exact ⟨rfl, hlines t.pos⟩
  | succ k ih =>
      show (f.next.2.after k).next.1 = (g.next.2.after k).next.1.moved bytes ∧
        (f.next.2.after (k + 1)).line = lines + (g.next.2.after (k + 1)).line
      cases tokens with
      | nil =>
          rw [show f.next = _ from hf, show g.next = _ from hg]
          exact ih hf hg hline
      | cons t ts =>
          obtain ⟨-, hfline, hfrest⟩ := hf
          obtain ⟨-, hgline, hgrest⟩ := hg
          refine ih hfrest hgrest fun _ => ?_
          rw [hfline, hgline]
          exact hlines t.pos

end Feed

/-! ## Scanners of the rest -/

namespace Scanner

/-- In front of any of its tokens a text can be cut in two. The tokens from there on are those of the
second part. -/
theorem exists_drain_eq_moved {text : String} {init later : List Token} {t : Token}
    (h : (ofString text).drain.1 = init ++ t :: later) :
    ∃ front rest : String, text = front ++ rest ∧ byteLength front.toList = t.pos ∧
      t :: later = (ofString rest).drain.1.map (Token.moved t.pos) := by
  have hdivision := division_ofString text
  rw [h] at hdivision
  obtain ⟨rest, htext, hrest⟩ := hdivision.exists_append (by simp)
  have hpos : t.pos = byteLength (init.flatMap fun t => t.value.toList) := by
    rw [hrest.pos_head? t rfl, Nat.zero_add]
  rw [Nat.zero_add, ← hpos] at hrest
  have hmoved := (division_ofString (String.ofList rest)).moved t.pos
  rw [String.toList_ofList, Nat.add_zero] at hmoved
  refine ⟨String.ofList (init.flatMap fun t => t.value.toList), String.ofList rest, ?_, ?_, ?_⟩
  · rw [← String.ofList_append, ← htext, String.ofList_toList]
  · rw [String.toList_ofList, hpos]
  · exact hrest.unique hmoved

/-- From any token on a text is scanned as the rest of it is alone. The requests are answered with the
tokens of the rest, moved by what stands in front of it, and the same holds of the requests behind the
terminal token. The lines are counted on from what stands in front. -/
theorem restarts_at_token {text : String} {init later : List Token} {t : Token}
    (h : (ofString text).drain.1 = init ++ t :: later) :
    ∃ front rest : String, text = front ++ rest ∧ front.utf8ByteSize = t.pos ∧
      t :: later = (ofString rest).drain.1.map (Token.moved t.pos) ∧
      ∀ k, ((ofString text).after (init.length + k)).next.1 =
          ((ofString rest).after k).next.1.moved t.pos ∧
        ((ofString text).after (init.length + (k + 1))).line =
          1 + newlines front.toList + (((ofString rest).after (k + 1)).line - 1) := by
  obtain ⟨front, rest, rfl, hpos, htokens⟩ := exists_drain_eq_moved h
  refine ⟨front, rest, rfl, by rw [← byteLength_toList, hpos], htokens, fun k => ?_⟩
  -- both scanners are taken as feeds, the first of them after the requests in front
  have hwhole := Feed.delivers_ofString .inline (front ++ rest)
  rw [h] at hwhole
  have hlater := hwhole.after_append
  rw [htokens] at hlater
  have hrest := Feed.delivers_ofString .inline rest
  have hbytes : byteLength (front ++ rest).toList = t.pos + byteLength rest.toList := by
    rw [String.toList_append, byteLength_append, hpos]
  have hlines : ∀ pos, lineAt (front ++ rest).toList (t.pos + pos) =
      newlines front.toList + lineAt rest.toList pos := by
    intro pos
    rw [String.toList_append, ← hpos, lineAt_append]
  have hne : (ofString rest).drain.1 ≠ [] := (division_ofString rest).run.ne_nil
  obtain ⟨hnext, hline⟩ :=
    hlater.after_moved hrest hbytes hlines (fun hnil => absurd hnil hne) k
  have hdirect : ∀ text, Feed.ofString .inline text = .direct (ofString text) := fun _ => rfl
  simp only [hdirect, Feed.after_direct, ← after_add] at hnext hline
  refine ⟨hnext, hline.trans ?_⟩
  have hpositive : 1 ≤ ((ofString rest).after (k + 1)).line := Nat.le_add_right 1 _
  show newlines front.toList + ((ofString rest).after (k + 1)).line = _
  omega

end Scanner

end

/-- A text is scanned again from the line break on that ends its first line; a fault on the second
line stays the same fault. -/
theorem Scanner.restarts_at_line_break :
    (ofString "é (\n\t9z").drain.1 = [⟨.identifier, "é", 0⟩, ⟨.space, " ", 2⟩] ++
        ⟨.endOfLine, "(\n", 3⟩ :: [⟨.space, "\t", 5⟩, Token.ofFault (.badNumber "9z") 6] ∧
      ∃ front rest : String, "é (\n\t9z" = front ++ rest ∧ front.utf8ByteSize = 3 ∧
        [⟨.endOfLine, "(\n", 3⟩, ⟨.space, "\t", 5⟩, Token.ofFault (.badNumber "9z") 6] =
          (ofString rest).drain.1.map (Token.moved 3) ∧
        ∀ k, ((ofString "é (\n\t9z").after (2 + k)).next.1 =
            ((ofString rest).after k).next.1.moved 3 ∧
          ((ofString "é (\n\t9z").after (2 + (k + 1))).line =
            1 + newlines front.toList + (((ofString rest).after (k + 1)).line - 1) := by
  have htokens : (ofString "é (\n\t9z").drain.1 = [⟨.identifier, "é", 0⟩, ⟨.space, " ", 2⟩] ++
      ⟨.endOfLine, "(\n", 3⟩ :: [⟨.space, "\t", 5⟩, Token.ofFault (.badNumber "9z") 6] := by
    decide +kernel
  exact ⟨htokens, restarts_at_token htokens⟩

end ActionTemplate
