import ActionTemplate.Proofs.Concat
import ActionTemplate.Proofs.Reading

/-!
# Texts are read line by line

A text that ends in a line break, or is empty, can be read apart from what follows it. The tokens of
the whole are the tokens of both parts, and so are the nodes; those of the second part stand further
on, and on later lines, by what the first part has. The first part is the first in which something
can be wrong, and then it is wrong in the same way whatever follows.

`tokenize_append` says this of tokens and `contentOf_append` of what the lines hold; the last result
puts them together for a whole parse.
-/

namespace ActionTemplate

open Text

/-! ## Tokens of two parts -/

/-- The tokens proper among some tokens, without the end of input. -/
def withoutEnd (tokens : List Token) : List Token :=
  tokens.filter fun t => decide (t.kind ≠ .endOfInput)

/-- A terminal token that is no fault is the end of input. -/
theorem eq_endOfInput_of_faultIn? {t : Token} (hterminal : t.kind.isTerminal = true)
    (hfault : faultIn? [t] = none) : t.kind = .endOfInput := by
  apply TokenKind.eq_endOfInput hterminal
  intro fault hkind
  simp [faultIn?, hkind] at hfault

/-- In a run without a fault the end of input is the last token. -/
theorem Run.withoutEnd_eq {ts : List Token} (h : Run ts) (hfault : faultIn? ts = none) :
    withoutEnd ts = ts.dropLast := by
  induction h with
  | last hterminal => simp [withoutEnd, eq_endOfInput_of_faultIn? hterminal hfault]
  | @cons t ts hkind hrest ih =>
      have hfault' : faultIn? ts = none := by
        rwa [faultIn?_cons hkind] at hfault
      rw [List.dropLast_cons_of_ne_nil hrest.ne_nil, ← ih hfault']
      simp [withoutEnd, TokenKind.ne_endOfInput hkind]

/-- What cutting the whole of two parts leads to, told by what it leads to for either part. The
second part starts `bytes` bytes and `lines` lines further on. -/
def joinTokens (bytes lines : Nat) :
    Except ScanError (List Token) → Except ScanError (List Token) → Except ScanError (List Token)
  | .error e, _ => .error e
  | .ok _, .error e => .error ⟨e.fault, bytes + e.pos, lines + e.line⟩
  | .ok ts, .ok us => .ok (withoutEnd ts ++ us.map (Token.moved bytes))

/-! ## Nodes -/

namespace Node

mutual

/-- The node as it is when `bytes` bytes and `lines` lines more stand in front of the text. -/
def moved (bytes lines : Nat) : Node → Node
  | list pos nodes => list (bytes + pos) (allMoved bytes lines nodes)
  | action pos line => action (bytes + pos) (lines + line)
  | command pos args => command (bytes + pos) (allMoved bytes lines args)
  | reference pos ident => reference (bytes + pos) ident

/-- The nodes of a sequence as they are when more text stands in front. -/
def allMoved (bytes lines : Nat) : List Node → List Node
  | [] => []
  | n :: ns => n.moved bytes lines :: allMoved bytes lines ns

end

end Node

/-! ## Lines of tokens -/

/-- Behind a line break, or at the beginning, a new line starts. -/
theorem linesOf_append {ts : List Token}
    (h : ts.getLast?.all (fun t => decide (t.kind = .endOfLine)) = true) (us : List Token) :
    linesOf (ts ++ us) = linesOf ts ++ linesOf us := by
  induction ts with
  | nil => rfl
  | cons t ts ih =>
      cases ts with
      | nil =>
          have hkind : t.kind = .endOfLine := by simpa using h
          simp [linesOf, hkind]
      | cons s ts =>
          have hrest := ih (by rwa [List.getLast?_cons_cons] at h)
          obtain ⟨line, lines, hlines⟩ := exists_linesOf_cons s ts
          by_cases hkind : t.kind = .endOfLine
          · have hcons : ∀ vs, linesOf (t :: vs) = [t] :: linesOf vs := fun vs => by
              rw [linesOf, if_pos hkind]
            rw [List.cons_append, hcons, hcons, hrest, List.cons_append]
          · rw [List.cons_append, linesOf, if_neg hkind, linesOf, if_neg hkind, hrest, hlines]
            rfl

/-- The lines of some tokens are made of these tokens. -/
theorem flatten_linesOf (ts : List Token) : (linesOf ts).flatten = ts := by
  induction ts with
  | nil => rfl
  | cons t ts ih =>
      unfold linesOf
      split
      · simp [ih]
      · cases hlines : linesOf ts with
        | nil => simpa [hlines] using ih
        | cons line lines => simpa [hlines] using ih

/-- Tokens move line by line. -/
theorem linesOf_map_moved (n : Nat) (ts : List Token) :
    linesOf (ts.map (Token.moved n)) = (linesOf ts).map (List.map (Token.moved n)) := by
  induction ts with
  | nil => rfl
  | cons t ts ih =>
      rw [List.map_cons, linesOf, linesOf, ih]
      by_cases hkind : t.kind = .endOfLine
      · rw [if_pos hkind, if_pos (show (t.moved n).kind = .endOfLine from hkind)]
        rfl
      · rw [if_neg hkind, if_neg (show (t.moved n).kind ≠ .endOfLine from hkind)]
        cases linesOf ts <;> rfl

/-- The offence as it is when `n` bytes more stand in front of the text. -/
def Offence.moved (n : Nat) (o : Offence) : Offence := { o with pos := n + o.pos }

/-- What some lines hold when `bytes` bytes and `lines` lines more stand in front of the text. -/
def movedResult (bytes lines : Nat) : Except Offence (List Node) → Except Offence (List Node)
  | .error o => .error (o.moved bytes)
  | .ok nodes => .ok (nodes.map (Node.moved bytes lines))

/-- A line holds further on what it holds at its place. -/
theorem readLine_map_moved {text text' : List Char} {bytes lines : Nat} {line : List Token}
    (h : ∀ t ∈ line, lineAt text' (bytes + t.pos) = lines + lineAt text t.pos) :
    readLine text' (line.map (Token.moved bytes)) =
      movedResult bytes lines (readLine text line) := by
  have hhead : headOf? (line.map (Token.moved bytes)) = (headOf? line).map (Token.moved bytes) := by
    rw [headOf?, List.find?_map]
    rfl
  unfold readLine
  rw [hhead, faultIn?_map_moved]
  cases hhead' : headOf? line with
  | none => rfl
  | some head =>
      have hline := h head (List.mem_of_find?_eq_some hhead')
      have hkind : (head.moved bytes).kind = head.kind := rfl
      have hpos : (head.moved bytes).pos = bytes + head.pos := rfl
      simp only [Option.map_some, hkind, hpos, hline]
      cases head.kind with
      | keyword word => cases word <;> first | rfl | cases faultIn? line <;> rfl
      | endOfLine => rfl
      | endOfInput => rfl
      | error fault => rfl
      | _ => cases faultIn? line <;> rfl

/-- Lines hold further on what they hold at their place. -/
theorem readLines_map_moved {text text' : List Char} {bytes lines : Nat} {ls : List (List Token)}
    (h : ∀ t ∈ ls.flatten, lineAt text' (bytes + t.pos) = lines + lineAt text t.pos) :
    readLines text' (ls.map (List.map (Token.moved bytes))) =
      movedResult bytes lines (readLines text ls) := by
  induction ls with
  | nil => rfl
  | cons line ls ih =>
      have hline := readLine_map_moved fun t ht => h t (List.mem_flatten_of_mem List.mem_cons_self ht)
      have hrest := ih fun t ht => h t (by simp [List.mem_flatten.mp ht])
      rw [List.map_cons, readLines, readLines, hline, hrest]
      cases readLine text line with
      | error o => rfl
      | ok nodes => cases readLines text ls <;> simp [movedResult, pure, Except.pure, bind, Except.bind]

/-- Without more text in front a line holds what it holds, if its tokens are on the same lines. -/
theorem readLine_congr {text text' : List Char} {line : List Token}
    (h : ∀ t ∈ line, lineAt text' t.pos = lineAt text t.pos) :
    readLine text' line = readLine text line := by
  unfold readLine
  cases hhead : headOf? line with
  | none => rfl
  | some head => simp only [h head (List.mem_of_find?_eq_some hhead)]

/-- Lines hold what they hold, if their tokens are on the same lines of the text. -/
theorem readLines_congr {text text' : List Char} {ls : List (List Token)}
    (h : ∀ t ∈ ls.flatten, lineAt text' t.pos = lineAt text t.pos) :
    readLines text' ls = readLines text ls := by
  induction ls with
  | nil => rfl
  | cons line ls ih =>
      have hline := readLine_congr fun t ht => h t (List.mem_flatten_of_mem List.mem_cons_self ht)
      have hrest := ih fun t ht => h t (by simp [List.mem_flatten.mp ht])
      rw [readLines, readLines, hline, hrest]

/-- An offence in the first lines is the offence. -/
theorem readLines_append_of_error {text : List Char} {ls : List (List Token)} {o : Offence}
    (h : readLines text ls = .error o) (ms : List (List Token)) :
    readLines text (ls ++ ms) = .error o := by
  induction ls with
  | nil => cases h
  | cons line ls ih =>
      rw [List.cons_append]
      cases hline : readLine text line with
      | error o' =>
          rw [readLines_cons_of_error hline] at h ⊢
          exact h
      | ok nodes =>
          rw [readLines_cons_of_ok hline] at h ⊢
          cases hrest : readLines text ls with
          | error o' =>
              rw [hrest] at h
              obtain rfl : o' = o := Except.error.inj h
              rw [ih hrest]
              rfl
          | ok others =>
              rw [hrest] at h
              cases h

/-- What the first lines hold comes before what the others hold. -/
theorem readLines_append_of_ok {text : List Char} {ls : List (List Token)} {nodes : List Node}
    (h : readLines text ls = .ok nodes) (ms : List (List Token)) :
    readLines text (ls ++ ms) = (readLines text ms).map (nodes ++ ·) := by
  induction ls generalizing nodes with
  | nil =>
      obtain rfl : [] = nodes := Except.ok.inj h
      cases hms : readLines text ms <;> simp [hms, Except.map]
  | cons line ls ih =>
      obtain ⟨first, others, hline, hrest, rfl⟩ := exists_of_readLines_cons h
      rw [List.cons_append, readLines_cons_of_ok hline, ih hrest]
      cases readLines text ms <;> simp [Except.map]

/-- A line that ends in a fault holds an offence, though not always that one. -/
theorem exists_offence_of_fault {us : List Token} {e : Token} {fault : LexFault}
    (hus : ∀ u ∈ us, u.kind.endsLine = false) (he : e.kind = .error fault) (text : List Char) :
    ∃ o, readLine text (us ++ [e]) = .error o := by
  induction us with
  | nil => exact ⟨_, readLine_cons_of_error he text []⟩
  | cons u us ih =>
      have hu : u.kind.endsLine = false := hus u List.mem_cons_self
      rw [List.cons_append]
      by_cases hspace : u.kind = .space
      · rw [readLine_cons_of_space hspace]
        exact ih fun v hv => hus v (List.mem_cons_of_mem u hv)
      · cases hmarker : Lookahead.marker? u.kind with
        | some m => exact ⟨_, readLine_cons_of_marker hmarker text _⟩
        | none =>
            have hfault : faultIn? [e] = some (fault, e.pos) := by simp [faultIn?, he]
            rw [← List.cons_append, readLine_append_of_action hspace hmarker hus, hfault]
            exact ⟨_, rfl⟩

/-- Tokens that end in a fault hold an offence, in its line at the latest. -/
theorem Run.exists_offence {ts : List Token} (h : Run ts) (text : List Char)
    (hfault : faultIn? ts ≠ none) : ∃ o, readLines text (linesOf ts) = .error o := by
  induction hn : ts.length using Nat.strong_induction_on generalizing ts with
  | _ n ih =>
      obtain ⟨us, e, vs, rfl, hus, he⟩ := h.exists_line
      rw [linesOf_append_cons hus (he.imp And.left And.right)]
      rw [faultIn?_append fun u hu => TokenKind.isTerminal_of_endsLine_eq_false (hus u hu)] at hfault
      rcases he with ⟨hbreak, hvs⟩ | ⟨hterminal, rfl⟩
      · have hfault' : faultIn? vs ≠ none := by
          rwa [faultIn?_cons (by rw [hbreak]; rfl)] at hfault
        cases hline : readLine text (us ++ [e]) with
        | error o => exact ⟨o, readLines_cons_of_error hline _⟩
        | ok nodes =>
            obtain ⟨o, ho⟩ := ih vs.length (by simp [← hn]; omega) hvs hfault' rfl
            exact ⟨o, by rw [readLines_cons_of_ok hline, ho]; rfl⟩
      · cases hkind : e.kind with
        | error fault =>
            obtain ⟨o, ho⟩ := exists_offence_of_fault hus hkind text
            exact ⟨o, readLines_cons_of_error ho _⟩
        | _ => simp [faultIn?, hkind] at hfault

/-! ## Content -/

/-- What the whole of two parts holds, told by what either part holds. -/
def joinContent (bytes lines : Nat) :
    Except Offence (List Node) → Except Offence (List Node) → Except Offence (List Node)
  | .error o, _ => .error o
  | .ok nodes, second => (movedResult bytes lines second).map (nodes ++ ·)

/-- The offence in a line is that of one of its tokens. -/
theorem exists_pos_of_readLine {text : List Char} {line : List Token} {o : Offence}
    (h : readLine text line = .error o) : ∃ t ∈ line, t.pos = o.pos := by
  unfold readLine at h
  cases hhead : headOf? line with
  | none => simp [hhead] at h
  | some head =>
      have hmem := List.mem_of_find?_eq_some hhead
      simp only [hhead] at h
      split at h
      · cases h
      · cases h
      · exact ⟨head, hmem, by rw [← Except.error.inj h]⟩
      · exact ⟨head, hmem, by rw [← Except.error.inj h]⟩
      · exact ⟨head, hmem, by rw [← Except.error.inj h]⟩
      · split at h
        · rename_i fault pos hfault
          obtain ⟨t, ht, -, hpos⟩ := exists_mem_of_faultIn? hfault
          exact ⟨t, ht, by rw [← Except.error.inj h, hpos]⟩
        · cases h

/-- The offence is that of a token of the text. -/
theorem exists_pos_of_offence {text : List Char} {ls : List (List Token)} {o : Offence}
    (h : readLines text ls = .error o) : ∃ t ∈ ls.flatten, t.pos = o.pos := by
  induction ls with
  | nil => cases h
  | cons line ls ih =>
      cases hline : readLine text line with
      | error o' =>
          rw [readLines_cons_of_error hline, Except.error.injEq] at h
          obtain ⟨t, ht, hpos⟩ := exists_pos_of_readLine hline
          exact ⟨t, List.mem_flatten_of_mem List.mem_cons_self ht, h ▸ hpos⟩
      | ok nodes =>
          cases hrest : readLines text ls with
          | ok others => simp [readLines_cons_of_ok hline, hrest, Except.map] at h
          | error o' =>
              rw [readLines_cons_of_ok hline, hrest] at h
              obtain rfl : o' = o := Except.error.inj h
              obtain ⟨t, ht, hpos⟩ := ih hrest
              exact ⟨t, by simp [List.mem_flatten.mp ht], hpos⟩

/-- What parsing the whole of two parts leads to, told by what it leads to for either part. The
second part starts `bytes` bytes and `lines` lines further on. -/
def joinNodes (bytes lines : Nat) :
    Except ParseError (List Node) → Except ParseError (List Node) → Except ParseError (List Node)
  | .error e, _ => .error e
  | .ok _, .error e => .error { e with line := lines + e.line }
  | .ok nodes, .ok others => .ok (nodes ++ others.map (Node.moved bytes lines))

/-- The nodes of the template with the given name, none if the set has no such template or it has no
body. -/
def TemplateSet.nodesOf (s : TemplateSet) (name : String) : List Node :=
  ((s.get? name).bind Template.root).elim [] Body.nodes

/-! ## Reading two parts -/

section

variable [Alphabet]

/-- A text that ends in a line break, or is empty, is cut apart from what follows it. -/
theorem tokenize_append {u v : String} (hu : u.toList.getLast?.all isLineBreak = true) :
    tokenize (u ++ v) =
      joinTokens (byteLength u.toList) (newlines u.toList) (tokenize u) (tokenize v) := by
  have hdivision := Scanner.division_ofString u
  rw [tokenize_eq, tokenize_eq u, tokenize_eq v, Scanner.drain_append hu,
    faultIn?_continued hdivision.run, faultIn?_map_moved, String.toList_append]
  generalize (Scanner.ofString u).drain.1 = ts at hdivision
  generalize (Scanner.ofString v).drain.1 = us
  cases hfault : faultIn? ts with
  | some found =>
      obtain ⟨fault, pos⟩ := found
      -- the fault is the first part's own, and so is its line
      obtain ⟨t, ht, -, rfl⟩ := exists_mem_of_faultIn? hfault
      have hpos : t.pos ≤ byteLength u.toList := by simpa using hdivision.pos_le t ht
      simp [joinTokens, lineAt_append_of_le hpos]
  | none =>
      cases hfault' : faultIn? us with
      | some found => simp [joinTokens, lineAt_append]
      | none => simp [joinTokens, continued, hfault, hdivision.run.withoutEnd_eq hfault]

/-- A text that ends in a line break, or is empty, holds what it holds, and what follows holds what
it holds further on. -/
theorem contentOf_append {u v : String} (hu : u.toList.getLast?.all isLineBreak = true) :
    Template.contentOf (u ++ v) = joinContent (byteLength u.toList) (newlines u.toList)
      (Template.contentOf u) (Template.contentOf v) := by
  have hdivision := Scanner.division_ofString u
  have hfirst : ∀ ls : List (List Token), (∀ t ∈ ls.flatten, t ∈ (Scanner.ofString u).drain.1) →
      readLines (u.toList ++ v.toList) ls = readLines u.toList ls := by
    intro ls hls
    apply readLines_congr
    intro t ht
    exact lineAt_append_of_le (by simpa using hdivision.pos_le t (hls t ht)) v.toList
  have hsecond : ∀ ls : List (List Token),
      readLines (u.toList ++ v.toList) (ls.map (List.map (Token.moved (byteLength u.toList)))) =
        movedResult (byteLength u.toList) (newlines u.toList) (readLines v.toList ls) :=
    fun ls => readLines_map_moved fun t _ => lineAt_append u.toList v.toList t.pos
  unfold Template.contentOf
  rw [Scanner.drain_append hu, String.toList_append]
  generalize (Scanner.ofString u).drain.1 = ts at hdivision hfirst
  generalize (Scanner.ofString v).drain.1 = us
  cases hfault : faultIn? ts with
  | some found =>
      obtain ⟨o, ho⟩ := hdivision.run.exists_offence u.toList (by simp [hfault])
      have hcontinued : continued ts (us.map (Token.moved (byteLength u.toList))) = ts := by
        simp [continued, hfault]
      rw [hcontinued, hfirst _ (by simp [flatten_linesOf]), ho]
      rfl
  | none =>
      have hcontinued : continued ts (us.map (Token.moved (byteLength u.toList))) =
          ts.dropLast ++ us.map (Token.moved (byteLength u.toList)) := by
        simp [continued, hfault]
      have hlines := linesOf_append (hdivision.endOfLine_of_getLast? hu hfault)
      obtain ⟨init, last, left, rfl, hinit, -, hlast⟩ := hdivision.exists_last
      rw [List.dropLast_concat] at hcontinued hlines
      rw [faultIn?_append hinit] at hfault
      have hend : readLines u.toList (linesOf [last]) = .ok [] := by
        cases hlast.run with
        | last hterminal =>
            exact readLines_linesOf_endOfInput (eq_endOfInput_of_faultIn? hterminal hfault) _
        | cons _ hs => exact absurd rfl hs.ne_nil
      rw [hcontinued, hlines, hlines, linesOf_map_moved]
      have hfirst' := hfirst (linesOf init) (by simp +contextual [flatten_linesOf])
      cases hinit' : readLines u.toList (linesOf init) with
      | error o =>
          rw [hinit'] at hfirst'
          rw [readLines_append_of_error hfirst', readLines_append_of_error hinit']
          rfl
      | ok nodes =>
          rw [hinit'] at hfirst'
          rw [readLines_append_of_ok hfirst', readLines_append_of_ok hinit', hsecond, hend]
          simp [joinContent, Except.map]

/-- The nodes as which a text is read. -/
def parsedNodes (name text : String) (options : Options) : Except ParseError (List Node) :=
  (parse name text options).map fun set => set.nodesOf name

/-- The nodes are what the text holds, and an offence is reported on its line. -/
theorem parsedNodes_eq (name text : String) (options : Options) :
    parsedNodes name text options = match Template.contentOf text with
      | .error o => .error ⟨o.fault, name, lineAt text.toList o.pos⟩
      | .ok nodes => .ok nodes := by
  rw [parsedNodes, parse_eq_put]
  cases Template.contentOf text with
  | error o => rfl
  | ok nodes =>
      have hget : (TemplateSet.empty.put (Template.read name text nodes)).get? name =
          some (Template.read name text nodes) :=
        TemplateSet.get?_put_self .empty (Template.read name text nodes)
      show Except.ok ((TemplateSet.empty.put (Template.read name text nodes)).nodesOf name) = _
      rw [TemplateSet.nodesOf, hget]
      rfl

/-- A text that ends in a line break, or is empty, is parsed apart from what follows it. -/
theorem parsedNodes_append {u v : String} (hu : u.toList.getLast?.all isLineBreak = true)
    (name : String) (options : Options) :
    parsedNodes name (u ++ v) options = joinNodes (byteLength u.toList) (newlines u.toList)
      (parsedNodes name u options) (parsedNodes name v options) := by
  rw [parsedNodes_eq, parsedNodes_eq name u, parsedNodes_eq name v, contentOf_append hu,
    String.toList_append]
  cases hfirst : Template.contentOf u with
  | error o =>
      -- the offending token stands in the first part, and so does its line
      obtain ⟨t, ht, hpos⟩ := exists_pos_of_offence hfirst
      rw [flatten_linesOf] at ht
      have hle := (Scanner.division_ofString u).pos_le t ht
      rw [hpos, Nat.zero_add] at hle
      simp [joinContent, joinNodes, lineAt_append_of_le hle]
  | ok nodes =>
      cases Template.contentOf v with
      | error o => simp [joinContent, joinNodes, movedResult, Offence.moved, Except.map, lineAt_append]
      | ok others => simp [joinContent, joinNodes, movedResult, Except.map]

/-- A text that ends in a line break, or is empty, is cut into tokens and parsed apart from what
follows it. -/
theorem tokenize_and_parse_append {u : String} (hu : u.toList.getLast?.all isLineBreak = true)
    (v : String) :
    tokenize (u ++ v) =
        joinTokens (byteLength u.toList) (newlines u.toList) (tokenize u) (tokenize v) ∧
      ∀ (name : String) (options : Options), parsedNodes name (u ++ v) options =
        joinNodes (byteLength u.toList) (newlines u.toList) (parsedNodes name u options)
          (parsedNodes name v options) :=
  ⟨tokenize_append hu, parsedNodes_append hu⟩

end

/-- Two lines, the second of which stands four bytes and one line further on. -/
theorem tokenize_and_parse_two_lines :
    "a 1\n".toList.getLast?.all isLineBreak = true ∧
      tokenize ("a 1\n" ++ ".b") = .ok [⟨.identifier, "a", 0⟩, ⟨.space, " ", 1⟩, ⟨.number, "1", 2⟩,
        ⟨.endOfLine, "\n", 3⟩, ⟨.field, ".b", 4⟩, ⟨.endOfInput, "", 6⟩] ∧
      parsedNodes "page" ("a 1\n" ++ ".b") {} = .ok [.action 0 1, .action 4 2] := by
  have hend : "a 1\n".toList.getLast?.all isLineBreak = true := by decide
  obtain ⟨htokens, hnodes⟩ := tokenize_and_parse_append hend ".b"
  refine ⟨hend, ?_, ?_⟩
  · rw [htokens]
    decide +kernel
  · rw [hnodes]
    decide +kernel

end ActionTemplate
