import ActionTemplate.Proofs.Rejection
import ActionTemplate.Proofs.Schedule

/-!
# Requests of two kinds

A scanner can be asked for its next token, and it can be iterated. The two kinds of request may be
mixed in any way: together they draw on one sequence, the tokens of the text up to the terminal one
and behind them empty ends of input without end, which is `endless`. Only an iteration ends, and only
an iteration that hands out a terminal token ends it.

`Feed.Delivers.next_after` says which token a request is answered with, and `Feed.Delivers.line_after`
on which line it leaves a feed; `interleaves_serveAll` puts together what holds of every mixture.
-/

namespace ActionTemplate

open Text

/-! ## Requests and answers -/

namespace Scanner

/-- The two kinds of request to a scanner. -/
inductive Request where
  /-- Hand out the next token. -/
  | next
  /-- Hand out the next token of the sequence that ends with the terminal one. -/
  | iterate
  deriving DecidableEq, Repr

/-- The requests that have been made, with the answers. -/
abbrev Log := List (Request × Option Token)

/-- The tokens handed out. -/
def tokensOf (log : Log) : List Token := log.filterMap Prod.snd

@[simp] theorem tokensOf_cons_some (r : Request) (t : Token) (log : Log) :
    tokensOf ((r, some t) :: log) = t :: tokensOf log := rfl

@[simp] theorem tokensOf_cons_none (r : Request) (log : Log) :
    tokensOf ((r, none) :: log) = tokensOf log := rfl

/-- The tokens of two logs, one behind the other. -/
@[simp] theorem tokensOf_append (log log' : Log) :
    tokensOf (log ++ log') = tokensOf log ++ tokensOf log' := List.filterMap_append

/-- An iteration has handed out a terminal token. -/
def IterationEnded (log : Log) : Prop :=
  ∃ t : Token, (Request.iterate, some t) ∈ log ∧ t.kind.isTerminal = true

/-- An iteration has ended before a log or within it. -/
theorem iterationEnded_cons (entry : Request × Option Token) (log : Log) :
    IterationEnded (entry :: log) ↔ IterationEnded [entry] ∨ IterationEnded log := by
  unfold IterationEnded
  constructor
  · rintro ⟨t, ht, hkind⟩
    rcases List.mem_cons.mp ht with rfl | ht
    · exact Or.inl ⟨t, List.mem_singleton_self _, hkind⟩
    · exact Or.inr ⟨t, ht, hkind⟩
  · rintro (⟨t, ht, hkind⟩ | ⟨t, ht, hkind⟩)
    · exact ⟨t, List.mem_cons.mpr (Or.inl (List.mem_singleton.mp ht)), hkind⟩
    · exact ⟨t, List.mem_cons_of_mem _ ht, hkind⟩

/-- Nothing has been iterated before the first request. -/
theorem not_iterationEnded_nil : ¬IterationEnded [] := by
  rintro ⟨t, ht, -⟩
  cases ht

end Scanner

section

variable [Alphabet]

/-! ## What a feed answers -/

namespace Feed

/-- The answers of a feed are what it delivers, and then empty ends of input. -/
theorem Delivers.next_after {text : List Char} {f : Feed} {tokens : List Token}
    (h : f.Delivers text tokens) (k : Nat) :
    (f.after k).next.1 = tokens[k]?.getD (Token.endAt (byteLength text)) := by
  induction k generalizing f tokens with
  | zero =>
      show f.next.1 = _
      cases tokens with
      | nil => rw [show f.next = _ from h]; rfl
      | cons t ts => exact h.1
  | succ k ih =>
      show (f.next.2.after k).next.1 = _
      cases tokens with
      | nil =>
          rw [show f.next = _ from h]
          exact ih h
      | cons t ts => exact ih h.2.2

/-- After some requests a feed is on the line of the last token delivered. -/
theorem Delivers.line_after {text : List Char} {f : Feed} {tokens : List Token}
    (h : f.Delivers text tokens) (k : Nat) :
    (f.after k).line = ((tokens.take k).getLast?.map fun t => lineAt text t.pos).getD f.line := by
  induction k generalizing f tokens with
  | zero => rfl
  | succ k ih =>
      show (f.next.2.after k).line = _
      cases tokens with
      | nil =>
          rw [show f.next = _ from h]
          simpa using ih h
      | cons t ts =>
          rw [ih h.2.2, List.take_succ_cons, List.getLast?_cons, h.2.1]
          cases (ts.take k).getLast? <;> rfl

end Feed

namespace Scanner

/-! ## The one sequence -/

/-- The tokens of a text up to the terminal one, and behind it empty ends of input without end. -/
def endless (text : String) (k : Nat) : Token :=
  (ofString text).drain.1[k]?.getD (Token.endAt text.utf8ByteSize)

/-- One request after the other, a scanner hands out the sequence. -/
theorem next_after (text : String) (k : Nat) :
    ((ofString text).after k).next.1 = endless text k := by
  have h := (Feed.delivers_ofString .inline text).next_after k
  rw [show Feed.ofString .inline text = .direct (ofString text) from rfl, Feed.after_direct,
    byteLength_toList] at h
  exact h

/-- After some requests a scanner is on the line of the last token proper. -/
theorem line_after (text : String) (k : Nat) :
    ((ofString text).after k).line =
      (((ofString text).drain.1.take k).getLast?.map fun t => lineAt text.toList t.pos).getD 1 := by
  have h := (Feed.delivers_ofString .inline text).line_after k
  rw [show Feed.ofString .inline text = .direct (ofString text) from rfl, Feed.after_direct,
    show (Feed.direct (ofString text)).line = 1 from lineAt_zero _] at h
  exact h

/-- Behind a terminal token only empty ends of input follow. -/
theorem endless_of_isTerminal {text : String} {j k : Nat}
    (h : (endless text j).kind.isTerminal = true) (hjk : j < k) :
    endless text k = Token.endAt text.utf8ByteSize := by
  rw [← next_after] at h
  rw [← next_after, atRest_after_of_isTerminal h hjk, byteLength_toList]

/-! ## Serving requests -/

/-- Answer a request. -/
def serve (s : Scanner) : Request → Option Token × Scanner
  | .next => (some s.next.1, s.next.2)
  | .iterate => s.iterate

/-- Answer some requests in their order. -/
def serveAll (s : Scanner) : List Request → Log × Scanner
  | [] => ([], s)
  | r :: rs =>
      (((r, (s.serve r).1) :: ((s.serve r).2.serveAll rs).1), ((s.serve r).2.serveAll rs).2)

/-- Every request is answered, in its turn. -/
theorem map_fst_serveAll (s : Scanner) (requests : List Request) :
    (s.serveAll requests).1.map Prod.fst = requests := by
  induction requests generalizing s with
  | nil => rfl
  | cons r rs ih =>
      rw [serveAll, List.map_cons, ih]

/-! ### The end of the iteration -/

/-- Whether the iteration has ended does not matter to a request for the next token. -/
theorem next_withExhausted (s : Scanner) (ended : Bool) :
    ({ s with exhausted := ended } : Scanner).next =
      (s.next.1, { s.next.2 with exhausted := ended }) := by
  simp only [next]
  split
  · rfl
  · split <;> rfl

/-- A request for the next token neither ends the iteration nor begins it again. -/
theorem exhausted_next (s : Scanner) : s.next.2.exhausted = s.exhausted := by
  have h := congrArg (fun r => r.2.exhausted) (s.next_withExhausted s.exhausted)
  exact h

/-- The iteration ends when it hands out a terminal token, and it stays ended. -/
theorem exhausted_serve (s : Scanner) (r : Request) :
    (s.serve r).2.exhausted = true ↔ s.exhausted = true ∨ IterationEnded [(r, (s.serve r).1)] := by
  cases r with
  | next => simp [serve, exhausted_next, IterationEnded]
  | iterate =>
      cases hended : s.exhausted with
      | true => simp [serve, iterate, hended]
      | false => simp [serve, iterate, hended, IterationEnded]

/-- There is no answer exactly to an iteration that has ended. -/
theorem serve_eq_none_iff (s : Scanner) (r : Request) :
    (s.serve r).1 = none ↔ r = .iterate ∧ s.exhausted = true := by
  cases r with
  | next => simp [serve]
  | iterate => cases hended : s.exhausted <;> simp [serve, iterate, hended]

/-- A request that is one of many has no answer exactly if it is an iteration and the iteration had
ended before all of them, or in one of those in front. -/
theorem eq_none_iff_of_serveAll {s : Scanner} {requests : List Request} {before later : Log}
    {r : Request} {answer : Option Token}
    (h : (s.serveAll requests).1 = before ++ (r, answer) :: later) :
    answer = none ↔ r = .iterate ∧ (s.exhausted = true ∨ IterationEnded before) := by
  induction before generalizing s requests with
  | nil =>
      cases requests with
      | nil => cases h
      | cons q qs =>
          obtain ⟨hentry, -⟩ := List.cons_eq_cons.mp h
          obtain ⟨rfl, rfl⟩ := Prod.mk.inj hentry
          rw [serve_eq_none_iff]
          simp [not_iterationEnded_nil]
  | cons entry before ih =>
      cases requests with
      | nil => cases h
      | cons q qs =>
          obtain ⟨hentry, hrest⟩ := List.cons_eq_cons.mp h
          -- the first request may itself have ended the iteration for those behind it
          rw [ih hrest, exhausted_serve, iterationEnded_cons entry before, ← hentry, or_assoc]

/-! ### The tokens handed out -/

/-- The scanner has handed out the first `k` tokens of its text. -/
def HandedOut (text : String) (k : Nat) (s : Scanner) : Prop :=
  ∃ ended, s = { (ofString text).after k with exhausted := ended }

/-- A new scanner has handed out nothing. -/
theorem handedOut_ofString (text : String) : HandedOut text 0 (ofString text) := ⟨false, rfl⟩

/-- A request for the next token is answered with the next one of the sequence. -/
theorem HandedOut.next {text : String} {k : Nat} {s : Scanner} (h : HandedOut text k s) :
    s.next.1 = endless text k ∧ HandedOut text (k + 1) s.next.2 := by
  obtain ⟨ended, rfl⟩ := h
  rw [next_withExhausted, next_after]
  exact ⟨rfl, ended, by rw [after_succ]⟩

/-- A request is answered with the next token of the sequence, or with none and leads nowhere. -/
theorem HandedOut.serve {text : String} {k : Nat} {s : Scanner} (h : HandedOut text k s)
    (r : Request) :
    (s.serve r).1 = some (endless text k) ∧ HandedOut text (k + 1) (s.serve r).2 ∨
      (s.serve r).1 = none ∧ HandedOut text k (s.serve r).2 := by
  obtain ⟨hnext, hlater⟩ := h.next
  cases r with
  | next => exact Or.inl ⟨congrArg some hnext, hlater⟩
  | iterate =>
      cases hended : s.exhausted with
      | true =>
          refine Or.inr ?_
          rw [Scanner.serve, iterate, if_pos hended]
          exact ⟨rfl, h⟩
      | false =>
          refine Or.inl ?_
          rw [Scanner.serve, iterate, if_neg (by simp [hended])]
          obtain ⟨ended, hlater⟩ := hlater
          refine ⟨congrArg some hnext, s.next.1.kind.isTerminal, ?_⟩
          rw [hlater]

/-- Whatever is requested, the tokens handed out follow one another in the sequence. -/
theorem HandedOut.tokensOf_serveAll {text : String} {k : Nat} {s : Scanner}
    (h : HandedOut text k s) (requests : List Request) :
    ∃ n, tokensOf (s.serveAll requests).1 = (List.range' k n).map (endless text) := by
  induction requests generalizing k s with
  | nil => exact ⟨0, rfl⟩
  | cons r rs ih =>
      rcases h.serve r with ⟨hanswer, hlater⟩ | ⟨hanswer, hlater⟩
      · obtain ⟨n, hn⟩ := ih hlater
        refine ⟨n + 1, ?_⟩
        rw [serveAll, hanswer, tokensOf_cons_some, hn, List.range'_succ, List.map_cons]
      · obtain ⟨n, hn⟩ := ih hlater
        refine ⟨n, ?_⟩
        rw [serveAll, hanswer, tokensOf_cons_none, hn]

/-! ### Iterating a whole text -/

/-- As many iterations as there are tokens hand out all of them and end the iteration. -/
theorem serveAll_replicate_iterate {s : Scanner} (h : s.exhausted = false) :
    s.serveAll (List.replicate s.drain.1.length .iterate) =
      (s.rest.1.map fun t => (.iterate, some t), s.rest.2) := by
  have hiterate : ∀ {s : Scanner}, s.exhausted = false → s.serve .iterate =
      (some s.next.1, { s.next.2 with exhausted := s.next.1.kind.isTerminal }) := by
    intro s h
    rw [serve, iterate, if_neg (by simp [h])]
  rw [rest, if_neg (by simp [h])]
  fun_induction drain s with
  | case1 s hterminal =>
      rw [List.length_singleton, List.replicate_one, serveAll, serveAll, hiterate h, hterminal]
      rfl
  | case2 s hterminal tokens s' hdrain ih =>
      -- before the terminal token an iteration leaves the scanner as a request for a token does
      have hkind : s.next.1.kind.isTerminal = false := by simpa using hterminal
      have hstays : s.next.2.exhausted = false := by rw [exhausted_next, h]
      have hsame : { s.next.2 with exhausted := false } = s.next.2 := by rw [← hstays]
      have hrest := ih hstays
      rw [hdrain] at hrest
      rw [List.length_cons, List.replicate_succ, serveAll, hiterate h, hkind, hsame, hrest]
      rfl

/-! ## Every mixture of requests -/

/-- The log of requests to a scanner of the text. -/
structure Interleaves (text : String) (log : Log) : Prop where
  /-- The tokens handed out are the first ones of the sequence, none of them left out or repeated. -/
  tokens : tokensOf log = (List.range (tokensOf log).length).map (endless text)
  /-- There is no answer exactly to an iteration behind one that handed out a terminal token. -/
  none_iff : ∀ before r answer later, log = before ++ (r, answer) :: later →
    (answer = none ↔ r = .iterate ∧ IterationEnded before)
  /-- A request for the next token is still answered then, with an empty end of input. -/
  next_of_ended : ∀ before answer later, log = before ++ (.next, answer) :: later →
    IterationEnded before → answer = some (Token.endAt text.utf8ByteSize)

/-- Of an initial part of the sequence every token is the one that has its place there. -/
theorem eq_endless_of_getElem? {text : String} {tokens : List Token} {n i : Nat} {t : Token}
    (h : tokens = (List.range n).map (endless text)) (ht : tokens[i]? = some t) :
    t = endless text i := by
  rw [h, List.getElem?_map] at ht
  obtain ⟨j, hj, rfl⟩ := Option.map_eq_some_iff.mp ht
  obtain ⟨-, rfl⟩ := List.getElem?_eq_some_iff.mp hj
  rw [List.getElem_range]

/-- What is handed out behind a terminal token are empty ends of input. -/
theorem eq_endAt_of_iterationEnded {text : String} {before later : Log} {r : Request} {t : Token}
    {n : Nat} (h : tokensOf (before ++ (r, some t) :: later) = (List.range n).map (endless text))
    (hended : IterationEnded before) : t = Token.endAt text.utf8ByteSize := by
  rw [tokensOf_append, tokensOf_cons_some] at h
  obtain ⟨u, hu, hkind⟩ := hended
  -- both tokens have their places in the sequence, and the terminal one comes first
  have hmem : u ∈ tokensOf before := List.mem_filterMap.mpr ⟨_, hu, rfl⟩
  obtain ⟨i, hi⟩ := List.mem_iff_getElem?.mp hmem
  have hlt : i < (tokensOf before).length := (List.getElem?_eq_some_iff.mp hi).1
  have hfirst : u = endless text i :=
    eq_endless_of_getElem? h (by rw [List.getElem?_append_left hlt, hi])
  have hlater : t = endless text (tokensOf before).length :=
    eq_endless_of_getElem? h (by simp)
  rw [hfirst] at hkind
  rw [hlater, endless_of_isTerminal hkind hlt]

/-- A text is cut into its tokens, or the last of them is the fault for which it is rejected. -/
theorem tokenize_cases {text : String} {init : List Token} {last : Token}
    (hdrain : (ofString text).drain.1 = init ++ [last]) :
    last.kind = .endOfInput ∧ tokenize text = .ok (init ++ [last]) ∨
      ∃ fault, last.kind = .error fault ∧
        tokenize text = .error ⟨fault, last.pos, lineAt text.toList last.pos⟩ := by
  obtain ⟨init', last', -, hdrain', hlast, hinit, -⟩ :=
    (division_ofString text).exists_eq_concat
  rw [hdrain] at hdrain'
  obtain ⟨rfl, hsingle⟩ := List.append_inj' hdrain' rfl
  obtain rfl : last = last' := by simpa using hsingle
  rw [tokenize_eq, hdrain, faultIn?_append hinit]
  cases hkind : last.kind with
  | error fault => exact Or.inr ⟨fault, rfl, by simp [faultIn?, hkind]⟩
  | endOfInput => exact Or.inl ⟨rfl, by simp [faultIn?, hkind]⟩
  | _ =>
      rw [hkind] at hlast
      cases hlast

/-- However requests for the next token and iterations follow one another, they draw on one sequence,
the tokens of the text and empty ends of input behind them. The iteration alone ends, when it has
handed out a terminal token. Iterated from its beginning, a text gives its tokens up to the terminal
one; cut as a whole it gives the same tokens, or the fault that is the last of them. -/
theorem interleaves_serveAll (text : String) :
    (∀ requests, ((ofString text).serveAll requests).1.map Prod.fst = requests ∧
        Interleaves text ((ofString text).serveAll requests).1) ∧
      ∃ init last, (∀ t ∈ init, t.kind.isTerminal = false) ∧
        (ofString text).drain.1 = init ++ [last] ∧
        ((ofString text).serveAll (List.replicate (init.length + 1) .iterate)).1 =
          (init ++ [last]).map (fun t => (.iterate, some t)) ∧
        (last.kind = .endOfInput ∧ tokenize text = .ok (init ++ [last]) ∨
          ∃ fault, last.kind = .error fault ∧
            tokenize text = .error ⟨fault, last.pos, lineAt text.toList last.pos⟩) := by
  constructor
  · intro requests
    refine ⟨map_fst_serveAll _ requests, ?_⟩
    obtain ⟨n, hn⟩ := (handedOut_ofString text).tokensOf_serveAll requests
    rw [← List.range_eq_range'] at hn
    constructor
    case tokens =>
      have hlength := congrArg List.length hn
      rw [List.length_map, List.length_range] at hlength
      rw [hlength, hn]
    case none_iff =>
      intro before r answer later hlog
      rw [eq_none_iff_of_serveAll hlog]
      simp [ofString, ofList]
    case next_of_ended =>
      intro before answer later hlog hended
      cases answer with
      | none => cases ((eq_none_iff_of_serveAll hlog).mp rfl).1
      | some t =>
          rw [hlog] at hn
          rw [eq_endAt_of_iterationEnded hn hended]
  · obtain ⟨init, last, -, hdrain, -, hinit, -⟩ := (division_ofString text).exists_eq_concat
    refine ⟨init, last, hinit, hdrain, ?_, tokenize_cases hdrain⟩
    have hall := serveAll_replicate_iterate (s := ofString text) rfl
    rw [hdrain, List.length_append, List.length_singleton] at hall
    rw [hall, rest, if_neg (by simp [ofString, ofList]), hdrain]

end Scanner

end

end ActionTemplate
