import ActionTemplate.Proofs.Upcoming
import ActionTemplate.Text.Letters

/-!
# Items from anywhere

An item can be read from any place that a reading has come to, whatever was read and given back
before. What comes of it is told by the tokens to come alone: by the head, the first of them that is
no blank, and by what lies between the head and the end of its line. `ReadsItem` lists the cases and
`readsItem_perform_action` says that there are no others.

The line of an action is the one that the feed has reached when the head has been read. That is the
line of the head only if the head has just come from the feed, or no token has come behind it, which
is so if at most one token was given back: `line_of_action`. What is kept up for this is `OnText`, that
the feed has reached the line of the latest token in the window.
-/

namespace ActionTemplate

open Text

section

variable [Alphabet]

/-! ## Reading an item -/

namespace Lookahead

variable {l l₁ l' : Lookahead} {head : Token}

/-- A closing word at the head is an item by itself. -/
theorem run_action_of_marker {m : Marker} (h : nextPastSpaces.run l = .ok head l₁)
    (hmarker : marker? head.kind = some m) : action.run l = .ok (.closing m) l₁ := by
  rw [action, Stateful.run_bind_of_ok h, itemFrom, hmarker]
  rfl

/-- Any other head is given back, and its line is finished. -/
theorem run_action_of_head (h : nextPastSpaces.run l = .ok head l₁)
    (hmarker : marker? head.kind = none) (hroom : l₁.pushedBack < l₁.buffered)
    (hget : l₁.window.get l₁.pushedBack = head) :
    action.run l = match finishLine.run { l₁ with pushedBack := l₁.pushedBack + 1 } with
      | .ok _ l' => .ok (.node (.action head.pos l₁.line)) l'
      | .error e l' => .error e l' := by
  have hback : pushBack.run l₁ = .ok () { l₁ with pushedBack := l₁.pushedBack + 1 } := by
    rw [run_pushBack, if_pos hroom]
  have hpeek : peek.run { l₁ with pushedBack := l₁.pushedBack + 1 } =
      .ok head { l₁ with pushedBack := l₁.pushedBack + 1 } :=
    hget ▸ run_peek_of_pushedBack rfl
  rw [action, Stateful.run_bind_of_ok h, itemFrom, hmarker]
  simp only
  rw [Stateful.run_bind_of_ok hback, Stateful.run_bind_of_ok hpeek,
    Stateful.run_bind_of_ok (EStateM.run_get _)]
  cases hfinish : finishLine.run { l₁ with pushedBack := l₁.pushedBack + 1 } with
  | ok u l' => rw [Stateful.run_bind_of_ok hfinish]; rfl
  | error e l' => rw [Stateful.run_bind_of_error hfinish]

omit [Alphabet] in
/-- There is no marker but for a closing word. -/
theorem marker?_eq_none {k : TokenKind} (hend : k ≠ .keyword .endWord)
    (helse : k ≠ .keyword .elseWord) : marker? k = none := by
  unfold marker?
  split
  · exact absurd rfl hend
  · exact absurd rfl helse
  · rfl

end Lookahead

namespace Template

open Lookahead

/-- What comes of reading an item in front of whose head stand `head` blanks, if the line that begins
with the head ends behind `length` tokens. -/
inductive ReadsItem (t : Template) (head length : Nat) : Except ParseError Yield × Template → Prop where
  /-- The head is the closing word `end`. -/
  | endWord {l : Lookahead} (hhead : (t.lookahead.upcoming head).kind = .keyword .endWord)
      (hfurther : t.lookahead.Further (head + 1) l) :
      ReadsItem t head length (.ok (.item (.closing .endMark)), { t with lookahead := l })
  /-- The head is the closing word `else`. -/
  | elseWord {l : Lookahead} (hhead : (t.lookahead.upcoming head).kind = .keyword .elseWord)
      (hfurther : t.lookahead.Further (head + 1) l) :
      ReadsItem t head length (.ok (.item (.closing .elseMark)), { t with lookahead := l })
  /-- A fault of the text comes before the line ends. -/
  | fault {i : Nat} {fault : LexFault} {l : Lookahead}
      (hend : (t.lookahead.upcoming head).kind ≠ .keyword .endWord)
      (helse : (t.lookahead.upcoming head).kind ≠ .keyword .elseWord) (hi : i < length)
      (hfirst : ∀ j < i, ∀ fault, (t.lookahead.upcoming (head + j)).kind ≠ .error fault)
      (hkind : (t.lookahead.upcoming (head + i)).kind = .error fault) :
      ReadsItem t head length
        (.error ({ t with lookahead := l }.errorAt (.lexical fault)), { t with lookahead := l })
  /-- The line ends, and all of it has been read. -/
  | line {line : Nat} {l : Lookahead}
      (hend : (t.lookahead.upcoming head).kind ≠ .keyword .endWord)
      (helse : (t.lookahead.upcoming head).kind ≠ .keyword .elseWord)
      (hproper : ∀ i < length, ∀ fault, (t.lookahead.upcoming (head + i)).kind ≠ .error fault)
      (hkind : (t.lookahead.upcoming (head + length)).kind = .endOfLine)
      (hfurther : t.lookahead.Further (head + length + 1) l) :
      ReadsItem t head length
        (.ok (.item (.node (.action (t.lookahead.upcoming head).pos line))),
          { t with lookahead := l })
  /-- The input ends, and its end is read next. -/
  | input {line : Nat} {l : Lookahead}
      (hend : (t.lookahead.upcoming head).kind ≠ .keyword .endWord)
      (helse : (t.lookahead.upcoming head).kind ≠ .keyword .elseWord)
      (hproper : ∀ i < length, ∀ fault, (t.lookahead.upcoming (head + i)).kind ≠ .error fault)
      (hkind : (t.lookahead.upcoming (head + length)).kind = .endOfInput)
      (hfurther : t.lookahead.Further (head + length) l)
      (hnext : ({ t with lookahead := l }.perform .next).1 =
        .ok (.token (t.lookahead.upcoming (head + length)))) :
      ReadsItem t head length
        (.ok (.item (.node (.action (t.lookahead.upcoming head).pos line))),
          { t with lookahead := l })

/-- A template reads an item as its lookahead does. -/
theorem perform_action (t : Template) :
    t.perform .action = match Lookahead.action.run t.lookahead with
      | .ok i l => (.ok (.item i), { t with lookahead := l })
      | .error e l => (.error ({ t with lookahead := l }.errorAt e), { t with lookahead := l }) := by
  rw [perform, run, Stateful.run_map]
  cases Lookahead.action.run t.lookahead <;> rfl

/-- From a head that is no closing word the line is finished. -/
theorem readsItem_of_head {t : Template} {l₁ : Lookahead} {head length : Nat}
    (hread : nextPastSpaces.run t.lookahead = .ok (t.lookahead.upcoming head) l₁)
    (hfurther : t.lookahead.Further (head + 1) l₁) (hsound : l₁.Sound)
    (hroom : l₁.pushedBack < l₁.buffered)
    (hget : l₁.window.get l₁.pushedBack = t.lookahead.upcoming head)
    (hlength : FirstAt (fun i => t.lookahead.upcoming (head + i)) Ends length)
    (hend : (t.lookahead.upcoming head).kind ≠ .keyword .endWord)
    (helse : (t.lookahead.upcoming head).kind ≠ .keyword .elseWord) :
    t.ReadsItem head length (t.perform .action) := by
  have hagain := hfurther.givenBack hget
  have hupcoming : (upcoming { l₁ with pushedBack := l₁.pushedBack + 1 }) =
      fun i => t.lookahead.upcoming (head + i) := funext hagain.upcoming
  have hfinish := finishesAt_finishLine (hsound.givenBack hroom) (hupcoming ▸ hlength)
  rw [perform_action, run_action_of_head hread (marker?_eq_none hend helse) hroom hget]
  generalize finishLine.run { l₁ with pushedBack := l₁.pushedBack + 1 } = result at hfinish
  cases hfinish with
  | fault hi hfirst hkind =>
      simp only [hupcoming] at hfirst hkind
      exact .fault hend helse hi hfirst hkind
  | line hproper hkind hfurther' =>
      simp only [hupcoming] at hproper hkind
      exact .line hend helse hproper hkind (hagain.trans hfurther')
  | input hproper hkind hfurther' hnext =>
      simp only [hupcoming] at hproper hkind hnext
      refine .input hend helse hproper hkind (hagain.trans hfurther') ?_
      rw [perform, run, Stateful.run_map, hnext]

/-- What comes of reading an item is told by the tokens to come. -/
theorem readsItem_perform_action {t : Template} {head length : Nat} (h : t.lookahead.Sound)
    (hhead : FirstAt t.lookahead.upcoming (· ≠ .space) head)
    (hlength : FirstAt (fun i => t.lookahead.upcoming (head + i)) Ends length) :
    t.ReadsItem head length (t.perform .action) := by
  have hread := readsAt_nextPastSpaces h hhead
  generalize hrun : nextPastSpaces.run t.lookahead = result at hread
  cases hread with
  | token hproper hfurther hback hsound hroom hget =>
      by_cases hend : (t.lookahead.upcoming head).kind = .keyword .endWord
      · rw [perform_action, run_action_of_marker hrun (by rw [hend]; rfl)]
        exact .endWord hend hfurther
      · by_cases helse : (t.lookahead.upcoming head).kind = .keyword .elseWord
        · rw [perform_action, run_action_of_marker hrun (by rw [helse]; rfl)]
          exact .elseWord helse hfurther
        · exact readsItem_of_head hrun hfurther hsound hroom hget hlength hend helse
  | fault hkind =>
      -- a head that is a fault ends no line, so that it lies in front of the end
      have hpos : 0 < length := by
        refine Nat.pos_of_ne_zero ?_
        rintro rfl
        have hends : Ends (t.lookahead.upcoming head).kind := hlength.1
        rw [hkind] at hends
        exact absurd hends (by simp [Ends])
      rw [perform_action, Lookahead.action, Stateful.run_bind_of_error hrun]
      exact .fault (by simp [hkind]) (by simp [hkind]) hpos
        (fun j hj => absurd hj (Nat.not_lt_zero j)) hkind

end Template

/-! ## The line of an action -/

namespace Feed

/-- As long as no fault comes, the feed has the line of each token that it gives. -/
def LinesUp (text : List Char) (f : Feed) : Prop :=
  ∃ coming, f.Delivers text coming ∧
    (coming = [] ∧ f.line = lineAt text (byteLength text) ∨
      Run coming ∧ ∀ t ∈ coming, t.kind = .endOfInput →
        lineAt text t.pos = lineAt text (byteLength text))

/-- The feed of a text has the line of each token. -/
theorem linesUp_ofString (delivery : Delivery) (text : String) :
    (ofString delivery text).LinesUp text.toList := by
  have hdivision := Scanner.division_ofString text
  refine ⟨_, delivers_ofString delivery text, Or.inr ⟨hdivision.run, fun t ht hkind => ?_⟩⟩
  have hall : takeBytes (byteLength text.toList) text.toList = text.toList := by
    have htake := takeBytes_byteLength_append text.toList []
    rwa [List.append_nil] at htake
  rw [hdivision.lineAt_endOfInput ht hkind, lineAt, hall]

/-- A token that is no fault has the line that the feed then has, and so have those behind it. -/
theorem LinesUp.next {text : List Char} {f : Feed} (h : f.LinesUp text)
    (hproper : ∀ fault, f.next.1.kind ≠ .error fault) :
    f.next.2.line = lineAt text f.next.1.pos ∧ f.next.2.LinesUp text := by
  obtain ⟨coming, hdelivers, ⟨rfl, hline⟩ | ⟨hrun, hend⟩⟩ := h
  · have hnext : f.next = (Token.endAt (byteLength text), f) := hdelivers
    rw [hnext]
    exact ⟨hline, [], hdelivers, Or.inl ⟨rfl, hline⟩⟩
  · cases hrun with
    | @last t hterminal =>
        obtain ⟨rfl, hline, hrest⟩ := hdelivers
        have hkind := TokenKind.eq_endOfInput hterminal hproper
        have hlast := hend f.next.1 (List.mem_singleton_self _) hkind
        exact ⟨hline, [], hrest, Or.inl ⟨rfl, hline.trans hlast⟩⟩
    | @cons t ts hterminal hrun' =>
        obtain ⟨rfl, hline, hrest⟩ := hdelivers
        exact ⟨hline, ts, hrest, Or.inr ⟨hrun', fun u hu => hend u (List.mem_cons_of_mem _ hu)⟩⟩

end Feed

namespace Lookahead

variable {text : List Char} {l l₁ l' : Lookahead}

/-- The lookahead reads a text and has met no fault of it. The line that it has reached is that of the
latest token in its window. -/
structure OnText (text : List Char) (l : Lookahead) : Prop where
  feed : ∃ f, l.feed = some f ∧ f.LinesUp text
  line : 0 < l.buffered → l.line = lineAt text (l.window.get 0).pos

/-- Until it meets a fault, the grammar keeps up that the line is that of the latest token. -/
theorem keeps_onText (text : List Char) :
    Keeps (OnText text) fun e l => e.isLexical = true ∨ OnText text l := by
  refine keeps_of_next ?_ ?_ ?_ fun _ h => Or.inr h
  · intro l l' t _ h hnext
    rcases eq_of_next hnext with ⟨n, -, -, rfl⟩ | ⟨-, rfl, hproper, rfl⟩
    · exact ⟨h.feed, h.line⟩
    · obtain ⟨f, hfeed, hlines⟩ := h.feed
      rw [hfeed] at hproper ⊢
      obtain ⟨hline, hlines'⟩ := hlines.next hproper
      exact ⟨⟨f.next.2, rfl, hlines'⟩, fun _ => hline⟩
  · intro l l' e _ _ hnext
    obtain ⟨fault, rfl, -⟩ := eq_of_next_error hnext
    exact Or.inl rfl
  · intro l _ h _
    exact ⟨h.feed, h.line⟩

/-- With at most one token given back an action has the line of its head. -/
theorem line_of_action (hsound : Sound l) (h : OnText text l) (hback : l.pushedBack ≤ 1)
    {pos line : Nat} (haction : action.run l = .ok (.node (.action pos line)) l') :
    line = lineAt text pos := by
  obtain ⟨n, -, hn, -⟩ := l.exists_head_length
  have hread := readsAt_nextPastSpaces hsound hn
  generalize hrun : nextPastSpaces.run l = result at hread
  cases hread with
  | @token l₁ hproper hfurther hback' hsound' hroom hget =>
      cases hmarker : marker? (l.upcoming n).kind with
      | some m =>
          rw [run_action_of_marker hrun hmarker] at haction
          cases haction
      | none =>
          rw [run_action_of_head hrun hmarker hroom hget] at haction
          split at haction
          · cases haction
            -- the head has just come from the feed, or was the latest token to come
            have hzero : l₁.pushedBack = 0 := by omega
            have honText := (keeps_onText text).of_nextPast hsound h hrun
            rw [hzero] at hroom hget
            rw [honText.line hroom, hget]
          · cases haction
  | fault hkind =>
      rw [action, Stateful.run_bind_of_error hrun] at haction
      cases haction

end Lookahead

namespace Template

open Lookahead

variable {text : List Char}

/-- A move that reads the text and meets no fault keeps up that the line is that of the latest
token. -/
theorem onText_perform {t : Template} (hsound : t.lookahead.Sound) (h : t.lookahead.OnText text)
    {m : Move} (hstop : m ≠ .stop) (hstart : ∀ functions feed, m ≠ .start functions feed)
    (hfault : metFault (t.perform m).1 = false) : (t.perform m).2.lookahead.OnText text := by
  rcases m.reading_cases with ⟨r, hm⟩ | ⟨name, rfl⟩ | rfl | ⟨functions, feed, rfl⟩
  · rcases (perform_keeps (keeps_onText text) hm hsound h).2 with
      ⟨-, honText⟩ | ⟨e, he, -, hlexical | honText⟩ | ⟨-, -, hsame⟩
    · exact honText
    · rw [he] at hfault
      exact absurd (hlexical.symm.trans hfault) (by simp)
    · exact honText
    · rwa [hsame]
  · exact h
  · exact absurd rfl hstop
  · exact absurd rfl (hstart functions feed)

/-- Any number of such moves does. -/
theorem onText_performAll {t : Template} (hsound : t.lookahead.Sound) (h : t.lookahead.OnText text)
    {moves : List Move}
    (hmoves : ∀ m ∈ moves, m ≠ .stop ∧ ∀ functions feed, m ≠ .start functions feed)
    (hfaults : ∀ result ∈ (t.performAll moves).1, metFault result = false) :
    (t.performAll moves).2.lookahead.OnText text := by
  induction moves generalizing t with
  | nil => exact h
  | cons m moves ih =>
      obtain ⟨⟨hstop, hstart⟩, hlater⟩ := List.forall_mem_cons.mp hmoves
      obtain ⟨hfault, hfaults'⟩ := List.forall_mem_cons.mp hfaults
      exact ih (sound_perform hsound m) (onText_perform hsound h hstop hstart hfault) hlater hfaults'

/-- From any place to which moves lead after a text was begun, what comes of reading an item is told
by the tokens to come. If the reading has not left the text and has met no fault of it, and at most
one token is given back, an action has the line of its head. -/
theorem action_from_anywhere {t s : Template} {functions : List FunctionTable} {delivery : Delivery}
    {text : String} {moves : List Move} {results : List (Except ParseError Yield)}
    (h : (t.start functions (Feed.ofString delivery text)).performAll moves = (results, s)) :
    (∃ head length, FirstAt s.lookahead.upcoming (· ≠ .space) head ∧
        FirstAt (fun i => s.lookahead.upcoming (head + i)) Ends length ∧
        s.ReadsItem head length (s.perform .action)) ∧
      ((∀ m ∈ moves, m ≠ .stop ∧ ∀ functions feed, m ≠ .start functions feed) →
        (∀ result ∈ results, metFault result = false) → s.lookahead.pushedBack ≤ 1 →
        ∀ pos line s', s.perform .action = (.ok (.item (.node (.action pos line))), s') →
          line = lineAt text.toList pos) := by
  have hstart := t.lookahead.sound_restart (Feed.ofString delivery text)
  have hsound : s.lookahead.Sound := by
    have hsound := sound_performAll (t := t.start functions (Feed.ofString delivery text)) hstart moves
    rwa [h] at hsound
  refine ⟨?_, fun hmoves hfaults hback pos line s' haction => ?_⟩
  · obtain ⟨head, length, hhead, hlength⟩ := s.lookahead.exists_head_length
    exact ⟨head, length, hhead, hlength, readsItem_perform_action hsound hhead hlength⟩
  · have honText : s.lookahead.OnText text.toList := by
      have hbegun : (t.start functions (Feed.ofString delivery text)).lookahead.OnText text.toList :=
        ⟨⟨_, rfl, Feed.linesUp_ofString delivery text⟩, fun hpos => absurd hpos (Nat.not_lt_zero 0)⟩
      have hkept := onText_performAll hstart hbegun hmoves (by rwa [h])
      rwa [h] at hkept
    rw [perform_action] at haction
    split at haction
    · rename_i i l hrun
      cases haction
      exact line_of_action hsound honText hback hrun
    · cases haction

end Template

end

/-- With the head of the second line read and given back, the action that begins with it is on the
second line. -/
theorem action_from_anywhere_on_second_line :
    ∃ results s, (({ name := "page" } : Template).start []
          (Feed.ofString .concurrent "x\n y z")).performAll
        [.next, .next, .nextPastSpaces, .pushBack] = (results, s) ∧
      (∀ m ∈ [Template.Move.next, .next, .nextPastSpaces, .pushBack],
        m ≠ .stop ∧ ∀ functions feed, m ≠ .start functions feed) ∧
      (∀ result ∈ results, Template.metFault result = false) ∧ s.lookahead.pushedBack ≤ 1 ∧
      (s.perform .action).1 = .ok (.item (.node (.action 3 2))) ∧
      2 = lineAt "x\n y z".toList 3 := by
  have hmoves : ∀ m ∈ [Template.Move.next, .next, .nextPastSpaces, .pushBack],
      m ≠ .stop ∧ ∀ functions feed, m ≠ .start functions feed := by simp
  obtain ⟨results, s, hplace, hfaults, hback, haction⟩ :
      ∃ results s, (({ name := "page" } : Template).start []
            (Feed.ofString .concurrent "x\n y z")).performAll
          [.next, .next, .nextPastSpaces, .pushBack] = (results, s) ∧
        (∀ result ∈ results, Template.metFault result = false) ∧ s.lookahead.pushedBack ≤ 1 ∧
        (s.perform .action).1 = .ok (.item (.node (.action 3 2))) :=
    ⟨_, _, rfl, by decide +kernel, by decide +kernel, by decide +kernel⟩
  exact ⟨results, s, hplace, hmoves, hfaults, hback, haction,
    (Template.action_from_anywhere hplace).2 hmoves hfaults hback 3 2 _ (Prod.ext haction rfl)⟩

end ActionTemplate
