import ActionTemplate.Proofs.Sound

/-!
# Beginning anew

Beginning a text resets the numbers of the lookahead and leaves in its window what was there. None of
it is ever seen again: a token can be given back only after it has come, and each token that comes
takes the place of an old one.

Two lookaheads are `Alike` if they agree in all but those places of the window that do not count.
Every move yields the same on both and leads to lookaheads that are alike, `Alike.perform`, so that
whatever was done before a text is begun makes no difference to what is done after,
`performAll_start_forgets`.
-/

namespace ActionTemplate

namespace Lookahead

variable [Alphabet] {l l' : Lookahead}

/-! ## Lookaheads that are alike -/

/-- Both lookaheads are sound and agree in all but what their windows hold beyond the tokens that
count. -/
structure Alike (l l' : Lookahead) : Prop where
  sound : Sound l
  feed : l'.feed = l.feed
  pushedBack : l'.pushedBack = l.pushedBack
  buffered : l'.buffered = l.buffered
  window : ∀ i < l.buffered, l'.window.get i = l.window.get i

omit [Alphabet] in
/-- In front of the same new feed all lookaheads are alike. -/
theorem alike_restart (l l' : Lookahead) (feed : Feed) : Alike (l.restart feed) (l'.restart feed) :=
  ⟨l.sound_restart feed, rfl, rfl, rfl, fun _ hi => absurd hi (Nat.not_lt_zero _)⟩

omit [Alphabet] in
/-- Lookaheads that are alike are on the same line. -/
theorem Alike.line (h : Alike l l') : l.line = l'.line := by
  rw [Lookahead.line, Lookahead.line, h.feed]

/-- Reading again, lookaheads that are alike find the same token. -/
theorem Alike.next_of_pushedBack {n : Nat} (h : Alike l l') (hn : l.pushedBack = n + 1) :
    Related (fun l l' => Alike l l' ∧ l.pushedBack < l.buffered) (fun _ => Alike) (next.run l)
      (next.run l') := by
  have hlt : n < l.buffered := by
    have := h.sound.pushedBack_le
    omega
  obtain ⟨hsound, hroom⟩ := h.sound.of_next (run_next_of_pushedBack hn)
  rw [run_next_of_pushedBack hn, run_next_of_pushedBack (h.pushedBack.trans hn), h.window n hlt]
  exact .ok ⟨⟨hsound, h.feed, rfl, h.buffered, h.window⟩, hroom⟩

/-- Lookaheads that are alike read the same, and meet the same fault. -/
theorem Alike.next (h : Alike l l') :
    Related (fun l l' => Alike l l' ∧ l.pushedBack < l.buffered) (fun _ => Alike) (next.run l)
      (next.run l') := by
  rcases next_cases l with ⟨n, hn, -⟩ | ⟨hn, ⟨fault, hkind, hrun⟩ | ⟨hproper, hrun⟩⟩
  · exact h.next_of_pushedBack hn
  · have hsound := h.sound.of_next_error hrun
    rw [run_next_of_draw_error (h.pushedBack.trans hn) (by rw [h.feed]; exact hkind), hrun, h.feed]
    exact .error ⟨hsound, rfl, h.pushedBack, h.buffered, h.window⟩
  · obtain ⟨hsound, hroom⟩ := h.sound.of_next hrun
    rw [run_next_of_draw (h.pushedBack.trans hn) (by rw [h.feed]; exact hproper), hrun, h.feed,
      h.buffered]
    refine .ok ⟨⟨hsound, rfl, rfl, rfl, fun i hi => ?_⟩, hroom⟩
    -- the new token is the first on both sides, and the others have moved one place back
    cases i with
    | zero => rfl
    | succ i =>
        have hi' : i + 1 < min (l.buffered + 1) Window.size := hi
        show (l'.window.push _).get (i + 1) = (l.window.push _).get (i + 1)
        rw [Window.get_push_succ _ _ (by omega), Window.get_push_succ _ _ (by omega)]
        exact h.window i (by omega)

omit [Alphabet] in
/-- A token is given back on both sides, or on neither. -/
theorem Alike.pushBack (h : Alike l l') :
    Related Alike (fun _ => Alike) (pushBack.run l) (pushBack.run l') := by
  rw [run_pushBack, run_pushBack, h.pushedBack, h.buffered]
  by_cases hroom : l.pushedBack < l.buffered
  · rw [if_pos hroom, if_pos hroom]
    exact .ok ⟨h.sound.givenBack hroom, h.feed, rfl, rfl, h.window⟩
  · rw [if_neg hroom, if_neg hroom]
    exact .error h

/-- The grammar reads the same from lookaheads that are alike. -/
theorem compatible_alike :
    Compatible Alike (fun l l' => Alike l l' ∧ l.pushedBack < l.buffered) fun _ => Alike where
  next := fun _ _ h => h.next
  room := by
    rintro l l' ⟨h, hroom⟩
    refine ⟨hroom, ?_⟩
    rwa [h.pushedBack, h.buffered]
  givenBack := by
    rintro l l' ⟨h, hroom⟩
    exact ⟨h.sound.givenBack hroom, h.feed, congrArg (· + 1) h.pushedBack, h.buffered, h.window⟩
  forget := And.left
  line := Alike.line
  unexpected := id

end Lookahead

/-! ## Templates that are alike -/

namespace Template

/-- Two templates agree in all that a reading uses, but for what their windows hold beyond the
tokens that count. -/
structure Alike (t t' : Template) : Prop where
  name : t.name = t'.name
  parseName : t.parseName = t'.parseName
  root : t.root = t'.root
  lookahead : t.lookahead.Alike t'.lookahead
  vars : t.vars = t'.vars
  functions : t.functions = t'.functions

variable [Alphabet] {t t' : Template}

omit [Alphabet] in
/-- Faults at the same place are reported in the same way. -/
theorem Alike.errorAt (h : t.Alike t') (fault : ParseFault) : t.errorAt fault = t'.errorAt fault := by
  rw [Template.errorAt, Template.errorAt, h.parseName, h.lookahead.line]

omit [Alphabet] in
/-- A computation that reads the same from lookaheads that are alike yields the same on templates
that are alike. -/
theorem Alike.run {α : Type} {r : Reading α} (h : t.Alike t')
    (hr : Lookahead.Leads Lookahead.Alike Lookahead.Alike (fun _ => Lookahead.Alike) r) :
    (t.run r).1 = (t'.run r).1 ∧ (t.run r).2.Alike (t'.run r).2 := by
  have hread := hr h.lookahead
  unfold Template.run
  generalize r.run t.lookahead = result at hread
  generalize r.run t'.lookahead = result' at hread
  cases hread with
  | ok hl => exact ⟨rfl, h.name, h.parseName, h.root, hl, h.vars, h.functions⟩
  | @error e l l' hl =>
      have halike : Alike { t with lookahead := l } { t' with lookahead := l' } :=
        ⟨h.name, h.parseName, h.root, hl, h.vars, h.functions⟩
      exact ⟨congrArg Except.error (halike.errorAt e), halike⟩

/-- A body that is read is the same on templates that are alike, and it becomes the body of both. -/
theorem Alike.readBody (h : t.Alike t') :
    t.readBody.1 = t'.readBody.1 ∧ t.readBody.2.Alike t'.readBody.2 := by
  obtain ⟨hresult, halike⟩ := h.run Lookahead.compatible_alike.body
  unfold Template.readBody
  generalize t.run Lookahead.body = reading at hresult halike
  generalize t'.run Lookahead.body = reading' at hresult halike
  obtain ⟨result, s⟩ := reading
  obtain ⟨result', s'⟩ := reading'
  obtain rfl : result = result' := hresult
  cases result with
  | ok body =>
      exact ⟨rfl, halike.name, halike.parseName, rfl, halike.lookahead, halike.vars,
        halike.functions⟩
  | error e => exact ⟨rfl, halike⟩

/-- A move yields the same on templates that are alike, and they stay alike. -/
theorem Alike.perform (h : t.Alike t') (m : Move) :
    (t.perform m).1 = (t'.perform m).1 ∧ (t.perform m).2.Alike (t'.perform m).2 := by
  rcases m.reading_cases with ⟨r, hm⟩ | ⟨name, rfl⟩ | rfl | ⟨functions, feed, rfl⟩
  · by_cases hbody : m = .body
    · subst hbody
      obtain ⟨hresult, halike⟩ := h.readBody
      exact ⟨congrArg (Except.map fun _ => Yield.done) hresult, halike⟩
    · rw [perform_eq_run hm hbody, perform_eq_run hm hbody]
      by_cases hback : m = .pushBack
      · subst hback
        cases hm
        exact h.run (Lookahead.Leads.map (fun _ _ hl => hl.pushBack) _)
      · exact h.run (leads_of_reading Lookahead.compatible_alike hm hback)
  · exact ⟨rfl, h.name, h.parseName, h.root, h.lookahead, congrArg (· ++ [name]) h.vars,
      h.functions⟩
  · exact ⟨rfl, h.name, h.parseName, h.root,
      ⟨Lookahead.sound_empty, rfl, rfl, rfl, fun _ _ => rfl⟩, rfl, rfl⟩
  · exact ⟨rfl, h.name, h.parseName, rfl, Lookahead.alike_restart _ _ feed, rfl, rfl⟩

/-- Any number of moves yields the same on templates that are alike. -/
theorem Alike.performAll (h : t.Alike t') (ms : List Move) :
    (t.performAll ms).1 = (t'.performAll ms).1 ∧ (t.performAll ms).2.Alike (t'.performAll ms).2 := by
  induction ms generalizing t t' with
  | nil => exact ⟨rfl, h⟩
  | cons m ms ih =>
      obtain ⟨hresult, halike⟩ := h.perform m
      obtain ⟨hresults, halike'⟩ := ih halike
      refine ⟨?_, halike'⟩
      rw [Template.performAll, Template.performAll, hresult, hresults]

/-! ## What was done before -/

/-- No move changes the names of a template. -/
theorem names_perform (t : Template) (m : Move) :
    (t.perform m).2.name = t.name ∧ (t.perform m).2.parseName = t.parseName := by
  rcases m.reading_cases with ⟨r, hm⟩ | ⟨name, rfl⟩ | rfl | ⟨functions, feed, rfl⟩
  · by_cases hbody : m = .body
    · subst hbody
      rw [perform_body]
      cases Lookahead.body.run t.lookahead <;> exact ⟨rfl, rfl⟩
    · rw [perform_eq_run hm hbody, run_frame]
      exact ⟨rfl, rfl⟩
  · exact ⟨rfl, rfl⟩
  · exact ⟨rfl, rfl⟩
  · exact ⟨rfl, rfl⟩

/-- No number of moves changes the names of a template. -/
theorem names_performAll (t : Template) (ms : List Move) :
    (t.performAll ms).2.name = t.name ∧ (t.performAll ms).2.parseName = t.parseName := by
  induction ms generalizing t with
  | nil => exact ⟨rfl, rfl⟩
  | cons m ms ih =>
      obtain ⟨hname, hparseName⟩ := ih (t.perform m).2
      obtain ⟨hname', hparseName'⟩ := t.names_perform m
      exact ⟨hname.trans hname', hparseName.trans hparseName'⟩

/-- Two templates cannot be told apart by what they show of a reading. -/
structure SameView (t t' : Template) : Prop where
  name : t.name = t'.name
  parseName : t.parseName = t'.parseName
  root : t.root = t'.root
  vars : t.vars = t'.vars
  functions : t.functions = t'.functions
  line : t.lookahead.line = t'.lookahead.line
  pushedBack : t.lookahead.pushedBack = t'.lookahead.pushedBack
  buffered : t.lookahead.buffered = t'.lookahead.buffered
  isParsing : t.isParsing = t'.isParsing

omit [Alphabet] in
/-- Templates that are alike cannot be told apart. -/
theorem Alike.sameView (h : t.Alike t') : t.SameView t' where
  name := h.name
  parseName := h.parseName
  root := h.root
  vars := h.vars
  functions := h.functions
  line := h.lookahead.line
  pushedBack := h.lookahead.pushedBack.symm
  buffered := h.lookahead.buffered.symm
  isParsing := by rw [isParsing, isParsing, h.lookahead.feed]

/-- Once a text is begun, whatever was done before is forgotten: all moves that follow yield what they
yield on a template that is new but for its names, and after each of them the two cannot be told
apart. -/
theorem performAll_start_forgets (t : Template) (before later : List Move)
    (functions : List FunctionTable) (feed : Feed) :
    (((t.performAll before).2.start functions feed).performAll later).1 =
        ((({ name := t.name, parseName := t.parseName } : Template).start functions feed).performAll
          later).1 ∧
      (((t.performAll before).2.start functions feed).performAll later).2.SameView
        ((({ name := t.name, parseName := t.parseName } : Template).start functions feed).performAll
          later).2 := by
  obtain ⟨hname, hparseName⟩ := t.names_performAll before
  have halike : ((t.performAll before).2.start functions feed).Alike
      (({ name := t.name, parseName := t.parseName } : Template).start functions feed) :=
    ⟨hname, hparseName, rfl, Lookahead.alike_restart _ _ feed, rfl, rfl⟩
  obtain ⟨hresults, halike'⟩ := halike.performAll later
  exact ⟨hresults, halike'.sameView⟩

end Template

end ActionTemplate
