import ActionTemplate.Scan.Bytewise
import ActionTemplate.Proofs.Machine

/-!
# Offsets that stay sound

A scan by byte offsets goes wrong if an offset lies in the midst of a character, if the offsets get
out of order, or if something is given back that has not just been read. `Offsets.Sound` says of some
offsets that they are boundaries in their order, and `ByteCursor.Sound` says of the whole account of
a cursor that all offsets in it were, and that a change that took something back took back the read
directly before it.

A `Cursor` has the characters before it and those ahead in lists, so it is never in the midst of one.
A `ByteCursor` that `Follows` it has its offsets where the cursor is, and still has them there after a
read, `Follows.behind`, after a read that has been given back, `Follows.back`, and when the next token
starts, `Follows.cut`. `ByteScan.Agrees` is the same of a whole scan: by offsets it succeeds, with the
result that it has by characters. Scans that agree can be put in a row, `Agrees.bind`, and in that way
all scans of tokens are shown to agree.
-/

namespace ActionTemplate

open Text

/-! ## Sound offsets -/

/-- The offsets are boundaries of the text, in their order. -/
structure Offsets.Sound (text : String) (o : Offsets) : Prop where
  lastPos_le : o.lastPos ≤ o.start
  start_le : o.start ≤ o.pos
  pos_le : o.pos ≤ text.utf8ByteSize
  lastPos : IsBoundary text o.lastPos
  start : IsBoundary text o.start
  pos : IsBoundary text o.pos

/-- The change `e` takes back the read `d`, which is the change before it: the width is the one of
that read, there are as many bytes to take back, and all places are again where they were. -/
structure Change.TakesBack (e d : Change) : Prop where
  read : ∃ seen, d.act = .read seen ∧ e.before.width = Offsets.widthOf seen
  before_eq : e.before = d.after
  width_le : e.before.width ≤ e.before.pos
  after_eq : e.after = { d.before with width := e.before.width }

/-- The change is a read that shows the character behind its place in the text, or the end of the
text. -/
structure Change.Shows (text : String) (d : Change) (seen : Option Char) : Prop where
  place : ∃ u v, text.toList = u ++ v ∧ byteLength u = d.before.pos ∧ v.head? = seen
  after_eq : d.after = { d.before with
    pos := d.before.pos + Offsets.widthOf seen, width := Offsets.widthOf seen }

/-- The changes, the latest first, lead from the beginning of a text to the offsets `o`. -/
def Offsets.ReachedBy (o : Offsets) : List Change → Prop
  | [] => o = {}
  | e :: earlier => e.after = o ∧ e.before.ReachedBy earlier

namespace ByteCursor

/-- The account of a cursor has no gap, and whatever it has come through was sound. -/
structure Sound (b : ByteCursor) : Prop where
  now : b.offsets.Sound b.text
  reached : b.offsets.ReachedBy b.changes
  points : ∀ e ∈ b.changes, e.before.Sound b.text ∧ e.after.Sound b.text
  /-- A read has shown the character that was next in the text. -/
  reads : ∀ e ∈ b.changes, ∀ seen, e.act = .read seen → e.Shows b.text seen
  /-- What was taken back is the change directly before, and that was a read. -/
  unreads : ∀ later e earlier, b.changes = later ++ e :: earlier → e.act = .unread →
    ∃ d, earlier.head? = some d ∧ e.TakesBack d

/-- A cursor in front of its text is sound. -/
theorem sound_ofText (text : String) : ({ text } : ByteCursor).Sound where
  now := ⟨Nat.le_refl _, Nat.le_refl _, Nat.zero_le _, isBoundary_zero _, isBoundary_zero _,
    isBoundary_zero _⟩
  reached := rfl
  points := by simp
  reads := by simp
  unreads := by simp

/-- A change to sound offsets is one more in the account. -/
theorem Sound.change {b : ByteCursor} (h : b.Sound) {act : Offsets.Act} {o : Offsets}
    (ho : o.Sound b.text) (hread : ∀ seen, act = .read seen →
      (Change.mk act b.offsets o).Shows b.text seen)
    (hunread : act = .unread →
      ∃ d, b.changes.head? = some d ∧ (Change.mk act b.offsets o).TakesBack d) :
    (b.change act o).Sound where
  now := ho
  reached := ⟨rfl, h.reached⟩
  points := by
    intro e he
    rcases List.mem_cons.mp he with rfl | he
    · exact ⟨h.now, ho⟩
    · exact h.points e he
  reads := by
    intro e he
    rcases List.mem_cons.mp he with rfl | he
    · exact hread
    · exact h.reads e he
  unreads := by
    intro later e earlier hsplit
    cases later with
    | nil =>
        obtain ⟨rfl, rfl⟩ := List.cons_eq_cons.mp hsplit
        exact hunread
    | cons latest later =>
        obtain ⟨-, hsplit⟩ := List.cons_eq_cons.mp hsplit
        exact h.unreads later e earlier hsplit

/-! ## Following a cursor -/

/-- The offsets are those of the cursor `c`, in a text with the characters `front` in front of the
token. The latest token handed out starts at `lastPos`. -/
structure Follows (b : ByteCursor) (text : String) (front : List Char) (lastPos : Nat) (c : Cursor) :
    Prop where
  sound : b.Sound
  text_eq : b.text = text
  split : text.toList = front ++ c.lexeme.reverse ++ c.ahead
  start_eq : c.start = byteLength front
  pos_eq : c.pos = byteLength (front ++ c.lexeme.reverse)
  start : b.offsets.start = c.start
  pos : b.offsets.pos = c.pos
  lastPos : b.offsets.lastPos = lastPos

variable {b : ByteCursor} {text : String} {front : List Char} {lastPos : Nat} {c : Cursor}

/-- The characters ahead are the slice behind the cursor. -/
theorem Follows.slice_ahead (h : b.Follows text front lastPos c) :
    slice? b.text b.offsets.pos b.text.utf8ByteSize = some (String.ofList c.ahead) := by
  rw [slice?_eq_some_iff]
  refine ⟨front ++ c.lexeme.reverse, [], ?_, ?_, ?_⟩
  · rw [h.text_eq, h.split]
    simp
  · rw [h.pos, h.pos_eq]
  · rw [h.pos, h.pos_eq, h.text_eq, ← byteLength_toList, h.split, String.toList_ofList,
      ← byteLength_append]

/-- The token so far is the slice from its start to the cursor. -/
theorem Follows.slice_token (h : b.Follows text front lastPos c) :
    slice? b.text b.offsets.start b.offsets.pos = some c.token := by
  rw [slice?_eq_some_iff]
  refine ⟨front, c.ahead, ?_, ?_, ?_⟩
  · rw [h.text_eq, h.split, Cursor.token]
    simp
  · rw [h.start, h.start_eq]
  · rw [h.start, h.start_eq, h.pos, h.pos_eq, Cursor.token]
    simp

/-- All that lies before the cursor is the slice up to it. -/
theorem Follows.slice_before (h : b.Follows text front lastPos c) :
    slice? b.text 0 b.offsets.pos = some (String.ofList (front ++ c.lexeme.reverse)) := by
  rw [slice?_eq_some_iff]
  refine ⟨[], c.ahead, ?_, rfl, ?_⟩
  · rw [h.text_eq, h.split]
    simp
  · rw [h.pos, h.pos_eq]
    simp

/-- Where a cursor moves to there is a boundary. -/
theorem Follows.isBoundary_of_moves (h : b.Follows text front lastPos c) {u : List Char}
    {c' : Cursor} (hmove : c.Moves u c') : IsBoundary b.text (b.offsets.pos + byteLength u) := by
  refine isBoundary_iff.mpr ⟨front ++ c.lexeme.reverse ++ u, c'.ahead, ?_, ?_⟩
  · rw [h.text_eq, h.split, hmove.ahead]
    simp
  · rw [h.pos, h.pos_eq, byteLength_append _ u]

/-- A cursor that has moved is followed by as many bytes. -/
theorem Follows.of_moves (h : b.Follows text front lastPos c) {b' : ByteCursor} {u : List Char}
    {c' : Cursor} (hmove : c.Moves u c') (hsound : b'.Sound) (htext : b'.text = b.text)
    (hstart : b'.offsets.start = b.offsets.start) (hlast : b'.offsets.lastPos = b.offsets.lastPos)
    (hpos : b'.offsets.pos = b.offsets.pos + byteLength u) : b'.Follows text front lastPos c' where
  sound := hsound
  text_eq := htext.trans h.text_eq
  split := by
    rw [h.split, hmove.ahead, hmove.lexeme]
    simp
  start_eq := hmove.start.trans h.start_eq
  pos_eq := by
    rw [hmove.pos, h.pos_eq, hmove.lexeme, ← byteLength_append]
    simp
  start := by rw [hstart, h.start, hmove.start]
  pos := by rw [hpos, h.pos, hmove.pos]
  lastPos := hlast.trans h.lastPos

/-- A step moves over the character that it shows. -/
theorem moves_step (c : Cursor) : ∃ u, c.Moves u c.step.2 ∧
    byteLength u = Offsets.widthOf c.ahead.head? := by
  cases hahead : c.ahead with
  | nil => exact ⟨[], c.moves_step_of_nil hahead, rfl⟩
  | cons x rest => exact ⟨[x], c.moves_step_of_cons hahead, rfl⟩

/-- After a read the offsets are those of the cursor after a step. -/
theorem Follows.behind (h : b.Follows text front lastPos c) :
    (b.behind c.ahead.head?).Follows text front lastPos c.step.2 := by
  obtain ⟨u, hmove, hwidth⟩ := moves_step c
  have hbound := h.isBoundary_of_moves hmove
  rw [hwidth] at hbound
  have hnow := h.sound.now
  have hsound : (b.behind c.ahead.head?).Sound := by
    refine h.sound.change ⟨hnow.lastPos_le, Nat.le_add_right_of_le hnow.start_le, hbound.le,
      hnow.lastPos, hnow.start, hbound⟩ ?_ (by simp)
    rintro seen ⟨⟩
    exact ⟨⟨_, c.ahead, by rw [h.text_eq, h.split], by rw [h.pos, h.pos_eq], rfl⟩, rfl⟩
  exact h.of_moves hmove hsound rfl rfl rfl (by rw [hwidth]; rfl)

/-- Directly after a read there is as much to take back as has been read, and that leads to where the
cursor was. -/
theorem Follows.back (h : b.Follows text front lastPos c) :
    (b.behind c.ahead.head?).back.Follows text front lastPos (c.past []) := by
  have hnow := h.sound.now
  have hoffsets : (b.behind c.ahead.head?).back.offsets =
      { b.offsets with width := Offsets.widthOf c.ahead.head? } := by
    simp [ByteCursor.behind, ByteCursor.back]
  have hsound : (b.behind c.ahead.head?).back.Sound := by
    refine h.behind.sound.change ?_ (by simp) fun _ => ⟨_, rfl, ⟨_, rfl, rfl⟩, rfl, ?_, hoffsets⟩
    · change (b.behind c.ahead.head?).back.offsets.Sound b.text
      rw [hoffsets]
      exact ⟨hnow.lastPos_le, hnow.start_le, hnow.pos_le, hnow.lastPos, hnow.start, hnow.pos⟩
    · exact Nat.le_add_left _ _
  refine h.of_moves c.moves_past_nil hsound rfl ?_ ?_ ?_ <;> rw [hoffsets]
  rfl

/-- When the next token starts, what has been taken lies in front of it. -/
theorem Follows.cut (h : b.Follows text front lastPos c) :
    b.cut.Follows text (front ++ c.lexeme.reverse) lastPos c.cut := by
  have hnow := h.sound.now
  have hsound : b.cut.Sound := h.sound.change ⟨Nat.le_trans hnow.lastPos_le hnow.start_le,
    Nat.le_refl _, hnow.pos_le, hnow.lastPos, hnow.pos, hnow.pos⟩ (by simp) (by simp)
  refine ⟨hsound, h.text_eq, ?_, h.pos_eq, ?_, h.pos, h.pos, h.lastPos⟩
  · rw [h.split]
    simp [Cursor.cut]
  · rw [Cursor.cut, h.pos_eq]
    simp

/-- A token that has been handed out starts at a boundary not behind the start of the next one. -/
theorem Follows.handOut (h : b.Follows text front lastPos c) {pos : Nat} (hle : pos ≤ c.start)
    (hpos : IsBoundary text pos) : (b.handOut pos).Follows text front pos c := by
  have hnow := h.sound.now
  have hsound : (b.handOut pos).Sound := h.sound.change ⟨h.start ▸ hle, hnow.start_le, hnow.pos_le,
    h.text_eq ▸ hpos, hnow.start, hnow.pos⟩ (by simp) (by simp)
  exact ⟨hsound, h.text_eq, h.split, h.start_eq, h.pos_eq, h.start, h.pos, rfl⟩

end ByteCursor

/-! ## Scans that agree -/

namespace ByteScan

/-- From the cursor `c` the scan `m` and the scan by offsets `m'` both succeed, with the same result and
at the same place. -/
def Agrees {α : Type} (m : Scan α) (m' : ByteScan α) (c : Cursor) : Prop :=
  ∀ b text front lastPos, b.Follows text front lastPos c →
    ∃ a c' b', m.run c = .ok a c' ∧ m'.run b = .ok a b' ∧ b'.Follows text front lastPos c'

/-- Two scans in a row agree if the second ones do where the first one leads. -/
theorem Agrees.bind {α β : Type} {m : Scan α} {m' : ByteScan α} {f : α → Scan β}
    {f' : α → ByteScan β} {c : Cursor} (hm : Agrees m m' c)
    (hf : ∀ a c', m.run c = .ok a c' → Agrees (f a) (f' a) c') : Agrees (m >>= f) (m' >>= f') c := by
  intro b text front lastPos h
  obtain ⟨a, c₁, b₁, hrun, hrun', h₁⟩ := hm b text front lastPos h
  rw [Stateful.run_bind_of_ok hrun, Stateful.run_bind_of_ok hrun']
  exact hf a c₁ hrun b₁ text front lastPos h₁

/-- Scans that do nothing agree. -/
theorem agrees_pure {α : Type} (a : α) (c : Cursor) : Agrees (pure a) (pure a) c := by
  intro b text front lastPos h
  exact ⟨a, c, b, rfl, rfl, h⟩

/-- Applying a function to the results keeps scans in agreement. -/
theorem Agrees.map {α β : Type} {m : Scan α} {m' : ByteScan α} {c : Cursor} (h : Agrees m m' c)
    (f : α → β) : Agrees (f <$> m) (f <$> m') c := by
  rw [← bind_pure_comp, ← bind_pure_comp]
  exact h.bind fun a c' _ => agrees_pure (f a) c'

variable {b : ByteCursor} {text : String} {front : List Char} {lastPos : Nat} {c : Cursor}

/-! ### Reading -/

/-- A read shows the next character. -/
theorem run_read (h : b.Follows text front lastPos c) :
    read.run b = .ok c.ahead.head? (b.behind c.ahead.head?) := by
  rw [Stateful.run_eq, read, h.slice_ahead]
  simp only [String.toList_ofList]

/-- A read can be taken back. -/
theorem run_unread (b : ByteCursor) (seen : Option Char) :
    unread.run (b.behind seen) = .ok () (b.behind seen).back := by
  have hle : ¬(b.behind seen).offsets.pos < (b.behind seen).offsets.width :=
    Nat.not_lt.mpr (Nat.le_add_left _ _)
  rw [Stateful.run_eq, unread, if_neg hle]

/-- Taking the same read back twice would lead in front of the text. -/
example : (do let _ ← read; unread; unread : ByteScan Unit).run { text := "é" } =
    .error (.underflow 0 2) (ByteCursor.behind { text := "é" } (some 'é')).back := by rfl

/-- Looking ahead shows the next character and leaves the offsets at the same place. -/
theorem run_peek (h : b.Follows text front lastPos c) :
    peek.run b = .ok c.ahead.head? (b.behind c.ahead.head?).back := by
  rw [peek, Stateful.run_bind_of_ok (run_read h), Stateful.run_bind_of_ok (run_unread b _)]
  rfl

theorem agrees_read (c : Cursor) : Agrees Scan.read read c := by
  intro b text front lastPos h
  exact ⟨_, _, _, by rw [Scan.run_read, Cursor.step_fst], run_read h, h.behind⟩

theorem agrees_peek (c : Cursor) : Agrees Scan.peek peek c := by
  intro b text front lastPos h
  exact ⟨_, _, _, Scan.run_peek c, run_peek h, h.back⟩

theorem agrees_accept (p : Char → Bool) (c : Cursor) : Agrees (Scan.accept p) (accept p) c := by
  intro b text front lastPos h
  rw [Scan.accept, accept, Stateful.run_bind_of_ok (run_read h),
    Stateful.run_bind_of_ok (Scan.run_read c), Cursor.step_fst]
  split
  · exact ⟨true, _, _, rfl, rfl, h.behind⟩
  · rw [Stateful.run_bind_of_ok (run_unread b _), Stateful.run_bind_of_ok (Scan.run_unread_step c)]
    exact ⟨false, _, _, rfl, rfl, h.back⟩

/-! ### Runs -/

/-- The character that a run ends with is given back. -/
theorem run_giveBack (b : ByteCursor) (seen : Option Char) :
    (giveBack seen).run (b.behind seen) = .ok seen (b.behind seen).back := by
  rw [giveBack, Stateful.run_bind_of_ok (run_unread b seen)]
  rfl

/-- A run is taken whole, and the character behind it is shown. -/
theorem exists_run_takeRun (p : Char → Bool) (h : b.Follows text front lastPos c) :
    ∃ b', (takeRun p).run b = .ok (c.ahead.dropWhile p).head? b' ∧
      b'.Follows text front lastPos (c.past (c.ahead.takeWhile p)) := by
  induction hahead : c.ahead generalizing b c with
  | nil =>
      have hread := run_read h
      have hback := h.back
      rw [hahead] at hread hback
      exact ⟨_, (run_takeRun_of_none p hread).trans (run_giveBack b none), hback⟩
  | cons x rest ih =>
      have hread := run_read h
      rw [hahead, List.head?_cons] at hread
      rw [run_takeRun_of_some p hread]
      by_cases hx : p x = true
      · have hstep : c.step.2.ahead = rest := by rw [Cursor.ahead_step, hahead, List.tail_cons]
        obtain ⟨b', hrun, hfollows⟩ := ih h.behind hstep
        rw [hahead] at hrun
        rw [if_pos hx, List.dropWhile_cons_of_pos hx, List.takeWhile_cons_of_pos hx,
          Cursor.past_cons hahead]
        exact ⟨b', hrun, hfollows⟩
      · have hback := h.back
        rw [hahead] at hback
        rw [if_neg hx, List.dropWhile_cons_of_neg hx, List.takeWhile_cons_of_neg hx]
        exact ⟨_, run_giveBack b (some x), hback⟩

theorem agrees_acceptWhile (p : Char → Bool) (c : Cursor) :
    Agrees (Scan.acceptWhile p) (acceptWhile p) c := by
  intro b text front lastPos h
  obtain ⟨b', hrun, hfollows⟩ := exists_run_takeRun p h
  exact ⟨(), _, b', Scan.run_acceptWhile p c, by rw [acceptWhile, Stateful.run_bind_of_ok hrun]; rfl,
    hfollows⟩

/-- A character that has been looked at is taken if it has the property. -/
theorem run_takeIf (p : Char → Bool) (h : b.Follows text front lastPos c) :
    (takeIf p).run b =
      if c.ahead.head?.any p then
        .ok true ((b.behind c.ahead.head?).back.behind c.ahead.head?)
      else .ok false (b.behind c.ahead.head?).back := by
  rw [takeIf, Stateful.run_bind_of_ok (run_peek h)]
  split
  · rw [Stateful.run_bind_of_ok (run_read h.back)]
    rfl
  · rfl

/-- Looking at each character before it is taken leads behind the run as well. -/
theorem exists_run_takeEach (p : Char → Bool) (h : b.Follows text front lastPos c) :
    ∃ b', (takeEach p).run b = .ok () b' ∧
      b'.Follows text front lastPos (c.past (c.ahead.takeWhile p)) := by
  induction hahead : c.ahead generalizing b c with
  | nil =>
      have htake := run_takeIf p h
      rw [if_neg (by simp [hahead])] at htake
      exact ⟨_, run_takeEach_of_false htake, h.back⟩
  | cons x rest ih =>
      have htake := run_takeIf p h
      by_cases hx : p x = true
      · have hbehind := h.back.behind
        rw [Scan.Mode.step_past_nil] at hbehind
        have hstep : c.step.2.ahead = rest := by rw [Cursor.ahead_step, hahead, List.tail_cons]
        obtain ⟨b', hrun, hfollows⟩ := ih hbehind hstep
        rw [if_pos (by simpa [hahead] using hx)] at htake
        rw [run_takeEach_of_true htake, List.takeWhile_cons_of_pos hx, Cursor.past_cons hahead]
        exact ⟨b', hrun, hfollows⟩
      · rw [if_neg (by simpa [hahead] using hx)] at htake
        rw [run_takeEach_of_false htake, List.takeWhile_cons_of_neg hx]
        exact ⟨_, rfl, h.back⟩

theorem agrees_takeEach (p : Char → Bool) (c : Cursor) :
    Agrees (Scan.acceptWhile p) (takeEach p) c := by
  intro b text front lastPos h
  obtain ⟨b', hrun, hfollows⟩ := exists_run_takeEach p h
  exact ⟨(), _, b', Scan.run_acceptWhile p c, hrun, hfollows⟩

/-! ### Numerals -/

theorem agrees_hexMark (behindZero : Bool) (c : Cursor) :
    Agrees (Scan.hexMark behindZero) (hexMark behindZero) c := by
  cases behindZero
  · exact agrees_pure false c
  · exact agrees_accept isHexMark c

theorem agrees_exponent (c : Cursor) : Agrees Scan.exponent exponent c := by
  refine (agrees_accept isExponentMark c).bind fun found c₁ _ => ?_
  cases found
  · exact agrees_pure () c₁
  · exact (agrees_accept isSign c₁).bind fun _ c₂ _ => agrees_acceptWhile Char.isDigit c₂

theorem agrees_digits (isDigit : Char → Bool) (c : Cursor) :
    Agrees (Scan.digits isDigit) (digits isDigit) c := by
  refine (agrees_acceptWhile isDigit c).bind fun _ c₁ _ => ?_
  refine (agrees_accept (· = '.') c₁).bind fun found c₂ _ => ?_
  cases found
  · exact agrees_pure () c₂
  · exact agrees_acceptWhile isDigit c₂

theorem agrees_numeral (c : Cursor) : Agrees Scan.numeral numeral c := by
  refine (agrees_accept isSign c).bind fun _ c₁ _ => ?_
  refine (agrees_accept (· = '0') c₁).bind fun zero c₂ _ => ?_
  refine (agrees_hexMark zero c₂).bind fun hex c₃ _ => ?_
  refine (agrees_digits (if hex then isHexDigit else Char.isDigit) c₃).bind fun _ c₄ _ => ?_
  refine (agrees_exponent c₄).bind fun _ c₅ _ => ?_
  exact (agrees_accept (· = 'i') c₅).bind fun _ c₆ _ => agrees_pure () c₆

/-! ### Tokens -/

/-- The text of the token so far is the one of the cursor. -/
theorem run_token (h : b.Follows text front lastPos c) : token.run b = .ok c.token b := by
  have hrun : token.run b = (slice b.offsets.start b.offsets.pos).run b := rfl
  rw [hrun, Stateful.run_eq, slice, h.slice_token]

theorem agrees_token {α : Type} (f : String → α) (c : Cursor) :
    Agrees (do return f (← get).token) (do return f (← token)) c := by
  intro b text front lastPos h
  refine ⟨f c.token, c, b, rfl, ?_, h⟩
  rw [Stateful.run_bind_of_ok (run_token h)]
  rfl

/-- There is a text for the verdict that it is no number. -/
theorem agrees_badNumber (c : Cursor) : Agrees Scan.badNumber badNumber c :=
  agrees_token (fun lexeme => Except.error (LexFault.badNumber lexeme)) c

variable [Alphabet]

theorem agrees_completeNumeral (c : Cursor) :
    Agrees Scan.completeNumeral completeNumeral c := by
  refine (agrees_numeral c).bind fun _ c₁ _ => ?_
  refine (agrees_peek c₁).bind fun seen c₂ _ => ?_
  cases seen.any isWord
  · exact agrees_pure true c₂
  · exact (agrees_read c₂).bind fun _ c₃ _ => agrees_pure false c₃

/-- Behind a sign the last character before the cursor is one of the second numeral. -/
theorem agrees_imaginaryPart {c : Cursor} (hsign : c.ahead.head?.any isSign = true) :
    Agrees Scan.imaginaryPart imaginaryPart c := by
  refine (agrees_completeNumeral c).bind fun found c₁ hrun => ?_
  cases found with
  | false => exact agrees_badNumber c₁
  | true =>
      have hne : c₁.lexeme ≠ [] := by
        rcases Scan.exists_run_completeNumeral c with ⟨c', hrun', hmove, -⟩ | ⟨x, c', hrun', -, -⟩
        · rw [hrun] at hrun'
          obtain ⟨-, rfl⟩ := EStateM.Result.ok.inj hrun'
          rw [hmove.lexeme]
          simpa using fun hnil => absurd hnil (numeralSpan_ne_nil (beginsNumeral_of_isSign hsign))
        · rw [hrun] at hrun'
          cases hrun'
      intro b text front lastPos h
      have hbefore : (slice 0 b.offsets.pos).run b =
          .ok (String.ofList (front ++ c₁.lexeme.reverse)) b := by
        rw [Stateful.run_eq, slice, h.slice_before]
      have hlast : (front ++ c₁.lexeme.reverse).getLast? = c₁.lexeme.head? := by
        rw [List.getLast?_append, List.getLast?_reverse, List.head?_eq_some_head hne]
        rfl
      have hget : (get : ByteScan ByteCursor).run b = .ok b b := rfl
      by_cases hi : c₁.lexeme.head? = some 'i'
      · refine ⟨.ok .complex, c₁, b, by simp [hi], ?_, h⟩
        rw [if_pos rfl, Stateful.run_bind_of_ok hget, Stateful.run_bind_of_ok hbefore,
          String.toList_ofList, if_pos (hlast.trans hi)]
        rfl
      · obtain ⟨verdict, c₂, b₂, hbad, hbad', h₂⟩ := agrees_badNumber c₁ b text front lastPos h
        refine ⟨verdict, c₂, b₂, by simpa [hi] using hbad, ?_, h₂⟩
        rw [if_pos rfl, Stateful.run_bind_of_ok hget, Stateful.run_bind_of_ok hbefore,
          String.toList_ofList, if_neg (hlast ▸ hi), hbad']

theorem agrees_number (c : Cursor) : Agrees Scan.number number c := by
  refine (agrees_completeNumeral c).bind fun found c₁ _ => ?_
  cases found with
  | false => exact agrees_badNumber c₁
  | true =>
      refine (agrees_peek c₁).bind fun seen c₂ hpeek => ?_
      rw [Scan.run_peek] at hpeek
      obtain ⟨rfl, rfl⟩ := EStateM.Result.ok.inj hpeek
      by_cases hsign : c₁.ahead.head?.any isSign = true
      · rw [if_pos hsign, if_pos hsign]
        exact agrees_imaginaryPart hsign
      · rw [if_neg hsign, if_neg hsign]
        exact agrees_pure _ _

theorem agrees_word (c : Cursor) : Agrees Scan.word word c := by
  intro b text front lastPos h
  obtain ⟨b₁, hrun, h₁⟩ := exists_run_takeRun isWord h
  have hstop : (c.past (c.ahead.takeWhile isWord)).ahead = c.ahead.dropWhile isWord :=
    c.ahead_past_takeWhile isWord
  have hpeek := run_peek h₁
  rw [hstop] at hpeek
  rw [Scan.word, word, Stateful.run_bind_of_ok hrun, Stateful.run_bind_of_ok hpeek,
    Stateful.run_bind_of_ok (Scan.run_acceptWhile isWord c), Stateful.run_bind_of_ok
    (Scan.run_peek _), hstop]
  have hback := h₁.back
  rw [hstop] at hback
  have hword := agrees_token (fun value => (Except.ok (TokenKind.ofWord value) : Verdict)) _ _ _ _ _
    hback
  cases hnext : (c.ahead.dropWhile isWord).head? with
  | none =>
      rw [hnext] at hword
      exact hword
  | some x =>
      cases hmay : mayFollowWord x with
      | true =>
          rw [hnext] at hword
          have hnone : (some x).filter (fun c => !mayFollowWord c) = none := by
            simp [Option.filter, hmay]
          rw [hnone, Option.all_some, hmay]
          exact hword
      | false =>
          rw [hnext] at hback
          have hsome : (some x).filter (fun c => !mayFollowWord c) = some x := by
            simp [Option.filter, hmay]
          rw [hsome, Option.all_some, hmay]
          exact ⟨_, _, _, rfl, rfl, hback⟩

end ByteScan

end ActionTemplate
