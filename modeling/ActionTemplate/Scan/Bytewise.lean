import ActionTemplate.Scan.Lexeme
import ActionTemplate.Text.Slice

/-!
# Scanning by byte offsets

A `ByteCursor` keeps its text whole, as a string, and its place in it as byte offsets. Whatever it
shows of the text is a slice, and a slice between offsets that are no boundaries does not exist. It
gives a character back by taking the width of the latest read off its offset, whatever has been done
since. So a scan by byte offsets can fail in ways that a scan of characters cannot, `Breach`, and it
keeps account of all changes of the offsets to show what it has come through.

The scans of this file are those of tokens, read by read: what a `Cursor` tells from the characters
next to it, they find out from the offsets.
-/

namespace ActionTemplate

open Text

/-! ## Offsets and their changes -/

/-- The places of a scan in its text. -/
structure Offsets where
  /-- The byte offset behind the latest character that has been read and not given back. -/
  pos : Nat := 0
  /-- The byte offset where the token starts. -/
  start : Nat := 0
  /-- The width in bytes of the latest read; at the end of the text it is zero. -/
  width : Nat := 0
  /-- The byte offset of the latest token handed out. -/
  lastPos : Nat := 0
  deriving DecidableEq, Repr

/-- The ways in which offsets change. -/
inductive Offsets.Act where
  /-- The next character is read, if there is one. -/
  | read (seen : Option Char)
  /-- The latest read is taken back. -/
  | unread
  /-- The next token starts. -/
  | cut
  /-- A token is handed out. -/
  | handOut
  deriving DecidableEq, Repr

/-- The width in bytes of a read. -/
def Offsets.widthOf (seen : Option Char) : Nat := seen.elim 0 Char.utf8Size

/-- What has been done to the offsets at one time. -/
structure Change where
  act : Offsets.Act
  before : Offsets
  after : Offsets
  deriving DecidableEq, Repr

/-- A place in a text that is kept whole. -/
structure ByteCursor where
  /-- The whole text. -/
  text : String
  /-- The places in the text. -/
  offsets : Offsets := {}
  /-- An account of all changes of the offsets, the latest first. Nothing depends on it. -/
  changes : List Change := []
  deriving DecidableEq, Repr

namespace ByteCursor

/-- The cursor with its offsets changed. -/
def change (b : ByteCursor) (act : Offsets.Act) (after : Offsets) : ByteCursor :=
  { b with offsets := after, changes := ⟨act, b.offsets, after⟩ :: b.changes }

@[simp] theorem text_change (b : ByteCursor) (act : Offsets.Act) (after : Offsets) :
    (b.change act after).text = b.text := rfl

@[simp] theorem offsets_change (b : ByteCursor) (act : Offsets.Act) (after : Offsets) :
    (b.change act after).offsets = after := rfl

/-- The cursor behind the next character `seen`, or at the end of the text if there is none. -/
def behind (b : ByteCursor) (seen : Option Char) : ByteCursor :=
  b.change (.read seen) { b.offsets with
    pos := b.offsets.pos + Offsets.widthOf seen
    width := Offsets.widthOf seen }

/-- The cursor as many bytes further back as the latest read had. -/
def back (b : ByteCursor) : ByteCursor :=
  b.change .unread { b.offsets with pos := b.offsets.pos - b.offsets.width }

/-- The cursor where the next token starts. -/
def cut (b : ByteCursor) : ByteCursor := b.change .cut { b.offsets with start := b.offsets.pos }

/-- The cursor when a token that starts at the byte offset `lastPos` has been handed out. -/
def handOut (b : ByteCursor) (lastPos : Nat) : ByteCursor :=
  b.change .handOut { b.offsets with lastPos }

/-- The number of bytes behind the cursor. -/
def remaining (b : ByteCursor) : Nat := b.text.utf8ByteSize - b.offsets.pos

/-- Taking a read back leaves as many bytes as there were before it. -/
@[simp] theorem remaining_back_behind (b : ByteCursor) (seen : Option Char) :
    (b.behind seen).back.remaining = b.remaining := by
  simp [remaining, back, behind]

end ByteCursor

/-- The ways in which a scan by byte offsets can fail. -/
inductive Breach where
  /-- There is no slice between two offsets. -/
  | noSlice (front back : Nat)
  /-- More bytes were to be taken back than lie before the cursor. -/
  | underflow (pos width : Nat)
  deriving DecidableEq, Repr

/-- A computation that moves a cursor by its byte offsets. -/
abbrev ByteScan := EStateM Breach ByteCursor

namespace ByteScan

/-! ## Reading -/

/-- The slice of the text between two byte offsets. -/
def slice (front back : Nat) : ByteScan String := fun b =>
  match slice? b.text front back with
  | some piece => .ok piece b
  | none => .error (.noSlice front back) b

/-- Read the next character; at the end of the text there is none. -/
def read : ByteScan (Option Char) := fun b =>
  match slice? b.text b.offsets.pos b.text.utf8ByteSize with
  | some ahead => .ok ahead.toList.head? (b.behind ahead.toList.head?)
  | none => .error (.noSlice b.offsets.pos b.text.utf8ByteSize) b

/-- Take back as many bytes as the latest read had. -/
def unread : ByteScan Unit := fun b =>
  if b.offsets.pos < b.offsets.width then .error (.underflow b.offsets.pos b.offsets.width) b
  else .ok () b.back

/-- Look at the next character without taking it. -/
def peek : ByteScan (Option Char) := do
  let next ← read
  unread
  pure next

/-- Take the next character if it has the property `p`, and say whether it had. -/
def accept (p : Char → Bool) : ByteScan Bool := do
  let next ← read
  if next.any p then
    pure true
  else
    unread
    pure false

/-- Look at the next character, take it if it has the property `p`, and say whether it had. -/
def takeIf (p : Char → Bool) : ByteScan Bool := do
  if (← peek).any p then
    let _ ← read
    pure true
  else
    pure false

/-! ### Progress -/

/-- A read goes behind the character it shows, which lies in the text. -/
theorem eq_of_read {b b' : ByteCursor} {seen : Option Char} (h : read.run b = .ok seen b') :
    b.offsets.pos + Offsets.widthOf seen ≤ b.text.utf8ByteSize ∧ b' = b.behind seen := by
  rw [Stateful.run_eq, read] at h
  split at h
  · rename_i ahead hslice
    obtain ⟨rfl, rfl⟩ := EStateM.Result.ok.inj h
    obtain ⟨u, v, -, -, hback⟩ := slice?_eq_some_iff.mp hslice
    refine ⟨?_, rfl⟩
    rw [← hback]
    cases ahead.toList with
    | nil => simp [Offsets.widthOf]
    | cons c rest => simp [Offsets.widthOf]
  · cases h

/-- Taking back leads as far back as the latest read was wide. -/
theorem eq_of_unread {b b' : ByteCursor} (h : unread.run b = .ok () b') : b' = b.back := by
  rw [Stateful.run_eq, unread] at h
  split at h
  · cases h
  · exact (EStateM.Result.ok.inj h).2.symm

/-- A character that is read leaves fewer bytes behind it. -/
theorem remaining_lt_of_read {b b' : ByteCursor} {c : Char} (h : read.run b = .ok (some c) b') :
    b'.remaining < b.remaining := by
  obtain ⟨hle, rfl⟩ := eq_of_read h
  have hpos := c.utf8Size_pos
  simp only [Offsets.widthOf, Option.elim_some, ByteCursor.remaining, ByteCursor.behind,
    ByteCursor.text_change, ByteCursor.offsets_change] at hle ⊢
  omega

/-- A read that is taken back can be done again. -/
theorem run_read_back_behind {b b' : ByteCursor} {seen : Option Char}
    (h : read.run b = .ok seen b') :
    read.run (b.behind seen).back = .ok seen ((b.behind seen).back.behind seen) := by
  have htext : (b.behind seen).back.text = b.text := rfl
  have hpos : (b.behind seen).back.offsets.pos = b.offsets.pos := by
    simp [ByteCursor.back, ByteCursor.behind]
  rw [Stateful.run_eq, read] at h ⊢
  rw [htext, hpos]
  cases hslice : slice? b.text b.offsets.pos b.text.utf8ByteSize with
  | none => simp [hslice] at h
  | some ahead =>
      simp only [hslice, EStateM.Result.ok.injEq] at h
      rw [← h.1]

/-- Looking ahead is reading and taking the read back. -/
theorem eq_of_peek {b b' : ByteCursor} {seen : Option Char} (h : peek.run b = .ok seen b') :
    read.run b = .ok seen (b.behind seen) ∧ b' = (b.behind seen).back := by
  obtain ⟨next, b₁, hread, h⟩ := Stateful.exists_of_run_bind_eq_ok h
  obtain ⟨⟨⟩, b₂, hunread, h⟩ := Stateful.exists_of_run_bind_eq_ok h
  obtain ⟨rfl, rfl⟩ := EStateM.Result.ok.inj h
  obtain ⟨-, rfl⟩ := eq_of_read hread
  exact ⟨hread, eq_of_unread hunread⟩

/-- A character that is taken after it has been looked at leaves fewer bytes behind it. -/
theorem remaining_lt_of_takeIf {b b' : ByteCursor} {p : Char → Bool}
    (h : (takeIf p).run b = .ok true b') : b'.remaining < b.remaining := by
  obtain ⟨next, b₁, hpeek, h⟩ := Stateful.exists_of_run_bind_eq_ok h
  obtain ⟨hread, rfl⟩ := eq_of_peek hpeek
  cases next with
  | none => cases h
  | some c =>
      split at h
      · rw [Stateful.run_bind_of_ok (run_read_back_behind hread)] at h
        obtain ⟨-, rfl⟩ := EStateM.Result.ok.inj h
        have hlt := remaining_lt_of_read (run_read_back_behind hread)
        rwa [ByteCursor.remaining_back_behind] at hlt
      · cases h

/-! ### Runs -/

/-- Take back the latest read, which showed `seen`. -/
def giveBack (seen : Option Char) : ByteScan (Option Char) := do
  unread
  pure seen

/-- Take characters as long as they have the property `p`. The character behind them, if there is one,
is read and given back. -/
def takeRun (p : Char → Bool) : ByteScan (Option Char) := fun b =>
  match _hread : read.run b with
  | .ok (some c) b' => if p c then takeRun p b' else (giveBack (some c)).run b'
  | .ok none b' => (giveBack none).run b'
  | .error e b' => .error e b'
termination_by b => b.remaining
decreasing_by exact remaining_lt_of_read _hread

/-- Take characters as long as they have the property `p`. -/
def acceptWhile (p : Char → Bool) : ByteScan Unit := do
  let _ ← takeRun p
  pure ()

/-- Take characters as long as they have the property `p`, and look at each before it is taken. -/
def takeEach (p : Char → Bool) : ByteScan Unit := fun b =>
  match _htake : (takeIf p).run b with
  | .ok true b' => takeEach p b'
  | .ok false b' => .ok () b'
  | .error e b' => .error e b'
termination_by b => b.remaining
decreasing_by exact remaining_lt_of_takeIf _htake

/-- A run goes on behind a character with the property, and ends at any other. -/
theorem run_takeRun_of_some {b b' : ByteCursor} {c : Char} (p : Char → Bool)
    (h : read.run b = .ok (some c) b') :
    (takeRun p).run b = if p c then (takeRun p).run b' else (giveBack (some c)).run b' := by
  rw [Stateful.run_eq, takeRun]
  split <;> rename_i h' <;> rw [h] at h' <;> cases h'
  rfl

/-- At the end of the text a run ends. -/
theorem run_takeRun_of_none {b b' : ByteCursor} (p : Char → Bool) (h : read.run b = .ok none b') :
    (takeRun p).run b = (giveBack none).run b' := by
  rw [Stateful.run_eq, takeRun]
  split <;> rename_i h' <;> rw [h] at h' <;> cases h'
  rfl

/-- As long as a character has been taken, the next one is looked at. -/
theorem run_takeEach_of_true {b b' : ByteCursor} {p : Char → Bool}
    (h : (takeIf p).run b = .ok true b') : (takeEach p).run b = (takeEach p).run b' := by
  rw [Stateful.run_eq, takeEach]
  split <;> rename_i h' <;> rw [h] at h' <;> cases h'
  rfl

/-- A run ends where no character has been taken. -/
theorem run_takeEach_of_false {b b' : ByteCursor} {p : Char → Bool}
    (h : (takeIf p).run b = .ok false b') : (takeEach p).run b = .ok () b' := by
  rw [Stateful.run_eq, takeEach]
  split <;> rename_i h' <;> rw [h] at h' <;> cases h'
  rfl

/-! ## Tokens -/

/-- Take the letter that makes a numeral hexadecimal, which has to stand behind a zero, and say
whether it was there. -/
def hexMark (behindZero : Bool) : ByteScan Bool :=
  if behindZero then accept isHexMark else pure false

/-- Take an exponent, if there is one. -/
def exponent : ByteScan Unit := do
  if ← accept isExponentMark then
    let _ ← accept isSign
    acceptWhile Char.isDigit

/-- Take digits, and behind a point more of them. -/
def digits (isDigit : Char → Bool) : ByteScan Unit := do
  acceptWhile isDigit
  if ← accept (· = '.') then acceptWhile isDigit

/-- Take the longest numeral without a sign. -/
def unsigned : ByteScan Unit := do
  let zero ← accept (· = '0')
  let hex ← hexMark zero
  digits (if hex then isHexDigit else Char.isDigit)
  exponent
  let _ ← accept (· = 'i')

/-- Take the longest numeral. -/
def numeral : ByteScan Unit := do
  let _ ← accept isSign
  unsigned

/-- The text of the token so far. -/
def token : ByteScan String := do
  let b ← get
  slice b.offsets.start b.offsets.pos

/-- The token of a verdict. Behind a fault no other token starts. -/
def settle : Verdict → ByteScan Token
  | .ok kind => do
      let start := (← get).offsets.start
      let value ← token
      modify ByteCursor.cut
      return ⟨kind, value, start⟩
  | .error fault => return Token.ofFault fault (← get).offsets.start

/-- The verdict that the text of the token so far is no number. -/
def badNumber : ByteScan Verdict := do
  return .error (.badNumber (← token))

variable [Alphabet]

/-- Take the longest numeral and say whether it ends there; if it runs on into a word, the first
character of the word is taken as well. -/
def completeNumeral : ByteScan Bool := do
  numeral
  if (← peek).any isWord then
    let _ ← read
    pure false
  else pure true

/-- Take the second numeral of a complex number. All of the text that lies before the cursor then has
to end in `i`. -/
def imaginaryPart : ByteScan Verdict := do
  if ← completeNumeral then
    let before ← slice 0 (← get).offsets.pos
    if before.toList.getLast? = some 'i' then pure (.ok .complex) else badNumber
  else badNumber

/-- Take a number. A sign directly behind the first numeral makes it complex. -/
def number : ByteScan Verdict := do
  if ← completeNumeral then
    if (← peek).any isSign then imaginaryPart else pure (.ok .number)
  else badNumber

/-- Take a word. The character that ended it has to be one that may follow a word. -/
def word : ByteScan Verdict := do
  let stop ← takeRun isWord
  let ends := (← peek).all mayFollowWord
  match stop, ends with
  | some c, false => pure (.error (.badCharacter c))
  | _, _ => return .ok (.ofWord (← token))

end ByteScan

end ActionTemplate
