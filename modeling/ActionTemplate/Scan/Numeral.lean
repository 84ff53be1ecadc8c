import ActionTemplate.Scan.Cursor
import ActionTemplate.Text.Class

/-!
# Numerals

A numeral is an optional sign, digits with an optional fraction, an optional exponent and an
optional `i`; behind a leading `0x` the digits are hexadecimal and there is no exponent, as `e` is
then a digit. Any part may be empty, so a sign alone is a numeral.

Each scan of this file has beside it the front part of the text that it takes, and `reads_numeral`
says that a numeral is scanned as the front part `Text.numeralSpan`.
-/

namespace ActionTemplate

/-! ## Front parts -/

namespace Text

/-- The mark of a hexadecimal numeral. -/
def isHexMark (c : Char) : Bool := c = 'x' || c = 'X'

/-- The mark of an exponent. -/
def isExponentMark (c : Char) : Bool := c = 'e' || c = 'E'

/-- The exponent at the front of a text: its mark, an optional sign and decimal digits. -/
def exponentSpan : List Char → List Char :=
  behind isExponentMark (andThen (firstIf isSign) (List.takeWhile Char.isDigit))

/-- The digits at the front of a text, and behind a point more of them. -/
def digitsSpan (isDigit : Char → Bool) : List Char → List Char :=
  andThen (List.takeWhile isDigit) (behind (· = '.') (List.takeWhile isDigit))

/-- What makes a numeral hexadecimal, or the leading zero of one that is not. -/
def zeroSpan : List Char → List Char := behind (· = '0') (firstIf isHexMark)

/-- The digits of a numeral whose front part is `zero`. -/
def digitClass (zero : List Char) : Char → Bool :=
  if zero.length = 2 then isHexDigit else Char.isDigit

/-- The numeral without a sign at the front of a text. -/
def unsignedSpan (u : List Char) : List Char :=
  andThen zeroSpan
    (andThen (digitsSpan (digitClass (zeroSpan u))) (andThen exponentSpan (firstIf (· = 'i')))) u

/-- The numeral at the front of a text. -/
def numeralSpan : List Char → List Char := andThen (firstIf isSign) unsignedSpan

end Text

/-! ## Scans -/

namespace Scan

open Text

/-- Take the letter that makes a numeral hexadecimal, which has to stand behind a zero, and say
whether it was there. -/
def hexMark (behindZero : Bool) : Scan Bool :=
  if behindZero then accept isHexMark else pure false

/-- Take an exponent, if there is one. -/
def exponent : Scan Unit := do
  if ← accept isExponentMark then
    let _ ← accept isSign
    acceptWhile Char.isDigit

/-- Take digits, and behind a point more of them. -/
def digits (isDigit : Char → Bool) : Scan Unit := do
  acceptWhile isDigit
  if ← accept (· = '.') then acceptWhile isDigit

/-- Take the longest numeral without a sign. -/
def unsigned : Scan Unit := do
  let zero ← accept (· = '0')
  let hex ← hexMark zero
  digits (if hex then isHexDigit else Char.isDigit)
  exponent
  let _ ← accept (· = 'i')

/-- Take the longest numeral. -/
def numeral : Scan Unit := do
  let _ ← accept isSign
  unsigned

/-! ## What the scans take -/

theorem reads_exponent : Reads exponent exponentSpan fun _ => () :=
  reads_accept_bind (reads_bind (reads_accept isSign) fun _ => reads_acceptWhile Char.isDigit)

theorem reads_digits (isDigit : Char → Bool) :
    Reads (digits isDigit) (digitsSpan isDigit) fun _ => () :=
  reads_bind (reads_acceptWhile isDigit) fun _ => reads_accept_bind (reads_acceptWhile isDigit)

/-- The mark behind a zero is taken, and nothing where there is no zero. -/
theorem reads_hexMark (behindZero : Bool) :
    Reads (hexMark behindZero) (fun u => if behindZero then firstIf isHexMark u else [])
      fun u => behindZero && u.head?.any isHexMark := by
  cases behindZero
  · exact reads_pure false
  · exact reads_accept isHexMark

/-- What follows the mark of a hexadecimal numeral. -/
theorem reads_digits_exponent (isDigit : Char → Bool) : Reads (do
    digits isDigit
    exponent
    let _ ← accept (· = 'i'))
    (andThen (digitsSpan isDigit) (andThen exponentSpan (firstIf (· = 'i')))) fun _ => () := by
  have hlast : Reads (accept (· = 'i') >>= fun _ => pure ()) (firstIf (· = 'i')) fun _ => () :=
    (reads_bind (reads_accept _) fun _ => reads_pure ()).congr (fun _ => List.append_nil _)
      fun _ => rfl
  exact reads_bind (reads_digits isDigit) fun _ => reads_bind reads_exponent fun _ => hlast

/-- A numeral without a sign is scanned as the front part `unsignedSpan`. -/
theorem reads_unsigned : Reads unsigned unsignedSpan fun _ => () := by
  refine (reads_bind (reads_accept _) fun zero => reads_bind (reads_hexMark zero) fun hex =>
    reads_digits_exponent (if hex then isHexDigit else Char.isDigit)).congr (fun u => ?_)
    fun _ => rfl
  -- the zero decides where the digits start, the mark behind it which digits they are
  cases u with
  | nil => rfl
  | cons c u =>
      by_cases hzero : c = '0'
      · cases u with
        | nil => simp [unsignedSpan, andThen, zeroSpan, firstIf, behind, digitClass, hzero]
        | cons d u =>
            by_cases hmark : isHexMark d = true <;>
              simp [unsignedSpan, andThen, zeroSpan, firstIf, behind, digitClass, hzero, hmark]
      · simp [unsignedSpan, andThen, zeroSpan, firstIf, behind, digitClass, hzero]

/-- A numeral is scanned as the front part `numeralSpan`. -/
theorem reads_numeral : Reads numeral numeralSpan fun _ => () :=
  reads_bind (reads_accept isSign) fun _ => reads_unsigned

end Scan

/-! ## Progress -/

namespace Text

/-- A digit, be it the leading zero or not, belongs to the numeral that it starts. -/
theorem unsignedSpan_cons_ne_nil {c : Char} (h : c.isDigit = true) (u : List Char) :
    unsignedSpan (c :: u) ≠ [] := by
  by_cases hzero : c = '0'
  · simp [unsignedSpan, andThen, zeroSpan, behind, hzero]
  · simp [unsignedSpan, andThen, zeroSpan, behind, hzero, digitClass, digitsSpan, h]

/-- Whether a text begins with a sign or a decimal digit. -/
def beginsNumeral (u : List Char) : Bool := u.head?.any fun c => isSign c || c.isDigit

/-- A sign begins a numeral. -/
theorem beginsNumeral_of_isSign {u : List Char} (h : u.head?.any isSign = true) :
    beginsNumeral u = true := by
  cases u with
  | nil => simp at h
  | cons c u => simp [beginsNumeral, show isSign c = true by simpa using h]

/-- A sign or a digit belongs to the numeral that it starts. -/
theorem numeralSpan_ne_nil {u : List Char} (h : beginsNumeral u = true) : numeralSpan u ≠ [] := by
  cases u with
  | nil => simp [beginsNumeral] at h
  | cons c u =>
      have hc : (isSign c || c.isDigit) = true := by simpa [beginsNumeral] using h
      by_cases hsign : isSign c = true
      · simp [numeralSpan, andThen, firstIf, behind, hsign]
      · have hdigit : c.isDigit = true := by simpa [hsign] using hc
        simpa [numeralSpan, andThen, firstIf, behind, hsign] using
          unsignedSpan_cons_ne_nil hdigit u

/-- A numeral is a front part of the text. -/
theorem numeralSpan_append_drop (u : List Char) :
    numeralSpan u ++ u.drop (numeralSpan u).length = u :=
  Scan.reads_numeral.taken_append_drop u

/-- A numeral begins where the text does. -/
theorem head?_numeralSpan {u : List Char} (h : beginsNumeral u = true) :
    (numeralSpan u).head? = u.head? := by
  have hsplit := numeralSpan_append_drop u
  cases hspan : numeralSpan u with
  | nil => exact absurd hspan (numeralSpan_ne_nil h)
  | cons c v =>
      rw [hspan] at hsplit
      rw [← hsplit]
      rfl

end Text

end ActionTemplate
