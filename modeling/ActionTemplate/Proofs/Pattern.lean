import ActionTemplate.Proofs.Grammar
import ActionTemplate.Proofs.Shape
import Mathlib.Computability.RegularExpressions

/-!
# The pattern of numerals

`numeralPattern` is the regular expression of numerals as it is written down:

  `[+-]?(0[xX]H*(\.H*)?|D*(\.D*)?([eE][+-]?D*)?)i?`

with `D` for the decimal and `H` for the hexadecimal digits. It denotes the language of numerals,
`matches'_numeralPattern`, which is put together differently: there the imaginary unit belongs to
either kind of numeral, so that the scan can be followed part by part.

The main fact is `completeNumeral_takes_longest`. From wherever it starts, the scan takes the longest
text that matches the pattern, and finds it complete if no word goes on behind it. The scan chooses
the kind of numeral for good once it sees the mark of a hexadecimal one, whose pattern
`hexNumeralPattern` leaves no place for an exponent.
-/

namespace ActionTemplate.Text

open RegularExpression
open scoped Computability

/-! ## The regular expression -/

/-- One of the given characters. -/
def anyOf (cs : List Char) : RegularExpression Char := (cs.map RegularExpression.char).sum

/-- Nothing, or what matches `P`. -/
def maybe (P : RegularExpression Char) : RegularExpression Char := 1 + P

/-- The decimal digits. -/
def decimalDigits : List Char := "0123456789".toList

/-- The hexadecimal digits. -/
def hexDigits : List Char := "0123456789abcdefABCDEF".toList

/-- A sign. -/
def signPattern : RegularExpression Char := anyOf ['+', '-']

/-- Digits, and behind a point more of them. -/
def digitsPattern (ds : List Char) : RegularExpression Char :=
  (anyOf ds).star * maybe (char '.' * (anyOf ds).star)

/-- A hexadecimal numeral without a sign and the imaginary unit. -/
def hexPattern : RegularExpression Char :=
  char '0' * anyOf ['x', 'X'] * digitsPattern hexDigits

/-- A decimal numeral without a sign and the imaginary unit. -/
def decimalPattern : RegularExpression Char :=
  digitsPattern decimalDigits *
    maybe (anyOf ['e', 'E'] * maybe signPattern * (anyOf decimalDigits).star)

/-- A numeral. -/
def numeralPattern : RegularExpression Char :=
  maybe signPattern * (hexPattern + decimalPattern) * maybe (char 'i')

/-- A hexadecimal numeral. -/
def hexNumeralPattern : RegularExpression Char :=
  maybe signPattern * hexPattern * maybe (char 'i')

/-! ## Classes of characters as lists -/

/-- Two classes of ASCII characters are the same if no code below 128 tells them apart. -/
theorem eq_of_ascii {p q : Char → Bool} (hp : ∀ c, p c = true → c.toNat < 128)
    (hq : ∀ c, q c = true → c.toNat < 128)
    (h : ((List.range 128).all fun n => p (Char.ofNat n) == q (Char.ofNat n)) = true) : p = q := by
  funext c
  by_cases hc : c.toNat < 128
  · have hsame := List.all_eq_true.mp h c.toNat (List.mem_range.mpr hc)
    rwa [Char.ofNat_toNat, beq_iff_eq] at hsame
  · have hpc : p c = false := Bool.eq_false_iff.mpr fun hpos => hc (hp c hpos)
    have hqc : q c = false := Bool.eq_false_iff.mpr fun hpos => hc (hq c hpos)
    rw [hpc, hqc]

/-- The characters of a list of ASCII characters are such characters. -/
theorem toNat_lt_of_contains {cs : List Char} (hcs : (cs.all fun c => c.toNat < 128) = true)
    (c : Char) (hc : cs.contains c = true) : c.toNat < 128 :=
  of_decide_eq_true (List.all_eq_true.mp hcs c (List.contains_iff_mem.mp hc))

/-- A hexadecimal digit is an ASCII character. -/
theorem toNat_lt_of_isHexDigit (c : Char) (h : isHexDigit c = true) : c.toNat < 128 := by
  simp only [isHexDigit, Char.isDigit, Bool.or_eq_true, Bool.and_eq_true, decide_eq_true_eq,
    or_assoc] at h
  rcases h with ⟨-, hhi⟩ | ⟨-, hhi⟩ | ⟨-, hhi⟩
  · exact Nat.lt_of_le_of_lt hhi (by decide)
  · exact Nat.lt_of_le_of_lt hhi (by decide)
  · exact Nat.lt_of_le_of_lt hhi (by decide)

/-- The hexadecimal digits are the listed ones. -/
theorem contains_hexDigits : hexDigits.contains = isHexDigit :=
  eq_of_ascii (toNat_lt_of_contains (by decide)) toNat_lt_of_isHexDigit (by decide +kernel)

/-- The decimal digits are the listed ones. -/
theorem contains_decimalDigits : decimalDigits.contains = Char.isDigit := by
  refine eq_of_ascii (toNat_lt_of_contains (by decide)) ?_ (by decide +kernel)
  exact fun c hc => toNat_lt_of_isHexDigit c (isHexDigit_of_isDigit hc)

/-- Two listed characters are a class that is given by two equations. -/
theorem contains_pair (x y : Char) : [x, y].contains = fun c => c = x || c = y := by
  funext c
  simp

/-! ## The language -/

/-- A single character matches. -/
theorem matches'_char_eq (x : Char) : (char x).matches' = oneOf fun c => c = x := by
  ext u
  constructor
  · intro hu
    exact ⟨x, decide_eq_true rfl, hu⟩
  · rintro ⟨c, hc, rfl⟩
    obtain rfl := of_decide_eq_true hc
    rfl

/-- One of the given characters matches. -/
theorem matches'_anyOf (cs : List Char) : (anyOf cs).matches' = oneOf cs.contains := by
  induction cs with
  | nil =>
      ext u
      constructor
      · exact fun hu => (Language.notMem_zero u hu).elim
      · rintro ⟨c, hc, -⟩
        cases hc
  | cons x cs ih =>
      have hsum : (anyOf (x :: cs)).matches' = (oneOf fun c => c = x) + oneOf cs.contains := by
        rw [← ih, ← matches'_char_eq]
        rfl
      ext u
      rw [hsum, Language.mem_add, mem_oneOf, mem_oneOf, mem_oneOf, ← exists_or]
      refine exists_congr fun c => ?_
      rw [← or_and_right]
      simp

/-- The digits that match are those of the class. -/
theorem matches'_digitsPattern {ds : List Char} {isDigit : Char → Bool}
    (h : ds.contains = isDigit) : (digitsPattern ds).matches' = digitRuns isDigit := by
  rw [digitsPattern, maybe, matches'_mul, matches'_star, matches'_add, matches'_mul, matches'_star,
    matches'_anyOf, h, matches'_char_eq, matches'_epsilon]
  rfl

/-- A sign may stand in front. -/
theorem matches'_maybe_sign : (maybe signPattern).matches' = optional isSign 1 := by
  rw [maybe, signPattern, matches'_add, matches'_anyOf, contains_pair, matches'_epsilon, optional,
    mul_one]
  rfl

/-- The imaginary unit may stand behind. -/
theorem matches'_maybe_unit : (maybe (char 'i')).matches' = optional (· = 'i') 1 := by
  rw [maybe, matches'_add, matches'_char_eq, matches'_epsilon, optional, mul_one]

/-- Hexadecimal numerals are those that begin as such. -/
theorem matches'_hexPattern :
    (hexPattern * maybe (char 'i')).matches' = hexadecimals := by
  rw [hexPattern, matches'_mul, matches'_mul, matches'_mul, matches'_maybe_unit,
    matches'_digitsPattern contains_hexDigits, matches'_anyOf, contains_pair, matches'_char_eq,
    mul_assoc, mul_assoc]
  rfl

/-- Decimal numerals are those with an optional exponent. -/
theorem matches'_decimalPattern :
    (decimalPattern * maybe (char 'i')).matches' = decimals := by
  rw [decimalPattern, matches'_mul, matches'_mul, matches'_maybe_unit, maybe, matches'_add,
    matches'_mul, matches'_mul, matches'_maybe_sign, matches'_star, matches'_anyOf, contains_pair,
    matches'_anyOf, matches'_digitsPattern contains_decimalDigits, contains_decimalDigits,
    mul_assoc, mul_assoc]
  rfl

/-- The pattern denotes the language of numerals. -/
theorem matches'_numeralPattern : numeralPattern.matches' = numerals := by
  rw [numerals, ← matches'_hexPattern, ← matches'_decimalPattern, ← matches'_maybe_sign]
  simp only [numeralPattern, matches'_mul, matches'_add]
  rw [mul_assoc, add_mul]

example : numeralPattern.rmatch "-1.5e+3i".toList = true ∧
    numeralPattern.rmatch "-0x1e+3i".toList = false := by decide +kernel

/-- The pattern of hexadecimal numerals denotes those among the numerals. -/
theorem matches'_hexNumeralPattern :
    hexNumeralPattern.matches' = optional isSign 1 * hexadecimals := by
  rw [← matches'_hexPattern, ← matches'_maybe_sign]
  simp only [hexNumeralPattern, matches'_mul]
  rw [mul_assoc]

/-! ## Hexadecimal numerals -/

/-- A text that begins with a hexadecimal numeral: behind an optional sign there are a zero and the
mark. -/
def BeginsHex (u : List Char) : Prop :=
  ∃ sign x v, sign ∈ (maybe signPattern).matches' ∧ isHexMark x = true ∧ u = sign ++ '0' :: x :: v

/-- An optional sign in front of a zero is taken whole. -/
theorem numeralSpan_sign_append {sign u : List Char} (hsign : sign ∈ (maybe signPattern).matches')
    (hu : u.head?.any isSign = false) : numeralSpan (sign ++ u) = sign ++ unsignedSpan u := by
  rw [matches'_maybe_sign, mem_optional] at hsign
  rcases hsign with rfl | ⟨c, w, hc, hw, rfl⟩
  · simp [numeralSpan, andThen, firstIf, behind_of_head? hu]
  · obtain rfl := (Language.mem_one w).mp hw
    simp [numeralSpan, andThen, firstIf, behind, hc]

/-- The mark of an exponent is a hexadecimal digit. -/
theorem isHexDigit_of_isExponentMark {c : Char} (h : isExponentMark c = true) :
    isHexDigit c = true := by
  rcases isExponentMark_iff.mp h with rfl | rfl <;> rfl

/-- Behind what is taken of a hexadecimal numeral the mark of an exponent follows only if the
imaginary unit has been taken. -/
theorem getLast?_hexTailSpan {v : List Char}
    (h : (v.drop (hexTailSpan v).length).head?.any isExponentMark = true) :
    (hexTailSpan v).getLast? = some 'i' := by
  have hstop := head?_drop_digitsSpan isHexDigit v
  rw [hexTailSpan, andThen] at h ⊢
  rw [List.length_append, ← List.drop_drop] at h
  cases hunit : (v.drop (digitsSpan isHexDigit v).length).head?.any (· = 'i') with
  | true =>
      have htaken : firstIf (· = 'i') (v.drop (digitsSpan isHexDigit v).length) = ['i'] := by
        cases hrest : v.drop (digitsSpan isHexDigit v).length with
        | nil => simp [hrest] at hunit
        | cons c rest =>
            obtain rfl : c = 'i' := by simpa [hrest] using hunit
            rfl
      rw [htaken, List.getLast?_concat]
  | false =>
      -- otherwise nothing stands between the digits and the mark, which would be one of them
      rw [firstIf, behind_of_head? hunit] at h
      have hdigit := head?_any_mono (fun _ => isHexDigit_of_isExponentMark) h
      rw [List.length_nil, List.drop_zero, hstop] at hdigit
      cases hdigit

/-- A text that begins with a hexadecimal numeral is scanned as one. -/
theorem hexNumeral_of_beginsHex {u : List Char} (h : BeginsHex u) :
    numeralSpan u ∈ hexNumeralPattern.matches' ∧
      ((u.drop (numeralSpan u).length).head?.any isExponentMark = true →
        (numeralSpan u).getLast? = some 'i') := by
  obtain ⟨sign, x, v, hsign, hx, rfl⟩ := h
  have hspan : numeralSpan (sign ++ '0' :: x :: v) = sign ++ '0' :: x :: hexTailSpan v := by
    rw [numeralSpan_sign_append hsign (by rfl), unsignedSpan_of_hexMark hx]
  rw [hspan]
  constructor
  · rw [matches'_hexNumeralPattern, ← matches'_maybe_sign]
    apply Language.append_mem_mul hsign
    exact mem_hexadecimals.mpr ⟨x, _, hx, greedy_hexTailSpan.mem v, rfl⟩
  · intro hmark
    have hdrop : (sign ++ '0' :: x :: v).drop (sign ++ '0' :: x :: hexTailSpan v).length =
        v.drop (hexTailSpan v).length := by
      rw [List.length_append, List.drop_length_add_append]
      rfl
    rw [hdrop] at hmark
    have hlast := getLast?_hexTailSpan hmark
    simp [List.getLast?_append, List.getLast?_cons, hlast]

end ActionTemplate.Text

namespace ActionTemplate.Scan

open Text

variable [Alphabet]

/-! ## The scan of a numeral -/

/-- From wherever it starts, the scan takes the longest text that matches the pattern of numerals.
It finds it complete if no word character follows, and takes that character as well if one does. A
text that begins with a hexadecimal numeral is taken as one: no exponent belongs to it, and where
the mark of one follows, the numeral has ended before that, with the imaginary unit. -/
theorem completeNumeral_takes_longest (c : Cursor) :
    ∃ w complete c', completeNumeral.run c = .ok complete c' ∧
      IsLongest numeralPattern.matches' w c.ahead ∧
      (complete = true ↔ Stops isWord (c.ahead.drop w.length)) ∧
      (complete = true → c.Moves w c') ∧
      (complete = false → ∃ x, isWord x = true ∧ c.Moves (w ++ [x]) c') ∧
      (BeginsHex c.ahead → w ∈ hexNumeralPattern.matches' ∧
        ((c.ahead.drop w.length).head?.any isExponentMark = true → w.getLast? = some 'i')) := by
  have hlongest := isLongest_numeralSpan c.ahead
  rw [← matches'_numeralPattern] at hlongest
  rcases exists_run_completeNumeral c with ⟨c', hrun, hmove, hword⟩ | ⟨x, c', hrun, hmove, hx⟩
  · refine ⟨_, true, c', hrun, hlongest, ?_, fun _ => hmove, by simp, hexNumeral_of_beginsHex⟩
    rw [hmove.ahead_eq_drop] at hword
    simpa using stops_of_any hword
  · refine ⟨_, false, c', hrun, hlongest, ?_, by simp, fun _ => ⟨x, hx, hmove⟩, hexNumeral_of_beginsHex⟩
    have hbehind : c.ahead.drop (numeralSpan c.ahead).length = x :: c'.ahead := by
      have hahead := hmove.ahead
      rw [List.append_assoc] at hahead
      have hdrop : (numeralSpan c.ahead ++ ([x] ++ c'.ahead)).drop (numeralSpan c.ahead).length =
          x :: c'.ahead := List.drop_left
      rwa [← hahead] at hdrop
    constructor
    · intro hfalse
      cases hfalse
    · intro hstops
      rw [hbehind] at hstops
      rw [hstops x rfl] at hx
      cases hx

end ActionTemplate.Scan
