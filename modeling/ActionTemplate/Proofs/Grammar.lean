import ActionTemplate.Scan.Numeral
import ActionTemplate.Proofs.Language

/-!
# The language of numerals

Which texts are numerals is said by a regular expression: `numerals` is its language. The scan of a
numeral takes the longest front part of the text ahead that belongs to it, `isLongest_numeralSpan`,
which is shown part by part.

Front parts of numerals are numerals, so where a numeral ends is told by the next character alone,
`numeralSpan_append_cons_iff`.
-/

namespace ActionTemplate.Text

open scoped Computability

/-! ## The regular expression -/

/-- Digits, and behind a point more of them. -/
def digitRuns (isDigit : Char → Bool) : Language Char :=
  (oneOf isDigit)∗ * optional (· = '.') (oneOf isDigit)∗

/-- Nothing, or the mark of an exponent, an optional sign and decimal digits. -/
def exponents : Language Char :=
  optional isExponentMark (optional isSign 1 * (oneOf Char.isDigit)∗)

/-- Decimal numerals without a sign. -/
def decimals : Language Char :=
  digitRuns Char.isDigit * (exponents * optional (· = 'i') 1)

/-- What stands behind the mark of a hexadecimal numeral. -/
def hexTails : Language Char := digitRuns isHexDigit * optional (· = 'i') 1

/-- Hexadecimal numerals without a sign. -/
def hexadecimals : Language Char := oneOf (· = '0') * (oneOf isHexMark * hexTails)

/-- Numerals: an optional sign in front of a hexadecimal or a decimal one. -/
def numerals : Language Char := optional isSign 1 * (hexadecimals + decimals)

/-- The members of the language of hexadecimal numerals. -/
theorem mem_hexadecimals {u : List Char} :
    u ∈ hexadecimals ↔ ∃ x v, isHexMark x = true ∧ v ∈ hexTails ∧ u = '0' :: x :: v := by
  unfold hexadecimals
  simp only [Language.mem_mul, mem_oneOf]
  constructor
  · rintro ⟨-, ⟨c, hc, rfl⟩, -, ⟨-, ⟨x, hx, rfl⟩, v, hv, rfl⟩, rfl⟩
    obtain rfl : c = '0' := by simpa using hc
    exact ⟨x, v, hx, hv, rfl⟩
  · rintro ⟨x, v, hx, hv, rfl⟩
    exact ⟨['0'], ⟨'0', by simp, rfl⟩, x :: v, ⟨[x], ⟨x, hx, rfl⟩, v, hv, rfl⟩, rfl⟩

/-! ## What a part begins with -/

/-- A decimal digit is no sign. -/
theorem isSign_eq_false_of_isDigit {c : Char} (h : c.isDigit = true) : isSign c = false := by
  cases hsign : isSign c with
  | false => rfl
  | true =>
      simp only [isSign, Bool.or_eq_true, decide_eq_true_eq] at hsign
      rcases hsign with rfl | rfl <;> cases h

/-- The mark of an exponent is one of two letters, and these are hexadecimal digits. -/
theorem isExponentMark_iff {c : Char} : isExponentMark c = true ↔ c = 'e' ∨ c = 'E' := by
  simp [isExponentMark]

/-- An optional part that begins with `x` avoids whatever `x` is not. -/
theorem avoids_optional_char {p : Char → Bool} {x : Char} (L : Language Char) (h : p x = false) :
    Avoids (optional (· = x) L) p := by
  apply avoids_optional
  intro c hc
  rw [of_decide_eq_true hc]
  exact h

/-- An exponent begins with one of two letters. -/
theorem avoids_exponents {p : Char → Bool} (hlower : p 'e' = false) (hupper : p 'E' = false) :
    Avoids exponents p := by
  apply avoids_optional
  intro c hc
  rcases isExponentMark_iff.mp hc with rfl | rfl
  · exact hlower
  · exact hupper

/-! ## Numerals are scanned as far as they go -/

/-- Digits around a point are taken greedily. -/
theorem greedy_digitsSpan {isDigit : Char → Bool} (hpoint : isDigit '.' = false) :
    Greedy (digitsSpan isDigit) (digitRuns isDigit)
      fun c => isDigit c || (decide (c = '.') || isDigit c) := by
  apply (greedy_takeWhile isDigit).andThen ((greedy_takeWhile isDigit).behind (· = '.'))
  exact avoids_optional_char _ hpoint

/-- Behind the digits that are taken stands no digit. -/
theorem head?_drop_digitsSpan (isDigit : Char → Bool) (u : List Char) :
    (u.drop (digitsSpan isDigit u).length).head?.any isDigit = false := by
  rw [digitsSpan, andThen, drop_length_takeWhile, List.length_append, ← List.drop_drop,
    drop_length_takeWhile]
  have hstop := head?_dropWhile_any isDigit u
  cases hrest : u.dropWhile isDigit with
  | nil => rfl
  | cons c rest =>
      by_cases hc : c = '.'
      · simpa [behind, hc, drop_length_takeWhile] using head?_dropWhile_any isDigit rest
      · simpa [behind, hc, hrest] using hstop

/-- An exponent is taken greedily. -/
theorem greedy_exponentSpan : Greedy exponentSpan exponents
    fun c => isExponentMark c || (isSign c || c.isDigit) := by
  apply Greedy.behind
  apply (greedy_firstIf isSign).andThen (greedy_takeWhile Char.isDigit)
  apply avoids_kstar_oneOf
  intro c hc
  exact isSign_eq_false_of_isDigit hc

/-- A decimal numeral is taken as its digits, its exponent and the imaginary unit. -/
def decimalSpan : List Char → List Char :=
  andThen (digitsSpan Char.isDigit) (andThen exponentSpan (firstIf (· = 'i')))

/-- Behind the mark of a hexadecimal numeral its digits and the imaginary unit are taken. -/
def hexTailSpan : List Char → List Char := andThen (digitsSpan isHexDigit) (firstIf (· = 'i'))

/-- A decimal numeral is taken greedily. -/
theorem greedy_decimalSpan : Greedy decimalSpan decimals fun _ => true := by
  have hinner : Greedy (andThen exponentSpan (firstIf (· = 'i')))
      (exponents * optional (· = 'i') 1)
      fun c => (isExponentMark c || (isSign c || c.isDigit)) || decide (c = 'i') := by
    apply greedy_exponentSpan.andThen (greedy_firstIf (· = 'i'))
    exact avoids_optional_char _ (by decide)
  refine ((greedy_digitsSpan (by decide)).andThen hinner ?_).mono fun c _ => rfl
  apply Avoids.mul
  · exact avoids_exponents (by decide) (by decide)
  · exact avoids_optional_char _ (by decide)

/-- What stands behind the mark of a hexadecimal numeral is taken greedily. -/
theorem greedy_hexTailSpan : Greedy hexTailSpan hexTails fun _ => true := by
  refine ((greedy_digitsSpan (by decide)).andThen (greedy_firstIf (· = 'i')) ?_).mono
    fun c _ => rfl
  exact avoids_optional_char _ (by decide)

/-- Behind a zero and a mark the digits are hexadecimal. There is no exponent, as its mark is one of
the digits. -/
theorem unsignedSpan_of_hexMark {x : Char} (hx : isHexMark x = true) (u : List Char) :
    unsignedSpan ('0' :: x :: u) = '0' :: x :: hexTailSpan u := by
  have hzero : zeroSpan ('0' :: x :: u) = ['0', x] := by simp [zeroSpan, firstIf, behind, hx]
  have hexponent : exponentSpan (u.drop (digitsSpan isHexDigit u).length) = [] := by
    apply behind_of_head?
    have hstop := head?_drop_digitsSpan isHexDigit u
    cases hrest : u.drop (digitsSpan isHexDigit u).length with
    | nil => rfl
    | cons c rest =>
        rw [hrest] at hstop
        cases hmark : isExponentMark c with
        | false => simpa using hmark
        | true => rcases isExponentMark_iff.mp hmark with rfl | rfl <;> cases hstop
  rw [unsignedSpan, andThen, hzero]
  simp [digitClass, hexTailSpan, andThen, hexponent]

/-- Any other text is scanned as a decimal numeral. -/
theorem unsignedSpan_of_not_hexMark {u : List Char}
    (h : ∀ x v, u = '0' :: x :: v → isHexMark x = false) : unsignedSpan u = decimalSpan u := by
  cases u with
  | nil => rfl
  | cons c u =>
      by_cases hzero : c = '0'
      · subst hzero
        have hspan : zeroSpan ('0' :: u) = ['0'] := by
          cases u with
          | nil => rfl
          | cons x u => simp [zeroSpan, firstIf, behind, h x u rfl]
        rw [unsignedSpan, andThen, hspan]
        simp [digitClass, decimalSpan, andThen, digitsSpan]
      · have hspan : zeroSpan (c :: u) = [] := by simp [zeroSpan, behind, hzero]
        rw [unsignedSpan, andThen, hspan]
        rfl

/-- A numeral without a sign is taken greedily. -/
theorem greedy_unsignedSpan : Greedy unsignedSpan (hexadecimals + decimals) fun _ => true := by
  constructor
  · exact fun u => ⟨_, Scan.reads_unsigned.taken_append_drop u⟩
  · intro u
    rw [Language.mem_add]
    by_cases hhex : ∃ x v, u = '0' :: x :: v ∧ isHexMark x = true
    · obtain ⟨x, v, rfl, hx⟩ := hhex
      rw [unsignedSpan_of_hexMark hx]
      exact Or.inl (mem_hexadecimals.mpr ⟨x, _, hx, greedy_hexTailSpan.mem v, rfl⟩)
    · rw [unsignedSpan_of_not_hexMark fun x v hu => by simpa using fun hx => hhex ⟨x, v, hu, hx⟩]
      exact Or.inr (greedy_decimalSpan.mem u)
  · intro v rest hv
    rw [Language.mem_add] at hv
    rcases hv with hv | hv
    · obtain ⟨x, w, hx, hw, rfl⟩ := mem_hexadecimals.mp hv
      rw [List.cons_append, List.cons_append, unsignedSpan_of_hexMark hx]
      rcases greedy_hexTailSpan.longest w rest hw with heq | ⟨hfront, hhead⟩
      · exact Or.inl (by rw [← heq])
      · exact Or.inr ⟨by simpa using hfront, hhead⟩
    · by_cases hhex : ∃ x w, v ++ rest = '0' :: x :: w ∧ isHexMark x = true
      · -- a decimal numeral gets no further than the zero
        obtain ⟨x, w, hvw, hx⟩ := hhex
        have hzero : decimalSpan ('0' :: x :: w) = ['0'] := by
          simp only [isHexMark, Bool.or_eq_true, decide_eq_true_eq] at hx
          rcases hx with rfl | rfl <;> rfl
        have hfront : v <+: ['0'] := by
          rcases greedy_decimalSpan.longest v rest hv with heq | ⟨hfront, -⟩
          · rw [heq, hvw, hzero]
          · rwa [hvw, hzero] at hfront
        right
        rw [hvw, unsignedSpan_of_hexMark hx]
        refine ⟨hfront.trans ⟨x :: hexTailSpan w, rfl⟩, ?_⟩
        cases rest with
        | cons c rest => rfl
        | nil =>
            have hlength := hfront.length_le
            rw [List.append_nil] at hvw
            simp [hvw] at hlength
      · rw [unsignedSpan_of_not_hexMark fun x w hu => by simpa using fun hx => hhex ⟨x, w, hu, hx⟩]
        exact greedy_decimalSpan.longest v rest hv

/-- The scan of a numeral takes the longest front part that is one. -/
theorem isLongest_numeralSpan (u : List Char) : IsLongest numerals (numeralSpan u) u := by
  refine Greedy.isLongest ((greedy_firstIf isSign).andThen greedy_unsignedSpan ?_) u
  intro v hv
  rw [Language.mem_add] at hv
  rcases hv with hv | hv
  · obtain ⟨x, w, -, -, rfl⟩ := mem_hexadecimals.mp hv
    rfl
  · revert v
    have hdigit : ∀ c : Char, c.isDigit = true → isSign c = false :=
      fun c => isSign_eq_false_of_isDigit
    apply Avoids.mul
    · apply (avoids_kstar_oneOf hdigit).mul
      exact avoids_optional_char _ (by decide)
    · apply Avoids.mul
      · exact avoids_exponents (by decide) (by decide)
      · exact avoids_optional_char _ (by decide)

/-- The longest numeral at the front of a text is the one that is scanned. -/
theorem isLongest_numerals_iff {w u : List Char} :
    IsLongest numerals w u ↔ numeralSpan u = w := by
  constructor
  · exact (isLongest_numeralSpan u).unique
  · rintro rfl
    exact isLongest_numeralSpan u

/-- The longest numeral begins where the text does. -/
theorem head?_of_isLongest {w u : List Char} (h : IsLongest numerals w u)
    (hbegin : beginsNumeral u = true) : w.head? = u.head? := by
  rw [← isLongest_numerals_iff.mp h, head?_numeralSpan hbegin]

/-! ## Where a numeral ends -/

/-- The front parts of digits around a point are of this form, too. -/
theorem prefixClosed_digitRuns (isDigit : Char → Bool) : PrefixClosed (digitRuns isDigit) :=
  (prefixClosed_kstar_oneOf isDigit).mul ((prefixClosed_kstar_oneOf isDigit).optional _)
    (nil_mem_optional _ _)

/-- Digits around a point may be missing. -/
theorem nil_mem_digitRuns (isDigit : Char → Bool) : [] ∈ digitRuns isDigit :=
  nil_mem_mul (Language.nil_mem_kstar _) (nil_mem_optional _ _)

/-- The front parts of decimal numerals are decimal numerals. -/
theorem prefixClosed_decimals : PrefixClosed decimals := by
  have hexponents : PrefixClosed exponents :=
    ((prefixClosed_one.optional _).mul (prefixClosed_kstar_oneOf _)
      (Language.nil_mem_kstar _)).optional _
  refine (prefixClosed_digitRuns _).mul (hexponents.mul (prefixClosed_one.optional _) ?_) ?_
  · exact nil_mem_optional _ _
  · exact nil_mem_mul (nil_mem_optional _ _) (nil_mem_optional _ _)

/-- The front parts of numerals without a sign are such numerals; those of a hexadecimal one that end
before its mark are decimal. -/
theorem prefixClosed_unsigned : PrefixClosed (hexadecimals + decimals) := by
  have hdigits : ∀ u, (∀ c ∈ u, c.isDigit = true) → u ∈ decimals := by
    intro u hu
    have hruns : u ++ [] ∈ digitRuns Char.isDigit :=
      Language.append_mem_mul (mem_kstar_oneOf.mpr hu) (nil_mem_optional _ _)
    have hdecimal : u ++ [] ++ [] ∈ decimals := Language.append_mem_mul hruns
      (nil_mem_mul (nil_mem_optional _ _) (nil_mem_optional _ _))
    simpa using hdecimal
  have htails : PrefixClosed hexTails :=
    (prefixClosed_digitRuns _).mul (prefixClosed_one.optional _) (nil_mem_optional _ _)
  intro u v huv
  rw [Language.mem_add] at huv ⊢
  rcases huv with huv | huv
  · obtain ⟨x, w, hx, hw, heq⟩ := mem_hexadecimals.mp huv
    match u, heq with
    | [], _ => exact Or.inr (hdigits [] (by simp))
    | [c], heq =>
        obtain ⟨rfl, -⟩ := List.cons_eq_cons.mp heq
        exact Or.inr (hdigits ['0'] (List.forall_mem_singleton.mpr rfl))
    | c :: d :: u, heq =>
        simp only [List.cons_append, List.cons.injEq] at heq
        obtain ⟨rfl, rfl, rfl⟩ := heq
        exact Or.inl (mem_hexadecimals.mpr ⟨d, u, hx, htails u v hw, rfl⟩)
  · exact Or.inr (prefixClosed_decimals u v huv)

/-- The front parts of numerals are numerals. -/
theorem prefixClosed_numerals : PrefixClosed numerals :=
  (prefixClosed_one.optional _).mul prefixClosed_unsigned
    (Or.inr (nil_mem_mul (nil_mem_digitRuns _) (nil_mem_mul (nil_mem_optional _ _)
      (nil_mem_optional _ _))))

/-- Where a numeral ends is told by the next character alone. -/
theorem numeralSpan_append_cons_iff {u rest : List Char} {x : Char} :
    numeralSpan (u ++ x :: rest) = u ↔ u ∈ numerals ∧ u ++ [x] ∉ numerals := by
  rw [← isLongest_numerals_iff]
  constructor
  · intro h
    refine ⟨h.mem, fun hmem => ?_⟩
    have hle := h.length_le (u ++ [x]) ⟨rest, by simp⟩ hmem
    rw [List.length_append, List.length_singleton] at hle
    omega
  · rintro ⟨hmem, hnot⟩
    refine ⟨List.prefix_append u _, hmem, fun v hv hmem' => ?_⟩
    by_contra hlong
    -- a longer numeral would contain the next character, and could be cut off behind it
    have hfront : u ++ [x] <+: v := by
      apply List.prefix_of_prefix_length_le ⟨rest, by simp⟩ hv
      simp only [List.length_append, List.length_singleton]
      omega
    obtain ⟨w, rfl⟩ := hfront
    exact hnot (prefixClosed_numerals _ w hmem')

/-- Where a numeral ends does not depend on what follows the next character. -/
theorem numeralSpan_append_of_ne_nil {u rest : List Char} (h : numeralSpan (u ++ rest) = u)
    (hne : rest ≠ []) (more : List Char) : numeralSpan (u ++ (rest ++ more)) = u := by
  cases rest with
  | nil => exact absurd rfl hne
  | cons x rest => exact numeralSpan_append_cons_iff.mpr (numeralSpan_append_cons_iff.mp h)

/-- A numeral lies on one line. -/
theorem unbroken_numerals : Unbroken numerals := by
  have hruns : ∀ isDigit : Char → Bool, isDigit '\r' = false → isDigit '\n' = false →
      Unbroken (digitRuns isDigit) := fun isDigit hreturn hfeed =>
    (unbroken_kstar_oneOf hreturn hfeed).mul
      ((unbroken_kstar_oneOf hreturn hfeed).optional (by decide) (by decide))
  have hunit : Unbroken (optional (· = 'i') 1) := unbroken_one.optional (by decide) (by decide)
  have hsign : Unbroken (optional isSign 1) := unbroken_one.optional (by decide) (by decide)
  have hexponents : Unbroken exponents :=
    (hsign.mul (unbroken_kstar_oneOf (by decide) (by decide))).optional (by decide) (by decide)
  refine hsign.mul fun u hu => ?_
  rcases (Language.mem_add _ _ u).mp hu with hu | hu
  · obtain ⟨x, v, hx, hv, rfl⟩ := mem_hexadecimals.mp hu
    intro c hc
    rcases List.mem_cons.mp hc with rfl | hc
    · rfl
    · rcases List.mem_cons.mp hc with rfl | hc
      · exact isLineBreak_eq_false_of (p := isHexMark) (by decide) (by decide) hx
      · exact (hruns isHexDigit (by decide) (by decide)).mul hunit v hv c hc
  · exact (hruns Char.isDigit (by decide) (by decide)).mul (hexponents.mul hunit) u hu

end ActionTemplate.Text
