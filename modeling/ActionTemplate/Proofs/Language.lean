import ActionTemplate.Text.Class
import ActionTemplate.Text.Span
import Mathlib.Computability.Language

/-!
# Languages that are scanned part by part

A scan that never goes back over what one of its parts has taken need not find the longest member of
a language. `Greedy` is what makes this harmless: a member of the language that stops short of what
is taken could have gone on with the next character, and no member of the language behind begins
with that. It is kept by the ways in which scans are put together, `Greedy.behind` and
`Greedy.andThen`.

Two more properties are kept when languages are put together: `PrefixClosed`, with a text all its
front parts belong to the language, and `Unbroken`, no member contains a line break.
-/

namespace ActionTemplate.Text

open scoped Computability

/-! ## Languages -/

/-- The texts of a single character that has the property `p`. -/
def oneOf (p : Char → Bool) : Language Char := {u | ∃ c, p c = true ∧ u = [c]}

/-- A text of a single character. -/
theorem mem_oneOf {p : Char → Bool} {u : List Char} : u ∈ oneOf p ↔ ∃ c, p c = true ∧ u = [c] :=
  Iff.rfl

/-- Texts made of single characters with the property `p` are made of such characters. -/
theorem mem_kstar_oneOf {p : Char → Bool} {u : List Char} :
    u ∈ (oneOf p)∗ ↔ ∀ c ∈ u, p c = true := by
  rw [Language.mem_kstar]
  constructor
  · rintro ⟨pieces, rfl, hpieces⟩ c hc
    obtain ⟨piece, hpiece, hmem⟩ := List.mem_flatten.mp hc
    obtain ⟨d, hd, rfl⟩ := hpieces piece hpiece
    rw [List.mem_singleton.mp hmem]
    exact hd
  · intro hu
    refine ⟨u.map fun c => [c], ?_, ?_⟩
    · simp [← List.flatMap_def]
    · intro piece hpiece
      obtain ⟨c, hc, rfl⟩ := List.mem_map.mp hpiece
      exact ⟨c, hu c hc, rfl⟩

/-- Nothing, or a character with the property `p` and behind it a member of `L`. -/
def optional (p : Char → Bool) (L : Language Char) : Language Char := 1 + oneOf p * L

/-- The members of an optional part. -/
theorem mem_optional {p : Char → Bool} {L : Language Char} {u : List Char} :
    u ∈ optional p L ↔ u = [] ∨ ∃ c v, p c = true ∧ v ∈ L ∧ u = c :: v := by
  unfold optional
  rw [Language.mem_add, Language.mem_one, Language.mem_mul]
  constructor
  · rintro (rfl | ⟨-, ⟨c, hc, rfl⟩, v, hv, rfl⟩)
    · exact Or.inl rfl
    · exact Or.inr ⟨c, v, hc, hv, rfl⟩
  · rintro (rfl | ⟨c, v, hc, hv, rfl⟩)
    · exact Or.inl rfl
    · exact Or.inr ⟨[c], ⟨c, hc, rfl⟩, v, hv, rfl⟩

/-- An optional part may be missing. -/
theorem nil_mem_optional (p : Char → Bool) (L : Language Char) : [] ∈ optional p L :=
  mem_optional.mpr (Or.inl rfl)

/-- Both parts of a text may be missing. -/
theorem nil_mem_mul {L M : Language Char} (hL : [] ∈ L) (hM : [] ∈ M) : [] ∈ L * M :=
  Language.append_mem_mul hL hM

/-! ## Longest front parts -/

/-- The text `w` is the longest front part of `u` that belongs to the language `L`. -/
structure IsLongest (L : Language Char) (w u : List Char) : Prop where
  front : w <+: u
  mem : w ∈ L
  length_le : ∀ v, v <+: u → v ∈ L → v.length ≤ w.length

/-- There is only one longest front part. -/
theorem IsLongest.unique {L : Language Char} {v w u : List Char} (hv : IsLongest L v u)
    (hw : IsLongest L w u) : v = w := by
  have hle := hw.length_le v hv.front hv.mem
  have hge := hv.length_le w hw.front hw.mem
  have hfront : v <+: w := List.prefix_of_prefix_length_le hv.front hw.front hle
  exact hfront.eq_of_length (by omega)

/-! ## Taking as much as there is -/

/-- A first character with the property `p` has a property that follows from it, too. -/
theorem head?_any_mono {p q : Char → Bool} (h : ∀ c, p c = true → q c = true) {u : List Char}
    (hu : u.head?.any p = true) : u.head?.any q = true := by
  cases u with
  | nil => simp at hu
  | cons c u => exact h c (by simpa using hu)

/-- The function `f` takes front parts that belong to the language `L`. Where a member of `L` is not
what is taken, it stops short of it, in front of a character with the property `more`. -/
structure Greedy (f : List Char → List Char) (L : Language Char) (more : Char → Bool) : Prop where
  front : ∀ u, f u <+: u
  mem : ∀ u, f u ∈ L
  longest : ∀ v rest, v ∈ L →
    v = f (v ++ rest) ∨ v <+: f (v ++ rest) ∧ rest.head?.any more = true

/-- What is taken greedily is the longest front part in the language. -/
theorem Greedy.isLongest {f : List Char → List Char} {L : Language Char} {more : Char → Bool}
    (h : Greedy f L more) (u : List Char) : IsLongest L (f u) u := by
  refine ⟨h.front u, h.mem u, ?_⟩
  rintro v ⟨rest, rfl⟩ hv
  rcases h.longest v rest hv with heq | ⟨hfront, -⟩
  · exact Nat.le_of_eq (congrArg List.length heq)
  · exact hfront.length_le

/-- The characters in front of which a member of the language can stop short may be more. -/
theorem Greedy.mono {f : List Char → List Char} {L : Language Char} {more more' : Char → Bool}
    (h : Greedy f L more) (hmore : ∀ c, more c = true → more' c = true) : Greedy f L more' := by
  refine ⟨h.front, h.mem, ?_⟩
  intro v rest hv
  exact (h.longest v rest hv).imp_right fun ⟨hfront, hhead⟩ => ⟨hfront, head?_any_mono hmore hhead⟩

/-- No member of the language begins with a character that has the property `p`. -/
def Avoids (L : Language Char) (p : Char → Bool) : Prop := ∀ v ∈ L, v.head?.any p = false

/-- An optional part begins with its first character. -/
theorem avoids_optional {p q : Char → Bool} (L : Language Char)
    (h : ∀ c, q c = true → p c = false) : Avoids (optional q L) p := by
  intro v hv
  rcases mem_optional.mp hv with rfl | ⟨c, w, hc, -, rfl⟩
  · rfl
  · simpa using h c hc

/-- A run of digits begins with a digit. -/
theorem avoids_kstar_oneOf {p q : Char → Bool} (h : ∀ c, q c = true → p c = false) :
    Avoids (oneOf q)∗ p := by
  intro v hv
  rw [mem_kstar_oneOf] at hv
  cases v with
  | nil => rfl
  | cons c v => simpa using h c (hv c List.mem_cons_self)

/-- Two parts begin as the first one does, or as the second one if the first is empty. -/
theorem Avoids.mul {L M : Language Char} {p : Char → Bool} (hL : Avoids L p) (hM : Avoids M p) :
    Avoids (L * M) p := by
  intro v hv
  obtain ⟨a, ha, b, hb, rfl⟩ := Language.mem_mul.mp hv
  cases a with
  | nil => exact hM b hb
  | cons c a => exact hL (c :: a) ha

/-- Taking nothing is greedy where there is nothing to be had. -/
theorem greedy_nothing : Greedy (fun _ => []) 1 fun _ => false := by
  refine ⟨fun u => List.nil_prefix, fun u => rfl, ?_⟩
  intro v rest hv
  exact Or.inl (Language.mem_one v |>.mp hv)

/-- The longest run of characters with a property is taken greedily. -/
theorem greedy_takeWhile (p : Char → Bool) : Greedy (List.takeWhile p) (oneOf p)∗ p := by
  refine ⟨fun u => List.takeWhile_prefix p, fun u => ?_, ?_⟩
  · rw [mem_kstar_oneOf]
    exact fun c hc => of_mem_takeWhile hc
  · intro v rest hv
    rw [mem_kstar_oneOf] at hv
    cases hhead : rest.head?.any p with
    | false => exact Or.inl (takeWhile_append_of_head? hv hhead).symm
    | true =>
        rw [List.takeWhile_append_of_pos hv]
        exact Or.inr ⟨List.prefix_append v _, rfl⟩

/-- A character and what is taken greedily behind it are taken greedily. -/
theorem Greedy.behind {f : List Char → List Char} {L : Language Char} {more : Char → Bool}
    (h : Greedy f L more) (p : Char → Bool) :
    Greedy (behind p f) (optional p L) fun c => p c || more c := by
  constructor
  · intro u
    cases u with
    | nil => exact List.nil_prefix
    | cons c u =>
        by_cases hc : p c = true
        · rw [behind_cons_of_pos hc]
          exact List.cons_prefix_cons.mpr ⟨rfl, h.front u⟩
        · simp [Text.behind, hc]
  · intro u
    rw [mem_optional]
    cases u with
    | nil => exact Or.inl rfl
    | cons c u =>
        by_cases hc : p c = true
        · exact Or.inr ⟨c, f u, hc, h.mem u, behind_cons_of_pos hc f u⟩
        · exact Or.inl (by simp [Text.behind, hc])
  · intro v rest hv
    rcases mem_optional.mp hv with rfl | ⟨c, w, hc, hw, rfl⟩
    · rw [List.nil_append]
      cases hhead : rest.head?.any p with
      | false => exact Or.inl (behind_of_head? hhead f).symm
      | true => exact Or.inr ⟨List.nil_prefix, head?_any_mono (by simp +contextual) hhead⟩
    · rw [List.cons_append, behind_cons_of_pos hc]
      rcases h.longest w rest hw with heq | ⟨hfront, hhead⟩
      · exact Or.inl (congrArg (c :: ·) heq)
      · exact Or.inr ⟨List.cons_prefix_cons.mpr ⟨rfl, hfront⟩,
          head?_any_mono (by simp +contextual) hhead⟩

/-- A single character is taken greedily. -/
theorem greedy_firstIf (p : Char → Bool) : Greedy (firstIf p) (optional p 1) p := by
  refine (greedy_nothing.behind p).mono ?_
  intro c hc
  simpa using hc

/-- Two parts are taken greedily one behind the other if nothing that belongs to the second could
have prolonged the first. -/
theorem Greedy.andThen {f g : List Char → List Char} {L M : Language Char}
    {more more' : Char → Bool} (hf : Greedy f L more) (hg : Greedy g M more')
    (hM : Avoids M more) :
    Greedy (andThen f g) (L * M) fun c => more c || more' c := by
  constructor
  · intro u
    obtain ⟨rest, hrest⟩ := hf.front u
    have hdrop : u.drop (f u).length = rest := by rw [← hrest, List.drop_left' (by rw [hrest])]
    obtain ⟨left, hleft⟩ := hg.front rest
    refine ⟨left, ?_⟩
    rw [Text.andThen, hdrop, List.append_assoc, hleft, hrest]
  · intro u
    exact Language.append_mem_mul (hf.mem u) (hg.mem _)
  · intro v rest hv
    obtain ⟨a, ha, b, hb, rfl⟩ := Language.mem_mul.mp hv
    rw [List.append_assoc]
    rcases hf.longest a (b ++ rest) ha with heq | ⟨hfront, hhead⟩
    · have htaken : Text.andThen f g (a ++ (b ++ rest)) = a ++ g (b ++ rest) := by
        rw [Text.andThen, ← heq, List.drop_left]
      rw [htaken]
      rcases hg.longest b rest hb with heq' | ⟨hfront', hhead'⟩
      · exact Or.inl (by rw [← heq'])
      · exact Or.inr ⟨(List.prefix_append_right_inj a).mpr hfront',
          head?_any_mono (by simp +contextual) hhead'⟩
    · -- the first part stops short, so the second has nothing to begin with
      cases b with
      | cons c b =>
          have hnot := hM (c :: b) hb
          rw [List.cons_append] at hhead
          simp only [List.head?_cons, Option.any_some] at hhead hnot
          rw [hhead] at hnot
          cases hnot
      | nil =>
          rw [List.nil_append] at hfront hhead ⊢
          rw [List.append_nil]
          exact Or.inr ⟨hfront.trans (List.prefix_append _ _),
            head?_any_mono (by simp +contextual) hhead⟩

/-! ## Front parts of members -/

/-- With a text all its front parts belong to the language. -/
def PrefixClosed (L : Language Char) : Prop := ∀ u v, u ++ v ∈ L → u ∈ L

/-- The front parts of a run are runs. -/
theorem prefixClosed_kstar_oneOf (p : Char → Bool) : PrefixClosed (oneOf p)∗ := by
  intro u v h
  rw [mem_kstar_oneOf] at h ⊢
  exact fun c hc => h c (List.mem_append_left v hc)

/-- Nothing is the only front part of nothing. -/
theorem prefixClosed_one : PrefixClosed 1 := by
  intro u v huv
  exact (Language.mem_one u).mpr (List.append_eq_nil_iff.mp huv).1

/-- The front parts of an optional part are optional parts. -/
theorem PrefixClosed.optional {L : Language Char} (h : PrefixClosed L) (p : Char → Bool) :
    PrefixClosed (optional p L) := by
  intro u v huv
  rw [mem_optional] at huv ⊢
  cases u with
  | nil => exact Or.inl rfl
  | cons c u =>
      rcases huv with hnil | ⟨d, w, hd, hw, heq⟩
      · cases hnil
      · obtain ⟨rfl, rfl⟩ := List.cons_eq_cons.mp heq
        exact Or.inr ⟨c, u, hd, h u v hw, rfl⟩

/-- A front part of two parts ends in the first of them or in the second. -/
theorem PrefixClosed.mul {L M : Language Char} (hL : PrefixClosed L) (hM : PrefixClosed M)
    (hnil : [] ∈ M) : PrefixClosed (L * M) := by
  intro u v huv
  obtain ⟨a, ha, b, hb, heq⟩ := Language.mem_mul.mp huv
  rcases List.append_eq_append_iff.mp heq with ⟨w, rfl, rfl⟩ | ⟨w, rfl, rfl⟩
  · exact Language.append_mem_mul ha (hM w v hb)
  · simpa using Language.append_mem_mul (hL u w ha) hnil

/-! ## Members without a line break -/

/-- No member of the language contains a line break. -/
def Unbroken (L : Language Char) : Prop := ∀ u ∈ L, ∀ c ∈ u, isLineBreak c = false

/-- A property that neither line break has is not one of a line break. -/
theorem isLineBreak_eq_false_of {p : Char → Bool} (hreturn : p '\r' = false)
    (hfeed : p '\n' = false) {c : Char} (hc : p c = true) : isLineBreak c = false := by
  cases hbreak : isLineBreak c with
  | false => rfl
  | true =>
      simp only [isLineBreak, Bool.or_eq_true, decide_eq_true_eq] at hbreak
      rcases hbreak with rfl | rfl
      · rw [hreturn] at hc
        cases hc
      · rw [hfeed] at hc
        cases hc

/-- A run of characters that are no line breaks contains none. -/
theorem unbroken_kstar_oneOf {p : Char → Bool} (hreturn : p '\r' = false)
    (hfeed : p '\n' = false) : Unbroken (oneOf p)∗ := by
  intro u hu c hc
  exact isLineBreak_eq_false_of hreturn hfeed (mem_kstar_oneOf.mp hu c hc)

/-- Nothing contains no line break. -/
theorem unbroken_one : Unbroken 1 := by
  intro u hu c hc
  rw [(Language.mem_one u).mp hu] at hc
  cases hc

/-- An optional part contains a line break only as its first character or in what follows. -/
theorem Unbroken.optional {L : Language Char} (hL : Unbroken L) {p : Char → Bool}
    (hreturn : p '\r' = false) (hfeed : p '\n' = false) : Unbroken (optional p L) := by
  intro u hu c hc
  rcases mem_optional.mp hu with rfl | ⟨d, v, hd, hv, rfl⟩
  · cases hc
  · rcases List.mem_cons.mp hc with rfl | hc
    · exact isLineBreak_eq_false_of hreturn hfeed hd
    · exact hL v hv c hc

/-- Two parts contain a line break only if one of them does. -/
theorem Unbroken.mul {L M : Language Char} (hL : Unbroken L) (hM : Unbroken M) :
    Unbroken (L * M) := by
  intro u hu c hc
  obtain ⟨a, ha, b, hb, rfl⟩ := Language.mem_mul.mp hu
  rcases List.mem_append.mp hc with hc | hc
  · exact hL a ha c hc
  · exact hM b hb c hc

end ActionTemplate.Text
