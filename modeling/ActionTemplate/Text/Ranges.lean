/-!
# Tables of code point ranges

A class of characters is given by a table of closed ranges of code points in ascending order.
Looking a code point up stops at the first range that starts behind it.
-/

namespace ActionTemplate.Text

/-- Closed ranges of code points, each given by its first and its last member. -/
abbrev RangeTable := List (Nat × Nat)

namespace RangeTable

/-- Whether the code point `n` lies in a range of an ascending table. -/
def contains : RangeTable → Nat → Bool
  | [], _ => false
  | (first, last) :: rest, n =>
      if n < first then false else if n ≤ last then true else contains rest n

/-- Whether the ranges of a table, each of them nonempty, follow one another in ascending order and
none starts below `bound`. -/
def ascendsFrom : Nat → RangeTable → Bool
  | _, [] => true
  | bound, (first, last) :: rest => bound ≤ first && first ≤ last && ascendsFrom (last + 1) rest

/-- No range of an ascending table starts below the bound. -/
theorem bound_le_of_mem {bound : Nat} {table : RangeTable} (h : ascendsFrom bound table = true) :
    ∀ r ∈ table, bound ≤ r.1 := by
  induction table generalizing bound with
  | nil => simp
  | cons s rest ih =>
      obtain ⟨first, last⟩ := s
      simp only [ascendsFrom, Bool.and_eq_true, decide_eq_true_eq] at h
      intro r hr
      rcases List.mem_cons.mp hr with rfl | hr
      · exact h.1.1
      · have := ih h.2 r hr
        omega

/-- In an ascending table the early stop loses nothing: a code point is found exactly when one of
the ranges holds it. -/
theorem contains_eq_true_iff {bound : Nat} {table : RangeTable}
    (h : ascendsFrom bound table = true) (n : Nat) :
    table.contains n = true ↔ ∃ r ∈ table, r.1 ≤ n ∧ n ≤ r.2 := by
  induction table generalizing bound with
  | nil => simp [contains]
  | cons s rest ih =>
      obtain ⟨first, last⟩ := s
      simp only [ascendsFrom, Bool.and_eq_true, decide_eq_true_eq] at h
      have hrest := bound_le_of_mem h.2
      simp only [contains, List.mem_cons, exists_eq_or_imp]
      split
      · rename_i hlt
        simp only [Bool.false_eq_true, false_iff, not_or, not_and, not_exists]
        refine ⟨fun _ => by omega, ?_⟩
        intro r hr hfirst
        have := hrest r hr
        omega
      · split
        · simp only [true_iff]
          exact Or.inl ⟨by omega, by omega⟩
        · rw [ih h.2]
          constructor
          · exact Or.inr
          · rintro (⟨_, hlast⟩ | hin)
            · omega
            · exact hin

end RangeTable

end ActionTemplate.Text
