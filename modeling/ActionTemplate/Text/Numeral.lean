/-!
# Numerals

Numbers in messages are written without leading zeros: in decimal, or in hexadecimal where they
stand for code points.
-/

namespace ActionTemplate.Text

/-- The decimal form of a number. -/
def decimal (n : Nat) : String := String.ofList (Nat.toDigits 10 n)

/-- The hexadecimal form of a number, in lower case. -/
def hexadecimal (n : Nat) : List Char := Nat.toDigits 16 n

/-- The code point of a character in the form `U+0041`: upper case, at least four digits. -/
def codePoint (c : Char) : String :=
  let digits := (hexadecimal c.toNat).map Char.toUpper
  "U+" ++ String.ofList (List.replicate (4 - digits.length) '0' ++ digits)

/-- The hexadecimal form of a number is made of digits below sixteen. -/
theorem exists_of_mem_hexadecimal {n : Nat} {c : Char} (h : c ∈ hexadecimal n) :
    ∃ d < 16, c = Nat.digitChar d := by
  induction n using Nat.strongRecOn with
  | ind n ih =>
      rw [hexadecimal, Nat.toDigits_eq_if (by decide)] at h
      split at h
      · rename_i hlt
        exact ⟨n, hlt, List.mem_singleton.mp h⟩
      · rename_i hle
        rcases List.mem_append.mp h with h | h
        · exact ih (n / 16) (Nat.div_lt_self (by omega) (by decide)) h
        · exact ⟨n % 16, Nat.mod_lt _ (by decide), List.mem_singleton.mp h⟩

/-- A code point is made of its mark and of digits in upper case. -/
theorem cases_of_mem_codePoint {c x : Char} (h : x ∈ (codePoint c).toList) :
    x = 'U' ∨ x = '+' ∨ ∃ d < 16, x = (Nat.digitChar d).toUpper := by
  simp only [codePoint, String.toList_append, String.toList_ofList, List.mem_append,
    List.mem_replicate, List.mem_map] at h
  rcases h with hmark | ⟨-, rfl⟩ | ⟨y, hy, rfl⟩
  · have hmark' : x = 'U' ∨ x = '+' := by simpa using hmark
    rcases hmark' with hmark | hmark
    · exact Or.inl hmark
    · exact Or.inr (Or.inl hmark)
  · exact Or.inr (Or.inr ⟨0, by decide, rfl⟩)
  · obtain ⟨d, hd, rfl⟩ := exists_of_mem_hexadecimal hy
    exact Or.inr (Or.inr ⟨d, hd, rfl⟩)

end ActionTemplate.Text
