/-!
# Front parts of a text

The shape of a token is described by the front part that it takes of a text, as a function from the
text to that part. This file has the two ways in which such functions are put together:

* `behind`, a character with some property and a front part of what follows it;
* `andThen`, a front part and a front part of what is left behind it.

The longest run of characters with some property is `List.takeWhile`.
-/

namespace ActionTemplate.Text

/-- The first character of a text and what `f` takes behind it, if that character has the property
`p`; otherwise nothing. -/
def behind (p : Char → Bool) (f : List Char → List Char) : List Char → List Char
  | [] => []
  | c :: u => if p c then c :: f u else []

/-- The first character of a text, if it has the property `p`. -/
def firstIf (p : Char → Bool) : List Char → List Char := behind p fun _ => []

/-- What `f` takes of a text, and what `g` takes of the rest. -/
def andThen (f g : List Char → List Char) (u : List Char) : List Char :=
  f u ++ g (u.drop (f u).length)

/-! ## Single characters -/

@[simp] theorem behind_nil (p : Char → Bool) (f : List Char → List Char) : behind p f [] = [] := rfl

/-- A character with the property is taken together with what `f` takes behind it. -/
theorem behind_cons_of_pos {p : Char → Bool} {c : Char} (h : p c = true)
    (f : List Char → List Char) (u : List Char) : behind p f (c :: u) = c :: f u := by
  rw [behind, if_pos h]

/-- Without a first character that has the property nothing is taken. -/
theorem behind_of_head? {p : Char → Bool} {u : List Char} (h : u.head?.any p = false)
    (f : List Char → List Char) : behind p f u = [] := by
  cases u with
  | nil => rfl
  | cons c u =>
      have hc : ¬p c = true := by simpa using h
      rw [behind, if_neg hc]

/-- More text behind it does not change what a piece begins with. -/
theorem head?_any_append {p : Char → Bool} {u : List Char} (h : u.head?.any p = true)
    (rest : List Char) : (u ++ rest).head?.any p = true := by
  cases u with
  | nil => simp at h
  | cons c u => simpa using h

/-! ## Runs -/

/-- Behind the longest run of characters with the property lies what is left without it. -/
theorem drop_length_takeWhile (p : Char → Bool) (u : List Char) :
    u.drop (u.takeWhile p).length = u.dropWhile p := by
  induction u with
  | nil => rfl
  | cons c u ih => by_cases hc : p c = true <;> simp [hc, ih]

/-- Behind the longest run no character with the property follows. -/
theorem head?_dropWhile_any (p : Char → Bool) (u : List Char) :
    (u.dropWhile p).head?.any p = false := by
  have hnot := List.head?_dropWhile_not p u
  cases hrest : u.dropWhile p with
  | nil => rfl
  | cons c rest => simpa [hrest] using hnot

/-- All characters of a run have the property. -/
theorem of_mem_takeWhile {p : Char → Bool} {u : List Char} {c : Char} (h : c ∈ u.takeWhile p) :
    p c = true :=
  List.all_eq_true.mp List.all_takeWhile c h

/-- A run is taken whole, and no more than it, if the character behind it lacks the property. -/
theorem takeWhile_append_of_head? {p : Char → Bool} {u rest : List Char}
    (hu : ∀ c ∈ u, p c = true) (hrest : rest.head?.any p = false) :
    (u ++ rest).takeWhile p = u := by
  rw [List.takeWhile_append_of_pos hu]
  cases rest with
  | nil => simp
  | cons c rest => simp [show p c = false by simpa using hrest]

/-- A run that has a beginning begins where the text does. -/
theorem head?_takeWhile {p : Char → Bool} {u : List Char} (h : u.head?.any p = true) :
    u.takeWhile p ≠ [] ∧ (u.takeWhile p).head? = u.head? := by
  cases u with
  | nil => simp at h
  | cons c u =>
      have hc : p c = true := by simpa using h
      simp [hc]

end ActionTemplate.Text
