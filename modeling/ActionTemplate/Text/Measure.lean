/-!
# Measuring text

A source text is a list of characters, and a place in it is a byte offset: the number of bytes that
the UTF-8 form of the characters before it takes. This file defines

* `byteLength`, the size of a piece of text in bytes, which is additive under concatenation;
* `takeBytes`, the characters that lie before a byte offset;
* `lineAt`, the line of a byte offset, counted from one.

The main facts are `takeBytes_append`, which reads off the characters before a character boundary,
and `lineAt_append`, which says how lines add up over a concatenation.
-/

namespace ActionTemplate.Text

/-! ## Bytes -/

/-- The number of bytes in the UTF-8 form of a piece of text. -/
def byteLength : List Char → Nat
  | [] => 0
  | c :: cs => c.utf8Size + byteLength cs

@[simp] theorem byteLength_nil : byteLength [] = 0 := rfl

@[simp] theorem byteLength_cons (c : Char) (cs : List Char) :
    byteLength (c :: cs) = c.utf8Size + byteLength cs := rfl

/-- Byte lengths add up over a concatenation. -/
@[simp] theorem byteLength_append (u v : List Char) :
    byteLength (u ++ v) = byteLength u + byteLength v := by
  induction u with
  | nil => simp
  | cons c u ih => simp [ih, Nat.add_assoc]

/-- Reading a text backwards does not change its size. -/
@[simp] theorem byteLength_reverse (u : List Char) : byteLength u.reverse = byteLength u := by
  induction u with
  | nil => rfl
  | cons c u ih => simp [ih, Nat.add_comm]

/-- The size of a string in bytes is that of its characters. -/
@[simp] theorem utf8ByteSize_ofList (u : List Char) :
    (String.ofList u).utf8ByteSize = byteLength u := by
  induction u with
  | nil => rfl
  | cons c u ih =>
      rw [← List.singleton_append, String.ofList_append, String.utf8ByteSize_append, ih]
      simp

/-- The characters of a string take as many bytes as the string has. -/
theorem byteLength_toList (s : String) : byteLength s.toList = s.utf8ByteSize := by
  rw [← utf8ByteSize_ofList, String.ofList_toList]

/-- Only the empty text takes no bytes. -/
theorem byteLength_eq_zero_iff {u : List Char} : byteLength u = 0 ↔ u = [] := by
  cases u with
  | nil => simp
  | cons c u =>
      have := Char.utf8Size_pos c
      simp only [byteLength_cons, reduceCtorEq, iff_false]
      omega

/-- The characters of a text that end at or before the byte offset `n`. -/
def takeBytes : Nat → List Char → List Char
  | _, [] => []
  | n, c :: cs => if c.utf8Size ≤ n then c :: takeBytes (n - c.utf8Size) cs else []

@[simp] theorem takeBytes_nil (n : Nat) : takeBytes n [] = [] := rfl

/-- No character ends at the very start of a text. -/
@[simp] theorem takeBytes_zero (u : List Char) : takeBytes 0 u = [] := by
  cases u with
  | nil => rfl
  | cons c u =>
      have := Char.utf8Size_pos c
      rw [takeBytes, if_neg (by omega)]

/-- An offset beyond a known front part takes that part and goes on in the rest. -/
@[simp] theorem takeBytes_append (u v : List Char) (n : Nat) :
    takeBytes (byteLength u + n) (u ++ v) = u ++ takeBytes n v := by
  induction u with
  | nil => simp
  | cons c u ih =>
      have hsub : c.utf8Size + byteLength u + n - c.utf8Size = byteLength u + n := by omega
      rw [List.cons_append, byteLength_cons, takeBytes, if_pos (by omega), hsub, ih,
        List.cons_append]

/-- The characters before the boundary at the end of `u` are those of `u`. -/
theorem takeBytes_byteLength_append (u v : List Char) : takeBytes (byteLength u) (u ++ v) = u := by
  simpa using takeBytes_append u v 0

/-- An offset within a front part takes what it takes of that part. -/
theorem takeBytes_append_of_le {u : List Char} {n : Nat} (h : n ≤ byteLength u) (v : List Char) :
    takeBytes n (u ++ v) = takeBytes n u := by
  induction u generalizing n with
  | nil =>
      obtain rfl : n = 0 := Nat.le_zero.mp h
      simp
  | cons c u ih =>
      rw [byteLength_cons] at h
      simp only [List.cons_append, takeBytes]
      split
      · rw [ih (by omega)]
      · rfl

/-- A greater offset takes no less. -/
theorem takeBytes_prefix_of_le {m n : Nat} (h : m ≤ n) (u : List Char) :
    takeBytes m u <+: takeBytes n u := by
  induction u generalizing m n with
  | nil => exact List.nil_prefix
  | cons c u ih =>
      by_cases hm : c.utf8Size ≤ m
      · rw [takeBytes, takeBytes, if_pos hm, if_pos (Nat.le_trans hm h), List.cons_prefix_cons]
        exact ⟨rfl, ih (Nat.sub_le_sub_right h _)⟩
      · rw [takeBytes, if_neg hm]
        exact List.nil_prefix

/-! ## Lines -/

/-- The number of line feeds in a piece of text. -/
def newlines (u : List Char) : Nat := u.count '\n'

@[simp] theorem newlines_nil : newlines [] = 0 := rfl

/-- Line feeds add up over a concatenation. -/
@[simp] theorem newlines_append (u v : List Char) : newlines (u ++ v) = newlines u + newlines v :=
  List.count_append

/-- The line of the byte offset `pos`: one more than the number of line feeds before it. -/
def lineAt (text : List Char) (pos : Nat) : Nat := 1 + newlines (takeBytes pos text)

/-- A text starts on line one. -/
@[simp] theorem lineAt_zero (text : List Char) : lineAt text 0 = 1 := by simp [lineAt]

/-- Behind a front part, lines are counted on from the line feeds of that part. -/
theorem lineAt_append (u v : List Char) (n : Nat) :
    lineAt (u ++ v) (byteLength u + n) = newlines u + lineAt v n := by
  simp only [lineAt, takeBytes_append, newlines_append]
  omega

/-- Within a front part, lines are counted as if nothing followed. -/
theorem lineAt_append_of_le {u : List Char} {n : Nat} (h : n ≤ byteLength u) (v : List Char) :
    lineAt (u ++ v) n = lineAt u n := by
  rw [lineAt, lineAt, takeBytes_append_of_le h]

/-- Lines do not decrease further on in a text. -/
theorem lineAt_le_lineAt {m n : Nat} (h : m ≤ n) (text : List Char) :
    lineAt text m ≤ lineAt text n :=
  Nat.add_le_add_left ((takeBytes_prefix_of_le h text).sublist.count_le '\n') 1

end ActionTemplate.Text
