import ActionTemplate.Text.Measure

/-!
# Slices of a text

A string is kept as its UTF-8 form, and a slice of it is given by two byte offsets. Only offsets
between two characters, or at an end of the text, bound a slice; in the midst of a character there is
nothing to cut. So `slice?` yields a slice exactly if the offsets are boundaries and in their order,
`slice?_isSome_iff`, and then it is the piece of the text between them, `slice?_eq_some_iff`.
-/

namespace ActionTemplate.Text

/-- Whether the byte offset `n` lies between two characters of a text, or at one of its ends. -/
def IsBoundary (text : String) (n : Nat) : Prop := (String.Pos.Raw.mk n).IsValid text
deriving Decidable

/-- The slice of a text between two byte offsets, if there is one. -/
def slice? (text : String) (front back : Nat) : Option String :=
  if h : front ≤ back ∧ IsBoundary text front ∧ IsBoundary text back then
    some (text.extract ⟨⟨front⟩, h.2.1⟩ ⟨⟨back⟩, h.2.2⟩)
  else none

/-! ## Boundaries -/

/-- A boundary has some of the characters in front of it and the others behind it. -/
theorem isBoundary_iff {text : String} {n : Nat} :
    IsBoundary text n ↔ ∃ u v, text.toList = u ++ v ∧ byteLength u = n := by
  rw [IsBoundary, String.Pos.Raw.isValid_iff_exists_append]
  constructor
  · rintro ⟨s, t, rfl, hn⟩
    refine ⟨s.toList, t.toList, String.toList_append, ?_⟩
    rw [byteLength_toList]
    exact congrArg String.Pos.Raw.byteIdx hn.symm
  · rintro ⟨u, v, htext, rfl⟩
    refine ⟨String.ofList u, String.ofList v, ?_, ?_⟩
    · rw [← String.ofList_append, ← htext, String.ofList_toList]
    · rw [String.Pos.Raw.ext_iff, String.byteIdx_rawEndPos, utf8ByteSize_ofList]

/-- No boundary lies behind the end of the text. -/
theorem IsBoundary.le {text : String} {n : Nat} (h : IsBoundary text n) : n ≤ text.utf8ByteSize := by
  obtain ⟨u, v, htext, rfl⟩ := isBoundary_iff.mp h
  rw [← byteLength_toList, htext, byteLength_append]
  exact Nat.le_add_right _ _

/-- A text begins at a boundary. -/
theorem isBoundary_zero (text : String) : IsBoundary text 0 :=
  isBoundary_iff.mpr ⟨[], text.toList, rfl, rfl⟩

/-- A text ends at a boundary. -/
theorem isBoundary_utf8ByteSize (text : String) : IsBoundary text text.utf8ByteSize :=
  isBoundary_iff.mpr ⟨text.toList, [], (List.append_nil _).symm, byteLength_toList text⟩

/-! ## Slices -/

/-- There is a slice between two boundaries in their order, and none otherwise. -/
theorem slice?_isSome_iff {text : String} {front back : Nat} :
    (slice? text front back).isSome ↔
      front ≤ back ∧ IsBoundary text front ∧ IsBoundary text back := by
  rw [slice?]
  split <;> simp_all

/-- In the midst of a character there is nothing to cut. -/
example : slice? "é" 0 1 = none := by decide

/-- The middle one of three pieces is the slice from where it begins to where it ends. -/
theorem slice?_append (s t u : String) :
    slice? (s ++ (t ++ u)) s.utf8ByteSize (s.utf8ByteSize + t.utf8ByteSize) = some t := by
  have hfront : IsBoundary (s ++ (t ++ u)) s.utf8ByteSize :=
    isBoundary_iff.mpr ⟨s.toList, (t ++ u).toList, String.toList_append, byteLength_toList s⟩
  have hback : IsBoundary (s ++ (t ++ u)) (s.utf8ByteSize + t.utf8ByteSize) :=
    isBoundary_iff.mpr ⟨(s ++ t).toList, u.toList, by simp, by simp [byteLength_toList]⟩
  have hbytes := ByteArray.extract_append_size_add (a := s.toByteArray)
    (b := t.toByteArray ++ u.toByteArray) (i := 0) (j := t.utf8ByteSize)
  rw [String.size_toByteArray, Nat.add_zero,
    ByteArray.extract_append_eq_left String.size_toByteArray.symm] at hbytes
  rw [slice?, dif_pos ⟨Nat.le_add_right _ _, hfront, hback⟩, Option.some.injEq,
    ← String.toByteArray_inj, String.toByteArray_extract, String.toByteArray_append,
    String.toByteArray_append]
  exact hbytes

/-- A slice is the piece of the text between the two offsets. -/
theorem slice?_eq_some_iff {text piece : String} {front back : Nat} :
    slice? text front back = some piece ↔
      ∃ u v, text.toList = u ++ (piece.toList ++ v) ∧ byteLength u = front ∧
        front + byteLength piece.toList = back := by
  constructor
  · intro h
    obtain ⟨hle, hfront, hback⟩ := slice?_isSome_iff.mp (Option.isSome_iff_exists.mpr ⟨piece, h⟩)
    obtain ⟨s, _, hs, hsize⟩ := String.Pos.Raw.isValid_iff_exists_append.mp hfront
    obtain ⟨_, u, hw, hsize'⟩ := String.Pos.Raw.isValid_iff_exists_append.mp hback
    -- what lies in front of the second boundary begins with what lies in front of the first one
    have hsplits : (⟨⟨front⟩, hfront⟩ : text.Pos).Splits _ _ := ⟨hs, hsize⟩
    have hsplits' : (⟨⟨back⟩, hback⟩ : text.Pos).Splits _ _ := ⟨hw, hsize'⟩
    obtain ⟨t, rfl, rfl⟩ := (hsplits.le_iff_exists_eq_append hsplits').mp hle
    obtain rfl : front = s.utf8ByteSize := congrArg String.Pos.Raw.byteIdx hsize
    obtain rfl : back = (s ++ t).utf8ByteSize := congrArg String.Pos.Raw.byteIdx hsize'
    rw [String.utf8ByteSize_append, hs, slice?_append, Option.some.injEq] at h
    subst h
    exact ⟨s.toList, u.toList, by simp [hs], byteLength_toList s, by simp [byteLength_toList]⟩
  · rintro ⟨u, v, htext, rfl, rfl⟩
    have hstring : text = String.ofList u ++ (piece ++ String.ofList v) := by
      rw [← String.toList_inj, htext]
      simp
    rw [hstring, ← utf8ByteSize_ofList u, byteLength_toList, slice?_append]

end ActionTemplate.Text
