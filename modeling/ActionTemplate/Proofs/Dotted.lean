import ActionTemplate.Node

/-!
# Dotted references

A reference is written with its pieces joined by dots, and it is read from such a form by taking the
form apart at its dots. A piece may be empty: dots at either end of a form, or next to each other, have
empty pieces around them, and the empty form has one empty piece. So every form has at least one
piece, and no piece has a dot in it, `Undotted`.

On lists of pieces of this kind the two ways are inverse to each other. `display_ofDotted` leads from
a form to its pieces and back, `ofDotted_intercalate` from pieces to their form and back, and
`reads_back_as_written` is both of them, with what follows for two references that are written alike.
-/

namespace ActionTemplate

namespace Node

/-- There is at least one piece, and none has a dot in it. -/
structure Undotted (ident : List String) : Prop where
  ne_nil : ident ≠ []
  not_mem : ∀ piece ∈ ident, '.' ∉ piece.toList

/-! ## Taking a form apart -/

/-- No piece of a text that is taken apart at a character has that character in it. -/
theorem not_mem_of_mem_splitOn {x : Char} {text piece : List Char} (h : piece ∈ text.splitOn x) :
    x ∉ piece := by
  induction text generalizing piece with
  | nil =>
      rw [List.splitOn_nil, List.mem_singleton] at h
      rw [h]
      exact List.not_mem_nil
  | cons c text ih =>
      rw [List.splitOn_cons_eq_if_modifyHead] at h
      split at h
      · -- the character itself is taken apart: an empty piece in front of those of the rest
        rcases List.mem_cons.mp h with rfl | hrest
        · exact List.not_mem_nil
        · exact ih hrest
      · rename_i hc
        -- any other character belongs to the first piece of the rest
        obtain ⟨first, others, hsplit⟩ := List.exists_cons_of_ne_nil (List.splitOn_ne_nil x text)
        rw [hsplit] at ih h
        rcases List.mem_cons.mp h with rfl | hother
        · intro hx
          rcases List.mem_cons.mp hx with rfl | hfirst
          · exact hc (beq_self_eq_true x)
          · exact ih List.mem_cons_self hfirst
        · exact ih (List.mem_cons_of_mem first hother)

/-- The pieces that a form is taken apart into. -/
theorem undotted_splitOn (dotted : String) :
    Undotted ((dotted.toList.splitOn '.').map String.ofList) := by
  constructor
  case ne_nil => simp [List.splitOn_ne_nil]
  case not_mem =>
    intro piece hpiece
    obtain ⟨letters, hletters, rfl⟩ := List.mem_map.mp hpiece
    rw [String.toList_ofList]
    exact not_mem_of_mem_splitOn hletters

/-! ## There and back -/

/-- A reference read from a form is written as that form. -/
theorem display_ofDotted (pos : Nat) (dotted : String) : (ofDotted pos dotted).display = dotted := by
  have hletters : ((dotted.toList.splitOn '.').map String.ofList).map String.toList =
      dotted.toList.splitOn '.' := by
    simp
  rw [ofDotted, display, ← String.toList_inj, String.toList_intercalate, hletters]
  exact List.intercalate_splitOn '.'

/-- Pieces are read back from the form they are written in. -/
theorem ofDotted_intercalate (pos : Nat) {ident : List String} (h : Undotted ident) :
    ofDotted pos (".".intercalate ident) = reference pos ident := by
  have hne : ident.map String.toList ≠ [] := by simpa using h.ne_nil
  have hnot : ∀ letters ∈ ident.map String.toList, '.' ∉ letters := by
    intro letters hletters
    obtain ⟨piece, hpiece, rfl⟩ := List.mem_map.mp hletters
    exact h.not_mem piece hpiece
  have hsplit : (".".intercalate ident).toList.splitOn '.' = ident.map String.toList := by
    rw [String.toList_intercalate]
    exact List.splitOn_intercalate '.' hnot hne
  rw [ofDotted, hsplit]
  simp

/-- Reading a form and writing pieces are inverse to each other, between all texts and all lists of at
least one piece without dots. So at one place two references are equal exactly if they are written
alike, be they put together from such pieces or read from a form. -/
theorem reads_back_as_written (pos : Nat) :
    (∀ dotted : String, ∃ ident, Undotted ident ∧ ofDotted pos dotted = reference pos ident ∧
        (reference pos ident).display = dotted) ∧
      (∀ ident, Undotted ident → ofDotted pos (reference pos ident).display = reference pos ident) ∧
      (∀ ident ident', Undotted ident → Undotted ident' →
        (reference pos ident = reference pos ident' ↔
          (reference pos ident).display = (reference pos ident').display)) ∧
      ∀ dotted dotted', ofDotted pos dotted = ofDotted pos dotted' ↔
        (ofDotted pos dotted).display = (ofDotted pos dotted').display := by
  have hback : ∀ ident, Undotted ident →
      ofDotted pos (reference pos ident).display = reference pos ident := by
    intro ident h
    rw [display]
    exact ofDotted_intercalate pos h
  refine ⟨?_, hback, ?_, ?_⟩
  · intro dotted
    exact ⟨_, undotted_splitOn dotted, rfl, display_ofDotted pos dotted⟩
  · intro ident ident' h h'
    constructor
    · exact congrArg display
    · intro hdisplay
      rw [← hback ident h, ← hback ident' h', hdisplay]
  · intro dotted dotted'
    constructor
    · exact congrArg display
    · intro hdisplay
      rw [display_ofDotted, display_ofDotted] at hdisplay
      rw [hdisplay]

/-- A reference with empty pieces in the middle and at its end, and one without them. -/
theorem reads_back_as_written_with_empty_pieces :
    (Undotted ["$x", "", "name", ""] ∧ Undotted ["$x", "name"]) ∧
      ofDotted 2 "$x..name." = reference 2 ["$x", "", "name", ""] ∧
      (reference 2 ["$x", "", "name", ""] = reference 2 ["$x", "name"] ↔
        (reference 2 ["$x", "", "name", ""]).display = (reference 2 ["$x", "name"]).display) := by
  have hpieces : Undotted ["$x", "", "name", ""] := ⟨by decide, by decide⟩
  have hpieces' : Undotted ["$x", "name"] := ⟨by decide, by decide⟩
  obtain ⟨-, hback, hequal, -⟩ := reads_back_as_written 2
  exact ⟨⟨hpieces, hpieces'⟩, hback _ hpieces, hequal _ _ hpieces hpieces'⟩

end Node

end ActionTemplate
