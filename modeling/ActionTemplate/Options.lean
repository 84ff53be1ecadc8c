import ActionTemplate.Feed

/-!
# Options of a parse

A parse is told how tokens reach it and which functions a template may call. The functions are given
in tables; of each table only the names matter here, as a parse calls none of them. A table carries
that its names are in ascending order, so it has each of them once.
-/

namespace ActionTemplate

/-! ## Function tables -/

/-- Add a name to an ascending list of names, unless it is there already. -/
def insertName (name : String) : List String → List String
  | [] => [name]
  | other :: names =>
      if name = other then other :: names
      else if name < other then name :: other :: names
      else other :: insertName name names

/-- The added name and the old ones are the names afterwards. -/
theorem mem_insertName {name n : String} {names : List String} :
    n ∈ insertName name names ↔ n = name ∨ n ∈ names := by
  induction names with
  | nil => simp [insertName]
  | cons other names ih =>
      simp only [insertName]
      split
      · rename_i heq
        subst heq
        simp
      · split
        · simp
        · simp only [List.mem_cons, ih]
          constructor
          · rintro (h | h | h) <;> simp [h]
          · rintro (h | h | h) <;> simp [h]

/-- Adding a name leaves the names in ascending order, each of them once. -/
theorem pairwise_insertName {name : String} {names : List String} (h : names.Pairwise (· < ·)) :
    (insertName name names).Pairwise (· < ·) := by
  induction names with
  | nil => exact List.pairwise_singleton _ name
  | cons other names ih =>
      obtain ⟨hother, hnames⟩ := List.pairwise_cons.mp h
      simp only [insertName]
      split
      · exact h
      · rename_i hne
        split
        · rename_i hlt
          refine List.pairwise_cons.mpr ⟨?_, h⟩
          intro n hn
          rcases List.mem_cons.mp hn with rfl | hn
          · exact hlt
          · exact String.lt_trans hlt (hother n hn)
        · rename_i hnot
          -- of two different names the one that is not smaller is greater
          have hlt : other < name :=
            String.not_le.mp fun hle => hne (String.le_antisymm hle (String.not_lt.mp hnot))
          refine List.pairwise_cons.mpr ⟨?_, ih hnames⟩
          intro n hn
          rcases mem_insertName.mp hn with rfl | hn
          · exact hlt
          · exact hother n hn

/-- The functions that a template may call, by name. -/
structure FunctionTable where
  /-- The names of the functions. -/
  names : List String
  /-- The names stand in ascending order, each of them once. -/
  ascending : names.Pairwise (· < ·)
  deriving DecidableEq, Repr

namespace FunctionTable

/-- The table without functions. -/
def empty : FunctionTable := ⟨[], .nil⟩

/-- The table with a function of the given name. There is at most one of each name. -/
def insert (table : FunctionTable) (name : String) : FunctionTable :=
  ⟨insertName name table.names, pairwise_insertName table.ascending⟩

/-- The table of the functions with the given names, which may repeat. -/
def ofNames (names : List String) : FunctionTable :=
  names.foldr (fun name table => table.insert name) empty

/-- A table has exactly the names it was made from. -/
theorem mem_ofNames {n : String} {names : List String} :
    n ∈ (ofNames names).names ↔ n ∈ names := by
  induction names with
  | nil => simp [ofNames, empty]
  | cons name names ih =>
      have hinsert : (ofNames (name :: names)).names = insertName name (ofNames names).names := rfl
      rw [hinsert, mem_insertName, ih, List.mem_cons]

end FunctionTable

/-! ## Options -/

/-- What a parse is told besides the text. -/
structure Options where
  /-- How tokens reach the parse. -/
  delivery : Delivery := .concurrent
  /-- The tables of functions, in the order in which they are to be consulted. -/
  functions : List FunctionTable := []
  deriving DecidableEq, Repr, Inhabited

namespace Options

/-- The options with another delivery. -/
def withDelivery (o : Options) (delivery : Delivery) : Options := { o with delivery }

/-- The options with one more table, to be consulted after the others. -/
def withFunctions (o : Options) (table : FunctionTable) : Options :=
  { o with functions := o.functions ++ [table] }

end Options

end ActionTemplate
