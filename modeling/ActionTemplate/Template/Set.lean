import ActionTemplate.Template.Basic

/-!
# Sets of templates

A set of templates has at most one template under each name. A template with content is never
replaced: `register` puts a template into the set if its name is free or the template registered
under it is empty, and otherwise leaves the set as it is.

The main facts are `get?_put_self` and `get?_put_of_ne`, which say what is found under a name after
a template has been put in.
-/

namespace ActionTemplate

namespace TemplateSet

/-! ## Entries -/

/-- Put a template under a name, in the place of the one there or behind all others. -/
def putEntry (name : String) (t : Template) : List (String × Template) → List (String × Template)
  | [] => [(name, t)]
  | (key, old) :: entries =>
      if key = name then (key, t) :: entries else (key, old) :: putEntry name t entries

/-- The names after a template was put in: the name is new, or all stay. -/
theorem keys_putEntry (name : String) (t : Template) (entries : List (String × Template)) :
    (putEntry name t entries).map Prod.fst =
      if name ∈ entries.map Prod.fst then entries.map Prod.fst
      else entries.map Prod.fst ++ [name] := by
  induction entries with
  | nil => simp [putEntry]
  | cons entry entries ih =>
      obtain ⟨key, old⟩ := entry
      simp only [putEntry]
      by_cases hkey : key = name
      · simp [hkey]
      · rw [if_neg hkey, List.map_cons, ih]
        have hne : ¬name = key := fun h => hkey h.symm
        by_cases hmem : name ∈ entries.map Prod.fst <;> simp_all

/-- Names stay different. -/
theorem nodup_keys_putEntry (name : String) (t : Template) {entries : List (String × Template)}
    (h : (entries.map Prod.fst).Nodup) : ((putEntry name t entries).map Prod.fst).Nodup := by
  rw [keys_putEntry]
  split
  · exact h
  · rename_i hnew
    rw [List.nodup_append]
    refine ⟨h, by simp, ?_⟩
    intro key hkey other hother
    rw [List.mem_singleton] at hother
    rintro rfl
    exact hnew (hother ▸ hkey)

/-- The template put under a name is found there. -/
theorem lookup_putEntry_self (name : String) (t : Template) (entries : List (String × Template)) :
    (putEntry name t entries).lookup name = some t := by
  induction entries with
  | nil => simp [putEntry]
  | cons entry entries ih =>
      obtain ⟨key, old⟩ := entry
      simp only [putEntry]
      by_cases hkey : key = name
      · simp [hkey]
      · have hne : (name == key) = false := by simpa using fun h : name = key => hkey h.symm
        rw [if_neg hkey, List.lookup_cons, hne]
        exact ih

/-- Under any other name the template found is the one found before. -/
theorem lookup_putEntry_of_ne {name other : String} (h : other ≠ name) (t : Template)
    (entries : List (String × Template)) :
    (putEntry name t entries).lookup other = entries.lookup other := by
  induction entries with
  | nil => simp [putEntry, h]
  | cons entry entries ih =>
      obtain ⟨key, old⟩ := entry
      simp only [putEntry]
      by_cases hkey : key = name
      · have hne : (other == key) = false := by simpa [hkey] using h
        simp [hkey ▸ hne, hkey, List.lookup_cons]
      · rw [if_neg hkey, List.lookup_cons, List.lookup_cons, ih]

/-- What a list of entries has after a template was put in is that template or was there before. -/
theorem eq_or_mem_of_mem_putEntry {name : String} {t : Template} {entry : String × Template}
    {entries : List (String × Template)} (h : entry ∈ putEntry name t entries) :
    entry = (name, t) ∨ entry ∈ entries := by
  induction entries with
  | nil => exact Or.inl (List.mem_singleton.mp h)
  | cons first entries ih =>
      obtain ⟨key, old⟩ := first
      simp only [putEntry] at h
      split at h
      · rename_i hkey
        rcases List.mem_cons.mp h with rfl | h
        · exact Or.inl (by rw [hkey])
        · exact Or.inr (List.mem_cons_of_mem _ h)
      · rcases List.mem_cons.mp h with rfl | h
        · exact Or.inr List.mem_cons_self
        · exact (ih h).imp_right (List.mem_cons_of_mem _)

end TemplateSet

/-! ## Sets -/

/-- Templates by name. -/
structure TemplateSet where
  /-- The templates, each with its name, in the order in which the names came. -/
  entries : List (String × Template)
  /-- No name occurs twice. -/
  nodup : (entries.map Prod.fst).Nodup
  deriving DecidableEq

namespace TemplateSet

/-- The set without templates. -/
def empty : TemplateSet := ⟨[], by simp⟩

instance : EmptyCollection TemplateSet := ⟨empty⟩

instance : Inhabited TemplateSet := ⟨empty⟩

/-- The number of templates. -/
def size (s : TemplateSet) : Nat := s.entries.length

/-- Whether there are no templates. -/
def isEmpty (s : TemplateSet) : Bool := s.entries.isEmpty

/-- The names of the templates. -/
def names (s : TemplateSet) : List String := s.entries.map Prod.fst

/-- The template under a name. -/
def get? (s : TemplateSet) (name : String) : Option Template := s.entries.lookup name

/-- Whether there is a template under a name. -/
def contains (s : TemplateSet) (name : String) : Bool := (s.get? name).isSome

/-- Put a template under its name, whatever is there. -/
def put (s : TemplateSet) (t : Template) : TemplateSet :=
  ⟨putEntry t.name t s.entries, nodup_keys_putEntry t.name t s.nodup⟩

@[simp] theorem get?_empty (name : String) : empty.get? name = none := rfl

/-- The template put in is found under its name. -/
theorem get?_put_self (s : TemplateSet) (t : Template) : (s.put t).get? t.name = some t :=
  lookup_putEntry_self t.name t s.entries

/-- All other names are left alone. -/
theorem get?_put_of_ne {name : String} (s : TemplateSet) (t : Template) (h : name ≠ t.name) :
    (s.put t).get? name = s.get? name :=
  lookup_putEntry_of_ne h t s.entries

/-- Put a template under its name unless one with content is there. The result is the template that
is under the name then, and the set. -/
def register (s : TemplateSet) (t : Template) : Template × TemplateSet :=
  match s.get? t.name with
  | none => (t, s.put t)
  | some old => if old.isEmpty then (t, s.put t) else (old, s)

/-- The template that `register` returns is the one found under the name afterwards. -/
theorem get?_register_self (s : TemplateSet) (t : Template) :
    (s.register t).2.get? t.name = some (s.register t).1 := by
  rw [register]
  split
  · exact s.get?_put_self t
  · rename_i old hold
    split
    · exact s.get?_put_self t
    · exact hold

/-- The template found under the name afterwards is the new one, unless the old one has content. -/
theorem get?_register (s : TemplateSet) (t : Template) :
    (s.register t).2.get? t.name = match s.get? t.name with
      | none => some t
      | some old => if old.isEmpty then some t else some old := by
  rw [get?_register_self]
  unfold register
  cases s.get? t.name with
  | none => rfl
  | some old => cases hold : old.isEmpty <;> simp [hold]

/-- What a set has after a template was registered is that template or was there before. -/
theorem eq_or_mem_of_mem_register {s : TemplateSet} {t : Template} {entry : String × Template}
    (h : entry ∈ (s.register t).2.entries) : entry = (t.name, t) ∨ entry ∈ s.entries := by
  rw [register] at h
  split at h
  · exact eq_or_mem_of_mem_putEntry h
  · split at h
    · exact eq_or_mem_of_mem_putEntry h
    · exact Or.inr h

/-- Registering a template leaves all other names alone. -/
theorem get?_register_of_ne {name : String} (s : TemplateSet) (t : Template) (h : name ≠ t.name) :
    (s.register t).2.get? name = s.get? name := by
  rw [register]
  split
  · exact s.get?_put_of_ne t h
  · split
    · exact s.get?_put_of_ne t h
    · rfl

end TemplateSet

end ActionTemplate
