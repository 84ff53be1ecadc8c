import ActionTemplate.Proofs.Reading
import Mathlib.Data.List.DropRight

/-!
# The history of a set

A set of templates is filled by parses and may be cleared in between. What it holds is told by its
`recent` history, the operations after the last clear or failed parse: under each name the first
template with content, or else the last one. `kept` is that rule, and `kept_concat` shows that
registering one template after the other amounts to it.

`Follows` collects what holds of a set with a given recent history, and of the next parse in it. It
is shown of all sets that a history leads to, of whatever length, from the empty set.
-/

namespace ActionTemplate

open Text

namespace TemplateSet

/-! ## The template that is kept -/

/-- The first template with content, or the last one if there is none with content. -/
def kept (templates : List Template) : Option Template :=
  (templates.find? fun t => !t.isEmpty).or templates.getLast?

/-- A new template is kept if none was or the one that was has no content. -/
theorem kept_concat (templates : List Template) (t : Template) :
    kept (templates ++ [t]) = match kept templates with
      | none => some t
      | some old => if old.isEmpty then some t else some old := by
  unfold kept
  rw [List.find?_append, List.getLast?_concat]
  cases hfind : templates.find? fun t => !t.isEmpty with
  | some old =>
      -- the first template with content stays the first
      have hold : old.isEmpty = false := by simpa using List.find?_some hfind
      simp [hold]
  | none =>
      -- so far the last one was kept, and the new one is the last now, with content or without
      have hnew : ([t].find? fun t => !t.isEmpty).or (some t) = some t := by
        cases ht : t.isEmpty <;> simp [ht]
      rw [Option.none_or, Option.none_or, hnew]
      cases hlast : templates.getLast? with
      | none => rfl
      | some old =>
          have hold : old.isEmpty = true := by
            simpa using List.find?_eq_none.mp hfind old (List.mem_of_getLast? hlast)
          simp [hold]

/-- Nothing is kept of nothing. -/
theorem kept_eq_none_iff {templates : List Template} : kept templates = none ↔ templates = [] := by
  unfold kept
  rw [Option.or_eq_none_iff, List.getLast?_eq_none_iff]
  constructor
  · exact And.right
  · rintro rfl
    exact ⟨rfl, rfl⟩

/-! ## Operations -/

/-- The operations that change a set. -/
inductive Operation where
  /-- Read a text as the body of a new template and register it. -/
  | parse (name text : String) (options : Options)
  /-- Remove all templates. -/
  | clear
  deriving DecidableEq, Repr

variable [Alphabet]

/-- The set after an operation. -/
def perform (s : TemplateSet) : Operation → TemplateSet
  | .parse name text options => (({ name } : Template).parse text options s).2
  | .clear => .empty

/-- The set after several operations. -/
def performAll (s : TemplateSet) (ops : List Operation) : TemplateSet := ops.foldl perform s

/-- Whether an operation is a parse and does not fail. -/
def succeeds (s : TemplateSet) : Operation → Bool
  | .parse name text options => (({ name } : Template).parse text options s).1.isOk
  | .clear => false

/-- The operations of a history, each with whether it succeeds where it stands. -/
def outcomes (s : TemplateSet) : List Operation → List (Operation × Bool)
  | [] => []
  | op :: ops => (op, s.succeeds op) :: outcomes (s.perform op) ops

/-- The operations of a history that come after the last clear or failed parse. -/
def recent (ops : List Operation) : List Operation :=
  ((outcomes .empty ops).rtakeWhile Prod.snd).map Prod.fst

/-- The last operation of a history acts on what the others lead to. -/
theorem performAll_concat (s : TemplateSet) (ops : List Operation) (op : Operation) :
    s.performAll (ops ++ [op]) = (s.performAll ops).perform op := by
  rw [performAll, List.foldl_append]
  rfl

/-- The last operation of a history succeeds or fails where the others lead to. -/
theorem outcomes_concat (s : TemplateSet) (ops : List Operation) (op : Operation) :
    s.outcomes (ops ++ [op]) = s.outcomes ops ++ [(op, (s.performAll ops).succeeds op)] := by
  induction ops generalizing s with
  | nil => rfl
  | cons first ops ih =>
      rw [List.cons_append, outcomes, ih]
      rfl

/-- An operation that succeeds is remembered, and any other makes the history start anew. -/
theorem recent_concat (ops : List Operation) (op : Operation) :
    recent (ops ++ [op]) = if (performAll .empty ops).succeeds op then recent ops ++ [op] else [] := by
  unfold recent
  rw [outcomes_concat, List.rtakeWhile_concat]
  show List.map Prod.fst (if (performAll .empty ops).succeeds op then _ else _) = _
  split
  · rw [List.map_append]
    rfl
  · rfl

/-! ## One parse -/

/-- What a text is read as under a name, with no other templates about. -/
def readAlone (name text : String) (options : Options) : Except ParseError Template :=
  (({ name } : Template).parse text options .empty).1

/-- The templates that the parses of one name in a history yield. -/
def templatesOf (name : String) (ops : List Operation) : List Template :=
  ops.filterMap fun op =>
    match op with
    | .parse other text options =>
        if other = name then (readAlone other text options).toOption else none
    | .clear => none

/-- A text alone is read as its content. -/
theorem readAlone_eq (name text : String) (options : Options) :
    readAlone name text options = match Template.contentOf text with
      | .error offence => .error ⟨offence.fault, name, lineAt text.toList offence.pos⟩
      | .ok nodes => .ok (Template.read name text nodes) := by
  unfold readAlone
  rw [Template.parse_eq]
  cases Template.contentOf text <;> rfl

/-- A parse fails where it fails alone, or where content would take the place of content. Otherwise
it registers the template that it yields alone. -/
theorem parse_cases (s : TemplateSet) (name text : String) (options : Options) :
    (∃ e, readAlone name text options = .error e ∧
        ({ name } : Template).parse text options s = (.error e, .empty)) ∨
      (∃ old new, s.get? name = some old ∧ old.isEmpty = false ∧
        readAlone name text options = .ok new ∧ new.isEmpty = false ∧
        ({ name } : Template).parse text options s =
          (.error ⟨.multipleDefinition name, name, 1 + newlines text.toList⟩, .empty)) ∨
      ∃ new, readAlone name text options = .ok new ∧
        (∀ old, s.get? name = some old → old.isEmpty = true ∨ new.isEmpty = true) ∧
        ({ name } : Template).parse text options s =
          (.ok (s.register new).1, (s.register new).2) := by
  rw [readAlone_eq, Template.parse_eq]
  cases Template.contentOf text with
  | error offence => exact Or.inl ⟨_, rfl, rfl⟩
  | ok nodes =>
      dsimp only
      generalize Template.read name text nodes = new
      cases hold : s.get? name with
      | none => exact Or.inr (Or.inr ⟨new, rfl, by simp, by simp⟩)
      | some old =>
          cases hfull : Template.conflicts old new with
          | true =>
              have hboth : old.isEmpty = false ∧ new.isEmpty = false := by
                simpa [Template.conflicts] using hfull
              refine Or.inr (Or.inl ⟨old, new, rfl, hboth.1, rfl, hboth.2, ?_⟩)
              simp [hfull]
          | false =>
              refine Or.inr (Or.inr ⟨new, rfl, ?_, by simp [hfull]⟩)
              rintro other heq
              cases heq
              unfold Template.conflicts at hfull
              cases hempty : old.isEmpty with
              | true => exact Or.inl rfl
              | false => simpa [hempty] using hfull

/-- The two ways in which a parse fails. -/
theorem parse_eq_error_iff (s : TemplateSet) (name text : String) (options : Options)
    (e : ParseError) :
    (({ name } : Template).parse text options s).1 = .error e ↔
      readAlone name text options = .error e ∨
        ∃ old new, s.get? name = some old ∧ old.isEmpty = false ∧
          readAlone name text options = .ok new ∧ new.isEmpty = false ∧
          e = ⟨.multipleDefinition name, name, 1 + newlines text.toList⟩ := by
  rcases s.parse_cases name text options with ⟨e', halone, hparse⟩ |
    ⟨old, new, hold, hfull, halone, hnew, hparse⟩ | ⟨new, halone, hfree, hparse⟩
  · simp [halone, hparse]
  · rw [hparse, halone]
    constructor
    · rintro ⟨⟩
      exact Or.inr ⟨old, new, hold, hfull, rfl, hnew, rfl⟩
    · rintro (⟨⟨⟩⟩ | ⟨-, -, -, -, -, -, rfl⟩)
      rfl
  · rw [hparse, halone]
    constructor
    · rintro ⟨⟩
    · rintro (⟨⟨⟩⟩ | ⟨old, new', hold, hfull, heq, hnew, -⟩)
      cases heq
      rcases hfree old hold with hempty | hempty
      · rw [hempty] at hfull
        cases hfull
      · rw [hempty] at hnew
        cases hnew

/-- A parse that fails leaves no template. -/
theorem parse_eq_empty {s : TemplateSet} {name text : String} {options : Options} {e : ParseError}
    (h : (({ name } : Template).parse text options s).1 = .error e) :
    (({ name } : Template).parse text options s).2 = .empty := by
  rcases s.parse_cases name text options with ⟨e', -, hparse⟩ |
    ⟨old, new, -, -, -, -, hparse⟩ | ⟨new, -, -, hparse⟩
  · rw [hparse]
  · rw [hparse]
  · rw [hparse] at h
    cases h

/-- The template that a parse yields alone has the name of the parse. -/
theorem name_of_readAlone {name text : String} {options : Options} {t : Template}
    (h : readAlone name text options = .ok t) : t.name = name := by
  rw [readAlone_eq] at h
  cases hcontent : Template.contentOf text with
  | error offence => simp [hcontent] at h
  | ok nodes =>
      rw [hcontent] at h
      cases h
      rfl

/-- A parse that does not fail returns what is found under its name afterwards, and leaves all other
names alone. -/
theorem get?_parse {s : TemplateSet} {name text : String} {options : Options} {t : Template}
    (h : (({ name } : Template).parse text options s).1 = .ok t) :
    (({ name } : Template).parse text options s).2.get? name = some t ∧
      ∀ other, other ≠ name →
        (({ name } : Template).parse text options s).2.get? other = s.get? other := by
  rcases s.parse_cases name text options with ⟨e, -, hparse⟩ |
    ⟨old, new, -, -, -, -, hparse⟩ | ⟨new, halone, -, hparse⟩
  · rw [hparse] at h
    cases h
  · rw [hparse] at h
    cases h
  · have hname := name_of_readAlone halone
    rw [hparse] at h ⊢
    cases h
    constructor
    · have hself := s.get?_register_self new
      rwa [hname] at hself
    · intro other hother
      exact s.get?_register_of_ne new (by rwa [hname])

/-- One parse more in a history yields one template more of its name. -/
theorem templatesOf_concat {other text : String} {options : Options} {t : Template}
    (h : readAlone other text options = .ok t) (name : String) (ops : List Operation) :
    templatesOf name (ops ++ [.parse other text options]) =
      if other = name then templatesOf name ops ++ [t] else templatesOf name ops := by
  unfold templatesOf
  rw [List.filterMap_append]
  by_cases hname : other = name
  · simp [hname, hname ▸ h, Except.toOption]
  · simp [hname]

/-- An operation that succeeds is a parse, and it registers the template that it yields alone. -/
theorem exists_of_succeeds {s : TemplateSet} {op : Operation} (h : s.succeeds op = true) :
    ∃ name text options t, op = .parse name text options ∧ readAlone name text options = .ok t ∧
      s.perform op = (s.register t).2 := by
  cases op with
  | clear => cases h
  | parse name text options =>
      simp only [succeeds, perform] at h ⊢
      rcases s.parse_cases name text options with ⟨e, -, hparse⟩ | ⟨old, new, -, -, -, -, hparse⟩ |
        ⟨new, halone, -, hparse⟩
      · rw [hparse] at h
        cases h
      · rw [hparse] at h
        cases h
      · exact ⟨name, text, options, new, rfl, halone, by rw [hparse]⟩

/-- Any other operation leaves the set empty. -/
theorem perform_of_not_succeeds {s : TemplateSet} {op : Operation} (h : s.succeeds op = false) :
    s.perform op = .empty := by
  cases op with
  | clear => rfl
  | parse name text options =>
      simp only [succeeds, perform] at h ⊢
      rcases s.parse_cases name text options with ⟨e, -, hparse⟩ | ⟨old, new, -, -, -, -, hparse⟩ |
        ⟨new, halone, -, hparse⟩
      · rw [hparse]
      · rw [hparse]
      · rw [hparse] at h
        cases h

/-! ## Histories -/

/-- Under each name a set has the template that its recent history makes it keep. -/
theorem get?_performAll (ops : List Operation) (name : String) :
    (performAll .empty ops).get? name = kept (templatesOf name (recent ops)) := by
  induction ops using List.reverseRecOn with
  | nil => rfl
  | append_singleton ops op ih =>
      rw [performAll_concat, recent_concat]
      -- the last operation adds one template to what is remembered, or makes all be forgotten
      cases hop : (performAll .empty ops).succeeds op with
      | false =>
          rw [perform_of_not_succeeds hop]
          rfl
      | true =>
          obtain ⟨other, text, options, t, rfl, halone, hperform⟩ := exists_of_succeeds hop
          have hother := name_of_readAlone halone
          rw [hperform, if_pos rfl, templatesOf_concat halone]
          by_cases hname : other = name
          · rw [if_pos hname, kept_concat, ← ih, ← hname, ← hother]
            exact get?_register _ t
          · rw [if_neg hname, ← ih]
            exact get?_register_of_ne _ t fun heq => hname (by rw [heq, hother])

/-- What is remembered of a history are parses that yield a template alone, too. -/
theorem exists_of_mem_recent {ops : List Operation} {op : Operation} (h : op ∈ recent ops) :
    ∃ name text options t, op = .parse name text options ∧ readAlone name text options = .ok t := by
  induction ops using List.reverseRecOn with
  | nil => cases h
  | append_singleton ops last ih =>
      rw [recent_concat] at h
      split at h
      · rename_i hlast
        rcases List.mem_append.mp h with h | h
        · exact ih h
        · obtain ⟨name, text, options, t, hop, halone, -⟩ := exists_of_succeeds hlast
          rw [List.mem_singleton.mp h]
          exact ⟨name, text, options, t, hop, halone⟩
      · cases h

/-- A name is in a set if it was parsed in its recent history. -/
theorem contains_performAll_iff (ops : List Operation) (name : String) :
    (performAll .empty ops).contains name = true ↔
      ∃ text options, .parse name text options ∈ recent ops := by
  unfold contains
  rw [get?_performAll, ← Option.ne_none_iff_isSome, Ne, kept_eq_none_iff]
  unfold templatesOf
  rw [List.filterMap_eq_nil_iff]
  constructor
  · intro h
    push Not at h
    obtain ⟨op, hop, hsome⟩ := h
    obtain ⟨other, text, options, t, rfl, -⟩ := exists_of_mem_recent hop
    by_cases hname : other = name
    · exact ⟨text, options, hname ▸ hop⟩
    · simp [hname] at hsome
  · rintro ⟨text, options, hop⟩ h
    obtain ⟨other, text', options', t, heq, halone⟩ := exists_of_mem_recent hop
    cases heq
    have hnone := h _ hop
    simp [halone, Except.toOption] at hnone

/-! ## The law -/

/-- What holds of a set with the given recent history, and of any parse that comes next. -/
structure Follows (s : TemplateSet) (recent : List Operation) : Prop where
  /-- A name is in the set if one of the operations parsed it. -/
  contains_iff : ∀ name, s.contains name = true ↔ ∃ text options, .parse name text options ∈ recent
  /-- Its template is the first that came out with content, or else the last. -/
  get?_eq : ∀ name, s.get? name = kept (templatesOf name recent)
  /-- A parse fails as it does alone, or else because the name has content and gets some again. -/
  error_iff : ∀ name text options e,
    (({ name } : Template).parse text options s).1 = .error e ↔
      readAlone name text options = .error e ∨
        ∃ old new, s.get? name = some old ∧ old.isEmpty = false ∧
          readAlone name text options = .ok new ∧ new.isEmpty = false ∧
          e = ⟨.multipleDefinition name, name, 1 + newlines text.toList⟩
  /-- A parse that fails leaves the set empty. -/
  empty_of_error : ∀ name text options e,
    (({ name } : Template).parse text options s).1 = .error e →
      (({ name } : Template).parse text options s).2 = .empty
  /-- A parse that does not fail returns what is found under its name then, and leaves all other
  names alone. -/
  get?_of_ok : ∀ name text options t, (({ name } : Template).parse text options s).1 = .ok t →
    (({ name } : Template).parse text options s).2.get? name = some t ∧
      ∀ other, other ≠ name →
        (({ name } : Template).parse text options s).2.get? other = s.get? other

/-- Every set follows its history. -/
theorem follows_performAll (ops : List Operation) :
    Follows (performAll .empty ops) (recent ops) := by
  constructor
  · exact contains_performAll_iff ops
  · exact get?_performAll ops
  · exact parse_eq_error_iff _
  · intro name text options e herror
    exact parse_eq_empty herror
  · intro name text options t hok
    exact get?_parse hok

end TemplateSet

end ActionTemplate
