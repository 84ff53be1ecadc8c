import ActionTemplate.Proofs.Composition
import ActionTemplate.Proofs.History

/-!
# What a set can hold

Sets of templates come about by parses and clears, and a template may be taken out of one set and
parsed into another, with a new text. Whatever the history of a set and of its templates was, each
template in it is `Registered`: it has the name that it is found under, nothing is left in it of the
reading, its body is a sequence of actions that lie in its text one behind the other, and it is the
template as which its text is read alone.

The positions are in order because every action starts at a token of its own, `exists_heads`.
-/

namespace ActionTemplate

open Text

/-! ## Actions start at tokens -/

/-- What a line holds is nothing, or the action at one of its tokens. -/
theorem readLine_cases {text : List Char} {line : List Token} {nodes : List Node}
    (h : readLine text line = .ok nodes) :
    nodes = [] ∨ ∃ head ∈ line, head.kind.isTerminal = false ∧
      nodes = [.action head.pos (lineAt text head.pos)] := by
  unfold readLine at h
  cases hhead : headOf? line with
  | none =>
      rw [hhead] at h
      exact Or.inl (Except.ok.inj h).symm
  | some head =>
      simp only [hhead] at h
      split at h
      · exact Or.inl (Except.ok.inj h).symm
      · exact Or.inl (Except.ok.inj h).symm
      · cases h
      · cases h
      · cases h
      · rename_i _ hinput _ _ hfault
        split at h
        · cases h
        · refine Or.inr ⟨head, List.mem_of_find?_eq_some hhead, ?_, (Except.ok.inj h).symm⟩
          cases hterminal : head.kind.isTerminal with
          | false => rfl
          | true => exact absurd (TokenKind.eq_endOfInput hterminal hfault) hinput

/-- What some lines hold are the actions at some of their tokens, in their order. -/
theorem exists_heads {text : List Char} {ls : List (List Token)} {nodes : List Node}
    (h : readLines text ls = .ok nodes) :
    ∃ heads : List Token, heads.Sublist ls.flatten ∧ (∀ t ∈ heads, t.kind.isTerminal = false) ∧
      nodes = heads.map fun t => .action t.pos (lineAt text t.pos) := by
  induction ls generalizing nodes with
  | nil => exact ⟨[], List.Sublist.refl [], by simp, (Except.ok.inj h).symm⟩
  | cons line ls ih =>
      obtain ⟨first, others, hline, hrest, rfl⟩ := exists_of_readLines_cons h
      obtain ⟨heads, hsublist, hkinds, rfl⟩ := ih hrest
      rw [List.flatten_cons]
      rcases readLine_cases hline with rfl | ⟨head, hhead, hkind, rfl⟩
      · exact ⟨heads, hsublist.trans (List.sublist_append_right line _), hkinds, rfl⟩
      · refine ⟨[head] ++ heads, ?_, ?_, rfl⟩
        · exact (List.singleton_sublist.mpr hhead).append hsublist
        · exact List.forall_mem_cons.mpr ⟨hkind, hkinds⟩

/-- A token that is not terminal starts in front of the end of the text. -/
theorem Division.pos_lt [Alphabet] {pos : Nat} {text : List Char} {tokens : List Token}
    (h : Division pos text tokens) {t : Token} (ht : t ∈ tokens)
    (hkind : t.kind.isTerminal = false) : t.pos < pos + byteLength text := by
  obtain ⟨before, fillers, core, after, rfl, hpos, -, -, hcuts⟩ := h.exists_cuts t ht (by
    rintro fault hfault
    rw [hfault] at hkind
    cases hkind)
  have hcore : byteLength core ≠ 0 := by
    rw [Ne, byteLength_eq_zero_iff]
    exact hcuts.ne_nil hkind
  rw [hpos]
  simp only [byteLength_append]
  omega

/-- The nodes that a text holds are actions at places of the text, each of them further on than those
before it and on no earlier line. -/
theorem exists_places [Alphabet] {text : String} {nodes : List Node}
    (h : Template.contentOf text = .ok nodes) :
    ∃ places : List (Nat × Nat), nodes = places.map (fun place => .action place.1 place.2) ∧
      (∀ place ∈ places, place.1 < text.utf8ByteSize) ∧
      places.Pairwise fun p q => p.1 < q.1 ∧ p.2 ≤ q.2 := by
  have hdivision := Scanner.division_ofString text
  obtain ⟨heads, hsublist, hkinds, rfl⟩ := exists_heads h
  rw [flatten_linesOf] at hsublist
  refine ⟨heads.map fun t => (t.pos, lineAt text.toList t.pos), by simp, ?_, ?_⟩
  · intro place hplace
    obtain ⟨t, ht, rfl⟩ := List.mem_map.mp hplace
    have hlt := hdivision.pos_lt (hsublist.subset ht) (hkinds t ht)
    rwa [Nat.zero_add, byteLength_toList] at hlt
  · rw [List.pairwise_map]
    refine (hdivision.pairwise_lt.sublist hsublist).imp ?_
    intro t u hlt
    exact ⟨hlt, lineAt_le_lineAt (Nat.le_of_lt hlt) text.toList⟩

/-! ## Registered templates -/

section

variable [Alphabet]

/-- What holds of a template that is found in a set under the given name. -/
structure Registered (name : String) (t : Template) : Prop where
  /-- The template has that name. -/
  name_eq : t.name = name
  /-- Its text was read under that name. -/
  parseName_eq : t.parseName = name
  /-- There is no feed, no token is kept, and none is given back. -/
  lookahead_eq : t.lookahead = {}
  /-- No variable is in scope. -/
  vars_eq : t.vars = []
  /-- No functions are known. -/
  functions_eq : t.functions = []
  /-- The body starts at the beginning of the text. It consists of actions at places within the text,
  in ascending order, and their lines do not decrease. -/
  root_eq : ∃ places : List (Nat × Nat),
    t.root = some ⟨0, places.map fun place => .action place.1 place.2⟩ ∧
      (∀ place ∈ places, place.1 < t.text.utf8ByteSize) ∧
      places.Pairwise fun p q => p.1 < q.1 ∧ p.2 ≤ q.2
  /-- The template is what its text is parsed as alone, with whatever options. -/
  parsed : ∀ options, (parse name t.text options).map TemplateSet.entries = .ok [(name, t)]

/-- The template as which a text is read is one that can be registered. -/
theorem registered_read {text : String} {nodes : List Node}
    (h : Template.contentOf text = .ok nodes) (name : String) :
    Registered name (Template.read name text nodes) := by
  refine ⟨rfl, rfl, rfl, rfl, rfl, ?_, ?_⟩
  · obtain ⟨places, rfl, hplaces⟩ := exists_places h
    exact ⟨places, rfl, hplaces⟩
  · intro options
    show (parse name text options).map TemplateSet.entries = _
    rw [parse_eq_put, h]
    rfl

/-! ## Reachable sets -/

namespace TemplateSet

/-- The sets that parses and clears lead to, from the empty set. What is parsed is a new template or
one that was taken out of another such set. -/
inductive Reachable : TemplateSet → Prop where
  | empty : Reachable .empty
  | perform {s : TemplateSet} (hs : Reachable s) (op : Operation) : Reachable (s.perform op)
  | parseTaken {s other : TemplateSet} {entry : String × Template} (hs : Reachable s)
      (hother : Reachable other) (hentry : entry ∈ other.entries) (text : String)
      (options : Options) : Reachable (entry.2.parse text options s).2

/-- A parse of any template leaves only registered templates where there were no others. -/
theorem registered_of_parse {s : TemplateSet}
    (hs : ∀ entry ∈ s.entries, Registered entry.1 entry.2) (t : Template) (text : String)
    (options : Options) : ∀ entry ∈ (t.parse text options s).2.entries,
      Registered entry.1 entry.2 := by
  intro entry hentry
  rw [Template.parse_eq] at hentry
  cases hcontent : Template.contentOf text with
  | error offence =>
      rw [hcontent] at hentry
      cases hentry
  | ok nodes =>
      simp only [hcontent] at hentry
      split at hentry
      · cases hentry
      · rcases eq_or_mem_of_mem_register hentry with rfl | hentry
        · exact registered_read hcontent t.name
        · exact hs entry hentry

/-- Every template in a set that parses and clears lead to is registered there under its name. -/
theorem registered_of_reachable {s : TemplateSet} (h : Reachable s) :
    ∀ entry ∈ s.entries, Registered entry.1 entry.2 := by
  induction h with
  | empty =>
      rintro entry ⟨⟩
  | perform hs op ih =>
      cases op with
      | parse name text options => exact registered_of_parse ih { name } text options
      | clear =>
          rintro entry ⟨⟩
  | parseTaken hs hother hentry text options ih => exact registered_of_parse ih _ text options

end TemplateSet

end

/-- A template that was taken out of one set, read from a new text and registered in another set in the
place of an empty one is registered there. -/
theorem TemplateSet.registered_of_taken :
    ∃ s : TemplateSet, Reachable s ∧
      s.entries = [("page", Template.read "page" " b\n.c" [.action 1 1, .action 3 2])] ∧
      Registered "page" (Template.read "page" " b\n.c" [.action 1 1, .action 3 2]) := by
  have htaken : ("page", Template.read "page" "a" [.action 0 1]) ∈
      (empty.perform (.parse "page" "a" {})).entries := by decide +kernel
  have hother : Reachable (empty.perform (.parse "page" "a" {})) := .perform .empty _
  have hs : Reachable (empty.perform (.parse "page" "" {})) := .perform .empty _
  have hentries : ((Template.read "page" "a" [.action 0 1]).parse " b\n.c" {}
      (empty.perform (.parse "page" "" {}))).2.entries =
        [("page", Template.read "page" " b\n.c" [.action 1 1, .action 3 2])] := by
    decide +kernel
  have hreachable := hs.parseTaken hother htaken " b\n.c" {}
  exact ⟨_, hreachable, hentries, registered_of_reachable hreachable
    ("page", Template.read "page" " b\n.c" [.action 1 1, .action 3 2])
    (by rw [hentries]; exact List.mem_singleton_self _)⟩

end ActionTemplate
