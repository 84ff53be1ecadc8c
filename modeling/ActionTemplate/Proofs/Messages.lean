import ActionTemplate.Fault
import Mathlib.Data.List.Basic
import Mathlib.Tactic.SplitIfs

/-!
# Messages tell faults apart

Each fault has a message of its own. Some parts of a message are of any length, a quoted lexeme or
name, a code point, a line. What makes the message readable all the same is that each of these parts
tells where it ends: if two texts begin with quoted texts, for example, and are the same, the quoted
texts are the same, whatever follows. `SelfDelimiting` says so of a way to write something,
`selfDelimiting_quotedChars` and `selfDelimiting_message` are the main instances, and
`messages_tell_apart` is what follows for all messages.

Nothing here depends on which characters are written by their code point.
-/

namespace ActionTemplate

open Text

/-! ## Forms that tell where they end -/

namespace Text

/-- If two texts that begin with such forms are the same, then so are what was written and what
follows. -/
def SelfDelimiting {α : Type} (form : α → List Char) : Prop :=
  ∀ ⦃a b : α⦄ ⦃u v : List Char⦄, form a ++ u = form b ++ v → a = b ∧ u = v

variable {α : Type} {form : α → List Char}

/-- Different things have different forms. -/
theorem SelfDelimiting.injective (h : SelfDelimiting form) : Function.Injective form := by
  intro a b hab
  exact (h (congrArg (· ++ []) hab)).1

/-- Two texts are the same up to the first place of a character, and behind it, if they are the
same. -/
theorem eq_of_append_cons_eq {d : Char} {x y u v : List Char} (hx : d ∉ x) (hy : d ∉ y)
    (h : x ++ d :: u = y ++ d :: v) : x = y ∧ u = v := by
  induction x generalizing y with
  | nil =>
      cases y with
      | nil => exact ⟨rfl, List.tail_eq_of_cons_eq h⟩
      | cons b y => exact absurd (List.mem_cons.mpr (Or.inl (List.head_eq_of_cons_eq h))) hy
  | cons a x ih =>
      cases y with
      | nil => exact absurd (List.mem_cons.mpr (Or.inl (List.head_eq_of_cons_eq h).symm)) hx
      | cons b y =>
          obtain ⟨rfl, htail⟩ := List.cons_eq_cons.mp h
          obtain ⟨rfl, huv⟩ :=
            ih (List.not_mem_of_not_mem_cons hx) (List.not_mem_of_not_mem_cons hy) htail
          exact ⟨rfl, huv⟩

/-! ### Numbers -/

/-- Different digits are written by different characters. -/
theorem digitChar_injective : ∀ d < 16, ∀ e < 16, Nat.digitChar d = Nat.digitChar e → d = e := by
  decide

/-- In a base of at most sixteen different numbers have different digits. -/
theorem toDigits_injective {base : Nat} (hone : 1 < base) (hbase : base ≤ 16) :
    Function.Injective (Nat.toDigits base) := by
  -- by the last digit, and for the others by the quotient
  intro m
  induction m using Nat.strongRecOn with
  | ind m ih =>
      intro n h
      have hdigit : ∀ {j k : Nat}, j < base → k < base → Nat.digitChar j = Nat.digitChar k → j = k :=
        fun hj hk => digitChar_injective _ (Nat.lt_of_lt_of_le hj hbase) _ (Nat.lt_of_lt_of_le hk hbase)
      rw [Nat.toDigits_eq_if hone, Nat.toDigits_eq_if (n := n) hone] at h
      by_cases hm : m < base
      · rw [if_pos hm] at h
        by_cases hn : n < base
        · rw [if_pos hn] at h
          exact hdigit hm hn (List.singleton_injective h)
        · rw [if_neg hn, eq_comm, List.append_eq_singleton_iff] at h
          simp [Nat.toDigits_ne_nil] at h
      · rw [if_neg hm] at h
        by_cases hn : n < base
        · rw [if_pos hn, List.append_eq_singleton_iff] at h
          simp [Nat.toDigits_ne_nil] at h
        · rw [if_neg hn] at h
          obtain ⟨hfront, hlast⟩ := List.append_singleton_inj.mp h
          have hpos : 0 < base := Nat.lt_of_succ_lt hone
          have hdiv := ih (m / base) (Nat.div_lt_self (by omega) hone) hfront
          have hmod := hdigit (Nat.mod_lt m hpos) (Nat.mod_lt n hpos) hlast
          rw [← Nat.div_add_mod m base, ← Nat.div_add_mod n base, hdiv, hmod]

/-- Different numbers have different decimal forms. -/
theorem decimal_injective : Function.Injective decimal := by
  intro m n h
  exact toDigits_injective (by decide) (by decide) (String.ofList_injective h)

/-- A decimal form consists of digits. -/
theorem not_mem_decimal {c : Char} (hc : c.isDigit = false) (n : Nat) : c ∉ (decimal n).toList := by
  intro hmem
  rw [decimal, String.toList_ofList] at hmem
  rw [Nat.isDigit_of_mem_toDigits (by decide) (by decide) hmem] at hc
  cases hc

/-- The brace that closes a code point is no digit of it. -/
theorem closingBrace_not_mem_hexadecimal (n : Nat) : '\x7d' ∉ hexadecimal n := by
  intro hmem
  obtain ⟨d, hd, hbrace⟩ := exists_of_mem_hexadecimal hmem
  have hdigits : ∀ d < 16, '\x7d' ≠ Nat.digitChar d := by decide
  exact hdigits d hd hbrace

/-- There is no blank in the code point of a character. -/
theorem space_not_mem_codePoint (c : Char) : ' ' ∉ (codePoint c).toList := by
  intro hmem
  have hdigits : ∀ d < 16, ' ' ≠ (Nat.digitChar d).toUpper := by decide
  rcases cases_of_mem_codePoint hmem with hmark | hmark | ⟨d, hd, hdigit⟩
  · simp at hmark
  · simp at hmark
  · exact hdigits d hd hdigit

/-! ### Quoted texts -/

/-- The characters with a two-letter form, each with its letter. -/
def lettered : List (Char × Char) :=
  [('\x00', '0'), ('\t', 't'), ('\r', 'r'), ('\n', 'n'), ('"', '"'), ('\\', '\\')]

/-- A character is written between quotes by a letter behind a backslash, by its code point, or as
itself. -/
theorem escape_cases (c : Char) :
    (∃ letter, (c, letter) ∈ lettered ∧ escape c = ['\\', letter]) ∨
      escape c = '\\' :: 'u' :: '\x7b' :: (hexadecimal c.toNat ++ ['\x7d']) ∨
      escape c = [c] ∧ c ≠ '"' ∧ c ≠ '\\' := by
  unfold escape
  split_ifs with hnull htab hreturn hfeed hquote hbackslash hunprintable
  · exact Or.inl ⟨'0', by simp [lettered, hnull], rfl⟩
  · exact Or.inl ⟨'t', by simp [lettered, htab], rfl⟩
  · exact Or.inl ⟨'r', by simp [lettered, hreturn], rfl⟩
  · exact Or.inl ⟨'n', by simp [lettered, hfeed], rfl⟩
  · exact Or.inl ⟨'"', by simp [lettered, hquote], rfl⟩
  · exact Or.inl ⟨'\\', by simp [lettered, hbackslash], rfl⟩
  · exact Or.inr (Or.inl rfl)
  · exact Or.inr (Or.inr ⟨rfl, hquote, hbackslash⟩)

/-- No two characters share a letter, and none has the letter that stands before a code point. -/
theorem lettered_unique : ∀ p ∈ lettered, p.2 ≠ 'u' ∧ ∀ q ∈ lettered, p.2 = q.2 → p.1 = q.1 := by
  decide

/-- The form of a character between quotes tells where it ends. -/
theorem selfDelimiting_escape : SelfDelimiting escape := by
  intro a b u v h
  rcases escape_cases a with ⟨x, hx, ha⟩ | ha | ⟨ha, -, hbackslash⟩ <;>
    rcases escape_cases b with ⟨y, hy, hb⟩ | hb | ⟨hb, -, hbackslash'⟩ <;> rw [ha, hb] at h
  · obtain ⟨rfl, rfl⟩ : x = y ∧ u = v := by simpa using h
    exact ⟨(lettered_unique _ hx).2 _ hy rfl, rfl⟩
  · obtain ⟨rfl, -⟩ : x = 'u' ∧ u = _ := by simpa using h
    exact absurd rfl (lettered_unique _ hx).1
  · simp [hbackslash'.symm] at h
  · obtain ⟨rfl, -⟩ : 'u' = y ∧ _ = v := by simpa using h
    exact absurd rfl (lettered_unique _ hy).1
  · -- the closing brace tells where the code point ends
    have hnumber : hexadecimal a.toNat ++ '\x7d' :: u = hexadecimal b.toNat ++ '\x7d' :: v := by
      simpa using h
    obtain ⟨hdigits, huv⟩ := eq_of_append_cons_eq (closingBrace_not_mem_hexadecimal _)
      (closingBrace_not_mem_hexadecimal _) hnumber
    exact ⟨Char.toNat_inj.mp (toDigits_injective (by decide) (by decide) hdigits), huv⟩
  · simp [hbackslash'.symm] at h
  · simp [hbackslash] at h
  · simp [hbackslash] at h
  · simpa using h

/-- No character between quotes is written like the quote that ends the text. -/
theorem escape_append_ne (c : Char) (u v : List Char) : escape c ++ u ≠ '"' :: v := by
  rcases escape_cases c with ⟨x, -, hc⟩ | hc | ⟨hc, hquote, -⟩ <;> rw [hc] <;> simp
  exact fun h => absurd h hquote

/-- A quoted text tells where it ends. -/
theorem selfDelimiting_quotedChars : SelfDelimiting quotedChars := by
  intro s t u v h
  have hinner : s.flatMap escape ++ '"' :: u = t.flatMap escape ++ '"' :: v := by
    simpa [quotedChars] using h
  clear h
  induction s generalizing t with
  | nil =>
      cases t with
      | nil => exact ⟨rfl, List.tail_eq_of_cons_eq hinner⟩
      | cons d t =>
          rw [List.flatMap_cons, List.append_assoc] at hinner
          exact absurd hinner.symm (escape_append_ne d _ u)
  | cons c s ih =>
      cases t with
      | nil =>
          rw [List.flatMap_cons, List.append_assoc] at hinner
          exact absurd hinner (escape_append_ne c _ v)
      | cons d t =>
          rw [List.flatMap_cons, List.flatMap_cons, List.append_assoc, List.append_assoc] at hinner
          obtain ⟨rfl, hrest⟩ := selfDelimiting_escape hinner
          obtain ⟨rfl, huv⟩ := ih hrest
          exact ⟨rfl, huv⟩

/-- So does a quoted string. -/
theorem selfDelimiting_quote : SelfDelimiting fun s => (quote s).toList := by
  intro s t u v h
  simp only [quote, String.toList_ofList] at h
  obtain ⟨hst, huv⟩ := selfDelimiting_quotedChars h
  exact ⟨String.toList_inj.mp hst, huv⟩

end Text

/-! ## Faults in the text -/

namespace LexFault

/-- A bad number is told by a fixed beginning and the quoted lexeme. -/
theorem toList_message_badNumber (lexeme : String) :
    (badNumber lexeme).message.toList = "bad number syntax: ".toList ++ (quote lexeme).toList :=
  String.toList_append

/-- A bad character is told by a fixed beginning, its code point, and the character itself. -/
theorem toList_message_badCharacter (c : Char) :
    (badCharacter c).message.toList =
      "bad character ".toList ++ ((codePoint c).toList ++ ' ' :: ['\'', c, '\'']) := by
  have h : (badCharacter c).message =
      "bad character " ++ codePoint c ++ " '" ++ String.singleton c ++ "'" := rfl
  rw [h]
  simp

/-- The message of a fault in the text tells where it ends. -/
theorem selfDelimiting_message : SelfDelimiting fun fault : LexFault => fault.message.toList := by
  intro a b u v h
  cases a with
  | badNumber lexeme =>
      cases b with
      | badNumber lexeme' =>
          simp only [toList_message_badNumber, List.append_assoc, List.append_cancel_left_eq] at h
          obtain ⟨rfl, huv⟩ := selfDelimiting_quote h
          exact ⟨rfl, huv⟩
      | badCharacter c =>
          simp only [toList_message_badNumber, toList_message_badCharacter, List.append_assoc] at h
          simp at h
  | badCharacter c =>
      cases b with
      | badNumber lexeme =>
          simp only [toList_message_badNumber, toList_message_badCharacter, List.append_assoc] at h
          simp at h
      | badCharacter d =>
          simp only [toList_message_badCharacter, List.append_assoc, List.cons_append,
            List.append_cancel_left_eq] at h
          obtain ⟨-, hbehind⟩ :=
            eq_of_append_cons_eq (space_not_mem_codePoint c) (space_not_mem_codePoint d) h
          simpa using hbehind

/-- Different faults in the text have different messages. -/
theorem message_injective : Function.Injective message := by
  intro a b h
  exact selfDelimiting_message.injective (congrArg String.toList h)

/-- All these messages begin with the same letter. -/
theorem head?_message (fault : LexFault) : fault.message.toList.head? = some 'b' := by
  cases fault with
  | badNumber lexeme => rw [toList_message_badNumber]; simp
  | badCharacter c => rw [toList_message_badCharacter]; simp

end LexFault

namespace ScanError

/-- A fault in the text together with its line is told by the fault's own message, fixed words, and
the line. -/
theorem toList_message (e : ScanError) :
    e.message.toList =
      e.fault.message.toList ++ (" at line ".toList ++ (decimal e.line).toList) := by
  have h : e.message = e.fault.message ++ " at line " ++ decimal e.line := rfl
  rw [h, String.toList_append, String.toList_append, List.append_assoc]

/-- Two faults in the text with the same message are the same fault on the same line. -/
theorem message_inj {e e' : ScanError} :
    e.message = e'.message ↔ e.fault = e'.fault ∧ e.line = e'.line := by
  constructor
  · intro h
    rw [← String.toList_inj, toList_message, toList_message] at h
    obtain ⟨hfault, hline⟩ := LexFault.selfDelimiting_message h
    rw [List.append_cancel_left_eq, String.toList_inj] at hline
    exact ⟨hfault, decimal_injective hline⟩
  · rintro ⟨hfault, hline⟩
    rw [← String.toList_inj, toList_message, toList_message, hfault, hline]

end ScanError

/-! ## Faults of a template -/

namespace ParseFault

/-- The first letter of a message tells which kind of fault it is about. -/
def initial : ParseFault → Char
  | lexical _ => 'b'
  | unexpected _ => 'u'
  | multipleDefinition _ => 'm'
  | lookaheadOverflow => 'l'

theorem head?_message (fault : ParseFault) : fault.message.toList.head? = some fault.initial := by
  cases fault with
  | lexical fault => exact LexFault.head?_message fault
  | unexpected found =>
      have h : (unexpected found).message = "unexpected " ++ found := rfl
      rw [h, String.toList_append]
      simp [initial]
  | multipleDefinition name =>
      have h : (multipleDefinition name).message =
          "multiple definition of template " ++ quote name := rfl
      rw [h, String.toList_append]
      simp [initial]
  | lookaheadOverflow =>
      have h : lookaheadOverflow.message = "lookahead overflow" := rfl
      rw [h]
      simp [initial]

/-- Different faults of a template have different messages. -/
theorem message_injective : Function.Injective message := by
  intro a b h
  have hinitial : a.initial = b.initial := by
    rw [← Option.some_inj, ← head?_message, ← head?_message, h]
  -- with the same first letter both are of one kind
  cases a <;> cases b <;> simp only [initial, Char.reduceEq] at hinitial
  case lexical.lexical fault fault' => exact congrArg lexical (LexFault.message_injective h)
  case unexpected.unexpected found found' =>
    have hfound : "unexpected " ++ found = "unexpected " ++ found' := h
    exact congrArg unexpected ((String.append_right_inj _).mp hfound)
  case multipleDefinition.multipleDefinition name name' =>
    have hname : "multiple definition of template " ++ quote name =
        "multiple definition of template " ++ quote name' := h
    have hquote := (String.append_right_inj _).mp hname
    exact congrArg multipleDefinition
      (selfDelimiting_quote.injective (congrArg String.toList hquote))
  case lookaheadOverflow.lookaheadOverflow => rfl

end ParseFault

namespace ParseError

/-- The message of a fault of a template names the template and the line in front of the fault. -/
theorem toList_message (e : ParseError) :
    e.message.toList = "template: ".toList ++ (e.template.toList ++
      ':' :: ((decimal e.line).toList ++ ':' :: ' ' :: e.fault.message.toList)) := by
  have h : e.message =
      "template: " ++ e.template ++ ":" ++ decimal e.line ++ ": " ++ e.fault.message := rfl
  rw [h]
  simp only [String.toList_append, List.append_assoc]
  rfl

/-- Two faults of one template with the same message are the same fault on the same line. -/
theorem message_inj {e e' : ParseError} (htemplate : e.template = e'.template) :
    e.message = e'.message ↔ e.fault = e'.fault ∧ e.line = e'.line := by
  constructor
  · intro h
    rw [← String.toList_inj, toList_message, toList_message, htemplate,
      List.append_cancel_left_eq, List.append_cancel_left_eq, List.cons.injEq] at h
    -- the colon behind the line is not one of its digits
    obtain ⟨hline, hfault⟩ := eq_of_append_cons_eq (not_mem_decimal (by decide) e.line)
      (not_mem_decimal (by decide) e'.line) h.2
    rw [List.cons.injEq, String.toList_inj] at hfault
    exact ⟨ParseFault.message_injective hfault.2, decimal_injective (String.toList_inj.mp hline)⟩
  · rintro ⟨hfault, hline⟩
    rw [← String.toList_inj, toList_message, toList_message, htemplate, hfault,
      hline]

end ParseError

/-! ## All messages -/

/-- No two faults share a message: neither two faults of a template, nor two faults in the text on
different lines, nor two faults of one template on different lines. -/
theorem messages_tell_apart :
    Function.Injective ParseFault.message ∧
      (∀ e e' : ScanError, e.message = e'.message ↔ e.fault = e'.fault ∧ e.line = e'.line) ∧
      ∀ template fault fault' line line',
        (⟨fault, template, line⟩ : ParseError).message =
            (⟨fault', template, line'⟩ : ParseError).message ↔
          fault = fault' ∧ line = line' :=
  ⟨ParseFault.message_injective, fun _ _ => ScanError.message_inj,
    fun _ _ _ _ _ => ParseError.message_inj rfl⟩

end ActionTemplate
