import Mathlib.Data.List.TakeWhile
import StreamAudit.Text.Blank

/-!
# What trimming leaves

The characters with the property White_Space are listed here one by one, and
the core of a text is described without the passes that find it: blanks stand
around it and it neither begins nor ends with one. Every text has exactly one
core, and trimming finds it. Blanks put around a text make no difference.
-/

namespace StreamAudit.Text

/-- The code points with the Unicode property White_Space. -/
def whiteSpace : List Nat :=
  [0x09, 0x0A, 0x0B, 0x0C, 0x0D, 0x20, 0x85, 0xA0, 0x1680, 0x2000, 0x2001, 0x2002, 0x2003, 0x2004,
    0x2005, 0x2006, 0x2007, 0x2008, 0x2009, 0x200A, 0x2028, 0x2029, 0x202F, 0x205F, 0x3000]

theorem isBlank_iff (c : Char) : isBlank c = true ↔ c.toNat ∈ whiteSpace := by
  simp only [isBlank, whiteSpace, Bool.or_eq_true, Bool.and_eq_true, decide_eq_true_eq, beq_iff_eq,
    List.mem_cons, List.not_mem_nil, or_false]
  omega

/-- The text consists of the core and of blanks around it, as many as there are. -/
structure IsCore (text core : List Char) : Prop where
  surrounded : ∃ front back, text = front ++ (core ++ back) ∧
    ∀ c ∈ front ++ back, c.toNat ∈ whiteSpace
  head : ∀ c, core.head? = some c → c.toNat ∉ whiteSpace
  last : ∀ c, core.getLast? = some c → c.toNat ∉ whiteSpace

theorem IsCore.isInfix {text core : List Char} (h : IsCore text core) : core <:+: text := by
  obtain ⟨front, back, rfl, _⟩ := h.surrounded
  exact ⟨front, back, List.append_assoc front core back⟩

/-! ## Blanks around a text -/

theorem trimEnd_append {blanks : List Char} (h : ∀ c ∈ blanks, isBlank c = true)
    (text : List Char) : trimEnd (text ++ blanks) = trimEnd text := by
  rw [trimEnd, List.reverse_append,
    List.dropWhile_append_of_pos fun c hc => h c (List.mem_reverse.mp hc)]
  rfl

theorem trim_append_left {blanks : List Char} (h : ∀ c ∈ blanks, isBlank c = true)
    (text : List Char) : trim (blanks ++ text) = trim text := by
  rw [trim, List.dropWhile_append_of_pos h]
  rfl

theorem trim_append_right {blanks : List Char} (h : ∀ c ∈ blanks, isBlank c = true)
    (text : List Char) : trim (text ++ blanks) = trim text := by
  rw [trim, List.dropWhile_append]
  split
  -- a text of blanks alone loses those behind it with the leading ones
  · next hnone =>
    have hblanks : blanks.dropWhile isBlank = [] := by
      rw [List.dropWhile_eq_nil_iff]
      exact h
    rw [hblanks, trim, List.isEmpty_iff.mp hnone]
  · exact trimEnd_append h _

/-! ## The core -/

theorem trim_of_core {core : List Char} (hhead : ∀ c, core.head? = some c → isBlank c = false)
    (hlast : ∀ c, core.getLast? = some c → isBlank c = false) : trim core = core := by
  have hdrop : ∀ {text : List Char}, (∀ c, text.head? = some c → isBlank c = false) →
      text.dropWhile isBlank = text := by
    intro text htext
    cases text with
    | nil => rfl
    | cons c rest =>
      rw [List.dropWhile_cons, htext c rfl]
      rfl
  rw [trim, hdrop hhead, trimEnd, hdrop, List.reverse_reverse]
  intro c hc
  rw [List.head?_reverse] at hc
  exact hlast c hc

theorem isBlank_of_head?_trim {text : List Char} {c : Char} (h : (trim text).head? = some c) :
    isBlank c = false := by
  obtain ⟨blanks, hsplit, _⟩ := trimEnd_append_blanks (text.dropWhile isBlank)
  obtain ⟨rest, hrest⟩ := List.head?_eq_some_iff.mp h
  have hcons : text.dropWhile isBlank = c :: (rest ++ blanks) := by
    rw [hsplit, ← trim, hrest, List.cons_append]
  exact isBlank_of_dropWhile_eq_cons hcons

theorem isBlank_of_getLast?_trim {text : List Char} {c : Char}
    (h : (trim text).getLast? = some c) : isBlank c = false := by
  rw [trim, trimEnd, List.getLast?_reverse] at h
  obtain ⟨rest, hrest⟩ := List.head?_eq_some_iff.mp h
  exact isBlank_of_dropWhile_eq_cons hrest

/-- Trimming takes away all blanks around a text and nothing else. -/
theorem exists_trim_surrounded (text : List Char) :
    ∃ front back, text = front ++ (trim text ++ back) ∧ ∀ c ∈ front ++ back, isBlank c = true := by
  obtain ⟨back, hsplit, hback⟩ := trimEnd_append_blanks (text.dropWhile isBlank)
  refine ⟨text.takeWhile isBlank, back, ?_, ?_⟩
  · rw [trim, ← hsplit, List.takeWhile_append_dropWhile]
  · intro c hc
    rcases List.mem_append.mp hc with hfront | hc
    · exact List.all_eq_true.mp List.all_takeWhile c hfront
    · exact hback c hc

/-- The core of a text is what trimming leaves of it, and nothing else is. -/
theorem isCore_iff {text core : List Char} : IsCore text core ↔ core = trim text := by
  constructor
  · intro h
    have hfree : ∀ c : Char, c.toNat ∉ whiteSpace → isBlank c = false := by
      intro c hc
      rwa [← Bool.not_eq_true, isBlank_iff]
    obtain ⟨front, back, rfl, hblanks⟩ := h.surrounded
    simp only [← isBlank_iff, List.mem_append] at hblanks
    rw [trim_append_left fun c hc => hblanks c (.inl hc),
      trim_append_right fun c hc => hblanks c (.inr hc)]
    exact (trim_of_core (fun c hc => hfree c (h.head c hc)) fun c hc => hfree c (h.last c hc)).symm
  · rintro rfl
    obtain ⟨front, back, hsplit, hblanks⟩ := exists_trim_surrounded text
    constructor
    · simp only [isBlank_iff] at hblanks
      exact ⟨front, back, hsplit, hblanks⟩
    · intro c hc
      rw [← isBlank_iff, isBlank_of_head?_trim hc]
      exact Bool.false_ne_true
    · intro c hc
      rw [← isBlank_iff, isBlank_of_getLast?_trim hc]
      exact Bool.false_ne_true

end StreamAudit.Text
