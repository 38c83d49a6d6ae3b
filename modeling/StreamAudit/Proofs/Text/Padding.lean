import Mathlib.Data.List.Forall2
import StreamAudit.Proofs.Text.Occurrences
import StreamAudit.Proofs.Text.Trimming

/-!
# Padded fields

Characters put around the fields of a cut text, none of which the separator
holds. Where the separator was first met it is first met now, and it is met
nowhere else, because an occurrence cannot reach across a character that it does
not hold. This needs no assumption on the overlaps of a separator with itself.
-/

namespace StreamAudit.Text

/-- The padded text is the text with characters of the padding around it. -/
def Padded (padding : Char → Prop) (text padded : List Char) : Prop :=
  ∃ front back, padded = front ++ (text ++ back) ∧ ∀ c ∈ front ++ back, padding c

theorem Padded.refl (padding : Char → Prop) (text : List Char) : Padded padding text text :=
  ⟨[], [], by simp, by simp⟩

theorem Padded.imp {padding other : Char → Prop} (himp : ∀ c, padding c → other c)
    {text padded : List Char} (h : Padded padding text padded) : Padded other text padded := by
  obtain ⟨front, back, hpadded, hall⟩ := h
  exact ⟨front, back, hpadded, fun c hc => himp c (hall c hc)⟩

/-! ## Occurrences that reach across a character -/

theorem prefix_of_prefix_append_cons {pattern rest : List Char} {c : Char} (hc : c ∉ pattern)
    (text : List Char) (h : pattern <+: text ++ c :: rest) : pattern <+: text := by
  rcases Nat.lt_or_ge text.length pattern.length with hlt | hle
  · have hmet : text ++ [c] <+: pattern := by
      refine List.prefix_of_prefix_length_le ⟨rest, ?_⟩ h (by simpa using Nat.succ_le_of_lt hlt)
      rw [List.append_assoc, List.singleton_append]
    exact absurd (hmet.subset (by simp)) hc
  · exact List.prefix_of_prefix_length_le h (List.prefix_append _ _) hle

/-- A pattern is met on one side of a character that it does not hold. -/
theorem infix_append_cons {pattern text rest : List Char} {c : Char} (hc : c ∉ pattern)
    (h : pattern <:+: text ++ c :: rest) : pattern <:+: text ∨ pattern <:+: rest := by
  induction text with
  | nil =>
    rcases List.infix_cons_iff.mp h with hhere | hlater
    · exact .inl (prefix_of_prefix_append_cons hc [] hhere).isInfix
    · exact .inr hlater
  | cons d text ih =>
    rcases List.infix_cons_iff.mp h with hhere | hlater
    · exact .inl (prefix_of_prefix_append_cons hc (d :: text) hhere).isInfix
    · exact (ih hlater).imp_left List.infix_cons

/-- What is put into a text takes no part in an occurrence of a pattern without
its characters. -/
theorem infix_of_infix_insert {pattern middle : List Char} (hmiddle : ∀ c ∈ middle, c ∉ pattern)
    (text : List Char) {rest : List Char} (h : pattern <:+: text ++ (middle ++ rest)) :
    pattern <:+: text ++ rest := by
  induction middle generalizing text with
  | nil => exact h
  | cons c middle ih =>
    have hmore : ∀ d ∈ middle, d ∉ pattern := fun d hd => hmiddle d (List.mem_cons_of_mem c hd)
    rcases infix_append_cons (hmiddle c List.mem_cons_self) h with hbefore | hafter
    · exact hbefore.trans (List.prefix_append _ _).isInfix
    · have hrest : pattern <:+: rest := ih hmore [] hafter
      exact hrest.trans (List.suffix_append _ _).isInfix

theorem infix_of_infix_padded {pattern front back : List Char}
    (hpadding : ∀ c ∈ front ++ back, c ∉ pattern) {text rest : List Char}
    (h : pattern <:+: front ++ (text ++ back) ++ rest) : pattern <:+: text ++ rest := by
  rw [List.append_assoc, List.append_assoc] at h
  have hfront : pattern <:+: text ++ (back ++ rest) :=
    infix_of_infix_insert (fun c hc => hpadding c (List.mem_append_left _ hc)) [] h
  exact infix_of_infix_insert (fun c hc => hpadding c (List.mem_append_right _ hc)) text hfront

/-! ## The cut of padded fields -/

/-- A separator is first met behind a field when it is not met in the field and
the separator but for its last character. -/
theorem isFirst_iff_dropLast {separator field rest : List Char} (hne : separator ≠ []) :
    IsFirst separator field rest ↔ ¬ separator <:+: field ++ separator.dropLast := by
  have hpos := List.length_pos_iff.mpr hne
  induction field with
  | nil =>
    refine iff_of_true (isFirst_nil _ _) fun hmet => ?_
    have hlength := hmet.length_le
    rw [List.nil_append, List.length_dropLast] at hlength
    omega
  | cons c field ih =>
    have hshort : c :: (field ++ separator.dropLast) <+: c :: (field ++ (separator ++ rest)) := by
      rw [List.prefix_cons_inj, List.prefix_append_right_inj]
      exact (List.dropLast_prefix separator).trans (List.prefix_append _ _)
    have hhere : separator <+: c :: (field ++ (separator ++ rest)) ↔
        separator <+: c :: (field ++ separator.dropLast) := by
      refine ⟨fun hmet => List.prefix_of_prefix_length_le hmet hshort ?_, fun h => h.trans hshort⟩
      rw [List.length_cons, List.length_append, List.length_dropLast]
      omega
    rw [isFirst_cons_iff, List.cons_append, List.infix_cons_iff, not_or]
    exact and_congr (not_congr hhere) ih

/-- The separator cuts padded fields as it cut the fields. -/
theorem CutsInto.pad {separator text : List Char} {row padded : List (List Char)}
    (hne : separator ≠ []) (h : CutsInto separator text row)
    (hpadded : List.Forall₂ (Padded (· ∉ separator)) row padded) :
    CutsInto separator (join separator padded) padded := by
  induction h generalizing padded with
  | @last field hfree =>
    obtain ⟨_, _, ⟨front, back, rfl, hall⟩, hnil, rfl⟩ := List.forall₂_cons_left_iff.mp hpadded
    obtain rfl := List.forall₂_nil_left_iff.mp hnil
    rw [join, List.intercalate_singleton]
    refine .last fun hmet => hfree ?_
    have hend : separator <:+: front ++ (field ++ back) ++ [] := by rwa [List.append_nil]
    have hfield := infix_of_infix_padded hall hend
    rwa [List.append_nil] at hfield
  | @field field rest row hfirst hrest ih =>
    obtain ⟨_, more, ⟨front, back, rfl, hall⟩, hmore, rfl⟩ :=
      List.forall₂_cons_left_iff.mp hpadded
    have hmet := ih hmore
    rw [join_cons hmet.row_ne_nil]
    refine .field ?_ hmet
    rw [isFirst_iff_dropLast hne] at hfirst ⊢
    exact fun hearly => hfirst (infix_of_infix_padded hall hearly)

theorem join_append_singleton (separator : List Char) (front : List (List Char))
    (field extra : List Char) :
    join separator (front ++ [field ++ extra]) = join separator (front ++ [field]) ++ extra := by
  induction front with
  | nil => simp [join, List.intercalate]
  | cons first front ih =>
    rw [List.cons_append, List.cons_append, join_cons (by simp), join_cons (by simp), ih]
    simp only [List.append_assoc]

/-- Blanks around a text make no difference to its core. -/
theorem Padded.trim_eq {text padded : List Char} (h : Padded (isBlank · = true) text padded) :
    trim padded = trim text := by
  obtain ⟨front, back, rfl, hblanks⟩ := h
  rw [trim_append_left fun c hc => hblanks c (List.mem_append_left _ hc),
    trim_append_right fun c hc => hblanks c (List.mem_append_right _ hc)]

end StreamAudit.Text
