import Mathlib.Data.List.Infix
import StreamAudit.Text.Fields

/-!
# Cutting at first occurrences

What it means to cut a text at the leftmost occurrences of a separator that do
not overlap, without the pass that does it: each field ends where the separator
is first met in what is left, and in the last field it is not met. Every text
has one such cut under a separator that is not empty, whether or not that can
overlap itself, and the pass finds it.
-/

namespace StreamAudit.Text

/-- In the field, the separator and the rest, written one after the other, the
separator stands nowhere before the end of the field. -/
def IsFirst (separator field rest : List Char) : Prop :=
  ∀ before after, field ++ (separator ++ rest) = before ++ (separator ++ after) →
    field.length ≤ before.length

/-- The separator cuts the text into the fields of the row. -/
inductive CutsInto (separator : List Char) : List Char → List (List Char) → Prop
  | last {field : List Char} : ¬ separator <:+: field → CutsInto separator field [field]
  | field {field rest : List Char} {row : List (List Char)} :
      IsFirst separator field rest → CutsInto separator rest row →
        CutsInto separator (field ++ (separator ++ rest)) (field :: row)

/-! ## First occurrences -/

theorem isFirst_nil (separator rest : List Char) : IsFirst separator [] rest :=
  fun _ _ _ => Nat.zero_le _

theorem isFirst_cons_iff {separator field rest : List Char} {c : Char} :
    IsFirst separator (c :: field) rest ↔
      ¬ separator <+: c :: (field ++ (separator ++ rest)) ∧ IsFirst separator field rest := by
  constructor
  · intro h
    constructor
    · rintro ⟨after, hafter⟩
      exact absurd (h [] after hafter.symm) (by simp)
    · intro before after heq
      have hlength := h (c :: before) after (by rw [List.cons_append, List.cons_append, heq])
      simpa using hlength
  · rintro ⟨hmiss, h⟩ before after heq
    cases before with
    | nil => exact absurd ⟨after, heq.symm⟩ hmiss
    | cons d before =>
      rw [List.cons_append, List.cons_append, List.cons.injEq] at heq
      simpa using h before after heq.2

/-- A separator that stands in a text stands there for a first time. -/
theorem exists_isFirst {separator text : List Char} (h : separator <:+: text) :
    ∃ field rest, text = field ++ (separator ++ rest) ∧ IsFirst separator field rest := by
  induction text with
  | nil =>
    obtain rfl := List.infix_nil.mp h
    exact ⟨[], [], rfl, isFirst_nil _ _⟩
  | cons c text ih =>
    by_cases hhere : separator <+: c :: text
    · obtain ⟨rest, hrest⟩ := hhere
      exact ⟨[], rest, hrest.symm, isFirst_nil _ _⟩
    · obtain ⟨field, rest, rfl, hfirst⟩ :=
        ih ((List.infix_cons_iff.mp h).resolve_left hhere)
      exact ⟨c :: field, rest, rfl, isFirst_cons_iff.mpr ⟨hhere, hfirst⟩⟩

theorem IsFirst.not_infix {separator field rest : List Char} (hne : separator ≠ [])
    (h : IsFirst separator field rest) : ¬ separator <:+: field := by
  rintro ⟨before, after, rfl⟩
  have hlength := h before (after ++ (separator ++ rest)) (by simp only [List.append_assoc])
  have hpos := List.length_pos_iff.mpr hne
  simp only [List.length_append] at hlength
  omega

/-! ## The pass over the text -/

theorem cut_eq_drop (separator : List Char) (passed : Nat) (field text : List Char) :
    cut separator passed field text = cut separator 0 field (text.drop passed) := by
  induction passed generalizing text with
  | zero => rfl
  | succ passed ih =>
    cases text with
    | nil => simp [cut]
    | cons c rest =>
      rw [cut, ih, List.drop_succ_cons]

theorem cut_of_not_infix {separator text : List Char} (hfree : ¬ separator <:+: text)
    (field : List Char) : cut separator 0 field text = [field.reverse ++ text] := by
  induction text generalizing field with
  | nil => simp [cut]
  | cons c rest ih =>
    rw [List.infix_cons_iff, not_or] at hfree
    rw [cut, if_neg (by rw [List.isPrefixOf_iff_prefix]; exact hfree.1), ih hfree.2]
    simp

/-- The pass ends its field at the first occurrence and begins anew behind it. -/
theorem cut_of_isFirst {separator text rest : List Char} (hne : separator ≠ [])
    (h : IsFirst separator text rest) (field : List Char) :
    cut separator 0 field (text ++ (separator ++ rest)) =
      (field.reverse ++ text) :: cut separator 0 [] rest := by
  induction text generalizing field with
  | nil =>
    obtain ⟨c, tail, rfl⟩ := List.exists_cons_of_ne_nil hne
    rw [List.nil_append, List.cons_append, cut, if_pos (by simp), cut_eq_drop]
    simp
  | cons c text ih =>
    obtain ⟨hmiss, hrest⟩ := isFirst_cons_iff.mp h
    rw [List.cons_append, cut, if_neg (by rw [List.isPrefixOf_iff_prefix]; exact hmiss), ih hrest]
    simp

namespace CutsInto

variable {separator text : List Char} {row : List (List Char)}

theorem fields_eq (hne : separator ≠ []) (h : CutsInto separator text row) :
    fields separator text = row := by
  induction h with
  | last hfree => exact cut_of_not_infix hfree []
  | field hfirst _ ih =>
    rw [fields, cut_of_isFirst hne hfirst]
    exact congrArg _ ih

theorem row_ne_nil (h : CutsInto separator text row) : row ≠ [] := by
  cases h <;> exact List.cons_ne_nil _ _

theorem not_infix_of_mem (hne : separator ≠ []) (h : CutsInto separator text row)
    {field : List Char} (hmem : field ∈ row) : ¬ separator <:+: field := by
  induction h with
  | last hfree => rwa [List.mem_singleton.mp hmem]
  | field hfirst _ ih =>
    rcases List.mem_cons.mp hmem with rfl | hrest
    · exact hfirst.not_infix hne
    · exact ih hrest

/-- Nothing is lost between the fields but the separators. -/
theorem join_eq (h : CutsInto separator text row) : join separator row = text := by
  induction h with
  | last => simp [join, List.intercalate]
  | field _ hrest ih => rw [join_cons hrest.row_ne_nil, ih]

end CutsInto

theorem exists_cutsInto {separator : List Char} (hne : separator ≠ []) (text : List Char) :
    ∃ row, CutsInto separator text row := by
  by_cases hmet : separator <:+: text
  · obtain ⟨field, rest, heq, hfirst⟩ := exists_isFirst hmet
    have hshorter : rest.length < text.length := by
      have hpos := List.length_pos_iff.mpr hne
      rw [heq, List.length_append, List.length_append]
      omega
    obtain ⟨row, hrow⟩ := exists_cutsInto hne rest
    exact ⟨field :: row, heq ▸ .field hfirst hrow⟩
  · exact ⟨[text], .last hmet⟩
termination_by text.length

/-- The fields of a text are those that the separator cuts it into. -/
theorem cutsInto_iff {separator : List Char} (hne : separator ≠ []) {text : List Char}
    {row : List (List Char)} : CutsInto separator text row ↔ row = fields separator text := by
  constructor
  · intro h
    exact (h.fields_eq hne).symm
  · rintro rfl
    obtain ⟨row, hrow⟩ := exists_cutsInto hne text
    rwa [hrow.fields_eq hne]

end StreamAudit.Text
