import StreamAudit.Proofs.Record.Padding

/-!
# Blanks at the end of a line

A blank behind a line goes into the last field when it stands nowhere in the
separator. There it makes no difference, whatever the line is read as: of four
fields the last is read without its blanks, and of any other number of fields
only the number is told. A line of one field has no other field before it, so
this is more than the padding of fields behind the first.
-/

namespace StreamAudit.Record

theorem padded_append_singleton {padding : Char → Prop} {c : Char} (hc : padding c)
    (front : List (List Char)) (field : List Char) :
    List.Forall₂ (Text.Padded padding) (front ++ [field]) (front ++ [field ++ [c]]) := by
  have hfront : List.Forall₂ (Text.Padded padding) front front :=
    List.forall₂_same.mpr fun text _ => Text.Padded.refl padding text
  have hlast : Text.Padded padding field (field ++ [c]) := ⟨[], [c], rfl, by simpa using hc⟩
  exact List.rel_append hfront (.cons hlast .nil)

variable {c : Char} (hblank : Text.isBlank c = true)
include hblank

theorem ofFields_append_blank (front : List (List Char)) (field : List Char) :
    ofFields (front ++ [field ++ [c]]) = ofFields (front ++ [field]) := by
  cases front with
  | nil => rfl
  | cons timestamp front => exact ofFields_padded (padded_append_singleton hblank front field)

/-- Every outcome stays, the faults with their values included. -/
theorem ofLine_append_blank {separator : String} (hc : c ∉ separator.toList) (line : String) :
    ofLine separator (line ++ String.singleton c) = ofLine separator line := by
  by_cases hne : separator = ""
  · rw [ofLine, if_pos (by simpa using hne), ofLine, if_pos (by simpa using hne)]
  · have hlist : separator.toList ≠ [] := mt String.toList_eq_nil_iff.mp hne
    obtain ⟨row, hrow⟩ := Text.exists_cutsInto hlist line.toList
    obtain ⟨front, field, rfl⟩ := (List.eq_nil_or_concat row).resolve_left hrow.row_ne_nil
    rw [List.concat_eq_append] at hrow
    have hlonger : Text.CutsInto separator.toList (line ++ String.singleton c).toList
        (front ++ [field ++ [c]]) := by
      rw [String.toList_append, String.toList_singleton, ← hrow.join_eq,
        ← Text.join_append_singleton]
      exact hrow.pad hlist (padded_append_singleton hc front field)
    rw [ofLine_of_cutsInto hne hlonger, ofLine_of_cutsInto hne hrow,
      ofFields_append_blank hblank]

end StreamAudit.Record
