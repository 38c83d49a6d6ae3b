import StreamAudit.Proofs.Log.Locality
import StreamAudit.Proofs.Record.Grammar
import StreamAudit.Proofs.Text.Cutting

/-!
# Names in a log

The name of an operator is cut from one line and trimmed, so it holds nothing
but characters of that line, and a line holds no line feed. This is so for every
separator, for one that holds a line feed itself as well, and whatever else the
name may hold: carriage returns inside it stay.
-/

namespace StreamAudit

/-- Reading adds nothing to a name. -/
theorem Record.mem_line_of_mem_operator {separator line : String} {r : Record} {c : Char}
    (h : ofLine separator line = .ok r) (hc : c ∈ r.operator.toList) : c ∈ line.toList := by
  have hreads := reads_ofLine separator line
  rw [h] at hreads
  cases hreads with
  | @record _ sequenceNumber operator operatorCount _ hrow _ hcore _ =>
    obtain ⟨front, back, hfield, _⟩ := hcore.surrounded
    have hoperator : c ∈ operator := by
      rw [hfield]
      exact List.mem_append_right _ (List.mem_append_left _ hc)
    rw [← hrow.join_eq]
    exact Text.mem_join (by simp) hoperator

namespace Log

theorem mem_of_mem_dropReturn {line : List UInt8} {b : UInt8} (h : b ∈ dropReturn line) :
    b ∈ line := by
  cases line with
  | nil => exact h
  | cons first rest =>
    rw [dropReturn] at h
    split at h
    · exact List.mem_cons_of_mem first h
    · exact h

theorem lineFeed_not_mem_of_mem_lines {bytes line : List UInt8} (h : line ∈ lines bytes) :
    lineFeed ∉ line := by
  induction bytes using lines_induction with
  | nil => cases h
  | last content hfree hne =>
    rw [lines_of_not_mem hfree hne, List.mem_singleton] at h
    exact h ▸ hfree
  | ended content rest hfree ih =>
    rw [lines_append_lineFeed hfree, List.mem_cons] at h
    rcases h with rfl | h
    · intro hmem
      exact hfree (List.mem_reverse.mp (mem_of_mem_dropReturn (List.mem_reverse.mp hmem)))
    · exact ih h

/-- A record is read from a line that is text. -/
theorem exists_text_of_entry {separator : String} {number : Nat} {line : List UInt8} {r : Record}
    (h : entry separator number line = .ok r) :
    ∃ text, Text.Utf8.encode text = line ∧ Record.ofLine separator text = .ok r := by
  by_cases htext : ∃ text, Text.Utf8.encode text = line
  · obtain ⟨text, rfl⟩ := htext
    refine ⟨text, rfl, ?_⟩
    rw [entry_encode] at h
    cases hline : Record.ofLine separator text with
    | error e =>
      rw [hline] at h
      cases h
    | ok r' =>
      rw [hline] at h
      simpa [Except.mapError] using h
  · rw [entry_of_not_text separator number fun text heq => htext ⟨text, heq⟩] at h
    cases h

/-- No name read from a log reaches over the end of a line. -/
theorem lineFeed_not_mem_operator {separator : String} {bytes : List UInt8}
    {records : List Record} (h : entries separator bytes = records.map .ok) :
    ∀ r ∈ records, '\n' ∉ r.operator.toList := by
  intro r hr hfeed
  have hentry : .ok r ∈ entries separator bytes := by
    rw [h]
    exact List.mem_map_of_mem hr
  obtain ⟨i, hi, hline⟩ := List.mem_mapIdx.mp hentry
  obtain ⟨text, htext, hread⟩ := exists_text_of_entry hline
  have hmem : lineFeed ∈ Text.Utf8.encode text :=
    (Text.Utf8.ofNat_mem_encode_iff (c := '\n') (by decide)).mpr
      (Record.mem_line_of_mem_operator hread hfeed)
  rw [htext] at hmem
  exact lineFeed_not_mem_of_mem_lines (List.getElem_mem hi) hmem

end Log

end StreamAudit
