import StreamAudit.Proofs.Log.Pieces
import StreamAudit.Proofs.Text.Encoding

/-!
# Every entry is its own line's

An entry depends on the bytes of one piece and on its position, so a log that
is continued keeps its entries and gains those of the continuation, with later
numbers. Whether a piece is text does not depend on how it is ended, and the
errors of other lines make no difference.
-/

namespace StreamAudit

/-- The error as it is told when other lines stand before the log. -/
def EntryError.shift (before : Nat) : EntryError → EntryError
  | .unreadable line cause => .unreadable (line + before) cause
  | .malformed line cause => .malformed (line + before) cause

namespace Log

/-! ## The entry of a line -/

/-- Bytes that encode no text are told of as such. -/
theorem entry_of_not_text (separator : String) (number : Nat) {line : List UInt8}
    (h : ∀ text, Text.Utf8.encode text ≠ line) :
    entry separator number line = .error (.unreadable number .invalidUtf8) := by
  cases hdecode : Text.Utf8.decode? line with
  | none => rw [entry, hdecode]
  | some text => exact absurd (Text.Utf8.eq_encode_of_decode? hdecode).symm (h text)

theorem entry_encode (separator : String) (number : Nat) (text : String) :
    entry separator number (Text.Utf8.encode text) =
      (Record.ofLine separator text).mapError (.malformed number) := by
  rw [entry, Text.Utf8.decode?_encode]
  cases hline : Record.ofLine separator text <;> simp [hline, Except.mapError]

/-- The number of a line is told in its error and makes no other difference. -/
theorem entry_add (separator : String) (number before : Nat) (line : List UInt8) :
    entry separator (number + before) line =
      (entry separator number line).mapError (EntryError.shift before) := by
  by_cases htext : ∃ text, Text.Utf8.encode text = line
  · obtain ⟨text, rfl⟩ := htext
    rw [entry_encode, entry_encode]
    cases Record.ofLine separator text <;> rfl
  · have hnone : ∀ text, Text.Utf8.encode text ≠ line := fun text heq => htext ⟨text, heq⟩
    rw [entry_of_not_text separator _ hnone, entry_of_not_text separator _ hnone]
    rfl

/-! ## The entry of a piece -/

/-- A piece is text when its content is: all endings are characters of their own. -/
theorem exists_encode_content_iff (piece : List UInt8) :
    (∃ line, Text.Utf8.encode line = content piece) ↔ ∃ text, Text.Utf8.encode text = piece := by
  have hfeed : ∀ bytes, (∃ text, Text.Utf8.encode text = bytes ++ [lineFeed]) ↔
      ∃ text, Text.Utf8.encode text = bytes :=
    fun _ => Text.Utf8.exists_encode_append_iff (c := '\n') (by decide)
  have hreturn : ∀ bytes, (∃ text, Text.Utf8.encode text = bytes ++ [carriageReturn]) ↔
      ∃ text, Text.Utf8.encode text = bytes :=
    fun _ => Text.Utf8.exists_encode_append_iff (c := '\r') (by decide)
  obtain ⟨ending, hending, hpiece⟩ := exists_ending piece
  generalize content piece = line at hpiece ⊢
  subst hpiece
  simp only [List.mem_cons, List.not_mem_nil, or_false] at hending
  rcases hending with rfl | rfl | rfl
  · rw [List.append_nil]
  · exact (hfeed line).symm
  · have hboth : line ++ [carriageReturn, lineFeed] =
        (line ++ [carriageReturn]) ++ [lineFeed] := by simp
    rw [hboth, hfeed, hreturn]

theorem length_pieces (separator : String) (bytes : List UInt8) :
    (pieces bytes).length = (entries separator bytes).length := by
  rw [length_entries, lines_eq_map_content, List.length_map]

section Piece

variable (separator : String) {bytes piece : List UInt8} {i : Nat}
  (h : (pieces bytes)[i]? = some piece)
include h

theorem getElem?_entries :
    (entries separator bytes)[i]? = some (entry separator (i + 1) (content piece)) := by
  rw [entries, List.getElem?_mapIdx, lines_eq_map_content, List.getElem?_map, h]
  rfl

theorem getElem?_entries_of_not_text (hnone : ∀ text, Text.Utf8.encode text ≠ piece) :
    (entries separator bytes)[i]? = some (.error (.unreadable (i + 1) .invalidUtf8)) := by
  rw [getElem?_entries separator h, entry_of_not_text]
  intro line hline
  obtain ⟨text, htext⟩ := (exists_encode_content_iff piece).mp ⟨line, hline⟩
  exact hnone text htext

theorem getElem?_entries_of_text {text : String} (htext : Text.Utf8.encode text = piece) :
    ∃ line, Text.Utf8.encode line = content piece ∧ (entries separator bytes)[i]? =
      some ((Record.ofLine separator line).mapError (.malformed (i + 1))) := by
  obtain ⟨line, hline⟩ := (exists_encode_content_iff piece).mpr ⟨text, htext⟩
  refine ⟨line, hline, ?_⟩
  rw [getElem?_entries separator h, ← hline, entry_encode]

end Piece

/-! ## Continued logs -/

/-- The entries of a continued log are those of its beginning, and then those of
the continuation with the numbers that they have there. -/
theorem entries_append_of_ended (separator : String) {first : List UInt8} (h : Ended first)
    (more : List UInt8) :
    entries separator (first ++ more) = entries separator first ++
      (entries separator more).map (Except.mapError (EntryError.shift (lines first).length)) := by
  rw [entries, lines_append_of_ended h, List.mapIdx_append]
  congr 1
  apply List.ext_getElem?
  intro i
  simp only [entries, List.getElem?_mapIdx, List.getElem?_map, Option.map_map,
    Function.comp_def, ← entry_add, Nat.add_right_comm i]

end Log

end StreamAudit
