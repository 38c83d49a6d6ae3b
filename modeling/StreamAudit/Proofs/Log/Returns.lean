import Mathlib.Data.List.DropRight
import StreamAudit.Proofs.Log.Locality
import StreamAudit.Proofs.Record.Trailing

/-!
# Carriage returns at the ends of lines

One carriage return before a line feed belongs to the ending and is not read;
more of them, and those of a last line that nothing ends, stay in the line.
They make no difference to its entry under a separator without carriage return.
So a log is read by its bare lines, and these do not change when carriage
returns are put before line feeds, or when the last line is ended.
-/

namespace StreamAudit.Log

/-- The second log is the first with carriage returns put directly before line
feeds, any number before each. -/
inductive ReturnsAdded : List UInt8 → List UInt8 → Prop
  | nil : ReturnsAdded [] []
  | keep {bytes more : List UInt8} (b : UInt8) :
      ReturnsAdded bytes more → ReturnsAdded (b :: bytes) (b :: more)
  | add {bytes more : List UInt8} : ReturnsAdded (lineFeed :: bytes) more →
      ReturnsAdded (lineFeed :: bytes) (carriageReturn :: more)

/-- A line without all the carriage returns at its end. -/
def bare (line : List UInt8) : List UInt8 :=
  line.rdropWhile (· == carriageReturn)

/-! ## Bare lines -/

theorem bare_append_return (line : List UInt8) : bare (line ++ [carriageReturn]) = bare line :=
  List.rdropWhile_concat_pos _ _ _ (beq_self_eq_true _)

theorem bare_append_returns (line : List UInt8) (n : Nat) :
    bare (line ++ List.replicate n carriageReturn) = bare line := by
  induction n with
  | zero => rw [List.replicate_zero, List.append_nil]
  | succ n ih => rw [List.replicate_succ', ← List.append_assoc, bare_append_return, ih]

theorem bare_dropReturn (line : List UInt8) :
    bare (dropReturn line.reverse).reverse = bare line := by
  rcases List.eq_nil_or_concat line with rfl | ⟨front, b, rfl⟩
  · rfl
  · rw [List.concat_eq_append, List.reverse_append, List.reverse_singleton, List.singleton_append,
      dropReturn]
    by_cases hb : b = carriageReturn
    · rw [if_pos hb, hb, List.reverse_reverse, bare_append_return]
    · rw [if_neg hb, List.reverse_cons, List.reverse_reverse]

theorem entry_append_return {separator : String} (hsep : '\r' ∉ separator.toList) (number : Nat)
    (line : List UInt8) :
    entry separator number (line ++ [carriageReturn]) = entry separator number line := by
  have hreturn : Text.Utf8.encode (String.singleton '\r') = [carriageReturn] := by decide
  by_cases htext : ∃ text, Text.Utf8.encode text = line
  · obtain ⟨text, rfl⟩ := htext
    rw [← hreturn, ← Text.Utf8.encode_append, entry_encode, entry_encode,
      Record.ofLine_append_blank (by decide) hsep]
  · have hended : ¬ ∃ text, Text.Utf8.encode text = line ++ [carriageReturn] :=
      mt (Text.Utf8.exists_encode_append_iff (c := '\r') (by decide)).mp htext
    rw [entry_of_not_text separator number (not_exists.mp hended),
      entry_of_not_text separator number (not_exists.mp htext)]

theorem entry_bare {separator : String} (hsep : '\r' ∉ separator.toList) (number : Nat)
    (line : List UInt8) : entry separator number (bare line) = entry separator number line := by
  induction line using List.reverseRecOn with
  | nil => rfl
  | append_singleton front b ih =>
    by_cases hb : b = carriageReturn
    · rw [hb, bare_append_return, ih, entry_append_return hsep]
    · rw [bare, List.rdropWhile_concat_neg _ _ _ (by simpa using hb)]

/-- The entries of a log are those of its bare lines. -/
theorem entries_eq_mapIdx_bare {separator : String} (hsep : '\r' ∉ separator.toList)
    (bytes : List UInt8) : entries separator bytes =
      ((lines bytes).map bare).mapIdx fun i line => entry separator (i + 1) line := by
  apply List.ext_getElem?
  intro i
  simp only [entries, List.getElem?_mapIdx, List.getElem?_map, Option.map_map, Function.comp_def,
    entry_bare hsep]

/-! ## Added carriage returns -/

theorem bare_lines_append_lineFeed {line : List UInt8} (h : lineFeed ∉ line)
    (rest : List UInt8) :
    (lines (line ++ lineFeed :: rest)).map bare = bare line :: (lines rest).map bare := by
  rw [lines_append_lineFeed h, List.map_cons, bare_dropReturn]

namespace ReturnsAdded

theorem eq_of_not_mem {line more : List UInt8} (h : lineFeed ∉ line)
    (hadded : ReturnsAdded line more) : more = line := by
  induction hadded with
  | nil => rfl
  | keep b _ ih => rw [ih fun hmem => h (List.mem_cons_of_mem b hmem)]
  | add => exact absurd List.mem_cons_self h

/-- Before the first line feed there is nothing new but carriage returns next to it. -/
theorem exists_of_append_lineFeed {line rest more : List UInt8} (h : lineFeed ∉ line)
    (hadded : ReturnsAdded (line ++ lineFeed :: rest) more) :
    ∃ n after, more = line ++ (List.replicate n carriageReturn ++ lineFeed :: after) ∧
      ReturnsAdded rest after := by
  induction line generalizing more with
  | nil =>
    generalize hbytes : [] ++ lineFeed :: rest = bytes at hadded
    induction hadded with
    | nil => cases hbytes
    | keep b hrest _ =>
      obtain ⟨rfl, rfl⟩ := List.cons.inj hbytes
      exact ⟨0, _, rfl, hrest⟩
    | add _ ih =>
      obtain ⟨n, after, rfl, hrest⟩ := ih hbytes
      exact ⟨n + 1, after, rfl, hrest⟩
  | cons b line ih =>
    rw [List.mem_cons, not_or] at h
    generalize hbytes : b :: line ++ lineFeed :: rest = bytes at hadded
    cases hadded with
    | nil => cases hbytes
    | keep b' hrest =>
      obtain ⟨rfl, rfl⟩ := List.cons.inj hbytes
      obtain ⟨n, after, rfl, hafter⟩ := ih h.2 hrest
      exact ⟨n, after, rfl, hafter⟩
    | add => exact absurd (List.cons.inj hbytes).1.symm h.1

/-- What stands before the change does not matter. -/
theorem append_left {bytes more : List UInt8} (h : ReturnsAdded bytes more)
    (front : List UInt8) : ReturnsAdded (front ++ bytes) (front ++ more) := by
  induction front with
  | nil => exact h
  | cons b front ih => exact .keep b ih

theorem map_bare_lines {bytes more : List UInt8} (h : ReturnsAdded bytes more) :
    (lines more).map bare = (lines bytes).map bare := by
  induction bytes using lines_induction generalizing more with
  | nil => rw [h.eq_of_not_mem List.not_mem_nil]
  | last line hline => rw [h.eq_of_not_mem hline]
  | ended line rest hline ih =>
    obtain ⟨n, after, rfl, hrest⟩ := h.exists_of_append_lineFeed hline
    have hreturns : lineFeed ∉ line ++ List.replicate n carriageReturn := by
      rw [List.mem_append, not_or]
      exact ⟨hline, fun hmem => absurd (List.eq_of_mem_replicate hmem) (by decide)⟩
    rw [← List.append_assoc, bare_lines_append_lineFeed hreturns, bare_append_returns, ih hrest,
      bare_lines_append_lineFeed hline]

end ReturnsAdded

/-- A last line may be ended. -/
theorem map_bare_lines_append_lineFeed {bytes : List UInt8} (h : ¬ Ended bytes) :
    (lines (bytes ++ [lineFeed])).map bare = (lines bytes).map bare := by
  induction bytes using lines_induction with
  | nil => exact absurd (.inl rfl) h
  | last line hline hne =>
    rw [bare_lines_append_lineFeed hline, lines_of_not_mem hline hne]
    rfl
  | ended line rest hline ih =>
    rw [ended_append_lineFeed_iff] at h
    rw [List.append_assoc, List.cons_append, bare_lines_append_lineFeed hline, ih h,
      bare_lines_append_lineFeed hline]

end StreamAudit.Log
