import Mathlib.Data.List.SplitBy
import Mathlib.Data.List.Infix
import StreamAudit.Proofs.Log.Lines

/-!
# A log in pieces

A log is cut after each of its line feeds, so that nothing is lost and each
piece is a line with what ends it. The lines that the pass over the bytes finds
are these pieces without their endings, one for each, and they can be counted
by the line feeds. A log that ends a line can be continued without changing its
lines.
-/

namespace StreamAudit.Log

/-- The bytes of a log, cut after each line feed. -/
def pieces (bytes : List UInt8) : List (List UInt8) :=
  bytes.splitBy fun b _ => b ≠ lineFeed

/-- A piece without its ending, which is a line feed, or that and one carriage
return before it, or nothing. -/
def content (piece : List UInt8) : List UInt8 :=
  if [carriageReturn, lineFeed] <:+ piece then piece.dropLast.dropLast
  else if [lineFeed] <:+ piece then piece.dropLast
  else piece

/-- The bytes are those of a log whose last line, if there is one, is ended. -/
def Ended (bytes : List UInt8) : Prop :=
  bytes = [] ∨ bytes.getLast? = some lineFeed

instance (bytes : List UInt8) : Decidable (Ended bytes) :=
  inferInstanceAs (Decidable (_ ∨ _))

/-- A log has no bytes, or a single line without an end, or begins with a line
that a line feed ends. -/
theorem lines_induction {motive : List UInt8 → Prop} (nil : motive [])
    (last : ∀ line, lineFeed ∉ line → line ≠ [] → motive line)
    (ended : ∀ line rest, lineFeed ∉ line → motive rest → motive (line ++ lineFeed :: rest))
    (bytes : List UInt8) : motive bytes := by
  by_cases hfeed : lineFeed ∈ bytes
  · obtain ⟨line, rest, heq, hline⟩ := List.eq_append_cons_of_mem hfeed
    have hshorter : rest.length < bytes.length := by
      rw [heq, List.length_append, List.length_cons]
      omega
    rw [heq]
    exact ended line rest hline (lines_induction nil last ended rest)
  · by_cases hnil : bytes = []
    · exact hnil ▸ nil
    · exact last bytes hfeed hnil
termination_by bytes.length

/-! ## Pieces -/

theorem isChain_of_not_mem {line : List UInt8} (h : lineFeed ∉ line) :
    line.IsChain fun b _ => decide (b ≠ lineFeed) = true := by
  apply List.Pairwise.isChain
  apply List.pairwise_of_forall_mem_list
  intro b hb _ _
  rw [decide_eq_true_eq]
  rintro rfl
  exact h hb

theorem pieces_of_not_mem {line : List UInt8} (h : lineFeed ∉ line) (hne : line ≠ []) :
    pieces line = [line] :=
  List.splitBy_of_isChain hne (isChain_of_not_mem h)

theorem pieces_append_lineFeed {line : List UInt8} (h : lineFeed ∉ line) (rest : List UInt8) :
    pieces (line ++ lineFeed :: rest) = (line ++ [lineFeed]) :: pieces rest := by
  have hfirst : pieces (line ++ [lineFeed]) = [line ++ [lineFeed]] := by
    apply List.splitBy_of_isChain (by simp)
    rw [List.isChain_append]
    refine ⟨isChain_of_not_mem h, List.isChain_singleton _, ?_⟩
    intro b hb _ _
    rw [decide_eq_true_eq]
    rintro rfl
    exact h (List.mem_of_mem_getLast? hb)
  have hcut : pieces ((line ++ [lineFeed]) ++ rest) =
      pieces (line ++ [lineFeed]) ++ pieces rest := by
    apply List.splitBy_append
    intro b hb _ _
    rw [List.getLast?_concat, Option.mem_some_iff] at hb
    simp [← hb]
  rw [← List.singleton_append, ← List.append_assoc, hcut, hfirst, List.singleton_append]

/-! ## Contents -/

theorem content_of_not_mem {line : List UInt8} (h : lineFeed ∉ line) : content line = line := by
  have hfeed : ¬ [lineFeed] <:+ line := fun hsuffix => h (hsuffix.subset (by simp))
  have hreturn : ¬ [carriageReturn, lineFeed] <:+ line :=
    fun hsuffix => h (hsuffix.subset (by simp))
  rw [content, if_neg hreturn, if_neg hfeed]

theorem content_append_lineFeed (line : List UInt8) :
    content (line ++ [lineFeed]) = (dropReturn line.reverse).reverse := by
  rcases List.eq_nil_or_concat line with rfl | ⟨front, b, rfl⟩
  · decide
  · rw [List.concat_eq_append, List.reverse_append, List.reverse_singleton, List.singleton_append,
      dropReturn]
    by_cases hb : b = carriageReturn
    · subst hb
      have hsuffix : [carriageReturn, lineFeed] <:+ front ++ [carriageReturn] ++ [lineFeed] :=
        ⟨front, by simp⟩
      rw [content, if_pos hsuffix, if_pos rfl]
      simp
    · have hsuffix : ¬ [carriageReturn, lineFeed] <:+ front ++ [b] ++ [lineFeed] := by
        intro hsuffix
        obtain ⟨before, heq⟩ := hsuffix
        have hback := congrArg List.reverse heq
        simp only [List.reverse_append, List.reverse_cons, List.reverse_nil, List.nil_append,
          List.cons_append, List.cons.injEq] at hback
        exact hb hback.2.1.symm
      rw [content, if_neg hsuffix, if_pos (List.suffix_append _ _), if_neg hb]
      simp

/-- What a content was cut from is the content and one of the three endings. -/
theorem exists_ending (piece : List UInt8) :
    ∃ ending ∈ [[], [lineFeed], [carriageReturn, lineFeed]], piece = content piece ++ ending := by
  by_cases hreturn : [carriageReturn, lineFeed] <:+ piece
  · refine ⟨[carriageReturn, lineFeed], by simp, ?_⟩
    obtain ⟨front, rfl⟩ := hreturn
    rw [content, if_pos (List.suffix_append _ _)]
    simp
  · by_cases hfeed : [lineFeed] <:+ piece
    · refine ⟨[lineFeed], by simp, ?_⟩
      rw [content, if_neg hreturn, if_pos hfeed]
      obtain ⟨front, rfl⟩ := hfeed
      simp
    · refine ⟨[], by simp, ?_⟩
      rw [content, if_neg hreturn, if_neg hfeed, List.append_nil]

/-! ## Lines -/

/-- The lines are the pieces without their endings. -/
theorem lines_eq_map_content (bytes : List UInt8) : lines bytes = (pieces bytes).map content := by
  induction bytes using lines_induction with
  | nil => rfl
  | last line hline hne =>
    rw [lines_of_not_mem hline hne, pieces_of_not_mem hline hne, List.map_singleton,
      content_of_not_mem hline]
  | ended line rest hline ih =>
    rw [lines_append_lineFeed hline, pieces_append_lineFeed hline, List.map_cons, ← ih,
      content_append_lineFeed]

theorem ended_append_lineFeed_iff (line rest : List UInt8) :
    Ended (line ++ lineFeed :: rest) ↔ Ended rest := by
  by_cases hrest : rest = []
  · subst hrest
    simp [Ended]
  · obtain ⟨b, hlast⟩ := Option.isSome_iff_exists.mp (List.getLast?_isSome.mpr hrest)
    simp [Ended, hrest, List.getLast?_append, List.getLast?_cons, hlast]

/-- There is a line for each line feed, and one more for what the last of them
leaves over. -/
theorem length_lines (bytes : List UInt8) :
    (lines bytes).length = bytes.count lineFeed + if Ended bytes then 0 else 1 := by
  induction bytes using lines_induction with
  | nil => rfl
  | last line hline hne =>
    have hended : ¬ Ended line := by
      intro hended
      rcases hended with hnil | hlast
      · exact hne hnil
      · exact hline (List.mem_of_getLast? hlast)
    rw [lines_of_not_mem hline hne, List.count_eq_zero_of_not_mem hline, if_neg hended]
    rfl
  | ended line rest hline ih =>
    rw [lines_append_lineFeed hline, List.length_cons, ih, List.count_append, List.count_cons_self,
      List.count_eq_zero_of_not_mem hline]
    simp only [ended_append_lineFeed_iff]
    omega

/-- A log that ends its last line can be continued without a change to its lines. -/
theorem lines_append_of_ended {first : List UInt8} (h : Ended first) (more : List UInt8) :
    lines (first ++ more) = lines first ++ lines more := by
  rcases h with rfl | hlast
  · rfl
  · obtain ⟨front, rfl⟩ := List.getLast?_eq_some_iff.mp hlast
    rw [List.append_assoc, List.singleton_append, lines_append]

end StreamAudit.Log
