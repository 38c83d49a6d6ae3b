import StreamAudit.Log

/-!
# The lines of a log, one at a time

What the pass over the bytes does with one line, whatever follows it. The line
feed that ends it is not part of it, and neither is one carriage return before
that; a last line that nothing ends is kept as it is.
-/

namespace StreamAudit.Log

theorem linesFrom_of_not_mem {content : List UInt8} (h : lineFeed ∉ content)
    (line rest : List UInt8) :
    linesFrom [] line (content ++ rest) = linesFrom [] (content.reverse ++ line) rest := by
  induction content generalizing line with
  | nil => rfl
  | cons b content ih =>
    rw [List.mem_cons, not_or] at h
    rw [List.cons_append, linesFrom, if_neg (Ne.symm h.1), ih h.2, List.reverse_cons,
      List.append_assoc, List.singleton_append]

/-- The first line is what stands before the first line feed. -/
theorem lines_append_lineFeed {content : List UInt8} (h : lineFeed ∉ content)
    (rest : List UInt8) :
    lines (content ++ lineFeed :: rest) = (dropReturn content.reverse).reverse :: lines rest := by
  rw [lines, linesFrom_of_not_mem h, List.append_nil, linesFrom.eq_def]
  simp only [if_pos]
  rw [linesFrom_finished]
  rfl

/-- What no line feed ends is one last line, unless it is empty. -/
theorem lines_of_not_mem {content : List UInt8} (h : lineFeed ∉ content) (hne : content ≠ []) :
    lines content = [content] := by
  rw [lines, ← List.append_nil content, linesFrom_of_not_mem h]
  cases hrev : content.reverse with
  | nil => exact absurd (List.reverse_eq_nil_iff.mp hrev) hne
  | cons b line =>
    rw [List.append_nil, List.append_nil, linesFrom, ← hrev, List.reverse_reverse]
    rfl

theorem dropReturn_reverse {content : List UInt8}
    (h : content.getLast? ≠ some carriageReturn) :
    dropReturn content.reverse = content.reverse := by
  rw [List.getLast?_eq_head?_reverse] at h
  cases hrev : content.reverse with
  | nil => rfl
  | cons b line =>
    rw [hrev, List.head?_cons] at h
    rw [dropReturn, if_neg fun heq => h (congrArg some heq)]

theorem lines_feed {content : List UInt8} (h : lineFeed ∉ content)
    (hlast : content.getLast? ≠ some carriageReturn) (rest : List UInt8) :
    lines (content ++ lineFeed :: rest) = content :: lines rest := by
  rw [lines_append_lineFeed h, dropReturn_reverse hlast, List.reverse_reverse]

theorem lines_returnFeed {content : List UInt8} (h : lineFeed ∉ content) (rest : List UInt8) :
    lines (content ++ carriageReturn :: lineFeed :: rest) = content :: lines rest := by
  have hreturn : lineFeed ∉ content ++ [carriageReturn] := by
    simp only [List.mem_append, List.mem_singleton, not_or]
    exact ⟨h, by decide⟩
  have hsplit : content ++ carriageReturn :: lineFeed :: rest =
      (content ++ [carriageReturn]) ++ lineFeed :: rest := by simp
  rw [hsplit, lines_append_lineFeed hreturn, List.reverse_append]
  show (dropReturn (carriageReturn :: content.reverse)).reverse :: lines rest = _
  rw [dropReturn, if_pos rfl, List.reverse_reverse]

end StreamAudit.Log
