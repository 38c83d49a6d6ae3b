/-!
# Fields between separators

A text is cut at the leftmost occurrences of a separator that do not overlap. A
separator that can overlap itself is read from the left as well.
-/

namespace StreamAudit.Text

def occursIn (pattern : List Char) : List Char → Bool
  | [] => pattern.isEmpty
  | c :: rest => pattern.isPrefixOf (c :: rest) || occursIn pattern rest

/-- One pass over the text. The count tells how many characters of a separator
just met are still to be passed over; the field under way is held backwards. -/
def cut (separator : List Char) : Nat → List Char → List Char → List (List Char)
  | _, field, [] => [field.reverse]
  | passed + 1, field, _ :: rest => cut separator passed field rest
  | 0, field, c :: rest =>
    if separator.isPrefixOf (c :: rest) then
      field.reverse :: cut separator (separator.length - 1) [] rest
    else
      cut separator 0 (c :: field) rest

/-- The fields of a text, cut at a separator that is not empty. -/
def fields (separator text : List Char) : List (List Char) :=
  cut separator 0 [] text

def join (separator : List Char) (row : List (List Char)) : List Char :=
  separator.intercalate row

theorem join_cons {separator field : List Char} {row : List (List Char)} (h : row ≠ []) :
    join separator (field :: row) = field ++ (separator ++ join separator row) := by
  match row with
  | [] => exact absurd rfl h
  | next :: more => simp [join, List.intercalate, List.intersperse]

theorem occursIn_iff_infix (pattern text : List Char) :
    occursIn pattern text = true ↔ pattern <:+: text := by
  induction text with
  | nil => simp [occursIn]
  | cons c rest ih =>
    rw [occursIn, Bool.or_eq_true, List.isPrefixOf_iff_prefix, ih, List.infix_cons_iff]

end StreamAudit.Text
