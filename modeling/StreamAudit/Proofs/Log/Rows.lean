import StreamAudit.Proofs.Log.Returns
import StreamAudit.Proofs.Record.RoundTrip

/-!
# Logs written as rows

Rows of texts, joined by a separator and with a line feed after each, are a log
whether or not they hold records. When the separator stands in none of the
texts and cannot overlap itself, every row is found again and its entry is what
the row holds, so the separator leaves no trace. A text may end in a carriage
return: if it is the last of its row, this goes with the line feed and is not
missed.
-/

namespace StreamAudit.Log

/-- The text of a log, one row a line. -/
def writeRows (separator : String) (rows : List (List String)) : String :=
  String.join (rows.map fun row => separator.intercalate row ++ "\n")

/-- The separator keeps the texts of the rows apart. -/
structure Separates (separator : String) (rows : List (List String)) : Prop where
  nonempty : separator ≠ ""
  unbordered : Text.Unbordered separator.toList
  no_return : '\r' ∉ separator.toList
  no_feed : '\n' ∉ separator.toList
  free : ∀ row ∈ rows, ∀ field ∈ row, ¬ separator.toList <:+: field.toList

instance (separator : String) (rows : List (List String)) :
    Decidable (Separates separator rows) :=
  decidable_of_iff
    (separator ≠ "" ∧ Text.Unbordered separator.toList ∧ '\r' ∉ separator.toList ∧
      '\n' ∉ separator.toList ∧ ∀ row ∈ rows, ∀ field ∈ row, ¬ separator.toList <:+: field.toList)
    ⟨fun ⟨hne, hborder, hreturn, hfeed, hfree⟩ => ⟨hne, hborder, hreturn, hfeed, hfree⟩,
      fun ⟨hne, hborder, hreturn, hfeed, hfree⟩ => ⟨hne, hborder, hreturn, hfeed, hfree⟩⟩

/-- Each row holds something, and nothing in it ends the line. -/
def Lined (rows : List (List String)) : Prop :=
  ∀ row ∈ rows, row ≠ [] ∧ ∀ field ∈ row, '\n' ∉ field.toList

instance (rows : List (List String)) : Decidable (Lined rows) :=
  inferInstanceAs (Decidable (∀ row ∈ rows, row ≠ [] ∧ ∀ field ∈ row, '\n' ∉ field.toList))

/-- What the rows hold, numbered from 1. -/
def rowEntries (rows : List (List String)) : List (Except EntryError Record) :=
  rows.mapIdx fun i row => (Record.ofFields (row.map String.toList)).mapError (.malformed (i + 1))

theorem lineFeed_not_mem_encode_intercalate {separator : String} {row : List String}
    (hsep : '\n' ∉ separator.toList) (hrow : ∀ field ∈ row, '\n' ∉ field.toList) :
    lineFeed ∉ Text.Utf8.encode (separator.intercalate row) := by
  intro hmem
  have hchar := (Text.Utf8.ofNat_mem_encode_iff (c := '\n') (by decide)).mp hmem
  rw [String.toList_intercalate] at hchar
  rcases Text.mem_of_mem_join hchar with hin | ⟨field, hfield, hin⟩
  · exact hsep hin
  · obtain ⟨text, htext, rfl⟩ := List.mem_map.mp hfield
    exact hrow text htext hin

theorem map_bare_lines_writeRows {separator : String} (hsep : '\n' ∉ separator.toList)
    {rows : List (List String)} (hrows : Lined rows) :
    (lines (Text.Utf8.encode (writeRows separator rows))).map bare =
      rows.map fun row => bare (Text.Utf8.encode (separator.intercalate row)) := by
  induction rows with
  | nil => rfl
  | cons row rest ih =>
    have hfree := lineFeed_not_mem_encode_intercalate hsep (hrows row List.mem_cons_self).2
    have hwrite : Text.Utf8.encode (writeRows separator (row :: rest)) =
        Text.Utf8.encode (separator.intercalate row) ++
          lineFeed :: Text.Utf8.encode (writeRows separator rest) := by
      rw [writeRows, List.map_cons, String.join_cons, Text.Utf8.encode_append,
        Text.Utf8.encode_append, List.append_assoc]
      rfl
    rw [hwrite, bare_lines_append_lineFeed hfree, ih fun next hnext =>
      hrows next (List.mem_cons_of_mem row hnext), List.map_cons]

namespace Separates

variable {separator : String} {rows : List (List String)} (h : Separates separator rows)
include h

theorem ofLine_intercalate {row : List String} (hmem : row ∈ rows) (hrow : row ≠ []) :
    Record.ofLine separator (separator.intercalate row) =
      Record.ofFields (row.map String.toList) := by
  have hne : row.map String.toList ≠ [] := mt List.map_eq_nil_iff.mp hrow
  have hfree : ∀ field ∈ row.map String.toList, ¬ separator.toList <:+: field := by
    intro field hfield
    obtain ⟨text, htext, rfl⟩ := List.mem_map.mp hfield
    exact h.free row hmem text htext
  have hline : separator.intercalate row =
      String.ofList (Text.join separator.toList (row.map String.toList)) := by
    rw [← String.ofList_toList (s := separator.intercalate row), String.toList_intercalate]
    rfl
  rw [hline, Record.ofLine_join h.nonempty h.unbordered hne hfree]

/-- The entries of written rows are what the rows hold. -/
theorem entries_writeRows (hrows : Lined rows) :
    entries separator (Text.Utf8.encode (writeRows separator rows)) = rowEntries rows := by
  rw [entries_eq_mapIdx_bare h.no_return, map_bare_lines_writeRows h.no_feed hrows, rowEntries]
  apply List.ext_getElem?
  intro i
  simp only [List.getElem?_mapIdx, List.getElem?_map, Option.map_map, Function.comp_def,
    entry_bare h.no_return, entry_encode]
  cases hrow : rows[i]? with
  | none => rfl
  | some row =>
    have hmem := List.mem_of_getElem? hrow
    rw [Option.map_some, Option.map_some, h.ofLine_intercalate hmem (hrows row hmem).1]

end Separates

end StreamAudit.Log
