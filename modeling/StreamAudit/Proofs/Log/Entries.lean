import Mathlib.Data.List.Perm.Basic
import Mathlib.Data.Set.List
import StreamAudit.Log

/-!
# Entries that hold a record

Whether a line holds a record, and which one, does not depend on the number of
the line. A log all of whose entries hold records is therefore read line by
line, and the same lines in another order give the same records in that order.
The number is told in the error of a line without a record; that of the first
such line is one more than the number of records before it.
-/

namespace StreamAudit.Log

/-- The record that a line holds, whatever its number. -/
def record? (separator : String) (line : List UInt8) : Option Record :=
  (entry separator 1 line).toOption

/-- The records among the entries of a log. -/
def records (separator : String) (bytes : List UInt8) : List Record :=
  (entries separator bytes).filterMap Except.toOption

theorem toOption_entry (separator : String) (number : Nat) (line : List UInt8) :
    (entry separator number line).toOption = record? separator line := by
  unfold record? entry
  cases Text.Utf8.decode? line with
  | none => rfl
  | some text => cases h : Record.ofLine separator text <;> simp [h, Except.toOption]

theorem map_toOption_entries (separator : String) (bytes : List UInt8) :
    (entries separator bytes).map Except.toOption = (lines bytes).map (record? separator) := by
  apply List.ext_getElem?
  intro i
  simp only [entries, List.getElem?_map, List.getElem?_mapIdx, Option.map_map, Function.comp_def,
    toOption_entry]

theorem map_toOption_eq_map_some_iff {es : List (Except EntryError Record)} {rs : List Record} :
    es.map Except.toOption = rs.map some ↔ es = rs.map .ok := by
  induction es generalizing rs with
  | nil => cases rs <;> simp
  | cons e es ih =>
    cases rs with
    | nil => simp
    | cons r rs => cases e <;> simp [Except.toOption, ih]

theorem entries_eq_map_ok_iff {separator : String} {bytes : List UInt8} {rs : List Record} :
    entries separator bytes = rs.map .ok ↔
      (lines bytes).map (record? separator) = rs.map some := by
  rw [← map_toOption_entries, map_toOption_eq_map_some_iff]

theorem records_of_entries {separator : String} {bytes : List UInt8} {rs : List Record}
    (h : entries separator bytes = rs.map .ok) : records separator bytes = rs := by
  rw [records, h, List.filterMap_map]
  exact List.filterMap_some

/-- The same lines in another order hold the same records in another order. -/
theorem exists_entries_of_perm {separator : String} {bytes bytes' : List UInt8}
    {rs : List Record} (hperm : (lines bytes).Perm (lines bytes'))
    (h : entries separator bytes = rs.map .ok) :
    ∃ rs', entries separator bytes' = rs'.map .ok ∧ rs.Perm rs' := by
  have hread := hperm.map (record? separator)
  rw [entries_eq_map_ok_iff.mp h] at hread
  -- every line of the second log is one of the first, so none is without a record
  have hsome : (lines bytes').map (record? separator) ∈ Set.range (List.map some) := by
    rw [Set.range_list_map]
    intro o ho
    obtain ⟨r, _, hr⟩ := List.mem_map.mp (hread.mem_iff.mpr ho)
    exact ⟨r, hr⟩
  obtain ⟨rs', hrs'⟩ := hsome
  refine ⟨rs', entries_eq_map_ok_iff.mpr hrs'.symm, ?_⟩
  rw [← hrs'] at hread
  exact (List.map_perm_map_iff (Option.some_injective Record)).mp hread

/-- An error is told under the number of its line. -/
theorem line_of_entry_error {separator : String} {number : Nat} {line : List UInt8}
    {error : EntryError} (h : entry separator number line = .error error) :
    error.line = number := by
  unfold entry at h
  split at h
  · obtain rfl := Except.error.inj h
    rfl
  · split at h
    · obtain rfl := Except.error.inj h
      rfl
    · cases h

theorem line_of_first_error {separator : String} {bytes : List UInt8} {rs : List Record}
    {error : EntryError} {rest : List (Except EntryError Record)}
    (h : entries separator bytes = rs.map .ok ++ .error error :: rest) :
    error.line = rs.length + 1 := by
  have hat : (entries separator bytes)[rs.length]? = some (.error error) := by
    rw [h, List.getElem?_append_right (by rw [List.length_map]), List.length_map, Nat.sub_self]
    rfl
  rw [entries, List.getElem?_mapIdx, Option.map_eq_some_iff] at hat
  obtain ⟨line, _, hentry⟩ := hat
  exact line_of_entry_error hentry

/-- A line of a log that cannot be read is one that is not text. -/
theorem cause_of_unreadable {separator : String} {bytes : List UInt8} {number : Nat}
    {cause : ReadError} (h : .error (.unreadable number cause) ∈ entries separator bytes) :
    cause = .invalidUtf8 := by
  obtain ⟨i, hi, hentry⟩ := List.mem_mapIdx.mp h
  unfold entry at hentry
  split at hentry
  · injection Except.error.inj hentry with _ hcause
    exact hcause.symm
  · split at hentry <;> cases hentry

end StreamAudit.Log
