import StreamAudit.Proofs.Audit.Reading

/-!
# Where an audit stops

Entries are entered one after the other, so entering is a run that can be cut
anywhere. It stops at the first entry without a record and tells of that one,
whatever follows. As long as a word can number the entries there is no other
way to stop.
-/

namespace StreamAudit

/-- Entries all hold records, or do up to a first one that holds none. -/
theorem Log.exists_records_or_error (entries : List (Except EntryError Record)) :
    ∃ records : List Record, entries = records.map .ok ∨
      ∃ error rest, entries = records.map .ok ++ .error error :: rest := by
  induction entries with
  | nil => exact ⟨[], .inl rfl⟩
  | cons entry rest ih =>
    cases entry with
    | error error => exact ⟨[], .inr ⟨error, rest, rfl⟩⟩
    | ok r =>
      obtain ⟨records, hall | ⟨error, more, hfirst⟩⟩ := ih
      · exact ⟨r :: records, .inl (congrArg _ hall)⟩
      · exact ⟨r :: records, .inr ⟨error, more, congrArg _ hfirst⟩⟩

namespace Ledger

theorem enterAll_append (ledger : Ledger) (first more : List (Except EntryError Record)) :
    ledger.enterAll (first ++ more) =
      ledger.enterAll first >>= fun next => next.enterAll more :=
  List.foldlM_append

theorem enterAll_append_of_ok {ledger next : Ledger} {first : List (Except EntryError Record)}
    (h : ledger.enterAll first = .ok next) (more : List (Except EntryError Record)) :
    ledger.enterAll (first ++ more) = next.enterAll more := by
  rw [enterAll_append, h]
  rfl

namespace Agrees

variable {ledger : Ledger} {seen : List Record} (h : ledger.Agrees seen)
include h

theorem exists_enterAll {records : List Record}
    (hroom : seen.length + records.length < UInt64.size) :
    ∃ next, ledger.recordAll records = .ok next ∧
      ledger.enterAll (records.map .ok) = .ok next := by
  obtain ⟨next, hrun⟩ := h.exists_recordAll records hroom
  exact ⟨next, hrun, enterAll_eq_ok_iff.mpr ⟨records, rfl, hrun⟩⟩

/-- The records before the first error are entered without overflow, so the
error is the one that is told. -/
theorem enterAll_first_error {records : List Record} {error : EntryError}
    {rest : List (Except EntryError Record)}
    (hroom : seen.length + records.length < UInt64.size) :
    ledger.enterAll (records.map .ok ++ .error error :: rest) = .error (.entry error) := by
  obtain ⟨next, _, hrun⟩ := h.exists_enterAll hroom
  rw [enterAll_append_of_ok hrun]
  rfl

end Agrees

end Ledger

section Error

variable {separator : String} {bytes : List UInt8}
  (hlines : (Log.lines bytes).length < UInt64.size)
include hlines

theorem audit_of_first_error {records : List Record} {error : EntryError}
    {rest : List (Except EntryError Record)}
    (hread : Log.entries separator bytes = records.map .ok ++ .error error :: rest) :
    audit separator bytes = .error (.entry error) := by
  have hlength := Log.length_entries separator bytes
  rw [hread, List.length_append, List.length_map] at hlength
  have hroom : ([] : List Record).length + records.length < UInt64.size := by
    rw [List.length_nil]
    omega
  have hlog : Ledger.ofLog separator bytes = .error (.entry error) := by
    rw [Ledger.ofLog, hread]
    exact Ledger.agrees_empty.enterAll_first_error hroom
  rw [audit, hlog]

/-- An audit without a report tells the first error of the log and nothing else. -/
theorem audit_eq_error_iff {error : AuditError} :
    audit separator bytes = .error error ↔
      ∃ (cause : EntryError) (records : List Record) (rest : List (Except EntryError Record)),
        error = .entry cause ∧
          Log.entries separator bytes = records.map .ok ++ .error cause :: rest := by
  constructor
  · intro h
    obtain ⟨records, hall | ⟨cause, rest, hfirst⟩⟩ :=
      Log.exists_records_or_error (Log.entries separator bytes)
    · have hroom : records.length < UInt64.size := by
        rwa [← Log.length_entries separator, hall, List.length_map] at hlines
      obtain ⟨ledger, _, hagrees⟩ := Ledger.exists_agrees records hroom
      have hreport := audit_eq_ok_iff_agrees.mpr
        ⟨records, ledger, hall, hroom, hagrees, hagrees.report⟩
      rw [h] at hreport
      cases hreport
    · rw [audit_of_first_error hlines hfirst] at h
      exact ⟨cause, records, rest, (Except.error.inj h).symm, hfirst⟩
  · intro h
    obtain ⟨cause, records, rest, rfl, hfirst⟩ := h
    exact audit_of_first_error hlines hfirst

end Error

end StreamAudit
