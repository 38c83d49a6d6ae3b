import StreamAudit.Audit
import StreamAudit.Proofs.Ledger.Findings
import StreamAudit.Proofs.Log.Entries

/-!
# Audits of logs that can be read

An audit gives a report exactly when every entry of the log holds a record and
a word can number them, and the report is then the one on the ledger that
agrees with the census of these records. No overflow is left over: neither
entering the records nor summing them up can fail.
-/

namespace StreamAudit

namespace Ledger

theorem enterAll_cons (ledger : Ledger) (entry : Except EntryError Record)
    (rest : List (Except EntryError Record)) :
    ledger.enterAll (entry :: rest) = ledger.enter entry >>= fun next => next.enterAll rest :=
  rfl

theorem enter_eq_ok_iff {ledger next : Ledger} {entry : Except EntryError Record} :
    ledger.enter entry = .ok next ↔ ∃ r, entry = .ok r ∧ ledger.record r = .ok next := by
  cases entry with
  | error e => simp [enter]
  | ok r => cases h : ledger.record r <;> simp [enter, h]

/-- Entries are entered to the end when all hold records and these can be
entered to the end. -/
theorem enterAll_eq_ok_iff {ledger final : Ledger} {entries : List (Except EntryError Record)} :
    ledger.enterAll entries = .ok final ↔
      ∃ records, entries = records.map .ok ∧ ledger.recordAll records = .ok final := by
  constructor
  · intro h
    induction entries generalizing ledger with
    | nil =>
      obtain rfl := Except.ok.inj h
      exact ⟨[], rfl, rfl⟩
    | cons entry rest ih =>
      rw [enterAll_cons] at h
      cases hentry : ledger.enter entry with
      | error e =>
        rw [hentry] at h
        cases h
      | ok next =>
        rw [hentry] at h
        -- the entry went well, so it holds a record
        obtain ⟨r, rfl, hr⟩ := enter_eq_ok_iff.mp hentry
        obtain ⟨records, rfl, hrest⟩ := ih h
        refine ⟨r :: records, rfl, ?_⟩
        rw [recordAll_cons, hr]
        exact hrest
  · intro hrun
    obtain ⟨records, rfl, h⟩ := hrun
    induction records generalizing ledger with
    | nil =>
      obtain rfl := Except.ok.inj h
      rfl
    | cons r rest ih =>
      rw [recordAll_cons] at h
      cases hr : ledger.record r with
      | error e =>
        rw [hr] at h
        cases h
      | ok next =>
        rw [hr] at h
        rw [List.map_cons, enterAll_cons, enter_eq_ok_iff.mpr ⟨r, rfl, hr⟩]
        exact ih h

/-- A log has a ledger when all its entries hold records and a word can number
them; the ledger agrees with these records. -/
theorem ofLog_eq_ok_iff {separator : String} {bytes : List UInt8} {ledger : Ledger} :
    ofLog separator bytes = .ok ledger ↔
      ∃ records, Log.entries separator bytes = records.map .ok ∧
        records.length < UInt64.size ∧ ledger.Agrees records := by
  rw [ofLog, enterAll_eq_ok_iff]
  constructor
  · intro hlog
    obtain ⟨records, hread, hrun⟩ := hlog
    have hagrees := agrees_empty.recordAll records hrun
    refine ⟨records, hread, ?_, hagrees⟩
    have hlt := ledger.lineTotal.toNat_lt_size
    rwa [hagrees.lineTotal] at hlt
  · intro hlog
    obtain ⟨records, hread, hroom, hagrees⟩ := hlog
    obtain ⟨ledger', hrun, hagrees'⟩ := exists_agrees records hroom
    exact ⟨records, hread, hagrees'.unique hagrees ▸ hrun⟩

theorem exists_ofLog {separator : String} {bytes : List UInt8} {records : List Record}
    (hread : Log.entries separator bytes = records.map .ok)
    (hroom : records.length < UInt64.size) :
    ∃ ledger, ofLog separator bytes = .ok ledger ∧ ledger.Agrees records := by
  obtain ⟨ledger, _, hagrees⟩ := exists_agrees records hroom
  exact ⟨ledger, ofLog_eq_ok_iff.mpr ⟨records, hread, hroom, hagrees⟩, hagrees⟩

end Ledger

theorem audit_eq_ok_iff {separator : String} {bytes : List UInt8} {report : Report} :
    audit separator bytes = .ok report ↔
      ∃ ledger, Ledger.ofLog separator bytes = .ok ledger ∧ ledger.report = .ok report := by
  unfold audit
  cases Ledger.ofLog separator bytes with
  | error e => simp
  | ok ledger => cases h : ledger.report <;> simp [h]

theorem audit_eq_ok_iff_agrees {separator : String} {bytes : List UInt8} {report : Report} :
    audit separator bytes = .ok report ↔
      ∃ (records : List Record) (ledger : Ledger),
        Log.entries separator bytes = records.map .ok ∧ records.length < UInt64.size ∧
          ledger.Agrees records ∧ ledger.report = .ok report := by
  rw [audit_eq_ok_iff]
  constructor
  · intro h
    obtain ⟨ledger, hlog, hreport⟩ := h
    obtain ⟨records, hread, hroom, hagrees⟩ := Ledger.ofLog_eq_ok_iff.mp hlog
    exact ⟨records, ledger, hread, hroom, hagrees, hreport⟩
  · intro h
    obtain ⟨records, ledger, hread, hroom, hagrees, hreport⟩ := h
    exact ⟨ledger, Ledger.ofLog_eq_ok_iff.mpr ⟨records, hread, hroom, hagrees⟩, hreport⟩

end StreamAudit
