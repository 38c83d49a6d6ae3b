import StreamAudit.Proofs.Audit.Reading
import StreamAudit.Proofs.Census.Coverage

/-!
# The verdict of an audit

A log is found consistent exactly when all its lines hold records and these
records are what honest sources without losses write. The verdict is given for
every log, with or without sequence number 1 and with or without lines.
-/

namespace StreamAudit

namespace Ledger.Agrees

variable {ledger : Ledger} {records : List Record} (h : ledger.Agrees records)
include h

/-- The checks are all silent when there is nothing to check, or when the
records cover their range evenly and every operator counts its own lines. -/
theorem findings_eq_nil_iff_covers :
    ledger.operatorFindings ++ ledger.receiptFindings ledger.parallelism ++
        (ledger.rangeFinding? ledger.parallelism).toList = [] ↔
      records = [] ∨ ∃ sources last, 1 ≤ sources ∧ 1 ≤ last ∧
        Census.Covers records sources last ∧
        ∀ r ∈ records,
          Census.highestClaim records r.operator = Census.lines records r.operator := by
  rw [h.findings_eq_nil_iff]
  -- without records there is no number 1 to count the sources by
  by_cases hne : records = []
  · subst hne
    simp [Census.receipts]
  · rw [Census.even_receipts_iff_covers hne]
    constructor
    · intro hsilent
      obtain ⟨hclaims, sources, last, hsources, hlast, hcovers⟩ := hsilent
      exact .inr ⟨sources, last, hsources, hlast, hcovers, hclaims⟩
    · intro hcase
      rcases hcase with hnil | ⟨sources, last, hsources, hlast, hcovers, hclaims⟩
      · exact absurd hnil hne
      · exact ⟨hclaims, sources, last, hsources, hlast, hcovers⟩

theorem report_of_covers {report : Report} {sources last : Nat}
    (hreport : ledger.report = .ok report) (hlast : 1 ≤ last)
    (hcovers : Census.Covers records sources last) :
    report.parallelism.toNat = sources ∧ report.totalLines.toNat = sources * (last + 1) := by
  rw [h.report] at hreport
  obtain rfl := Except.ok.inj hreport
  constructor
  · exact h.parallelism.trans (hcovers.received 1 hlast)
  · exact h.lineTotal.trans hcovers.length_eq

end Ledger.Agrees

/-- The consistency verdict is sound and complete: a log that a word can number
the lines of is reported consistent exactly when all its lines hold records,
and there are none or each number from 0 to some last one, at least 1, stands
in the same positive number of them and no other number in any, and each
operator's highest claim is the number of its lines. The report then tells the
number of sources, and that each wrote the whole range. -/
theorem audit_isConsistent_iff (separator : String) (bytes : List UInt8)
    (hlines : (Log.lines bytes).length < UInt64.size) :
    ((∃ report, audit separator bytes = .ok report ∧ report.isConsistent = true) ↔
      ∃ records : List Record, Log.entries separator bytes = records.map .ok ∧
        (records = [] ∨ ∃ sources last, 1 ≤ sources ∧ 1 ≤ last ∧
          Census.Covers records sources last ∧
          ∀ r ∈ records,
            Census.highestClaim records r.operator = Census.lines records r.operator)) ∧
    ∀ (report : Report) (records : List Record) (sources last : Nat),
      audit separator bytes = .ok report → Log.entries separator bytes = records.map .ok →
      1 ≤ last → Census.Covers records sources last →
        report.parallelism.toNat = sources ∧ report.totalLines.toNat = sources * (last + 1) := by
  refine ⟨⟨?_, ?_⟩, ?_⟩
  · intro hverdict
    obtain ⟨report, haudit, hconsistent⟩ := hverdict
    obtain ⟨records, ledger, hread, _, hagrees, hreport⟩ := audit_eq_ok_iff_agrees.mp haudit
    refine ⟨records, hread, hagrees.findings_eq_nil_iff_covers.mp ?_⟩
    rw [hagrees.report] at hreport
    obtain rfl := Except.ok.inj hreport
    exact List.isEmpty_iff.mp hconsistent
  · intro hlog
    obtain ⟨records, hread, hcase⟩ := hlog
    have hroom : records.length < UInt64.size := by
      rwa [← Log.length_entries separator, hread, List.length_map] at hlines
    obtain ⟨ledger, hlog, hagrees⟩ := Ledger.exists_ofLog hread hroom
    refine ⟨_, audit_eq_ok_iff.mpr ⟨ledger, hlog, hagrees.report⟩, ?_⟩
    exact List.isEmpty_iff.mpr (hagrees.findings_eq_nil_iff_covers.mpr hcase)
  · intro report records sources last haudit hread hlast hcovers
    obtain ⟨records', ledger, hread', _, hagrees, hreport⟩ := audit_eq_ok_iff_agrees.mp haudit
    obtain rfl : records' = records := by
      rw [← Log.records_of_entries hread', Log.records_of_entries hread]
    exact hagrees.report_of_covers hreport hlast hcovers

/-- The records that two sources write without losses, in lines that end in
both ways and in a last line without an end. -/
theorem audit_isConsistent_two_sources :
    (Log.lines (Text.Utf8.encode "t,0,a,1\nt,1,a,2\r\nt,1,b,2\nt,0, b ,1")).length < UInt64.size ∧
    ∃ report, audit "," (Text.Utf8.encode "t,0,a,1\nt,1,a,2\r\nt,1,b,2\nt,0, b ,1") = .ok report ∧
      report.isConsistent = true ∧ report.parallelism.toNat = 2 ∧ report.totalLines.toNat = 4 := by
  have hlines : (Log.lines (Text.Utf8.encode "t,0,a,1\nt,1,a,2\r\nt,1,b,2\nt,0, b ,1")).length <
      UInt64.size := by decide
  obtain ⟨hiff, hreport⟩ := audit_isConsistent_iff "," _ hlines
  have hread : Log.entries "," (Text.Utf8.encode "t,0,a,1\nt,1,a,2\r\nt,1,b,2\nt,0, b ,1") =
      [⟨"t", 0, "a", 1⟩, ⟨"t", 1, "a", 2⟩, ⟨"t", 1, "b", 2⟩, ⟨"t", 0, "b", 1⟩].map .ok := by
    decide +kernel
  have hcovers : Census.Covers
      [⟨"t", 0, "a", 1⟩, ⟨"t", 1, "a", 2⟩, ⟨"t", 1, "b", 2⟩, ⟨"t", 0, "b", 1⟩] 2 1 := by
    constructor
    · decide
    · intro number hnumber
      simp [Census.receipts]
      omega
  obtain ⟨report, haudit, hconsistent⟩ := hiff.mpr
    ⟨_, hread, .inr ⟨2, 1, by decide, by decide, hcovers, by decide⟩⟩
  exact ⟨hlines, report, haudit, hconsistent, hreport report _ 2 1 haudit hread le_rfl hcovers⟩

end StreamAudit
