import StreamAudit.Proofs.Audit.Stopping
import StreamAudit.Proofs.Ledger.Balance

/-!
# The arithmetic of an audit never fails

No log that a word can number the lines of makes an audit overflow, be it in
entering its records, in summing the lines of all operators or in the product
of the range check. Every ledger on the way is balanced, whether or not a later
line ends the audit, and the check on the sum over all operators has nothing to
tell.
-/

namespace StreamAudit

namespace Ledger

/-- The ledger stands as it does once some first entries of the log have been
entered. -/
def Reached (separator : String) (bytes : List UInt8) (ledger : Ledger) : Prop :=
  ∃ entered, entered <+: Log.entries separator bytes ∧ empty.enterAll entered = .ok ledger

theorem agrees_of_enterAll {ledger : Ledger} {entries : List (Except EntryError Record)}
    (h : empty.enterAll entries = .ok ledger) :
    ∃ records, entries = records.map .ok ∧ ledger.Agrees records := by
  obtain ⟨records, hread, hrun⟩ := enterAll_eq_ok_iff.mp h
  exact ⟨records, hread, agrees_empty.recordAll records hrun⟩

theorem Reached.balanced {separator : String} {bytes : List UInt8} {ledger : Ledger}
    (h : ledger.Reached separator bytes) : ledger.Balanced := by
  obtain ⟨entered, _, hrun⟩ := h
  obtain ⟨records, _, hagrees⟩ := agrees_of_enterAll hrun
  exact hagrees.balanced

/-- The record of the next entry finds room in every count. -/
theorem exists_record_of_enterAll {ledger : Ledger} {entered : List (Except EntryError Record)}
    (h : empty.enterAll entered = .ok ledger) (hroom : entered.length + 1 < UInt64.size)
    (r : Record) : ∃ next, ledger.record r = .ok next := by
  obtain ⟨records, rfl, hagrees⟩ := agrees_of_enterAll h
  rw [List.length_map] at hroom
  exact hagrees.exists_record r hroom

end Ledger

theorem audit_ne_overflow {separator : String} {bytes : List UInt8}
    (hlines : (Log.lines bytes).length < UInt64.size) (overflow : Overflow) :
    audit separator bytes ≠ .error (.overflow overflow) := by
  intro haudit
  obtain ⟨cause, _, _, hentry, _⟩ := (audit_eq_error_iff hlines).mp haudit
  cases hentry

/-- Nothing overflows on the way through a log that a word can number the lines
of. Each ledger that is reached is balanced, its two sums hold at every partial
sum, the product of its range check fits in two words, and a report on it exists
and says nothing of the sum over all operators; the record of the next line
is entered without overflow; and so the whole audit meets none. -/
theorem arithmetic_of_reached (separator : String) (bytes : List UInt8)
    (hlines : (Log.lines bytes).length < UInt64.size) :
    (∀ ledger : Ledger, ledger.Reached separator bytes →
      ledger.Balanced ∧
      (∀ part, part <+: ledger.lines.entries →
        ∃ n, part.foldlM (fun sum entry => Count.add sum entry.2) 0 = .ok n) ∧
      (∀ part, part <+: ledger.receipts.entries →
        ∃ n, part.foldlM (fun sum entry => Count.add sum entry.2) 0 = .ok n) ∧
      ledger.expectedTotal ledger.parallelism < 2 ^ 128 ∧
      ∃ report, ledger.report = .ok report ∧ ∀ total sum operators,
        Finding.totalVsOperators total sum operators ∉ report.findings) ∧
    (∀ entered r (ledger : Ledger), entered ++ [.ok r] <+: Log.entries separator bytes →
      Ledger.empty.enterAll entered = .ok ledger → ∃ next, ledger.record r = .ok next) ∧
    ∀ overflow, audit separator bytes ≠ .error (.overflow overflow) := by
  refine ⟨?_, ?_, audit_ne_overflow hlines⟩
  · intro ledger hreached
    have hbalanced := hreached.balanced
    refine ⟨hbalanced, ?_, ?_, Ledger.expectedTotal_lt _ _, hbalanced.exists_report⟩
    · intro part hpart
      exact Tally.exists_foldlM_add_of_prefix hpart hbalanced.total_lines
    · intro part hpart
      exact Tally.exists_foldlM_add_of_prefix hpart hbalanced.total_receipts
  · intro entered r ledger hpart hrun
    have hlength := hpart.length_le
    rw [List.length_append, List.length_singleton, Log.length_entries] at hlength
    exact Ledger.exists_record_of_enterAll hrun (by omega) r

/-- The ledger before a line that ends the audit: three records of two
operators, with number 1 twice and a gap below the highest number. -/
theorem arithmetic_of_reached_before_error :
    (Log.lines (Text.Utf8.encode "t,1,a,1\nt,3,b,9\nt,1,a,0\nbroken\n")).length < UInt64.size ∧
    ∃ ledger : Ledger,
      ledger.Reached "," (Text.Utf8.encode "t,1,a,1\nt,3,b,9\nt,1,a,0\nbroken\n") ∧
      ledger.Balanced ∧ ledger ≠ Ledger.empty ∧ ledger.maxSequenceNumber = 3 ∧
      ledger.lineTotal = 3 ∧
      (∃ report, ledger.report = .ok report ∧ ∀ total sum operators,
        Finding.totalVsOperators total sum operators ∉ report.findings) ∧
      audit "," (Text.Utf8.encode "t,1,a,1\nt,3,b,9\nt,1,a,0\nbroken\n") ≠
        .error (.overflow .addition) := by
  have hlines : (Log.lines (Text.Utf8.encode "t,1,a,1\nt,3,b,9\nt,1,a,0\nbroken\n")).length <
      UInt64.size := by decide
  obtain ⟨hreached, _, haudit⟩ := arithmetic_of_reached "," _ hlines
  have hread : Log.entries "," (Text.Utf8.encode "t,1,a,1\nt,3,b,9\nt,1,a,0\nbroken\n") =
      [⟨"t", 1, "a", 1⟩, ⟨"t", 3, "b", 9⟩, ⟨"t", 1, "a", 0⟩].map .ok ++
        [.error (.malformed 4 (.fieldCount 1))] := by
    decide +kernel
  have hroom : ([] : List Record).length +
      [⟨"t", 1, "a", 1⟩, ⟨"t", 3, "b", 9⟩, (⟨"t", 1, "a", 0⟩ : Record)].length < UInt64.size := by
    decide
  obtain ⟨ledger, hrecords, hrun⟩ := Ledger.agrees_empty.exists_enterAll hroom
  have hagrees := Ledger.agrees_empty.recordAll _ hrecords
  have hledger : ledger.Reached "," (Text.Utf8.encode "t,1,a,1\nt,3,b,9\nt,1,a,0\nbroken\n") :=
    ⟨_, hread ▸ List.prefix_append _ _, hrun⟩
  obtain ⟨hbalanced, _, _, _, hreport⟩ := hreached ledger hledger
  have hnumber : ledger.maxSequenceNumber = 3 := by
    rw [← UInt64.toNat_inj, hagrees.maxSequenceNumber]
    decide
  have htotal : ledger.lineTotal = 3 := by
    rw [← UInt64.toNat_inj, hagrees.lineTotal]
    decide
  have hne : ledger ≠ Ledger.empty := by
    rintro rfl
    exact absurd htotal (by decide)
  exact ⟨hlines, ledger, hledger, hbalanced, hne, hnumber, htotal, hreport, haudit .addition⟩

end StreamAudit
