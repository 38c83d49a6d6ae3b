import Mathlib.Data.List.Sort
import StreamAudit.Proofs.Census.Coverage
import StreamAudit.Proofs.Ledger.Findings

/-!
# The faults that a report tells of

What the report on a list of records says of the sequence numbers, in terms of
their census. The faults that it tells of single numbers and of the range are
read as natural numbers, so that they can be compared with counts of any list.
Findings on operators are left out here.
-/

namespace StreamAudit

/-- A sequence number that was not received once from each source. -/
structure NumberFault where
  number : Nat
  received : Nat
  expected : Nat
  deriving DecidableEq, Repr

/-- A number of lines that the range of sequence numbers does not ask for. -/
structure RangeFault where
  totalLines : Nat
  expectedTotal : Nat
  maxSequenceNumber : Nat
  parallelism : Nat
  deriving DecidableEq, Repr

namespace Finding

def numberFault? : Finding → Option NumberFault
  | .sequenceReceipts number received expected =>
    some ⟨number.toNat, received.toNat, expected.toNat⟩
  | _ => none

def rangeFault? : Finding → Option RangeFault
  | .totalVsRange totalLines expectedTotal maxSequenceNumber parallelism =>
    some ⟨totalLines.toNat, expectedTotal, maxSequenceNumber.toNat, parallelism.toNat⟩
  | _ => none

end Finding

namespace Report

/-- What the report says of single sequence numbers, in its order. -/
def numberFaults (report : Report) : List NumberFault :=
  report.findings.filterMap Finding.numberFault?

/-- What the report says of the range of sequence numbers. -/
def rangeFaults (report : Report) : List RangeFault :=
  report.findings.filterMap Finding.rangeFault?

/-- The report is the one on these records, entered one after the other. -/
def On (report : Report) (records : List Record) : Prop :=
  ∃ ledger, Ledger.empty.recordAll records = .ok ledger ∧ ledger.report = .ok report

instance (report : Report) (records : List Record) : Decidable (report.On records) :=
  match hrun : Ledger.empty.recordAll records with
  | .error _ => .isFalse fun h => by
    obtain ⟨ledger, hledger, _⟩ := h
    rw [hrun] at hledger
    cases hledger
  | .ok ledger => decidable_of_iff (ledger.report = .ok report) (by
    constructor
    · intro hreport
      exact ⟨ledger, hrun, hreport⟩
    · intro h
      obtain ⟨ledger', hledger, hreport⟩ := h
      rw [hrun] at hledger
      obtain rfl := Except.ok.inj hledger
      exact hreport)

end Report

namespace Ledger

/-! ## Checks that tell of no such fault -/

theorem filterMap_operatorFindings (ledger : Ledger) :
    ledger.operatorFindings.filterMap Finding.numberFault? = [] ∧
      ledger.operatorFindings.filterMap Finding.rangeFault? = [] := by
  rw [List.filterMap_eq_nil_iff, List.filterMap_eq_nil_iff]
  constructor
  · intro f hf
    obtain ⟨_, _, _, rfl⟩ := eq_of_mem_operatorFindings hf
    rfl
  · intro f hf
    obtain ⟨_, _, _, rfl⟩ := eq_of_mem_operatorFindings hf
    rfl

theorem filterMap_rangeFault?_receiptFindings (ledger : Ledger) (expected : Count) :
    (ledger.receiptFindings expected).filterMap Finding.rangeFault? = [] := by
  rw [List.filterMap_eq_nil_iff]
  intro f hf
  obtain ⟨_, _, rfl⟩ := eq_of_mem_receiptFindings hf
  rfl

theorem filterMap_numberFault?_rangeFinding? (ledger : Ledger) (parallelism : Count) :
    (ledger.rangeFinding? parallelism).toList.filterMap Finding.numberFault? = [] := by
  rw [List.filterMap_eq_nil_iff]
  intro f hf
  rw [eq_of_rangeFinding? (Option.mem_toList.mp hf)]
  rfl

namespace Agrees

variable {ledger : Ledger} {records : List Record} (h : ledger.Agrees records)
include h

/-- The numbers that are not received as often as expected, out of those that
the records name, ascend in the ledger as they do in the range below a bound. -/
theorem map_toNat_differing {bound : Nat}
    (hbound : ∀ r ∈ records, r.sequenceNumber.toNat < bound) (expected : Count) :
    (ledger.receipts.differing fun _ => expected).map UInt64.toNat =
      (List.range bound).filter fun number =>
        0 < Census.receipts records number ∧
          Census.receipts records number ≠ expected.toNat := by
  apply List.Pairwise.eq_of_mem_iff (r := (· < ·))
  · rw [List.pairwise_map]
    have hkeys := ledger.pairwise_keys_lt.2.2.filter
      fun number => ledger.receipts.get number ≠ expected
    exact hkeys.imp fun hlt => UInt64.lt_iff_toNat_lt.mp hlt
  · exact List.pairwise_lt_range.filter _
  · intro number
    simp only [Tally.differing, List.mem_map, List.mem_filter, List.mem_range,
      decide_eq_true_eq, h.mem_receipts, Census.receipts_pos_iff, ne_eq, ← UInt64.toNat_inj,
      h.receipts]
    constructor
    · intro hkey
      obtain ⟨key, ⟨⟨r, hr, hnumber⟩, hne⟩, rfl⟩ := hkey
      exact ⟨hnumber ▸ hbound r hr, ⟨r, hr, hnumber⟩, hne⟩
    · intro hnumber
      obtain ⟨_, ⟨r, hr, rfl⟩, hne⟩ := hnumber
      exact ⟨r.sequenceNumber, ⟨⟨r, hr, rfl⟩, hne⟩, rfl⟩

/-- The findings on receipts are about the numbers that the records name and
that are not received as often as expected, in ascending order. -/
theorem filterMap_receiptFindings {bound : Nat}
    (hbound : ∀ r ∈ records, r.sequenceNumber.toNat < bound) (expected : Count) :
    (ledger.receiptFindings expected).filterMap Finding.numberFault? =
      ((List.range bound).filter fun number =>
        0 < Census.receipts records number ∧
          Census.receipts records number ≠ expected.toNat).map fun number =>
        ⟨number, Census.receipts records number, expected.toNat⟩ := by
  rw [← h.map_toNat_differing hbound, List.map_map, receiptFindings_eq_map_differing,
    List.filterMap_map, ← List.filterMap_eq_map]
  apply List.filterMap_congr
  intro number _
  simp [Finding.numberFault?, h.receipts]

theorem filterMap_rangeFinding? (parallelism : Count) :
    (ledger.rangeFinding? parallelism).toList.filterMap Finding.rangeFault? =
      if records.length = (Census.highestNumber records + 1) * parallelism.toNat then []
      else [⟨records.length, (Census.highestNumber records + 1) * parallelism.toNat,
        Census.highestNumber records, parallelism.toNat⟩] := by
  have htotal : ledger.expectedTotal parallelism =
      (Census.highestNumber records + 1) * parallelism.toNat := by
    rw [expectedTotal, h.maxSequenceNumber]
  cases hrange : ledger.rangeFinding? parallelism with
  | none => rw [if_pos ((h.rangeFinding?_eq_none_iff parallelism).mp hrange)]; rfl
  | some f =>
    have hsome : ¬ records.length = (Census.highestNumber records + 1) * parallelism.toNat := by
      rw [← h.rangeFinding?_eq_none_iff, hrange]
      simp
    rw [if_neg hsome, eq_of_rangeFinding? hrange]
    simp [Finding.rangeFault?, htotal, h.lineTotal, h.maxSequenceNumber]

end Agrees

end Ledger

/-! ## Reports on records -/

namespace Report

theorem exists_on {records : List Record} (hroom : records.length < UInt64.size) :
    ∃ report : Report, report.On records := by
  obtain ⟨ledger, hrun, hagrees⟩ := Ledger.exists_agrees records hroom
  exact ⟨_, ledger, hrun, hagrees.report⟩

namespace On

variable {report : Report} {records : List Record} (h : report.On records)
include h

/-- The report is what the first three checks find in a ledger that agrees with
the records. -/
theorem exists_agrees : ∃ ledger : Ledger, ledger.Agrees records ∧ report = {
    findings := ledger.operatorFindings ++ ledger.receiptFindings ledger.parallelism ++
      (ledger.rangeFinding? ledger.parallelism).toList
    parallelism := ledger.parallelism
    totalLines := ledger.lineTotal } := by
  obtain ⟨ledger, hrun, hreport⟩ := h
  have hagrees := Ledger.agrees_empty.recordAll records hrun
  rw [hagrees.report] at hreport
  exact ⟨ledger, hagrees, (Except.ok.inj hreport).symm⟩

/-- Records that have a report are fewer than a word can number. -/
theorem length_lt : records.length < UInt64.size := by
  obtain ⟨ledger, hagrees, _⟩ := h.exists_agrees
  rw [← hagrees.lineTotal]
  exact ledger.lineTotal.toNat_lt_size

theorem parallelism : report.parallelism.toNat = Census.receipts records 1 := by
  obtain ⟨ledger, hagrees, rfl⟩ := h.exists_agrees
  exact hagrees.parallelism

/-- The numbers told of are those that the records name and do not hold as often
as number 1, in ascending order. -/
theorem numberFaults {bound : Nat} (hbound : ∀ r ∈ records, r.sequenceNumber.toNat < bound) :
    report.numberFaults =
      ((List.range bound).filter fun number =>
        0 < Census.receipts records number ∧
          Census.receipts records number ≠ Census.receipts records 1).map fun number =>
        ⟨number, Census.receipts records number, Census.receipts records 1⟩ := by
  obtain ⟨ledger, hagrees, rfl⟩ := h.exists_agrees
  rw [Report.numberFaults, List.filterMap_append, List.filterMap_append,
    ledger.filterMap_operatorFindings.1, ledger.filterMap_numberFault?_rangeFinding?,
    List.nil_append, List.append_nil, hagrees.filterMap_receiptFindings hbound,
    hagrees.parallelism]

theorem rangeFaults :
    report.rangeFaults =
      if records.length = (Census.highestNumber records + 1) * Census.receipts records 1 then []
      else [⟨records.length, (Census.highestNumber records + 1) * Census.receipts records 1,
        Census.highestNumber records, Census.receipts records 1⟩] := by
  obtain ⟨ledger, hagrees, rfl⟩ := h.exists_agrees
  rw [Report.rangeFaults, List.filterMap_append, List.filterMap_append,
    ledger.filterMap_operatorFindings.2, ledger.filterMap_rangeFault?_receiptFindings,
    List.nil_append, List.nil_append, hagrees.filterMap_rangeFinding?, hagrees.parallelism]

/-- A report on any records tells of no fault in the sequence numbers exactly
when the records cover a range of at least two numbers evenly. -/
theorem no_faults_iff_covers (hne : records ≠ []) :
    report.numberFaults = [] ∧ report.rangeFaults = [] ↔
      ∃ sources last, 1 ≤ sources ∧ 1 ≤ last ∧ Census.Covers records sources last := by
  have hbound : ∀ r ∈ records, r.sequenceNumber.toNat < Census.highestNumber records + 1 :=
    fun r hr => Nat.lt_succ_of_le (Census.le_highestNumber hr)
  rw [← Census.even_receipts_iff_covers hne, h.numberFaults hbound, h.rangeFaults,
    List.map_eq_nil_iff, List.filter_eq_nil_iff]
  apply and_congr
  · constructor
    · intro hsilent r hr
      have hpos := Census.receipts_pos_iff.mpr ⟨r, hr, rfl⟩
      have hr' := hsilent r.sequenceNumber.toNat (List.mem_range.mpr (hbound r hr))
      by_contra hne'
      exact hr' (by simpa using ⟨hpos, hne'⟩)
    · intro heven number _
      simp only [decide_eq_true_eq, not_and, not_not]
      intro hpos
      obtain ⟨r, hr, rfl⟩ := Census.receipts_pos_iff.mp hpos
      exact heven r hr
  · by_cases htotal : records.length =
        (Census.highestNumber records + 1) * Census.receipts records 1
    · simp [htotal]
    · simp [htotal]

/-- Records on which the report is consistent cover the numbers from 0 to the
highest, each as often as the report tells that there are sources. -/
theorem covers (hne : records ≠ []) (hconsistent : report.isConsistent = true) :
    1 ≤ report.parallelism.toNat ∧ 1 ≤ Census.highestNumber records ∧
      Census.Covers records report.parallelism.toNat (Census.highestNumber records) := by
  have hnone : report.findings = [] := List.isEmpty_iff.mp hconsistent
  have hsilent : report.numberFaults = [] ∧ report.rangeFaults = [] := by
    simp [Report.numberFaults, Report.rangeFaults, hnone]
  obtain ⟨sources, last, hsources, hlast, hcovers⟩ := (h.no_faults_iff_covers hne).mp hsilent
  rw [h.parallelism, hcovers.received 1 hlast, hcovers.highestNumber_eq hsources]
  exact ⟨hsources, hlast, hcovers⟩

end On

end Report

end StreamAudit
