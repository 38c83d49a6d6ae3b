import StreamAudit.Check
import StreamAudit.Proofs.Ledger.Agreement

/-!
# What the checks find

When each check is silent and what it tells of otherwise, first for any ledger
and then for one that agrees with the census of some records. The check on the
sum over all operators never speaks for such a ledger, and the sum it takes
never overflows, so the report is the outcome of the other three checks.
-/

namespace StreamAudit.Ledger

/-! ## The findings of each check -/

theorem operatorFindings_eq_map_differing (ledger : Ledger) :
    ledger.operatorFindings = (ledger.maxCounts.differing ledger.lines.get).map fun operator =>
      .operatorCount operator (ledger.maxCounts.get operator) (ledger.lines.get operator) :=
  ledger.maxCounts.filterMap_entries_eq_map_differing ledger.lines.get
    fun operator maxReported =>
      Finding.operatorCount operator maxReported (ledger.lines.get operator)

theorem receiptFindings_eq_map_differing (ledger : Ledger) (expected : Count) :
    ledger.receiptFindings expected = (ledger.receipts.differing fun _ => expected).map
      fun number => .sequenceReceipts number (ledger.receipts.get number) expected :=
  ledger.receipts.filterMap_entries_eq_map_differing (fun _ => expected)
    fun number received => Finding.sequenceReceipts number received expected

theorem toList_rangeFinding? (ledger : Ledger) (parallelism : Count) :
    (ledger.rangeFinding? parallelism).toList =
      if ledger.lineTotal.toNat = ledger.expectedTotal parallelism then []
      else [.totalVsRange ledger.lineTotal (ledger.expectedTotal parallelism)
        ledger.maxSequenceNumber parallelism] := by
  unfold rangeFinding?
  dsimp only
  split <;> rfl

/-- The report exists as soon as a word holds the lines of all operators together. -/
theorem report_of_total {ledger : Ledger} {sum : Count} (h : ledger.lines.total = .ok sum) :
    ledger.report = .ok {
      findings := ledger.operatorFindings ++ ledger.receiptFindings ledger.parallelism ++
        (ledger.rangeFinding? ledger.parallelism).toList ++
        if ledger.lineTotal = sum then []
        else [.totalVsOperators ledger.lineTotal sum ledger.lines.keys]
      parallelism := ledger.parallelism
      totalLines := ledger.lineTotal } := by
  simp only [report, operatorSumFinding?, h]
  split <;> rfl

/-- When the lines of all operators together are all lines, the check on this sum
adds nothing to the report. -/
theorem report_of_total_lines {ledger : Ledger}
    (h : ledger.lines.total = .ok ledger.lineTotal) : ledger.report = .ok {
      findings := ledger.operatorFindings ++ ledger.receiptFindings ledger.parallelism ++
        (ledger.rangeFinding? ledger.parallelism).toList
      parallelism := ledger.parallelism
      totalLines := ledger.lineTotal } := by
  rw [report_of_total h, if_pos rfl, List.append_nil]

theorem report_eq_error_iff (ledger : Ledger) (overflow : Overflow) :
    ledger.report = .error overflow ↔ ledger.lines.total = .error overflow := by
  cases htotal : ledger.lines.total with
  | error e => simp [report, operatorSumFinding?, htotal]
  | ok sum =>
    rw [report_of_total htotal]
    simp

/-! ## Silence of a check -/

theorem operatorFindings_eq_nil_iff (ledger : Ledger) :
    ledger.operatorFindings = [] ↔
      ∀ operator ∈ ledger.maxCounts.keys,
        ledger.maxCounts.get operator = ledger.lines.get operator := by
  rw [operatorFindings_eq_map_differing, List.map_eq_nil_iff, Tally.differing_eq_nil_iff]

theorem receiptFindings_eq_nil_iff (ledger : Ledger) (expected : Count) :
    ledger.receiptFindings expected = [] ↔
      ∀ number ∈ ledger.receipts.keys, ledger.receipts.get number = expected := by
  rw [receiptFindings_eq_map_differing, List.map_eq_nil_iff, Tally.differing_eq_nil_iff]

theorem rangeFinding?_eq_none_iff (ledger : Ledger) (parallelism : Count) :
    ledger.rangeFinding? parallelism = none ↔
      ledger.lineTotal.toNat = (ledger.maxSequenceNumber.toNat + 1) * parallelism.toNat := by
  show _ ↔ ledger.lineTotal.toNat = ledger.expectedTotal parallelism
  rw [← Option.toList_eq_nil_iff, toList_rangeFinding?]
  simp

/-! ## The kinds of findings of each check -/

theorem eq_of_mem_operatorFindings {ledger : Ledger} {f : Finding}
    (h : f ∈ ledger.operatorFindings) :
    ∃ operator maxReported linesSeen, f = .operatorCount operator maxReported linesSeen := by
  rw [operatorFindings_eq_map_differing, List.mem_map] at h
  obtain ⟨operator, _, rfl⟩ := h
  exact ⟨operator, _, _, rfl⟩

theorem eq_of_mem_receiptFindings {ledger : Ledger} {expected : Count} {f : Finding}
    (h : f ∈ ledger.receiptFindings expected) :
    ∃ number received, f = .sequenceReceipts number received expected := by
  rw [receiptFindings_eq_map_differing, List.mem_map] at h
  obtain ⟨number, _, rfl⟩ := h
  exact ⟨number, _, rfl⟩

theorem eq_of_rangeFinding? {ledger : Ledger} {parallelism : Count} {f : Finding}
    (h : ledger.rangeFinding? parallelism = some f) :
    f = .totalVsRange ledger.lineTotal (ledger.expectedTotal parallelism)
      ledger.maxSequenceNumber parallelism := by
  rw [← Option.mem_toList, toList_rangeFinding?] at h
  split at h
  · cases h
  · exact List.mem_singleton.mp h

/-! ## A ledger in agreement with records -/

namespace Agrees

variable {ledger : Ledger} {records : List Record} (h : ledger.Agrees records)
include h

theorem parallelism : ledger.parallelism.toNat = Census.receipts records 1 :=
  h.receipts 1

/-- The lines of all operators together are all lines. -/
theorem total_lines : ledger.lines.total = .ok ledger.lineTotal := by
  have hkeys : ∀ operator, operator ∈ ledger.lines.keys ↔ operator ∈ records.map (·.operator) := by
    intro operator
    rw [h.mem_lines, List.mem_map]
  have hcount : ∀ operator,
      (ledger.lines.get operator).toNat = (records.map (·.operator)).count operator := by
    intro operator
    rw [h.lines, Census.lines, List.count, List.countP_map]
    rfl
  rw [Tally.total_eq_ok_iff, Tally.sum_entries_eq_length hkeys hcount, List.length_map,
    h.lineTotal]

/-- The report exists and holds what the first three checks find. -/
theorem report : ledger.report = .ok {
    findings := ledger.operatorFindings ++ ledger.receiptFindings ledger.parallelism ++
      (ledger.rangeFinding? ledger.parallelism).toList
    parallelism := ledger.parallelism
    totalLines := ledger.lineTotal } :=
  report_of_total_lines h.total_lines

theorem operatorFindings_eq_nil_iff :
    ledger.operatorFindings = [] ↔
      ∀ r ∈ records, Census.highestClaim records r.operator = Census.lines records r.operator := by
  rw [Ledger.operatorFindings_eq_nil_iff]
  simp only [h.mem_maxCounts, ← UInt64.toNat_inj, h.maxCounts, h.lines]
  constructor
  · intro hall r hr
    exact hall r.operator ⟨r, hr, rfl⟩
  · intro hall operator hoperator
    obtain ⟨r, hr, rfl⟩ := hoperator
    exact hall r hr

theorem receiptFindings_eq_nil_iff (expected : Count) :
    ledger.receiptFindings expected = [] ↔
      ∀ r ∈ records, Census.receipts records r.sequenceNumber.toNat = expected.toNat := by
  rw [Ledger.receiptFindings_eq_nil_iff]
  simp only [h.mem_receipts, ← UInt64.toNat_inj, h.receipts]
  constructor
  · intro hall r hr
    exact hall r.sequenceNumber ⟨r, hr, rfl⟩
  · intro hall number hnumber
    obtain ⟨r, hr, heq⟩ := hnumber
    rw [← heq]
    exact hall r hr

theorem rangeFinding?_eq_none_iff (parallelism : Count) :
    ledger.rangeFinding? parallelism = none ↔
      records.length = (Census.highestNumber records + 1) * parallelism.toNat := by
  rw [Ledger.rangeFinding?_eq_none_iff, h.lineTotal, h.maxSequenceNumber]

theorem findings_eq_nil_iff :
    ledger.operatorFindings ++ ledger.receiptFindings ledger.parallelism ++
        (ledger.rangeFinding? ledger.parallelism).toList = [] ↔
      (∀ r ∈ records, Census.highestClaim records r.operator = Census.lines records r.operator) ∧
      (∀ r ∈ records,
        Census.receipts records r.sequenceNumber.toNat = Census.receipts records 1) ∧
      records.length = (Census.highestNumber records + 1) * Census.receipts records 1 := by
  rw [List.append_eq_nil_iff, List.append_eq_nil_iff, Option.toList_eq_nil_iff,
    h.operatorFindings_eq_nil_iff, h.receiptFindings_eq_nil_iff, h.rangeFinding?_eq_none_iff,
    h.parallelism, and_assoc]

end Agrees

end StreamAudit.Ledger
