import StreamAudit.Proofs.Ledger.Findings

/-!
# Balanced ledgers

Balance is a property of the five books among themselves, with no list of
records in sight: the lines of all operators together and the receipts of all
numbers together are the lines of the log, both operator books have the same
keys, and the highest sequence number is one that was received. Every ledger
that agrees with some records is balanced, and a balanced ledger keeps all
checked arithmetic of the report within its words.
-/

namespace StreamAudit

namespace Tally

universe u

/-- A checked sum that ends well has only passed through sums that a word holds. -/
theorem exists_foldlM_add_of_prefix {α : Type u} {part entries : List (α × Count)} {n : Count}
    (hpart : part <+: entries)
    (h : entries.foldlM (fun sum entry => Count.add sum entry.2) 0 = .ok n) :
    ∃ m, part.foldlM (fun sum entry => Count.add sum entry.2) 0 = .ok m := by
  obtain ⟨rest, rfl⟩ := hpart
  rw [List.foldlM_append] at h
  cases hsum : part.foldlM (fun sum entry => Count.add sum entry.2) 0 with
  | error e =>
    rw [hsum] at h
    cases h
  | ok m => exact ⟨m, rfl⟩

end Tally

namespace Ledger

/-- The books of the ledger balance against each other. -/
structure Balanced (ledger : Ledger) : Prop where
  lines_sum : (ledger.lines.entries.map (·.2.toNat)).sum = ledger.lineTotal.toNat
  receipts_sum : (ledger.receipts.entries.map (·.2.toNat)).sum = ledger.lineTotal.toNat
  keys_iff : ∀ operator, operator ∈ ledger.lines.keys ↔ operator ∈ ledger.maxCounts.keys
  lines_pos : ∀ operator ∈ ledger.lines.keys, 1 ≤ (ledger.lines.get operator).toNat
  receipts_pos : ∀ number ∈ ledger.receipts.keys, 1 ≤ (ledger.receipts.get number).toNat
  greatest : ledger ≠ empty → ledger.maxSequenceNumber ∈ ledger.receipts.keys ∧
    ∀ number ∈ ledger.receipts.keys, number ≤ ledger.maxSequenceNumber

namespace Agrees

variable {ledger : Ledger} {records : List Record} (h : ledger.Agrees records)
include h

theorem sum_receipts :
    (ledger.receipts.entries.map (·.2.toNat)).sum = ledger.lineTotal.toNat := by
  have hkeys : ∀ number,
      number ∈ ledger.receipts.keys ↔ number ∈ records.map (·.sequenceNumber) := by
    intro number
    rw [h.mem_receipts, List.mem_map]
  have hcount : ∀ number,
      (ledger.receipts.get number).toNat = (records.map (·.sequenceNumber)).count number := by
    intro number
    rw [h.receipts, Census.receipts, List.count, List.countP_map]
    simp only [UInt64.toNat_inj]
    rfl
  rw [Tally.sum_entries_eq_length hkeys hcount, List.length_map, h.lineTotal]

/-- Only the empty ledger agrees with no records. -/
theorem ne_nil (hne : ledger ≠ empty) : records ≠ [] := by
  rintro rfl
  exact hne (h.unique agrees_empty)

theorem maxSequenceNumber_mem (hne : records ≠ []) :
    ledger.maxSequenceNumber ∈ ledger.receipts.keys := by
  obtain ⟨r, hr, hnumber⟩ := Census.exists_highestNumber hne
  rw [h.mem_receipts]
  refine ⟨r, hr, ?_⟩
  rw [← UInt64.toNat_inj, h.maxSequenceNumber, hnumber]

theorem le_maxSequenceNumber {number : Count} (hnumber : number ∈ ledger.receipts.keys) :
    number ≤ ledger.maxSequenceNumber := by
  obtain ⟨r, hr, rfl⟩ := (h.mem_receipts number).mp hnumber
  rw [UInt64.le_iff_toNat_le, h.maxSequenceNumber]
  exact Census.le_highestNumber hr

theorem balanced : ledger.Balanced where
  lines_sum := ((Tally.total_eq_ok_iff _ _).mp h.total_lines).symm
  receipts_sum := h.sum_receipts
  keys_iff operator := (h.mem_lines operator).trans (h.mem_maxCounts operator).symm
  lines_pos operator hoperator := by
    rw [h.lines]
    exact Census.lines_pos_iff.mpr ((h.mem_lines operator).mp hoperator)
  receipts_pos number hnumber := by
    obtain ⟨r, hr, hr'⟩ := (h.mem_receipts number).mp hnumber
    rw [h.receipts]
    exact Census.receipts_pos_iff.mpr ⟨r, hr, congrArg UInt64.toNat hr'⟩
  greatest hne :=
    ⟨h.maxSequenceNumber_mem (h.ne_nil hne), fun _ hnumber => h.le_maxSequenceNumber hnumber⟩

end Agrees

namespace Balanced

variable {ledger : Ledger} (h : ledger.Balanced)
include h

theorem total_lines : ledger.lines.total = .ok ledger.lineTotal := by
  rw [Tally.total_eq_ok_iff, h.lines_sum]

theorem total_receipts : ledger.receipts.total = .ok ledger.lineTotal := by
  rw [Tally.total_eq_ok_iff, h.receipts_sum]

/-- The report exists, and the check on the sum over all operators is silent. -/
theorem exists_report : ∃ report, ledger.report = .ok report ∧
    ∀ total sum operators, Finding.totalVsOperators total sum operators ∉ report.findings := by
  refine ⟨_, report_of_total_lines h.total_lines, ?_⟩
  intro total sum operators hmem
  rw [List.mem_append, List.mem_append, Option.mem_toList] at hmem
  rcases hmem with (hmem | hmem) | hmem
  · obtain ⟨_, _, _, heq⟩ := eq_of_mem_operatorFindings hmem
    cases heq
  · obtain ⟨_, _, heq⟩ := eq_of_mem_receiptFindings hmem
    cases heq
  · cases eq_of_rangeFinding? hmem

end Balanced

/-- The product that the range check takes fits in two words, for every ledger. -/
theorem expectedTotal_lt (ledger : Ledger) (parallelism : Count) :
    ledger.expectedTotal parallelism < 2 ^ 128 := by
  have hnumber := ledger.maxSequenceNumber.toNat_lt
  have hsources := parallelism.toNat_lt
  calc ledger.expectedTotal parallelism
      ≤ 2 ^ 64 * (2 ^ 64 - 1) := Nat.mul_le_mul (by omega) (by omega)
    _ < 2 ^ 128 := by decide

end Ledger

end StreamAudit
