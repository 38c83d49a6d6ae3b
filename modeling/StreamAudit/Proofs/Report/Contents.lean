import StreamAudit.Proofs.Ledger.Balance

/-!
# What stands in a report

A report on any ledger, whether or not it agrees with any records. The books may
contradict each other, name a key in one and not in another, hold counts of zero
and be full to the last word. Each check tells of everything it has to tell of
and of nothing else, once and in its order, whatever the other checks find. The
one way to get no report is a sum over all operators that no word holds.
-/

namespace StreamAudit

/-- What is told of a ledger: the operators whose highest claim is not the number
of their lines, by name, then the numbers not received as often as number 1, in
ascending order, then the range, if it asks for another number of lines, and
then the sum over all operators with the names of all of them, if it is another. -/
structure Report.Describes (report : Report) (ledger : Ledger) : Prop where
  totalLines : report.totalLines = ledger.lineTotal
  parallelism : report.parallelism = ledger.receipts.get 1
  findings : ∃ (operators : List String) (numbers : List Count) (sum : Count),
    ledger.maxCounts.Differ ledger.lines.get operators ∧
    ledger.receipts.Differ (fun _ => ledger.receipts.get 1) numbers ∧
    sum.toNat = (ledger.lines.entries.map (·.2.toNat)).sum ∧
    report.findings =
      (operators.map fun operator => .operatorCount operator (ledger.maxCounts.get operator)
        (ledger.lines.get operator)) ++
      (numbers.map fun number => .sequenceReceipts number (ledger.receipts.get number)
        (ledger.receipts.get 1)) ++
      (if ledger.lineTotal.toNat =
          (ledger.maxSequenceNumber.toNat + 1) * (ledger.receipts.get 1).toNat then []
        else [.totalVsRange ledger.lineTotal
          ((ledger.maxSequenceNumber.toNat + 1) * (ledger.receipts.get 1).toNat)
          ledger.maxSequenceNumber (ledger.receipts.get 1)]) ++
      if ledger.lineTotal = sum then []
      else [.totalVsOperators ledger.lineTotal sum ledger.lines.keys]

namespace Report.Describes

variable {report : Report} {ledger : Ledger}

/-- The keys told of are determined by the ledger, and with them all findings. -/
theorem report_eq (h : report.Describes ledger) : ledger.report = .ok report := by
  obtain ⟨operators, numbers, sum, hoperators, hnumbers, hsum, hfindings⟩ := h.findings
  rw [Tally.differ_iff ledger.pairwise_keys_lt.2.1] at hoperators
  rw [Tally.differ_iff ledger.pairwise_keys_lt.2.2] at hnumbers
  subst hoperators hnumbers
  rw [Ledger.report_of_total ((Tally.total_eq_ok_iff _ sum).mpr hsum),
    Ledger.operatorFindings_eq_map_differing, Ledger.receiptFindings_eq_map_differing,
    Ledger.toList_rangeFinding?]
  obtain ⟨findings, parallelism, totalLines⟩ := report
  have htotal := h.totalLines
  have hparallelism := h.parallelism
  dsimp only at htotal hparallelism hfindings
  rw [htotal, hparallelism, hfindings]
  rfl

theorem of_report (h : ledger.report = .ok report) : report.Describes ledger := by
  cases htotal : ledger.lines.total with
  | error e =>
    rw [(Ledger.report_eq_error_iff ledger e).mpr htotal] at h
    cases h
  | ok sum =>
    rw [Ledger.report_of_total htotal, Ledger.operatorFindings_eq_map_differing,
      Ledger.receiptFindings_eq_map_differing, Ledger.toList_rangeFinding?] at h
    obtain rfl := Except.ok.inj h
    exact ⟨rfl, rfl, _, _, sum, (Tally.differ_iff ledger.pairwise_keys_lt.2.1).mpr rfl,
      (Tally.differ_iff ledger.pairwise_keys_lt.2.2).mpr rfl,
      (Tally.total_eq_ok_iff _ sum).mp htotal, rfl⟩

/-- Number 1 is received as often as itself, so no report tells of it. -/
theorem number_one_not_mem (h : report.Describes ledger) (received expected : Count) :
    Finding.sequenceReceipts 1 received expected ∉ report.findings := by
  obtain ⟨operators, numbers, sum, _, hnumbers, _, hfindings⟩ := h.findings
  rw [hfindings]
  intro hmem
  rw [List.mem_append, List.mem_append, List.mem_append] at hmem
  rcases hmem with ((hmem | hmem) | hmem) | hmem
  · obtain ⟨operator, _, heq⟩ := List.mem_map.mp hmem
    cases heq
  · obtain ⟨number, hnumber, heq⟩ := List.mem_map.mp hmem
    obtain ⟨rfl, -, -⟩ := Finding.sequenceReceipts.inj heq
    exact ((hnumbers.mem_iff _).mp hnumber).2 rfl
  · split at hmem <;> simp at hmem
  · split at hmem <;> simp at hmem

end Report.Describes

/-- The report on a ledger is exact, however the ledger came about. There is none
exactly when no word holds the sum over all operators, and otherwise the report
is the only one that describes the ledger. The names that it may list ascend, the
product that it may tell of fits in two words, and number 1 is never told of. -/
theorem report_eq_iff_describes (ledger : Ledger) :
    (∀ overflow, ledger.report = .error overflow ↔
      2 ^ 64 ≤ (ledger.lines.entries.map (·.2.toNat)).sum) ∧
    (∀ report : Report, ledger.report = .ok report ↔ report.Describes ledger) ∧
    ledger.lines.keys.Pairwise (· < ·) ∧
    (ledger.maxSequenceNumber.toNat + 1) * (ledger.receipts.get 1).toNat < 2 ^ 128 ∧
    ∀ report : Report, ledger.report = .ok report → ∀ received expected,
      Finding.sequenceReceipts 1 received expected ∉ report.findings := by
  refine ⟨?_, ?_, ledger.pairwise_keys_lt.1, ledger.expectedTotal_lt ledger.parallelism, ?_⟩
  · intro overflow
    rw [Ledger.report_eq_error_iff, Tally.total_eq_error_iff]
    rfl
  · intro report
    exact ⟨.of_report, Report.Describes.report_eq⟩
  · intro report hreport
    exact (Report.Describes.of_report hreport).number_one_not_mem

/-- No records lead to these ledgers. In the first, one operator has lines and no
claim, one claims no count and has no lines, and one claims what it has; number 1
is missing among the receipts, number 7 stands there with none, and the highest
sequence number is the largest word. In the second two counts that fit in a word
have a sum that does not. -/
theorem report_eq_iff_describes_unreachable :
    (⟨[.operatorCount "é" 2 0, .sequenceReceipts 3 5 0, .totalVsRange 4 0 18446744073709551615 0,
        .totalVsOperators 4 9 ["a", "z"]], 0, 4⟩ : Report).Describes {
      lines := (Tally.empty.raiseTo "z" 8).raiseTo "a" 1
      lineTotal := 4
      maxCounts := ((Tally.empty.raiseTo "é" 2).raiseTo "Z" 0).raiseTo "a" 1
      receipts := (Tally.empty.raiseTo 3 5).raiseTo 7 0
      maxSequenceNumber := 18446744073709551615 } ∧
    Ledger.report {
      lines := (Tally.empty.raiseTo "b" 9223372036854775808).raiseTo "a" 9223372036854775808
      lineTotal := 0
      maxCounts := Tally.empty
      receipts := Tally.empty
      maxSequenceNumber := 0 } = .error .addition :=
  ⟨((report_eq_iff_describes _).2.1 _).mp (by decide +kernel),
    ((report_eq_iff_describes _).1 _).mpr (by decide +kernel)⟩

end StreamAudit
