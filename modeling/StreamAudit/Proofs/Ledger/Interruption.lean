import StreamAudit.Proofs.Ledger.Agreement
import StreamAudit.Proofs.Tally.Changes

/-!
# Interrupted entries

What entering a record comes to in any ledger, also in one that no log leads to.
The first full count in the order of the steps ends the entry; the steps before it
have been made, and nothing else has. In a ledger that records have led to, no
count is above the number of lines, so the line total is the first count that can
be full, together with the lines of an operator who wrote them all. An entry there
is interrupted before the claims and the receipts, at the latest after the lines of
its operator.
-/

namespace StreamAudit.Ledger

/-- What entering the record comes to: an interruption, with the ledger that is
left, or the ledger with all five changes made. -/
inductive Enters (ledger : Ledger) (r : Record) : Except Interrupted Ledger → Prop
  | linesFull : (ledger.lines.get r.operator).Full → Enters ledger r (.error ⟨.addition, ledger⟩)
  | totalFull {lines : Tally String} : ledger.lines.OneMore lines r.operator →
      ledger.lineTotal.Full → Enters ledger r (.error ⟨.addition, { ledger with lines }⟩)
  | receiptsFull {lines maxCounts : Tally String} {lineTotal : Count} :
      ledger.lines.OneMore lines r.operator →
      lineTotal.toNat = ledger.lineTotal.toNat + 1 →
      ledger.maxCounts.AtLeast maxCounts r.operator r.operatorCount →
      (ledger.receipts.get r.sequenceNumber).Full →
      Enters ledger r (.error ⟨.addition, { ledger with lines, lineTotal, maxCounts }⟩)
  | entered {next : Ledger} : ledger.lines.OneMore next.lines r.operator →
      next.lineTotal.toNat = ledger.lineTotal.toNat + 1 →
      ledger.maxCounts.AtLeast next.maxCounts r.operator r.operatorCount →
      ledger.receipts.OneMore next.receipts r.sequenceNumber →
      next.maxSequenceNumber.toNat =
        max ledger.maxSequenceNumber.toNat r.sequenceNumber.toNat →
      Enters ledger r (.ok next)

/-! ## Any ledger -/

section Any

variable {ledger : Ledger} {r : Record}

theorem record_of_lines_error {e : Overflow} (h : ledger.lines.increment r.operator = .error e) :
    ledger.record r = .error ⟨e, ledger⟩ := by
  rw [record, h]

theorem record_of_total_error {lines : Tally String} {e : Overflow}
    (hlines : ledger.lines.increment r.operator = .ok lines)
    (h : Count.add ledger.lineTotal 1 = .error e) :
    ledger.record r = .error ⟨e, { ledger with lines }⟩ := by
  rw [record, hlines]
  simp only [h]

theorem record_of_receipts_error {lines : Tally String} {lineTotal : Count} {e : Overflow}
    (hlines : ledger.lines.increment r.operator = .ok lines)
    (htotal : Count.add ledger.lineTotal 1 = .ok lineTotal)
    (h : ledger.receipts.increment r.sequenceNumber = .error e) :
    ledger.record r = .error ⟨e, { ledger with
      lines, lineTotal, maxCounts := ledger.maxCounts.raiseTo r.operator r.operatorCount }⟩ := by
  rw [record, hlines]
  simp only [htotal, h]

/-- What the entry comes to is one of the four cases. -/
theorem enters_record (ledger : Ledger) (r : Record) : Enters ledger r (ledger.record r) := by
  cases hlines : ledger.lines.increment r.operator with
  | error e =>
    rw [record_of_lines_error hlines]
    exact .linesFull (Tally.increment_eq_error_iff_full.mp hlines)
  | ok lines =>
    have hmore := Tally.increment_eq_ok_iff.mp hlines
    cases htotal : Count.add ledger.lineTotal 1 with
    | error e =>
      rw [record_of_total_error hlines htotal]
      exact .totalFull hmore (Count.add_one_eq_error_iff.mp htotal)
    | ok lineTotal =>
      have hsum := Count.add_one_eq_ok_iff.mp htotal
      have hclaims := Tally.eq_raiseTo_iff.mp
        (Eq.refl (ledger.maxCounts.raiseTo r.operator r.operatorCount))
      cases hreceipts : ledger.receipts.increment r.sequenceNumber with
      | error e =>
        rw [record_of_receipts_error hlines htotal hreceipts]
        exact .receiptsFull hmore hsum hclaims (Tally.increment_eq_error_iff_full.mp hreceipts)
      | ok receipts =>
        have hok := (record_eq_ok_iff ledger ⟨lines, lineTotal, _, receipts, _⟩ r).mpr
          ⟨hlines, htotal, rfl, hreceipts, rfl⟩
        rw [hok]
        exact .entered hmore hsum hclaims (Tally.increment_eq_ok_iff.mp hreceipts)
          (Count.toNat_max _ _)

/-- It comes to nothing else. -/
theorem Enters.record_eq {outcome : Except Interrupted Ledger} (h : Enters ledger r outcome) :
    ledger.record r = outcome := by
  cases h with
  | linesFull hfull => exact record_of_lines_error (Tally.increment_eq_error_iff_full.mpr hfull)
  | totalFull hmore hfull =>
    exact record_of_total_error (Tally.increment_eq_ok_iff.mpr hmore)
      (Count.add_one_eq_error_iff.mpr hfull)
  | receiptsFull hmore hsum hclaims hfull =>
    rw [← Tally.eq_raiseTo_iff] at hclaims
    rw [hclaims]
    exact record_of_receipts_error (Tally.increment_eq_ok_iff.mpr hmore)
      (Count.add_one_eq_ok_iff.mpr hsum) (Tally.increment_eq_error_iff_full.mpr hfull)
  | entered hmore hsum hclaims hreceipts hnumber =>
    rw [← Count.toNat_max] at hnumber
    exact (record_eq_ok_iff _ _ _).mpr ⟨Tally.increment_eq_ok_iff.mpr hmore,
      Count.add_one_eq_ok_iff.mpr hsum, Tally.eq_raiseTo_iff.mpr hclaims,
      Tally.increment_eq_ok_iff.mpr hreceipts, UInt64.toNat_inj.mp hnumber⟩

/-- Only a full count interrupts an entry, and every full count does. -/
theorem exists_interrupted_iff :
    (∃ interrupted, ledger.record r = .error interrupted) ↔
      (ledger.lines.get r.operator).Full ∨ ledger.lineTotal.Full ∨
        (ledger.receipts.get r.sequenceNumber).Full := by
  have henters := enters_record ledger r
  generalize ledger.record r = outcome at henters
  cases henters with
  | linesFull hfull => simp [hfull]
  | totalFull _ hfull => simp [hfull]
  | receiptsFull _ _ _ hfull => simp [hfull]
  | entered hmore hsum _ hreceipts _ =>
    simp [hmore.not_full, Count.not_full_of_succ hsum, hreceipts.not_full]

end Any

/-! ## Ledgers that records have led to -/

namespace Agrees

variable {ledger : Ledger} {records : List Record} {r : Record} (h : ledger.Agrees records)
include h

theorem lines_le_lineTotal (operator : String) :
    (ledger.lines.get operator).toNat ≤ ledger.lineTotal.toNat := by
  rw [h.lines, h.lineTotal]
  exact Census.lines_le_length records operator

theorem receipts_le_lineTotal (number : Count) :
    (ledger.receipts.get number).toNat ≤ ledger.lineTotal.toNat := by
  rw [h.receipts, h.lineTotal]
  exact Census.receipts_le_length records number.toNat

/-- An operator wrote as many lines as there are if all the lines are its own. -/
theorem lines_eq_lineTotal_iff (operator : String) :
    (ledger.lines.get operator).toNat = ledger.lineTotal.toNat ↔
      ∀ s ∈ records, s.operator = operator := by
  rw [h.lines, h.lineTotal, Census.lines, List.countP_eq_length]
  simp

theorem exists_interrupted_iff_lineTotal :
    (∃ interrupted, ledger.record r = .error interrupted) ↔ ledger.lineTotal.Full := by
  have hlines := h.lines_le_lineTotal r.operator
  have hreceipts := h.receipts_le_lineTotal r.sequenceNumber
  have htotal := ledger.lineTotal.toNat_lt
  rw [exists_interrupted_iff, Count.Full, Count.Full, Count.Full]
  omega

/-- An interrupted entry has changed the lines at most. The receipts are not full
before the line total is, and the lines of an operator are only if it wrote all. -/
theorem exists_lines_of_interrupted {interrupted : Interrupted}
    (hr : ledger.record r = .error interrupted) :
    ∃ lines, interrupted.reached = { ledger with lines } ∧
      ((∀ s ∈ records, s.operator = r.operator) → lines = ledger.lines) ∧
      ((∃ s ∈ records, s.operator ≠ r.operator) → ledger.lines.OneMore lines r.operator) := by
  have hfull := h.exists_interrupted_iff_lineTotal.mp ⟨interrupted, hr⟩
  have hall := h.lines_eq_lineTotal_iff r.operator
  have henters := enters_record ledger r
  rw [hr] at henters
  cases henters with
  | linesFull hlines =>
    refine ⟨ledger.lines, rfl, fun _ => rfl, ?_⟩
    intro hother
    obtain ⟨s, hs, hne⟩ := hother
    exact absurd (hall.mp (Eq.trans hlines hfull.symm) s hs) hne
  | totalFull hmore _ =>
    refine ⟨_, rfl, ?_, fun _ => hmore⟩
    intro hsame
    exact absurd (Eq.trans (hall.mpr hsame) hfull) hmore.not_full
  | receiptsFull _ hsum _ _ => exact absurd hfull (Count.not_full_of_succ hsum)

end Agrees

/-- Entering a record in any ledger comes to exactly one of the four cases, and it
is interrupted exactly if the lines of its operator, the line total or the receipts
of its number are full. In a ledger that records have led to, it is interrupted
exactly if the line total is full; line total, claims, receipts and highest number
are then left as they were, and so are the lines if all of them were written by
this operator. Otherwise the lines have one more for it. -/
theorem record_interrupted (ledger : Ledger) (r : Record) :
    (∀ outcome, ledger.record r = outcome ↔ Enters ledger r outcome) ∧
    ((∃ interrupted, ledger.record r = .error interrupted) ↔
      (ledger.lines.get r.operator).Full ∨ ledger.lineTotal.Full ∨
        (ledger.receipts.get r.sequenceNumber).Full) ∧
    ∀ records, empty.recordAll records = .ok ledger →
      ((∃ interrupted, ledger.record r = .error interrupted) ↔ ledger.lineTotal.Full) ∧
      ∀ interrupted, ledger.record r = .error interrupted →
        interrupted.reached.lineTotal = ledger.lineTotal ∧
        interrupted.reached.maxCounts = ledger.maxCounts ∧
        interrupted.reached.receipts = ledger.receipts ∧
        interrupted.reached.maxSequenceNumber = ledger.maxSequenceNumber ∧
        ((∀ s ∈ records, s.operator = r.operator) →
          interrupted.reached.lines = ledger.lines) ∧
        ((∃ s ∈ records, s.operator ≠ r.operator) →
          ledger.lines.OneMore interrupted.reached.lines r.operator) := by
  refine ⟨?_, exists_interrupted_iff, ?_⟩
  · intro outcome
    constructor
    · intro h
      exact h ▸ enters_record ledger r
    · exact Enters.record_eq
  · intro records hrun
    have hagrees := agrees_empty.recordAll records hrun
    refine ⟨hagrees.exists_interrupted_iff_lineTotal, ?_⟩
    intro interrupted hr
    obtain ⟨lines, hreached, hsame, hmore⟩ := hagrees.exists_lines_of_interrupted hr
    rw [hreached]
    exact ⟨rfl, rfl, rfl, rfl, hsame, hmore⟩

/-- Receipts that are full in a ledger of five lines, and one line too many after
all but one of the lines that a word can number were written by one operator. -/
theorem record_interrupted_last_line :
    (∃ interrupted, (⟨Tally.empty, 5, Tally.empty, Tally.empty.raiseTo 3 18446744073709551615, 9⟩ :
      Ledger).record ⟨"t", 3, "b", 4⟩ = .error interrupted) ∧
    ∃ ledger, empty.recordAll
        (⟨"0", 0, "b", 1⟩ :: List.replicate 18446744073709551614 ⟨"0", 7, "a", 0⟩) = .ok ledger ∧
      (ledger.lines.get "a").toNat = 18446744073709551614 ∧
      ∃ interrupted, ledger.record ⟨"1", 7, "a", 3⟩ = .error interrupted ∧
        (interrupted.reached.lines.get "a").toNat = 18446744073709551614 + 1 ∧
        (interrupted.reached.lines.get "b").toNat = 1 ∧
        interrupted.reached.maxCounts = ledger.maxCounts ∧
        interrupted.reached.receipts = ledger.receipts := by
  obtain ⟨_, hany, _⟩ := record_interrupted
    ⟨Tally.empty, 5, Tally.empty, Tally.empty.raiseTo 3 18446744073709551615, 9⟩
    ⟨"t", 3, "b", 4⟩
  refine ⟨hany.mpr (.inr (.inr ?_)), ?_⟩
  · rw [Count.Full, Tally.toNat_get_raiseTo, if_pos rfl, Tally.get_empty]
    decide
  -- said for any number of lines, so that no step unfolds a list of that length
  · have hlast : ∀ n, n + 1 = 18446744073709551615 →
        ∃ ledger, empty.recordAll
            (⟨"0", 0, "b", 1⟩ :: List.replicate n ⟨"0", 7, "a", 0⟩) = .ok ledger ∧
          (ledger.lines.get "a").toNat = n ∧
          ∃ interrupted, ledger.record ⟨"1", 7, "a", 3⟩ = .error interrupted ∧
            (interrupted.reached.lines.get "a").toNat = n + 1 ∧
            (interrupted.reached.lines.get "b").toNat = 1 ∧
            interrupted.reached.maxCounts = ledger.maxCounts ∧
            interrupted.reached.receipts = ledger.receipts := by
      intro n hn
      have hlength : (⟨"0", 0, "b", 1⟩ ::
          List.replicate n (⟨"0", 7, "a", 0⟩ : Record)).length = 18446744073709551615 := by
        rwa [List.length_cons, List.length_replicate]
      obtain ⟨ledger, hrun, hagrees⟩ := exists_agrees _ (hlength.trans_lt (by decide))
      have htotal : ledger.lineTotal.Full := hagrees.lineTotal.trans hlength
      have ha : (ledger.lines.get "a").toNat = n := by
        rw [hagrees.lines]
        simp [Census.lines, List.countP_replicate]
      have hb : (ledger.lines.get "b").toNat = 1 := by
        rw [hagrees.lines]
        simp [Census.lines, List.countP_replicate]
      obtain ⟨_, _, hrecords⟩ := record_interrupted ledger ⟨"1", 7, "a", 3⟩
      obtain ⟨hiff, hleft⟩ := hrecords _ hrun
      obtain ⟨interrupted, hr⟩ := hiff.mpr htotal
      obtain ⟨_, hclaims, hreceipts, _, _, hmore⟩ := hleft interrupted hr
      have hlines := hmore ⟨⟨"0", 0, "b", 1⟩, List.mem_cons_self, by decide⟩
      refine ⟨ledger, hrun, ha, interrupted, hr, ?_, ?_, hclaims, hreceipts⟩
      · rw [hlines.get, ha, if_pos rfl]
      · rw [hlines.get, hb, if_neg (by decide)]
    exact hlast 18446744073709551614 rfl

end StreamAudit.Ledger
