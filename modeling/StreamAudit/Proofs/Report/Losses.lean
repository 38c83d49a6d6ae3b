import StreamAudit.Proofs.Census.Loss
import StreamAudit.Proofs.Report.Faults

/-!
# What a report tells of losses

Records on which the report is consistent are split into those kept and those
lost, where none of number 1 is lost, so that the number of sources is still
known. The report on the rest names each number that some sources lost, and the
range check speaks when anything below the last number kept is missing. What
all sources lost at the end of the range is the one loss that nothing tells of.
-/

namespace StreamAudit

namespace Report.On

variable {report rest : Report} {records kept lost : List Record} {sources last top : Nat}
  (hrest : rest.On kept) (hcovers : Census.Covers records sources last)
  (hsplit : records.Perm (kept ++ lost)) (hone : Census.receipts kept 1 = sources)
include hrest hcovers hsplit hone

/-- The numbers told of are those that some sources lost and some did not. -/
theorem numberFaults_of_losses :
    rest.numberFaults =
      ((List.range (last + 1)).filter fun k =>
        0 < Census.receipts lost k ∧ Census.receipts lost k < sources).map
        (fun k => (⟨k, sources - Census.receipts lost k, sources⟩ : NumberFault)) := by
  have hbound : ∀ r ∈ kept, r.sequenceNumber.toNat < last + 1 :=
    fun r hr => Nat.lt_succ_of_le (Census.le_last_of_mem_kept hcovers hsplit hr)
  have hkept : ∀ k ∈ List.range (last + 1),
      Census.receipts kept k = sources - Census.receipts lost k := by
    intro k hk
    exact Census.receipts_kept hcovers hsplit (Nat.le_of_lt_succ (List.mem_range.mp hk))
  have hsame : (List.range (last + 1)).filter (fun k =>
        0 < Census.receipts kept k ∧ Census.receipts kept k ≠ sources) =
      (List.range (last + 1)).filter fun k =>
        0 < Census.receipts lost k ∧ Census.receipts lost k < sources := by
    apply List.filter_congr
    intro k hk
    rw [hkept k hk, decide_eq_decide]
    omega
  rw [hrest.numberFaults hbound, hone, hsame]
  apply List.map_congr_left
  intro k hk
  rw [hkept k (List.mem_of_mem_filter hk)]

variable (htop : Census.IsLastKept lost sources last top)
include htop

theorem rangeFaults_of_losses :
    rest.rangeFaults =
      if ∀ k ≤ top, Census.receipts lost k = 0 then []
      else [⟨records.length - lost.length, (top + 1) * sources, top, sources⟩] := by
  have hlength := hsplit.length_eq
  rw [List.length_append] at hlength
  rw [hrest.rangeFaults, hone, Census.highestNumber_kept hcovers hsplit htop, hlength,
    Nat.add_sub_cancel]
  simp only [Census.length_kept_eq_iff hcovers hsplit htop]

theorem no_faults_iff_perm :
    rest.numberFaults = [] ∧ rest.rangeFaults = [] ↔
      lost.Perm (records.filter fun r => top < r.sequenceNumber.toNat) := by
  rw [Census.lost_perm_filter_iff hcovers hsplit htop,
    hrest.rangeFaults_of_losses hcovers hsplit hone htop]
  constructor
  · intro hsilent
    by_contra hlost
    rw [if_neg hlost] at hsilent
    exact List.cons_ne_nil _ _ hsilent.2
  · intro hnone
    refine ⟨?_, if_pos hnone⟩
    rw [hrest.numberFaults_of_losses hcovers hsplit hone, List.map_eq_nil_iff,
      List.filter_eq_nil_iff]
    intro k hk
    have hkLast := Nat.le_of_lt_succ (List.mem_range.mp hk)
    simp only [decide_eq_true_eq, not_and]
    intro hpos hlt
    -- a number that some source kept is not after the last one kept
    have hkTop : k ≤ top := htop.2 ⟨hkLast, hlt⟩
    have hzero := hnone k hkTop
    omega

end Report.On

/-- The report on what is kept of consistent records, whatever was lost but for
number 1 and in whatever order the rest stands. With `top` the last number not
lost by all sources, it tells of exactly the numbers that some sources lost and
some did not, in ascending order; it tells of the range exactly when a number
up to `top` was lost by any; and it tells of neither exactly when the losses
are all records after `top`. -/
theorem report_of_losses (records kept lost : List Record) (report : Report)
    (hne : records ≠ []) (hon : report.On records) (hconsistent : report.isConsistent = true)
    (hsplit : records.Perm (kept ++ lost)) (hone : ∀ r ∈ lost, r.sequenceNumber ≠ 1) :
    ∃ (top : Nat) (rest : Report),
      Census.IsLastKept lost report.parallelism.toNat (Census.highestNumber records) top ∧
      rest.On kept ∧ rest.parallelism = report.parallelism ∧
      rest.numberFaults =
        ((List.range (Census.highestNumber records + 1)).filter fun k =>
          0 < Census.receipts lost k ∧
            Census.receipts lost k < report.parallelism.toNat).map
          (fun k => (⟨k, report.parallelism.toNat - Census.receipts lost k,
            report.parallelism.toNat⟩ : NumberFault)) ∧
      rest.rangeFaults =
        (if ∀ k ≤ top, Census.receipts lost k = 0 then []
        else [⟨records.length - lost.length, (top + 1) * report.parallelism.toNat, top,
          report.parallelism.toNat⟩]) ∧
      (rest.numberFaults = [] ∧ rest.rangeFaults = [] ↔
        lost.Perm (records.filter fun r => top < r.sequenceNumber.toNat)) := by
  obtain ⟨hsources, hlast, hcovers⟩ := hon.covers hne hconsistent
  have hlostOne : Census.receipts lost 1 = 0 := by
    rw [Census.receipts_eq_zero_iff]
    intro r hr heq
    exact hone r hr (UInt64.toNat_inj.mp heq)
  have hkeptOne : Census.receipts kept 1 = report.parallelism.toNat := by
    rw [Census.receipts_kept hcovers hsplit hlast, hlostOne, Nat.sub_zero]
  have hroom : kept.length < UInt64.size := by
    have hlength := hsplit.length_eq
    have hlt := hon.length_lt
    rw [List.length_append] at hlength
    omega
  have hsome : Census.receipts lost 1 < report.parallelism.toNat := by omega
  obtain ⟨top, htop⟩ := Census.exists_isLastKept hlast hsome
  obtain ⟨rest, hrest⟩ := Report.exists_on hroom
  refine ⟨top, rest, htop, hrest, ?_, ?_, ?_, ?_⟩
  · rw [← UInt64.toNat_inj, hrest.parallelism, hkeptOne]
  · exact hrest.numberFaults_of_losses hcovers hsplit hkeptOne
  · exact hrest.rangeFaults_of_losses hcovers hsplit hkeptOne htop
  · exact hrest.no_faults_iff_perm hcovers hsplit hkeptOne htop

/-- Two sources write the numbers 0 to 3. One of them loses number 2, both lose
number 3, and what is left stands in another order. -/
theorem report_of_losses_two_sources :
    ∃ rest : Report,
      rest.On [⟨"5", 2, "a", 3⟩, ⟨"1", 0, "a", 1⟩, ⟨"4", 1, "b", 2⟩, ⟨"2", 0, "b", 1⟩,
        ⟨"3", 1, "a", 2⟩] ∧
      rest.parallelism = 2 ∧ rest.numberFaults = [⟨2, 1, 2⟩] ∧
      rest.rangeFaults = [⟨5, 6, 2, 2⟩] := by
  have hon : (⟨[], 2, 8⟩ : Report).On [⟨"1", 0, "a", 1⟩, ⟨"2", 0, "b", 1⟩, ⟨"3", 1, "a", 2⟩,
      ⟨"4", 1, "b", 2⟩, ⟨"5", 2, "a", 3⟩, ⟨"6", 2, "b", 3⟩, ⟨"7", 3, "a", 4⟩,
      ⟨"8", 3, "b", 4⟩] := by decide +kernel
  obtain ⟨top, rest, htop, hrest, hparallelism, hnumbers, hrange, _⟩ := report_of_losses _
    [⟨"5", 2, "a", 3⟩, ⟨"1", 0, "a", 1⟩, ⟨"4", 1, "b", 2⟩, ⟨"2", 0, "b", 1⟩, ⟨"3", 1, "a", 2⟩]
    [⟨"6", 2, "b", 3⟩, ⟨"7", 3, "a", 4⟩, ⟨"8", 3, "b", 4⟩] _
    (List.cons_ne_nil _ _) hon rfl (by decide) (by decide)
  obtain ⟨⟨hlast, hlost⟩, hgreatest⟩ := htop
  have hle : top ≤ 3 := hlast.trans (by decide)
  have hge : 2 ≤ top := hgreatest (by decide)
  have hne : top ≠ 3 := by
    rintro rfl
    exact absurd hlost (by decide)
  obtain rfl : top = 2 := by omega
  refine ⟨rest, hrest, hparallelism, ?_, ?_⟩
  · rw [hnumbers]; decide
  · rw [hrange]; decide

end StreamAudit
