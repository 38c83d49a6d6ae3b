import StreamAudit.Proofs.Census.Stray
import StreamAudit.Proofs.Report.Faults

/-!
# What a report tells of a stray record

Consistent records are disturbed at one place: a record is put among them, or
one of them gets another sequence number. The report on the disturbed records
tells of a fault in the sequence numbers, whichever number is hit, number 1 by
which the sources are counted included. The one record that goes unnoticed is
the next one of a single source.
-/

namespace StreamAudit

namespace Report.On

variable {report : Report} {before after : List Record} {r : Record} {sources last : Nat}
  (hsources : 1 ≤ sources) (hlast : 1 ≤ last)

include hsources hlast in
/-- A record too many goes unnoticed only as the next one of a single source. -/
theorem no_faults_insert_iff (h : report.On (before ++ r :: after))
    (hcovers : Census.Covers (before ++ after) sources last) :
    report.numberFaults = [] ∧ report.rangeFaults = [] ↔
      sources = 1 ∧ r.sequenceNumber.toNat = last + 1 := by
  rw [h.no_faults_iff_covers (by simp)]
  exact Census.exists_covers_insert_iff hcovers hsources hlast
    (Census.receipts_insert before after r)

include hsources hlast in
/-- A record under a wrong number never goes unnoticed. -/
theorem faults_of_move {moved : Record} (h : report.On (before ++ moved :: after))
    (hcovers : Census.Covers (before ++ r :: after) sources last)
    (hne : r.sequenceNumber ≠ moved.sequenceNumber) :
    report.numberFaults ≠ [] ∨ report.rangeFaults ≠ [] := by
  by_contra hsilent
  rw [not_or, not_not, not_not] at hsilent
  obtain ⟨sources', last', hsources', hlast', hcovers'⟩ :=
    (h.no_faults_iff_covers (by simp)).mp hsilent
  have hnumbers : r.sequenceNumber.toNat ≠ moved.sequenceNumber.toNat :=
    fun heq => hne (UInt64.toNat_inj.mp heq)
  refine Census.false_of_move hcovers hsources hlast hnumbers ?_ hcovers' hsources' hlast'
  intro n
  rw [Census.receipts_insert before after moved, Census.receipts_insert before after r]
  exact Nat.add_right_comm _ _ _

end Report.On

/-- Neither a record too many nor one under a wrong number goes unnoticed in
records on which the report is consistent, wherever it stands. The exception is
one more record from a single source whose number is the next: with it the
records are those of a longer range. -/
theorem report_of_stray_record (records : List Record) (report : Report) (hne : records ≠ [])
    (hroom : records.length + 1 < UInt64.size) (hon : report.On records)
    (hconsistent : report.isConsistent = true) :
    (∀ (before after : List Record) (r : Record), records = before ++ after →
      ∃ more : Report, more.On (before ++ r :: after) ∧
        (more.numberFaults = [] ∧ more.rangeFaults = [] ↔
          report.parallelism.toNat = 1 ∧
            r.sequenceNumber.toNat = Census.highestNumber records + 1)) ∧
    ∀ (before after : List Record) (r : Record) (number : Count),
      records = before ++ r :: after → number ≠ r.sequenceNumber →
      ∃ moved : Report, moved.On (before ++ { r with sequenceNumber := number } :: after) ∧
        (moved.numberFaults ≠ [] ∨ moved.rangeFaults ≠ []) := by
  obtain ⟨hsources, hlast, hcovers⟩ := hon.covers hne hconsistent
  constructor
  · rintro before after r rfl
    have hroom' : (before ++ r :: after).length < UInt64.size := by
      simp only [List.length_append, List.length_cons] at hroom ⊢
      omega
    obtain ⟨more, hmore⟩ := Report.exists_on hroom'
    exact ⟨more, hmore, hmore.no_faults_insert_iff hsources hlast hcovers⟩
  · rintro before after r number rfl hnumber
    have hroom' : (before ++ { r with sequenceNumber := number } :: after).length <
        UInt64.size := by
      simp only [List.length_append, List.length_cons] at hroom ⊢
      omega
    obtain ⟨moved, hmoved⟩ := Report.exists_on hroom'
    exact ⟨moved, hmoved, hmoved.faults_of_move hsources hlast hcovers (Ne.symm hnumber)⟩

/-- One source writes the numbers 0 and 1. Its number 2 put in front goes
unnoticed and another 1 does not; neither does number 0 turned into 1, which
leaves a single number received as often as number 1. -/
theorem report_of_stray_record_one_source :
    (∃ more : Report,
      more.On [⟨"3", 2, "a", 3⟩, ⟨"1", 0, "a", 1⟩, ⟨"2", 1, "a", 2⟩] ∧
      more.numberFaults = [] ∧ more.rangeFaults = []) ∧
    (∃ more : Report,
      more.On [⟨"1", 0, "a", 1⟩, ⟨"3", 1, "b", 1⟩, ⟨"2", 1, "a", 2⟩] ∧
      ¬ (more.numberFaults = [] ∧ more.rangeFaults = [])) ∧
    ∃ moved : Report, moved.On [⟨"1", 1, "a", 1⟩, ⟨"2", 1, "a", 2⟩] ∧
      (moved.numberFaults ≠ [] ∨ moved.rangeFaults ≠ []) := by
  have hon : (⟨[], 1, 2⟩ : Report).On [⟨"1", 0, "a", 1⟩, ⟨"2", 1, "a", 2⟩] := by decide +kernel
  obtain ⟨hinsert, hmove⟩ := report_of_stray_record [⟨"1", 0, "a", 1⟩, ⟨"2", 1, "a", 2⟩]
    ⟨[], 1, 2⟩ (List.cons_ne_nil _ _) (by decide) hon rfl
  obtain ⟨next, hnext, hunnoticed⟩ :=
    hinsert [] [⟨"1", 0, "a", 1⟩, ⟨"2", 1, "a", 2⟩] ⟨"3", 2, "a", 3⟩ rfl
  obtain ⟨twice, htwice, hnoticed⟩ :=
    hinsert [⟨"1", 0, "a", 1⟩] [⟨"2", 1, "a", 2⟩] ⟨"3", 1, "b", 1⟩ rfl
  refine ⟨⟨next, hnext, hunnoticed.mpr (by decide)⟩, ⟨twice, htwice, ?_⟩, ?_⟩
  · rw [hnoticed]
    decide
  · exact hmove [] [⟨"2", 1, "a", 2⟩] ⟨"1", 0, "a", 1⟩ 1 rfl (by decide)

end StreamAudit
