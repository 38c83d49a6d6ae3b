import StreamAudit.Ledger
import StreamAudit.Proofs.Census
import StreamAudit.Proofs.Tally

/-!
# A ledger agrees with the census of its records

`Agrees` ties the five books of a ledger to the census of a list of records.
Entering one record keeps the two in agreement, whatever the record is, and
succeeds as long as a word can number the records. A run over a list is the
same statement repeated. The timestamps and the order of the records are not
part of the census, so they are not part of the ledger either.
-/

namespace StreamAudit.Ledger

/-- The ledger holds what the census of the records counts, under the keys that
the records name. -/
structure Agrees (ledger : Ledger) (records : List Record) : Prop where
  lines : ∀ operator, (ledger.lines.get operator).toNat = Census.lines records operator
  mem_lines : ∀ operator, operator ∈ ledger.lines.keys ↔ ∃ r ∈ records, r.operator = operator
  lineTotal : ledger.lineTotal.toNat = records.length
  maxCounts : ∀ operator,
    (ledger.maxCounts.get operator).toNat = Census.highestClaim records operator
  mem_maxCounts : ∀ operator,
    operator ∈ ledger.maxCounts.keys ↔ ∃ r ∈ records, r.operator = operator
  receipts : ∀ number,
    (ledger.receipts.get number).toNat = Census.receipts records number.toNat
  mem_receipts : ∀ number,
    number ∈ ledger.receipts.keys ↔ ∃ r ∈ records, r.sequenceNumber = number
  maxSequenceNumber : ledger.maxSequenceNumber.toNat = Census.highestNumber records

theorem agrees_empty : empty.Agrees [] := by
  constructor <;>
    simp [empty, Tally.get_empty, Tally.keys_empty, Census.lines, Census.receipts,
      Census.highestClaim, Census.highestNumber]

/-- An entry succeeds when its three additions do, and then makes all five
changes. -/
theorem record_eq_ok_iff (ledger next : Ledger) (r : Record) :
    ledger.record r = .ok next ↔
      ledger.lines.increment r.operator = .ok next.lines ∧
      Count.add ledger.lineTotal 1 = .ok next.lineTotal ∧
      next.maxCounts = ledger.maxCounts.raiseTo r.operator r.operatorCount ∧
      ledger.receipts.increment r.sequenceNumber = .ok next.receipts ∧
      next.maxSequenceNumber = max ledger.maxSequenceNumber r.sequenceNumber := by
  obtain ⟨lines, lineTotal, maxCounts, receipts, maxSequenceNumber⟩ := next
  cases hlines : ledger.lines.increment r.operator with
  | error e => simp [record, hlines]
  | ok lines' =>
    cases htotal : Count.add ledger.lineTotal 1 with
    | error e => simp [record, hlines, htotal]
    | ok total' =>
      cases hreceipts : ledger.receipts.increment r.sequenceNumber with
      | error e => simp [record, hlines, htotal, hreceipts]
      | ok receipts' =>
        simp only [record, hlines, htotal, hreceipts, Except.ok.injEq, Ledger.mk.injEq]
        constructor
        · intro h
          obtain ⟨rfl, rfl, rfl, rfl, rfl⟩ := h
          exact ⟨rfl, rfl, rfl, rfl, rfl⟩
        · intro h
          obtain ⟨rfl, rfl, rfl, rfl, rfl⟩ := h
          exact ⟨rfl, rfl, rfl, rfl, rfl⟩

section Step

variable {ledger next : Ledger} {records : List Record} {r : Record}

theorem Agrees.record (h : ledger.Agrees records) (hr : ledger.record r = .ok next) :
    next.Agrees (records ++ [r]) := by
  obtain ⟨hlines, htotal, hmax, hreceipts, hnumber⟩ := (record_eq_ok_iff ledger next r).mp hr
  constructor
  · intro operator
    rw [Tally.get_of_increment hlines, h.lines, Census.lines_append_singleton]
  · intro operator
    rw [Tally.mem_keys_of_increment hlines, h.mem_lines]
    simp [or_comm]
  · rw [(Count.add_eq_ok_iff _ _ _).mp htotal, h.lineTotal, List.length_append]
    rfl
  · intro operator
    rw [hmax, Tally.toNat_get_raiseTo, h.maxCounts, Census.highestClaim_append_singleton]
  · intro operator
    rw [hmax, Tally.mem_keys_raiseTo, h.mem_maxCounts]
    simp [or_comm]
  · intro number
    rw [Tally.get_of_increment hreceipts, h.receipts, Census.receipts_append_singleton]
    simp only [UInt64.toNat_inj]
  · intro number
    rw [Tally.mem_keys_of_increment hreceipts, h.mem_receipts]
    simp [or_comm]
  · rw [hnumber, Count.toNat_max, h.maxSequenceNumber, Census.highestNumber_append_singleton]

/-- No count can be full before a word is too small to number the records. -/
theorem Agrees.exists_record (h : ledger.Agrees records) (r : Record)
    (hroom : records.length + 1 < UInt64.size) : ∃ next, ledger.record r = .ok next := by
  have hlinesLe := Census.lines_le_length records r.operator
  have hreceiptsLe := Census.receipts_le_length records r.sequenceNumber.toNat
  obtain ⟨lines, hlines⟩ : ∃ lines, ledger.lines.increment r.operator = .ok lines :=
    Tally.exists_increment (by rw [h.lines]; omega)
  obtain ⟨receipts, hreceipts⟩ : ∃ receipts,
      ledger.receipts.increment r.sequenceNumber = .ok receipts :=
    Tally.exists_increment (by rw [h.receipts]; omega)
  cases htotal : Count.add ledger.lineTotal 1 with
  | error e =>
    have hfull := (Count.add_eq_error_iff _ _ _).mp htotal
    rw [h.lineTotal, show (1 : Count).toNat = 1 from rfl] at hfull
    omega
  | ok lineTotal =>
    refine ⟨⟨lines, lineTotal, ledger.maxCounts.raiseTo r.operator r.operatorCount, receipts,
      max ledger.maxSequenceNumber r.sequenceNumber⟩, ?_⟩
    exact (record_eq_ok_iff _ _ _).mpr ⟨hlines, htotal, rfl, hreceipts, rfl⟩

end Step

/-! ## Runs -/

theorem recordAll_cons (ledger : Ledger) (r : Record) (rest : List Record) :
    ledger.recordAll (r :: rest) = ledger.record r >>= fun next => next.recordAll rest :=
  rfl

/-- A run from a ledger in agreement with some records ends, if it ends well, in
agreement with these and all that the run entered. -/
theorem Agrees.recordAll {ledger final : Ledger} {seen : List Record} (h : ledger.Agrees seen)
    (records : List Record) (hrun : ledger.recordAll records = .ok final) :
    final.Agrees (seen ++ records) := by
  induction records generalizing ledger seen with
  | nil =>
    obtain rfl := Except.ok.inj hrun
    rwa [List.append_nil]
  | cons r rest ih =>
    rw [recordAll_cons] at hrun
    cases hr : ledger.record r with
    | error e =>
      rw [hr] at hrun
      cases hrun
    | ok next =>
      rw [hr] at hrun
      rw [← List.singleton_append, ← List.append_assoc]
      exact ih (h.record hr) hrun

theorem Agrees.exists_recordAll {ledger : Ledger} {seen : List Record} (h : ledger.Agrees seen)
    (records : List Record) (hroom : seen.length + records.length < UInt64.size) :
    ∃ final, ledger.recordAll records = .ok final := by
  induction records generalizing ledger seen with
  | nil => exact ⟨ledger, rfl⟩
  | cons r rest ih =>
    rw [List.length_cons] at hroom
    obtain ⟨next, hr⟩ := h.exists_record r (by omega)
    obtain ⟨final, hrest⟩ := ih (h.record hr) (by simp; omega)
    refine ⟨final, ?_⟩
    rw [recordAll_cons, hr]
    exact hrest

theorem exists_agrees (records : List Record) (hroom : records.length < UInt64.size) :
    ∃ ledger, empty.recordAll records = .ok ledger ∧ ledger.Agrees records := by
  obtain ⟨ledger, hrun⟩ := agrees_empty.exists_recordAll records (by simpa using hroom)
  exact ⟨ledger, hrun, agrees_empty.recordAll records hrun⟩

theorem pairwise_keys_lt (ledger : Ledger) :
    ledger.lines.keys.Pairwise (· < ·) ∧ ledger.maxCounts.keys.Pairwise (· < ·) ∧
      ledger.receipts.keys.Pairwise (· < ·) :=
  ⟨ledger.lines.pairwise_keys.imp compareOfLessAndEq_eq_lt.mp,
    ledger.maxCounts.pairwise_keys.imp compareOfLessAndEq_eq_lt.mp,
    ledger.receipts.pairwise_keys.imp compareOfLessAndEq_eq_lt.mp⟩

/-- Fewer records than a word can number are entered one after the other
without overflow. The ledger then holds the census of the records, under the
keys that they name and no others, and lists these in strictly ascending order. -/
theorem recordAll_empty_agrees (records : List Record) (hroom : records.length < UInt64.size) :
    ∃ ledger, empty.recordAll records = .ok ledger ∧ ledger.Agrees records ∧
      ledger.lines.keys.Pairwise (· < ·) ∧ ledger.maxCounts.keys.Pairwise (· < ·) ∧
      ledger.receipts.keys.Pairwise (· < ·) := by
  obtain ⟨ledger, hrun, hagrees⟩ := exists_agrees records hroom
  exact ⟨ledger, hrun, hagrees, ledger.pairwise_keys_lt⟩

/-- Three records of two operators, one of which claims no count. -/
theorem recordAll_empty_three :
    [⟨"0", 3, "src", 2⟩, ⟨"0", 1, "src", 1⟩, (⟨"0", 1, "map", 0⟩ : Record)].length < UInt64.size ∧
    ∃ ledger, empty.recordAll [⟨"0", 3, "src", 2⟩, ⟨"0", 1, "src", 1⟩, ⟨"0", 1, "map", 0⟩] =
        .ok ledger ∧
      (ledger.lines.get "src").toNat = 2 ∧ (ledger.maxCounts.get "src").toNat = 2 ∧
      (ledger.maxCounts.get "map").toNat = 0 ∧ "map" ∈ ledger.maxCounts.keys ∧
      (ledger.receipts.get 1).toNat = 2 ∧ ledger.lineTotal.toNat = 3 ∧
      ledger.maxSequenceNumber.toNat = 3 := by
  refine ⟨by decide, ?_⟩
  obtain ⟨ledger, hrun, hagrees, _⟩ := recordAll_empty_agrees
    [⟨"0", 3, "src", 2⟩, ⟨"0", 1, "src", 1⟩, ⟨"0", 1, "map", 0⟩] (by decide)
  refine ⟨ledger, hrun, ?_, ?_, ?_, ?_, ?_, ?_, ?_⟩
  · rw [hagrees.lines]; decide
  · rw [hagrees.maxCounts]; decide
  · rw [hagrees.maxCounts]; decide
  · rw [hagrees.mem_maxCounts]; decide
  · rw [hagrees.receipts]; decide
  · rw [hagrees.lineTotal]; decide
  · rw [hagrees.maxSequenceNumber]; decide

/-! ## The census determines the ledger -/

section Perm

variable {xs ys : List Record} (hperm : (xs.map Record.triple).Perm (ys.map Record.triple))
include hperm

theorem Agrees.perm {ledger : Ledger} (h : ledger.Agrees xs) : ledger.Agrees ys where
  lines operator := (h.lines operator).trans (Census.lines_perm hperm operator)
  mem_lines operator := (h.mem_lines operator).trans
    (Census.exists_triple_perm hperm fun t => t.2.1 = operator)
  lineTotal := h.lineTotal.trans (Census.length_perm hperm)
  maxCounts operator := (h.maxCounts operator).trans (Census.highestClaim_perm hperm operator)
  mem_maxCounts operator := (h.mem_maxCounts operator).trans
    (Census.exists_triple_perm hperm fun t => t.2.1 = operator)
  receipts number := (h.receipts number).trans (Census.receipts_perm hperm number.toNat)
  mem_receipts number := (h.mem_receipts number).trans
    (Census.exists_triple_perm hperm fun t => t.1 = number)
  maxSequenceNumber := h.maxSequenceNumber.trans (Census.highestNumber_perm hperm)

end Perm

/-- At most one ledger agrees with given records. -/
theorem Agrees.unique {ledger other : Ledger} {records : List Record}
    (h : ledger.Agrees records) (h' : other.Agrees records) : ledger = other := by
  have hlines : ledger.lines = other.lines :=
    Tally.ext_toNat (fun operator => (h.mem_lines operator).trans (h'.mem_lines operator).symm)
      fun operator => (h.lines operator).trans (h'.lines operator).symm
  have hmax : ledger.maxCounts = other.maxCounts :=
    Tally.ext_toNat
      (fun operator => (h.mem_maxCounts operator).trans (h'.mem_maxCounts operator).symm)
      fun operator => (h.maxCounts operator).trans (h'.maxCounts operator).symm
  have hreceipts : ledger.receipts = other.receipts :=
    Tally.ext_toNat (fun number => (h.mem_receipts number).trans (h'.mem_receipts number).symm)
      fun number => (h.receipts number).trans (h'.receipts number).symm
  have htotal : ledger.lineTotal = other.lineTotal :=
    UInt64.toNat_inj.mp (h.lineTotal.trans h'.lineTotal.symm)
  have hnumber : ledger.maxSequenceNumber = other.maxSequenceNumber :=
    UInt64.toNat_inj.mp (h.maxSequenceNumber.trans h'.maxSequenceNumber.symm)
  cases ledger
  cases other
  simp_all

end StreamAudit.Ledger
