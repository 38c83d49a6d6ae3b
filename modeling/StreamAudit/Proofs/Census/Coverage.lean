import Mathlib.Algebra.BigOperators.Group.Finset.Piecewise
import Mathlib.Algebra.Order.BigOperators.Group.Finset
import StreamAudit.Proofs.Census

/-!
# Even coverage of a range of sequence numbers

Records cover a range evenly when each number of it stands in equally many of
them. The checks look at the numbers that occur, at the largest of them and at
the number of records, never at a number that is missing. That this suffices is
a counting argument: the records are the sum of the receipts over the range,
and no number is received more often than there are sources, so a sum as large
as it can be leaves no gap.
-/

namespace StreamAudit.Census

/-- Each sequence number from 0 to the last stands in one record from each
source, and no other stands in any. -/
structure Covers (records : List Record) (sources last : Nat) : Prop where
  received : ∀ number ≤ last, receipts records number = sources
  absent : ∀ number, last < number → receipts records number = 0

/-- The records are counted by their sequence numbers. -/
theorem length_eq_sum_receipts {records : List Record} {bound : Nat}
    (h : ∀ r ∈ records, r.sequenceNumber.toNat < bound) :
    records.length = ∑ number ∈ Finset.range bound, receipts records number := by
  induction records with
  | nil => simp [receipts]
  | cons r rest ih =>
    have hr := h r List.mem_cons_self
    have hrest := ih fun s hs => h s (List.mem_cons_of_mem r hs)
    have hone : ∑ number ∈ Finset.range bound,
        (if r.sequenceNumber.toNat = number then 1 else 0) = 1 := by
      rw [Finset.sum_ite_eq, if_pos (Finset.mem_range.mpr hr)]
    simp only [receipts, List.countP_cons, Finset.sum_add_distrib, List.length_cons,
      decide_eq_true_eq] at hrest ⊢
    rw [← hrest, hone]

namespace Covers

variable {records : List Record} {sources last : Nat} (h : Covers records sources last)
include h

/-- A number that is received at all lies in the range. -/
theorem le_last_of_pos {number : Nat} (hpos : 0 < receipts records number) : number ≤ last := by
  by_contra hlt
  rw [h.absent number (by omega)] at hpos
  omega

theorem le_last {r : Record} (hr : r ∈ records) : r.sequenceNumber.toNat ≤ last :=
  h.le_last_of_pos (receipts_pos_iff.mpr ⟨r, hr, rfl⟩)

/-- No number is received more often than there are sources. -/
theorem receipts_le (number : Nat) : receipts records number ≤ sources := by
  by_cases hle : number ≤ last
  · exact (h.received number hle).le
  · rw [h.absent number (by omega)]
    omega

theorem receipts_of_mem {r : Record} (hr : r ∈ records) :
    receipts records r.sequenceNumber.toNat = sources :=
  h.received _ (h.le_last hr)

theorem length_eq : records.length = sources * (last + 1) := by
  have hlt : ∀ r ∈ records, r.sequenceNumber.toNat < last + 1 :=
    fun r hr => Nat.lt_succ_of_le (h.le_last hr)
  have heach : ∀ number ∈ Finset.range (last + 1), receipts records number = sources :=
    fun number hnumber => h.received number (by simpa [Nat.lt_succ_iff] using hnumber)
  rw [length_eq_sum_receipts hlt, Finset.sum_const_nat heach, Finset.card_range, Nat.mul_comm]

theorem highestNumber_eq (hsources : 0 < sources) : highestNumber records = last := by
  apply Nat.le_antisymm
  · rw [highestNumber, highest_le_iff]
    intro a ha
    obtain ⟨r, hr, rfl⟩ := List.mem_map.mp ha
    exact h.le_last hr
  · obtain ⟨r, hr, hlast⟩ := receipts_pos_iff.mp (by rwa [h.received last le_rfl])
    rw [← hlast]
    exact le_highestNumber hr

end Covers

/-- Records in a range are as many as the whole range would give exactly when
each number of it is received as often as any can be. -/
theorem length_eq_mul_iff {records : List Record} {sources last : Nat}
    (hrange : ∀ r ∈ records, r.sequenceNumber.toNat ≤ last)
    (hmost : ∀ number ≤ last, receipts records number ≤ sources) :
    records.length = (last + 1) * sources ↔
      ∀ number ≤ last, receipts records number = sources := by
  have hlt : ∀ r ∈ records, r.sequenceNumber.toNat < last + 1 :=
    fun r hr => Nat.lt_succ_of_le (hrange r hr)
  have hle : ∀ number ∈ Finset.range (last + 1), receipts records number ≤ sources := by
    intro number hnumber
    exact hmost number (Nat.le_of_lt_succ (Finset.mem_range.mp hnumber))
  have hfull : (last + 1) * sources = ∑ _number ∈ Finset.range (last + 1), sources := by
    rw [Finset.sum_const_nat fun _ _ => rfl, Finset.card_range]
  -- no summand exceeds `sources`, so equal sums leave none below it
  rw [length_eq_sum_receipts hlt, hfull, Finset.sum_eq_sum_iff_of_le hle]
  simp only [Finset.mem_range, Nat.lt_succ_iff]

/-- No gap: when every number received is received equally often, and the
records are as many as the whole range would give, nothing in the range is
missing. -/
theorem covers_of_length_eq {records : List Record} {sources : Nat}
    (heven : ∀ r ∈ records, receipts records r.sequenceNumber.toNat = sources)
    (hlength : records.length = (highestNumber records + 1) * sources) :
    Covers records sources (highestNumber records) := by
  have hrange : ∀ r ∈ records, r.sequenceNumber.toNat ≤ highestNumber records :=
    fun r hr => le_highestNumber hr
  have hmost : ∀ number ≤ highestNumber records, receipts records number ≤ sources := by
    intro number _
    by_cases hpos : 0 < receipts records number
    · obtain ⟨r, hr, rfl⟩ := receipts_pos_iff.mp hpos
      exact (heven r hr).le
    · omega
  constructor
  · exact (length_eq_mul_iff hrange hmost).mp hlength
  · intro number hnumber
    rw [receipts_eq_zero_iff]
    intro r hr heq
    have hr' := hrange r hr
    omega

/-- What the checks on the sequence numbers ask of some records is that they
cover a range of at least two numbers from at least one source. -/
theorem even_receipts_iff_covers {records : List Record} (hne : records ≠ []) :
    ((∀ r ∈ records, receipts records r.sequenceNumber.toNat = receipts records 1) ∧
      records.length = (highestNumber records + 1) * receipts records 1) ↔
    ∃ sources last, 1 ≤ sources ∧ 1 ≤ last ∧ Covers records sources last := by
  constructor
  · intro h
    obtain ⟨heven, hlength⟩ := h
    -- any record at all is received as often as number 1, so number 1 occurs
    obtain ⟨r, hr⟩ := List.exists_mem_of_ne_nil records hne
    have hpos : 0 < receipts records 1 := by
      rw [← heven r hr]
      exact receipts_pos_iff.mpr ⟨r, hr, rfl⟩
    obtain ⟨one, hone, hnumber⟩ := receipts_pos_iff.mp hpos
    have hlast := le_highestNumber hone
    exact ⟨receipts records 1, highestNumber records, hpos, by omega,
      covers_of_length_eq heven hlength⟩
  · intro h
    obtain ⟨sources, last, hsources, hlast, hcovers⟩ := h
    have hone := hcovers.received 1 hlast
    constructor
    · intro r hr
      rw [hcovers.receipts_of_mem hr, hone]
    · rw [hcovers.length_eq, hcovers.highestNumber_eq hsources, hone, Nat.mul_comm]

end StreamAudit.Census
