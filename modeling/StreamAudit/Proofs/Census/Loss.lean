import Mathlib.Data.Nat.Find
import Mathlib.Order.Bounds.Basic
import StreamAudit.Proofs.Census.Coverage

/-!
# The census after a loss

Records that cover a range evenly are split into those that are kept and those
that are lost, in whatever way. Of a number lost from every source nothing
remains, so the losses at the end of the range lower its last number, and only
those below it can be told from the census of what was kept.
-/

namespace StreamAudit.Census

theorem receipts_add_receipts {records kept lost : List Record}
    (hsplit : records.Perm (kept ++ lost)) (number : Nat) :
    receipts kept number + receipts lost number = receipts records number := by
  rw [receipts, receipts, receipts, hsplit.countP_eq, List.countP_append]

/-- The last number that was not lost from every source. -/
def IsLastKept (lost : List Record) (sources last top : Nat) : Prop :=
  IsGreatest {number | number ≤ last ∧ receipts lost number < sources} top

theorem exists_isLastKept {lost : List Record} {sources last number : Nat}
    (hnumber : number ≤ last) (hlost : receipts lost number < sources) :
    ∃ top, IsLastKept lost sources last top := by
  refine ⟨Nat.findGreatest (fun n => receipts lost n < sources) last, ⟨?_, ?_⟩, ?_⟩
  · exact Nat.findGreatest_le last
  · exact Nat.findGreatest_spec (P := fun n => receipts lost n < sources) hnumber hlost
  · intro n hn
    exact Nat.le_findGreatest hn.1 hn.2

section Loss

variable {records kept lost : List Record} {sources last : Nat}
  (hcovers : Covers records sources last) (hsplit : records.Perm (kept ++ lost))
include hcovers hsplit

theorem receipts_kept {number : Nat} (hnumber : number ≤ last) :
    receipts kept number = sources - receipts lost number := by
  have hadd := receipts_add_receipts hsplit number
  rw [hcovers.received number hnumber] at hadd
  omega

theorem receipts_lost_le {number : Nat} (hnumber : number ≤ last) :
    receipts lost number ≤ sources := by
  have hadd := receipts_add_receipts hsplit number
  rw [hcovers.received number hnumber] at hadd
  omega

theorem le_last_of_mem_kept {r : Record} (hr : r ∈ kept) : r.sequenceNumber.toNat ≤ last :=
  hcovers.le_last (hsplit.mem_iff.mpr (List.mem_append_left lost hr))

variable {top : Nat} (htop : IsLastKept lost sources last top)
include htop

theorem le_top_of_mem_kept {r : Record} (hr : r ∈ kept) : r.sequenceNumber.toNat ≤ top := by
  have hlast := le_last_of_mem_kept hcovers hsplit hr
  have hpos : 0 < receipts kept r.sequenceNumber.toNat := receipts_pos_iff.mpr ⟨r, hr, rfl⟩
  rw [receipts_kept hcovers hsplit hlast] at hpos
  exact htop.2 ⟨hlast, by omega⟩

theorem highestNumber_kept : highestNumber kept = top := by
  obtain ⟨htopLast, htopLost⟩ := htop.1
  apply Nat.le_antisymm
  · rw [highestNumber, highest_le_iff]
    intro a ha
    obtain ⟨r, hr, rfl⟩ := List.mem_map.mp ha
    exact le_top_of_mem_kept hcovers hsplit htop hr
  · have hpos : 0 < receipts kept top := by
      rw [receipts_kept hcovers hsplit htopLast]
      omega
    obtain ⟨r, hr, hnumber⟩ := receipts_pos_iff.mp hpos
    rw [← hnumber]
    exact le_highestNumber hr

/-- What is kept is as much as its own range asks for when nothing in this
range was lost. -/
theorem length_kept_eq_iff :
    kept.length = (top + 1) * sources ↔ ∀ number ≤ top, receipts lost number = 0 := by
  have htopLast : top ≤ last := htop.1.1
  have hmost : ∀ number ≤ top, receipts kept number ≤ sources := by
    intro number hnumber
    rw [receipts_kept hcovers hsplit (hnumber.trans htopLast)]
    omega
  rw [length_eq_mul_iff (fun r hr => le_top_of_mem_kept hcovers hsplit htop hr) hmost]
  apply forall_congr'
  intro number
  constructor
  · intro hkept hnumber
    have hnumberLast : number ≤ last := hnumber.trans htopLast
    have hle := receipts_lost_le hcovers hsplit hnumberLast
    have hkept' := hkept hnumber
    rw [receipts_kept hcovers hsplit hnumberLast] at hkept'
    omega
  · intro hlost hnumber
    rw [receipts_kept hcovers hsplit (hnumber.trans htopLast), hlost hnumber, Nat.sub_zero]

/-- Nothing up to the last number kept was lost exactly when the losses are all
records after it. -/
theorem lost_perm_filter_iff :
    lost.Perm (records.filter fun r => top < r.sequenceNumber.toNat) ↔
      ∀ number ≤ top, receipts lost number = 0 := by
  constructor
  · intro hperm number hnumber
    rw [receipts_eq_zero_iff]
    intro r hr
    have hmem := hperm.mem_iff.mp hr
    simp only [List.mem_filter, decide_eq_true_eq] at hmem
    omega
  · intro hnone
    have hkept : kept.filter (fun r => top < r.sequenceNumber.toNat) = [] := by
      rw [List.filter_eq_nil_iff]
      intro r hr
      have hle := le_top_of_mem_kept hcovers hsplit htop hr
      simpa using hle
    have hlost : lost.filter (fun r => top < r.sequenceNumber.toNat) = lost := by
      rw [List.filter_eq_self]
      intro r hr
      by_contra hle
      have hzero := hnone r.sequenceNumber.toNat (by simpa using hle)
      exact receipts_eq_zero_iff.mp hzero r hr rfl
    have hfilter := hsplit.filter fun r => top < r.sequenceNumber.toNat
    rw [List.filter_append, hkept, hlost, List.nil_append] at hfilter
    exact hfilter.symm

end Loss

end StreamAudit.Census
