import Mathlib.Algebra.BigOperators.Group.Finset.Basic
import Mathlib.Algebra.Ring.Nat
import Mathlib.Data.List.Sort
import StreamAudit.Tally.Lemmas

/-!
# Listings and totals of tallies

The entries of a tally are its keys with their counts, so every statement about
a listing is one about the counts. The total is the exact sum of the listing
when a word holds it, and an overflow otherwise; no partial sum can fail first.
-/

namespace StreamAudit

theorem Count.toNat_max (a b : Count) : (max a b).toNat = max a.toNat b.toNat := by
  simp only [max]
  split
  · next h => exact (Nat.max_eq_right (UInt64.le_iff_toNat_le.mp h)).symm
  · next h => exact (Nat.max_eq_left (by rw [UInt64.le_iff_toNat_le] at h; omega)).symm

namespace Tally

universe u

variable {α : Type u} [Ord α] [Std.TransOrd α]

theorem entries_eq_map_keys [Std.LawfulEqOrd α] (t : Tally α) :
    t.entries = t.keys.map fun key => (key, t.get key) := by
  rw [← map_fst_entries, List.map_map]
  refine (List.map_id t.entries).symm.trans (List.map_congr_left ?_)
  rintro ⟨key, n⟩ hmem
  have hn : t.counts[key]? = some n :=
    Std.ExtTreeMap.mem_toList_iff_getElem?_eq_some.mp hmem
  simp [get, Std.ExtTreeMap.getD_eq_getD_getElem?, hn]

theorem nodup_keys (t : Tally α) : t.keys.Nodup :=
  Std.ExtTreeMap.nodup_keys

/-- Equality of tallies, with the counts compared as natural numbers. -/
theorem ext_toNat [Std.LawfulEqOrd α] {t s : Tally α} (hkeys : ∀ key, key ∈ t.keys ↔ key ∈ s.keys)
    (hget : ∀ key, (t.get key).toNat = (s.get key).toNat) : t = s :=
  ext_get hkeys fun key => UInt64.toNat_inj.mp (hget key)

theorem exists_increment {t : Tally α} {key : α} (h : (t.get key).toNat + 1 < UInt64.size) :
    ∃ raised, t.increment key = .ok raised := by
  cases hinc : t.increment key with
  | ok raised => exact ⟨raised, rfl⟩
  | error e =>
    have hfull := (increment_eq_error_iff t key e).mp hinc
    omega

theorem toNat_get_raiseTo [Std.LawfulEqOrd α] [DecidableEq α] (t : Tally α) (key other : α)
    (n : Count) : ((t.raiseTo key n).get other).toNat =
      if key = other then max (t.get other).toNat n.toNat else (t.get other).toNat := by
  rw [get_raiseTo]
  split
  · next h => rw [Count.toNat_max, h]
  · rfl

/-! ## Keys whose count is not the expected one -/

/-- The keys told of whose count is not the expected one, as they are listed. -/
def differing (t : Tally α) (expected : α → Count) : List α :=
  t.keys.filter fun key => t.get key ≠ expected key

theorem differing_eq_nil_iff {t : Tally α} {expected : α → Count} :
    t.differing expected = [] ↔ ∀ key ∈ t.keys, t.get key = expected key := by
  simp [differing]

/-- In strictly ascending order, the keys told of whose count is not the expected one. -/
structure Differ [LT α] (t : Tally α) (expected : α → Count) (keys : List α) : Prop where
  ascending : keys.Pairwise (· < ·)
  mem_iff : ∀ key, key ∈ keys ↔ key ∈ t.keys ∧ t.get key ≠ expected key

/-- There is one such list when keys are listed in ascending order. -/
theorem differ_iff [LT α] [Std.Antisymm (LT.lt : α → α → Prop)]
    [Std.Irrefl (LT.lt : α → α → Prop)]
    {t : Tally α} (hkeys : t.keys.Pairwise (· < ·)) {expected : α → Count} {keys : List α} :
    t.Differ expected keys ↔ keys = t.differing expected := by
  have hmem : ∀ key, key ∈ t.differing expected ↔ key ∈ t.keys ∧ t.get key ≠ expected key := by
    intro key
    rw [differing, List.mem_filter, decide_eq_true_eq]
  constructor
  · intro h
    apply h.ascending.eq_of_mem_iff (hkeys.filter _)
    intro key
    rw [h.mem_iff, ← hmem, differing]
  · rintro rfl
    exact ⟨hkeys.filter _, hmem⟩

/-- What is told of every entry with another count than expected is told of the
differing keys. -/
theorem filterMap_entries_eq_map_differing [Std.LawfulEqOrd α] {β : Type*} (t : Tally α)
    (expected : α → Count) (tell : α → Count → β) :
    t.entries.filterMap (fun (key, n) => if n = expected key then none else some (tell key n)) =
      (t.differing expected).map fun key => tell key (t.get key) := by
  rw [entries_eq_map_keys, List.filterMap_map, differing, ← List.filterMap_eq_map,
    List.filterMap_filter]
  apply List.filterMap_congr
  intro key _
  by_cases heq : t.get key = expected key
  · simp [heq]
  · simp [heq]

/-! ## Totals -/

omit [Ord α] [Std.TransOrd α] in
/-- A checked sum over a list is the exact sum. The sum so far is never more
than the final one, so the final one alone decides whether a word holds it. -/
theorem foldlM_add_eq_ok_iff (entries : List (α × Count)) (start n : Count) :
    entries.foldlM (fun sum entry => Count.add sum entry.2) start = .ok n ↔
      n.toNat = start.toNat + (entries.map (·.2.toNat)).sum := by
  induction entries generalizing start with
  | nil =>
    simp only [List.foldlM_nil, List.map_nil, List.sum_nil, Nat.add_zero]
    rw [show (pure start : Except Overflow Count) = .ok start from rfl, Except.ok.injEq]
    constructor
    · intro h
      rw [h]
    · intro h
      exact (UInt64.toNat_inj.mp h).symm
  | cons entry rest ih =>
    rw [List.foldlM_cons, List.map_cons, List.sum_cons, ← Nat.add_assoc]
    cases hadd : Count.add start entry.2 with
    | ok m =>
      have hm := (Count.add_eq_ok_iff _ _ _).mp hadd
      rw [← hm]
      exact ih m
    | error e =>
      have hfull := (Count.add_eq_error_iff _ _ _).mp hadd
      have hn := n.toNat_lt_size
      constructor
      · intro h
        cases h
      · intro h
        omega

theorem total_eq_ok_iff (t : Tally α) (n : Count) :
    t.total = .ok n ↔ n.toNat = (t.entries.map (·.2.toNat)).sum := by
  rw [total, foldlM_add_eq_ok_iff]
  simp

/-- Only a sum that no word holds overflows, whatever the order of its summands. -/
theorem total_eq_error_iff (t : Tally α) (e : Overflow) :
    t.total = .error e ↔ UInt64.size ≤ (t.entries.map (·.2.toNat)).sum := by
  constructor
  · intro h
    by_contra hlt
    have hok := (total_eq_ok_iff t (UInt64.ofNatLT _ (Nat.lt_of_not_le hlt))).mpr
      UInt64.toNat_ofNatLT
    rw [h] at hok
    cases hok
  · intro hfull
    cases htotal : t.total with
    | error e' => cases e; cases e'; rfl
    | ok n =>
      have hsum := (total_eq_ok_iff t n).mp htotal
      have hn := n.toNat_lt_size
      omega

/-- A tally that counts how often each element stands in a list sums to the
length of the list. -/
theorem sum_entries_eq_length [Std.LawfulEqOrd α] [DecidableEq α] {t : Tally α} {xs : List α}
    (hkeys : ∀ key, key ∈ t.keys ↔ key ∈ xs)
    (hget : ∀ key, (t.get key).toNat = xs.count key) :
    (t.entries.map (·.2.toNat)).sum = xs.length := by
  have hsame : t.keys.toFinset = xs.toFinset := by
    ext key
    rw [List.mem_toFinset, List.mem_toFinset, hkeys]
  calc (t.entries.map (·.2.toNat)).sum
      = (t.keys.map fun key => xs.count key).sum := by
        rw [entries_eq_map_keys, List.map_map]
        simp only [Function.comp_def, hget]
    _ = ∑ key ∈ xs.toFinset, xs.count key := by
        rw [← hsame, List.sum_toFinset _ t.nodup_keys]
    _ = xs.length := List.sum_toFinset_count_eq_length xs

end Tally

end StreamAudit
