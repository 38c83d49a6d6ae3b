import Mathlib.Algebra.BigOperators.Group.Finset.Basic
import StreamAudit.Record

/-!
# The census of a list of records

The numbers that an audit compares, counted from the list itself. A census sees
neither timestamps nor the order of the records. It makes no use of a ledger,
and nothing here claims that a ledger agrees with it.
-/

namespace StreamAudit

/-- All that a census sees of a record. -/
def Record.triple (r : Record) : Count × String × Count :=
  (r.sequenceNumber, r.operator, r.operatorCount)

namespace Census

def lines (records : List Record) (operator : String) : Nat :=
  records.countP (·.operator = operator)

def receipts (records : List Record) (number : Nat) : Nat :=
  records.countP (·.sequenceNumber.toNat = number)

/-- The largest of some numbers, 0 when there are none. -/
def highest (numbers : List Nat) : Nat :=
  numbers.max?.getD 0

/-- The highest count that an operator claims, 0 for an operator without records. -/
def highestClaim (records : List Record) (operator : String) : Nat :=
  highest ((records.filter (·.operator = operator)).map (·.operatorCount.toNat))

/-- The highest sequence number, 0 when there are no records. -/
def highestNumber (records : List Record) : Nat :=
  highest (records.map (·.sequenceNumber.toNat))

/-! ## The largest of some numbers -/

@[simp] theorem highest_nil : highest [] = 0 := rfl

theorem highest_le_iff {numbers : List Nat} {n : Nat} :
    highest numbers ≤ n ↔ ∀ a ∈ numbers, a ≤ n := by
  cases h : numbers.max? with
  | none =>
    rw [List.max?_eq_none_iff] at h
    simp [h]
  | some m =>
    rw [highest, h, Option.getD_some]
    exact List.max?_le_iff h

theorem le_highest {numbers : List Nat} {a : Nat} (h : a ∈ numbers) : a ≤ highest numbers :=
  highest_le_iff.mp le_rfl a h

theorem highest_mem {numbers : List Nat} (hne : numbers ≠ []) : highest numbers ∈ numbers := by
  cases h : numbers.max? with
  | none => exact absurd (List.max?_eq_none_iff.mp h) hne
  | some m =>
    rw [highest, h, Option.getD_some]
    exact List.max?_mem h

theorem highest_append_singleton (numbers : List Nat) (a : Nat) :
    highest (numbers ++ [a]) = max (highest numbers) a := by
  apply eq_of_forall_ge_iff
  intro n
  simp only [highest_le_iff, max_le_iff, List.mem_append, List.mem_singleton]
  constructor
  · intro h
    exact ⟨fun b hb => h b (.inl hb), h a (.inr rfl)⟩
  · intro h b hb
    obtain ⟨hall, ha⟩ := h
    rcases hb with hb | hb
    · exact hall b hb
    · exact hb ▸ ha

theorem highest_perm {xs ys : List Nat} (h : xs.Perm ys) : highest xs = highest ys := by
  apply eq_of_forall_ge_iff
  intro n
  simp only [highest_le_iff, h.mem_iff]

/-! ## One more record -/

theorem lines_append_singleton (records : List Record) (r : Record) (operator : String) :
    lines (records ++ [r]) operator =
      lines records operator + if r.operator = operator then 1 else 0 := by
  simp [lines, List.countP_singleton]

theorem receipts_append_singleton (records : List Record) (r : Record) (number : Nat) :
    receipts (records ++ [r]) number =
      receipts records number + if r.sequenceNumber.toNat = number then 1 else 0 := by
  simp [receipts, List.countP_singleton]

theorem highestClaim_append_singleton (records : List Record) (r : Record) (operator : String) :
    highestClaim (records ++ [r]) operator =
      if r.operator = operator then max (highestClaim records operator) r.operatorCount.toNat
      else highestClaim records operator := by
  unfold highestClaim
  split
  · next h => simp [List.filter_append, h, highest_append_singleton]
  · next h => simp [List.filter_append, h]

theorem highestNumber_append_singleton (records : List Record) (r : Record) :
    highestNumber (records ++ [r]) = max (highestNumber records) r.sequenceNumber.toNat := by
  simp [highestNumber, highest_append_singleton]

/-! ## Bounds and presence -/

theorem lines_le_length (records : List Record) (operator : String) :
    lines records operator ≤ records.length :=
  List.countP_le_length

theorem receipts_le_length (records : List Record) (number : Nat) :
    receipts records number ≤ records.length :=
  List.countP_le_length

theorem lines_pos_iff {records : List Record} {operator : String} :
    0 < lines records operator ↔ ∃ r ∈ records, r.operator = operator := by
  simp [lines, List.countP_pos_iff]

theorem receipts_pos_iff {records : List Record} {number : Nat} :
    0 < receipts records number ↔ ∃ r ∈ records, r.sequenceNumber.toNat = number := by
  simp [receipts, List.countP_pos_iff]

theorem receipts_eq_zero_iff {records : List Record} {number : Nat} :
    receipts records number = 0 ↔ ∀ r ∈ records, r.sequenceNumber.toNat ≠ number := by
  simp [receipts, List.countP_eq_zero]

theorem le_highestNumber {records : List Record} {r : Record} (h : r ∈ records) :
    r.sequenceNumber.toNat ≤ highestNumber records :=
  le_highest (List.mem_map_of_mem h)

theorem exists_highestNumber {records : List Record} (hne : records ≠ []) :
    ∃ r ∈ records, r.sequenceNumber.toNat = highestNumber records := by
  have hnumbers : records.map (·.sequenceNumber.toNat) ≠ [] := by simpa using hne
  exact List.mem_map.mp (highest_mem hnumbers)

/-! ## Records with the same triples -/

section Perm

variable {xs ys : List Record} (h : (xs.map Record.triple).Perm (ys.map Record.triple))
include h

/-- A test that looks at the triple alone holds of as many records. -/
theorem countP_triple_perm (p : Count × String × Count → Bool) :
    xs.countP (fun r => p r.triple) = ys.countP (fun r => p r.triple) := by
  have hcount := h.countP_eq p
  rwa [List.countP_map, List.countP_map] at hcount

theorem exists_triple_perm (p : Count × String × Count → Prop) :
    (∃ r ∈ xs, p r.triple) ↔ ∃ r ∈ ys, p r.triple := by
  have hmem := fun t => h.mem_iff (a := t)
  constructor
  · intro hx
    obtain ⟨r, hr, hp⟩ := hx
    obtain ⟨r', hr', heq⟩ := List.mem_map.mp ((hmem _).mp (List.mem_map_of_mem hr))
    exact ⟨r', hr', heq ▸ hp⟩
  · intro hy
    obtain ⟨r, hr, hp⟩ := hy
    obtain ⟨r', hr', heq⟩ := List.mem_map.mp ((hmem _).mpr (List.mem_map_of_mem hr))
    exact ⟨r', hr', heq ▸ hp⟩

theorem length_perm : xs.length = ys.length := by
  simpa using h.length_eq

theorem lines_perm (operator : String) : lines xs operator = lines ys operator :=
  countP_triple_perm h fun t => t.2.1 = operator

theorem receipts_perm (number : Nat) : receipts xs number = receipts ys number :=
  countP_triple_perm h fun t => t.1.toNat = number

theorem highestClaim_perm (operator : String) :
    highestClaim xs operator = highestClaim ys operator := by
  have hclaims := (h.filter (fun t => t.2.1 = operator)).map fun t => t.2.2.toNat
  rw [List.filter_map, List.filter_map, List.map_map, List.map_map] at hclaims
  exact highest_perm hclaims

theorem highestNumber_perm : highestNumber xs = highestNumber ys := by
  have hnumbers := h.map fun t => t.1.toNat
  rw [List.map_map, List.map_map] at hnumbers
  exact highest_perm hnumbers

end Perm

end Census

end StreamAudit
