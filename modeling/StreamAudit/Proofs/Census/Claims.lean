import StreamAudit.Proofs.Census

/-!
# The claims of an operator

Each record claims a count for its operator. An honest operator with `n` records
claims 1 to `n`, in any order and with other operators between. Of the claims the
census keeps only the highest, so a single wrong claim shows when it exceeds `n`
or when it stands for `n` itself, and is masked by the others when it does not.
-/

namespace StreamAudit.Census

/-- The counts that an operator claims, in the order of its records. -/
def claims (records : List Record) (operator : String) : List Nat :=
  (records.filter (·.operator = operator)).map (·.operatorCount.toNat)

/-- Every operator claims the counts from 1 to the number of its records, each in
one of them. -/
def Honest (records : List Record) : Prop :=
  ∀ operator, (claims records operator).Perm (List.range' 1 (lines records operator))

/-- Operators without records claim nothing, so those with records decide. -/
instance (records : List Record) : Decidable (Honest records) :=
  decidable_of_iff
    (∀ r ∈ records,
      (claims records r.operator).Perm (List.range' 1 (lines records r.operator))) (by
    constructor
    · intro h operator
      by_cases hmem : ∃ r ∈ records, r.operator = operator
      · obtain ⟨r, hr, rfl⟩ := hmem
        exact h r hr
      · have hzero : lines records operator = 0 := Nat.eq_zero_of_not_pos (mt lines_pos_iff.mp hmem)
        have hnone : claims records operator = [] := by
          rw [claims, List.map_eq_nil_iff, List.filter_eq_nil_iff]
          intro r hr hoperator
          exact hmem ⟨r, hr, by simpa using hoperator⟩
        rw [hzero, hnone]
        exact .nil
    · intro h r _
      exact h r.operator)

/-- The highest claim of an honest operator with so many records after one of its
claims is replaced. -/
def claimAfter (lines replaced replacement : Nat) : Nat :=
  if replaced = lines then max replacement (lines - 1) else max replacement lines

/-! ## The highest of some claims -/

theorem highest_insert (before after : List Nat) (a : Nat) :
    highest (before ++ a :: after) = max a (highest (before ++ after)) := by
  have hlast : (before ++ a :: after).Perm ((before ++ after) ++ [a]) :=
    List.perm_middle.trans (List.perm_append_singleton a _).symm
  rw [highest_perm hlast, highest_append_singleton, max_comm]

theorem highest_range' (n : Nat) : highest (List.range' 1 n) = n := by
  apply eq_of_forall_ge_iff
  intro bound
  simp only [highest_le_iff, List.mem_range'_1]
  constructor
  · intro h
    by_cases hn : n = 0
    · omega
    · exact h n ⟨by omega, by omega⟩
  · intro h a ha
    omega

/-- Without one of them, the numbers from 1 to `n` reach as far as before, unless
that one was the last. -/
theorem highest_of_perm_range' {before after : List Nat} {n c : Nat}
    (h : (before ++ c :: after).Perm (List.range' 1 n)) :
    highest (before ++ after) = if c = n then n - 1 else n := by
  have hmem : ∀ a, a ∈ before ++ after ↔ a ≠ c ∧ 1 ≤ a ∧ a ≤ n := by
    intro a
    have hcons : (c :: (before ++ after)).Perm (List.range' 1 n) := List.perm_middle.symm.trans h
    have hnodup := hcons.nodup_iff.mpr List.nodup_range'
    have hin := hcons.mem_iff (a := a)
    rw [List.mem_cons, List.mem_range'_1] at hin
    constructor
    · intro ha
      have hne : a ≠ c := fun heq => (List.nodup_cons.mp hnodup).1 (heq ▸ ha)
      have hrange := hin.mp (.inr ha)
      exact ⟨hne, hrange.1, by omega⟩
    · intro ha
      exact (hin.mpr ⟨ha.2.1, by omega⟩).resolve_left ha.1
  have hc : 1 ≤ c ∧ c < 1 + n := List.mem_range'_1.mp (h.mem_iff.mp (by simp))
  apply eq_of_forall_ge_iff
  intro bound
  simp only [highest_le_iff, hmem]
  constructor
  · intro hall
    split
    · next hlast =>
      by_cases hone : n = 1
      · omega
      · exact hall (n - 1) ⟨by omega, by omega, by omega⟩
    · next hlast => exact hall n ⟨fun heq => hlast heq.symm, by omega, le_rfl⟩
  · intro hbound a ha
    split at hbound <;> omega

/-! ## Honest records -/

theorem Honest.highestClaim {records : List Record} (h : Honest records) (operator : String) :
    highestClaim records operator = lines records operator :=
  (highest_perm (h operator)).trans (highest_range' _)

section Replaced

variable (before after : List Record) (r : Record) (count : Count)

theorem claims_insert (operator : String) :
    claims (before ++ r :: after) operator =
      if r.operator = operator then
        claims before operator ++ r.operatorCount.toNat :: claims after operator
      else claims before operator ++ claims after operator := by
  split
  · next h => simp [claims, h]
  · next h => simp [claims, h]

theorem lines_replaced (operator : String) :
    lines (before ++ { r with operatorCount := count } :: after) operator =
      lines (before ++ r :: after) operator := by
  simp [lines, List.countP_append, List.countP_cons]

theorem highestClaim_replaced_of_ne {operator : String} (hne : r.operator ≠ operator) :
    highestClaim (before ++ { r with operatorCount := count } :: after) operator =
      highestClaim (before ++ r :: after) operator := by
  show highest (claims _ operator) = highest (claims _ operator)
  rw [claims_insert, if_neg hne, claims_insert, if_neg hne]

variable {before after r}

/-- One claim of an operator is replaced in honest records. -/
theorem Honest.highestClaim_replaced (h : Honest (before ++ r :: after)) :
    Census.highestClaim (before ++ { r with operatorCount := count } :: after) r.operator =
      claimAfter (lines (before ++ r :: after) r.operator) r.operatorCount.toNat count.toNat := by
  have hclaims := h r.operator
  rw [claims_insert, if_pos rfl] at hclaims
  show highest (claims _ r.operator) = _
  rw [claims_insert, if_pos rfl, highest_insert, highest_of_perm_range' hclaims, claimAfter]
  split <;> rfl

end Replaced

end StreamAudit.Census
