import StreamAudit.Tally

/-!
# Laws of tallies

What each operation does to the counts and to the keys. The keys ascend, each
stands once, and a tally is determined by its keys and its counts.
-/

namespace StreamAudit.Tally

universe u

variable {α : Type u} [Ord α] [Std.TransOrd α]

theorem get_empty (key : α) : (empty : Tally α).get key = 0 := by
  simp [get, empty]

theorem keys_empty : (empty : Tally α).keys = [] := by
  simp [keys, empty]

theorem map_fst_entries (t : Tally α) : t.entries.map Prod.fst = t.keys :=
  Std.ExtTreeMap.map_fst_toList_eq_keys

theorem length_entries (t : Tally α) : t.entries.length = t.size :=
  Std.ExtTreeMap.length_toList

theorem pairwise_keys (t : Tally α) : t.keys.Pairwise fun a b => compare a b = .lt :=
  Std.ExtTreeMap.ordered_keys

theorem pairwise_entries (t : Tally α) :
    t.entries.Pairwise fun a b => compare a.1 b.1 = .lt :=
  Std.ExtTreeMap.ordered_keys_toList

section Lawful

variable [Std.LawfulEqOrd α]

theorem get_raiseTo [DecidableEq α] (t : Tally α) (key other : α) (n : Count) :
    (t.raiseTo key n).get other = if key = other then max (t.get key) n else t.get other := by
  simp only [get, raiseTo, Std.ExtTreeMap.getD_insert, Std.LawfulEqCmp.compare_eq_iff_eq]

theorem mem_keys_raiseTo (t : Tally α) (key other : α) (n : Count) :
    other ∈ (t.raiseTo key n).keys ↔ key = other ∨ other ∈ t.keys := by
  simp [keys, raiseTo, Std.ExtTreeMap.mem_keys, Std.ExtTreeMap.mem_insert]

/-- A count below its largest value is raised by one, and no other changes. -/
theorem get_of_increment [DecidableEq α] {t raised : Tally α} {key : α}
    (h : t.increment key = .ok raised) (other : α) :
    (raised.get other).toNat = (t.get other).toNat + if key = other then 1 else 0 := by
  unfold increment at h
  split at h
  · next n hn =>
    have hsum := (Count.add_eq_ok_iff _ _ _).mp hn
    rw [Except.ok.injEq] at h
    subst h
    simp only [get, Std.ExtTreeMap.getD_insert, Std.LawfulEqCmp.compare_eq_iff_eq]
    split
    · next heq =>
      subst heq
      simpa [get] using hsum
    · simp
  · simp at h

theorem mem_keys_of_increment {t raised : Tally α} {key : α}
    (h : t.increment key = .ok raised) (other : α) :
    other ∈ raised.keys ↔ key = other ∨ other ∈ t.keys := by
  unfold increment at h
  split at h
  · rw [Except.ok.injEq] at h
    subst h
    simp [keys, Std.ExtTreeMap.mem_keys, Std.ExtTreeMap.mem_insert]
  · simp at h

omit [Std.LawfulEqOrd α] in
/-- Only a count at its largest value cannot be raised. -/
theorem increment_eq_error_iff (t : Tally α) (key : α) (e : Overflow) :
    t.increment key = .error e ↔ (t.get key).toNat + 1 = UInt64.size := by
  have hlt := (t.get key).toNat_lt_size
  have hadd := Count.add_eq_error_iff (t.get key) 1 e
  have hone : (1 : Count).toNat = 1 := rfl
  rw [hone] at hadd
  unfold increment
  split
  · next n hn =>
    rw [hn] at hadd
    simp only [reduceCtorEq, false_iff] at hadd ⊢
    omega
  · next e' hn =>
    rw [hn, Except.error.injEq] at hadd
    rw [Except.error.injEq, hadd]
    omega

/-- Two tallies with the same keys and the same counts are equal. -/
theorem ext_get {t s : Tally α} (hkeys : ∀ key, key ∈ t.keys ↔ key ∈ s.keys)
    (hget : ∀ key, t.get key = s.get key) : t = s := by
  obtain ⟨t⟩ := t
  obtain ⟨s⟩ := s
  congr 1
  apply Std.ExtTreeMap.ext_getElem?
  intro key
  have hmem := hkeys key
  have hcount := hget key
  simp only [keys, Std.ExtTreeMap.mem_keys] at hmem
  simp only [get, Std.ExtTreeMap.getD_eq_getD_getElem?] at hcount
  by_cases h : key ∈ t
  · rw [Std.ExtTreeMap.getElem?_eq_some_getElem h,
      Std.ExtTreeMap.getElem?_eq_some_getElem (hmem.mp h)] at hcount ⊢
    simpa using hcount
  · rw [Std.ExtTreeMap.getElem?_eq_none h, Std.ExtTreeMap.getElem?_eq_none (mt hmem.mpr h)]

end Lawful

end StreamAudit.Tally
