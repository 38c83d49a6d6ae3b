import StreamAudit.Proofs.Tally

/-!
# Changes of a tally

The two changes that a tally knows, said by what they do to every key: one more
for a key, and at least a given count for a key. The count of any other key stays,
and no key but this one is new. A full count is the largest there is: no tally has
one more for its key.
-/

namespace StreamAudit

/-- No count is larger. -/
def Count.Full (n : Count) : Prop := n.toNat = 2 ^ 64 - 1

theorem Count.not_full_of_succ {a b : Count} (h : b.toNat = a.toNat + 1) : ¬ a.Full := by
  have hlt := b.toNat_lt
  rw [Full]
  omega

theorem Count.add_one_eq_ok_iff {a b : Count} :
    Count.add a 1 = .ok b ↔ b.toNat = a.toNat + 1 :=
  add_eq_ok_iff a 1 b

theorem Count.add_one_eq_error_iff {a : Count} {e : Overflow} :
    Count.add a 1 = .error e ↔ a.Full := by
  have hlt := a.toNat_lt_size
  have hone : (1 : Count).toNat = 1 := rfl
  have hsize : UInt64.size = 2 ^ 64 := rfl
  rw [add_eq_error_iff, Full, hone]
  omega

namespace Tally

universe u

variable {α : Type u} [Ord α] [Std.TransOrd α]

/-- The tally after has one more for the key, and is the same for all others. -/
structure OneMore [DecidableEq α] (t after : Tally α) (key : α) : Prop where
  get : ∀ other, (after.get other).toNat = (t.get other).toNat + if key = other then 1 else 0
  mem_keys : ∀ other, other ∈ after.keys ↔ key = other ∨ other ∈ t.keys

/-- The tally after has at least the given count for the key, and is the same
for all others. -/
structure AtLeast [DecidableEq α] (t after : Tally α) (key : α) (n : Count) : Prop where
  get : ∀ other, (after.get other).toNat =
    if key = other then max (t.get other).toNat n.toNat else (t.get other).toNat
  mem_keys : ∀ other, other ∈ after.keys ↔ key = other ∨ other ∈ t.keys

theorem increment_eq_error_iff_full {t : Tally α} {key : α} {e : Overflow} :
    t.increment key = .error e ↔ (t.get key).Full := by
  have hsize : UInt64.size = 2 ^ 64 := rfl
  rw [increment_eq_error_iff, Count.Full]
  omega

variable [Std.LawfulEqOrd α] [DecidableEq α]

theorem increment_eq_ok_iff {t after : Tally α} {key : α} :
    t.increment key = .ok after ↔ t.OneMore after key := by
  constructor
  · intro h
    exact ⟨get_of_increment h, mem_keys_of_increment h⟩
  · intro h
    -- a word holds the count after, so there was room for one more
    have hroom : (t.get key).toNat + 1 < UInt64.size := by
      have hlt := (after.get key).toNat_lt_size
      rwa [h.get, if_pos rfl] at hlt
    obtain ⟨raised, hraised⟩ := exists_increment hroom
    have heq : raised = after := by
      apply ext_toNat
      · intro other
        rw [mem_keys_of_increment hraised, h.mem_keys]
      · intro other
        rw [get_of_increment hraised, h.get]
    rw [hraised, heq]

omit [Std.LawfulEqOrd α] in
theorem OneMore.not_full {t after : Tally α} {key : α} (h : t.OneMore after key) :
    ¬ (t.get key).Full :=
  Count.not_full_of_succ (by rw [h.get, if_pos rfl])

theorem eq_raiseTo_iff {t after : Tally α} {key : α} {n : Count} :
    after = t.raiseTo key n ↔ t.AtLeast after key n := by
  constructor
  · rintro rfl
    exact ⟨fun other => toNat_get_raiseTo t key other n,
      fun other => mem_keys_raiseTo t key other n⟩
  · intro h
    apply ext_toNat
    · intro other
      rw [h.mem_keys, mem_keys_raiseTo]
    · intro other
      rw [h.get, toNat_get_raiseTo]

end Tally

end StreamAudit
