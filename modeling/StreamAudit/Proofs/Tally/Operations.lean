import StreamAudit.Proofs.Tally.Changes

/-!
# Operations on a tally

Everything that a tally can be asked for, with what it gives and the tally that is
left. An operation tells the tally of one key at most. It recounts this key and no
other, and an operation that tells of none leaves the tally as it was. An increment
of a full count is the one change that is interrupted, and it leaves no trace: a
full count is never that of a new key.
-/

namespace StreamAudit.Tally

universe u

/-- What a tally can be asked for. -/
inductive Operation (α : Type u) where
  | increment (key : α)
  | raiseTo (key : α) (n : Count)
  | get (key : α)
  | entries
  | keys
  | total
  | size
  | isEmpty

/-- What it gives. -/
inductive Answer (α : Type u) where
  | done
  | count (n : Count)
  | entries (entries : List (α × Count))
  | keys (keys : List α)
  | size (n : Nat)
  | isEmpty (empty : Bool)

namespace Operation

variable {α : Type u}

/-- The key that a tally is told of by the operation. -/
def toldOf? : Operation α → Option α
  | .increment key => some key
  | .raiseTo key _ => some key
  | .get _ | .entries | .keys | .total | .size | .isEmpty => none

/-- What becomes of the count of the key that the operation tells of. A full count
has no successor and stays. -/
def recount (n : Nat) : Operation α → Nat
  | .increment _ => if n = 2 ^ 64 - 1 then n else n + 1
  | .raiseTo _ m => max n m.toNat
  | .get _ | .entries | .keys | .total | .size | .isEmpty => n

end Operation

section Step

variable {α : Type u} [Ord α] [Std.TransOrd α]

/-- What the operation gives, and the tally that it leaves. The key of an increment
has its place in the tally before one is added to its count, and keeps it when this
is interrupted. -/
def perform (t : Tally α) : Operation α → Except Overflow (Answer α) × Tally α
  | .increment key =>
    match t.increment key with
    | .ok raised => (.ok .done, raised)
    | .error e => (.error e, t.raiseTo key 0)
  | .raiseTo key n => (.ok .done, t.raiseTo key n)
  | .get key => (.ok (.count (t.get key)), t)
  | .entries => (.ok (.entries t.entries), t)
  | .keys => (.ok (.keys t.keys), t)
  | .total => (t.total.map .count, t)
  | .size => (.ok (.size t.size), t)
  | .isEmpty => (.ok (.isEmpty t.isEmpty), t)

variable {t : Tally α} {op : Operation α}

theorem perform_increment_of_ok {key : α} {raised : Tally α}
    (h : t.increment key = .ok raised) : t.perform (.increment key) = (.ok .done, raised) := by
  simp only [perform, h]

theorem perform_of_toldOf?_eq_none (h : op.toldOf? = none) : (t.perform op).2 = t := by
  cases op with
  | increment key => cases h
  | raiseTo key n => cases h
  | get | entries | keys | total | size | isEmpty => rfl

variable [Std.LawfulEqOrd α]

theorem get_of_not_mem {key : α} (h : key ∉ t.keys) : t.get key = 0 := by
  rw [keys, Std.ExtTreeMap.mem_keys] at h
  exact Std.ExtTreeMap.getD_eq_fallback h

theorem mem_keys_perform (t : Tally α) (op : Operation α) (other : α) :
    other ∈ (t.perform op).2.keys ↔ op.toldOf? = some other ∨ other ∈ t.keys := by
  cases op with
  | increment key =>
    simp only [Operation.toldOf?, Option.some.injEq]
    cases hinc : t.increment key with
    | ok raised =>
      rw [perform_increment_of_ok hinc]
      exact mem_keys_of_increment hinc other
    | error e =>
      simp only [perform, hinc]
      exact mem_keys_raiseTo t key other 0
  | raiseTo key n =>
    simp only [Operation.toldOf?, Option.some.injEq]
    exact mem_keys_raiseTo t key other n
  | get | entries | keys | total | size | isEmpty => simp [perform, Operation.toldOf?]

variable [DecidableEq α]

/-- A full count is above zero, so its key was told of before. -/
theorem raiseTo_zero_of_full {key : α} (h : (t.get key).Full) : t.raiseTo key 0 = t := by
  have hmem : key ∈ t.keys := by
    by_contra hnot
    rw [get_of_not_mem hnot] at h
    cases h
  refine (eq_raiseTo_iff.mpr ⟨?_, ?_⟩).symm
  · intro other
    split <;> simp
  · intro other
    constructor
    · exact .inr
    · rintro (rfl | hother)
      · exact hmem
      · exact hother

/-- What is interrupted leaves no trace. -/
theorem perform_increment_of_error {key : α} {e : Overflow} (h : t.increment key = .error e) :
    t.perform (.increment key) = (.error e, t) := by
  simp only [perform, h]
  rw [raiseTo_zero_of_full (increment_eq_error_iff_full.mp h)]

theorem perform_of_error {e : Overflow} (h : (t.perform op).1 = .error e) :
    (t.perform op).2 = t := by
  cases op with
  | increment key =>
    cases hinc : t.increment key with
    | ok raised =>
      rw [perform_increment_of_ok hinc] at h
      cases h
    | error e' => rw [perform_increment_of_error hinc]
  | raiseTo key n => cases h
  | get | entries | keys | total | size | isEmpty => rfl

/-- An operation recounts the key that it tells of, and no other. -/
theorem toNat_get_perform (t : Tally α) (op : Operation α) (other : α) :
    ((t.perform op).2.get other).toNat =
      if op.toldOf? = some other then op.recount (t.get other).toNat
      else (t.get other).toNat := by
  cases op with
  | increment key =>
    simp only [Operation.toldOf?, Operation.recount, Option.some.injEq]
    cases hinc : t.increment key with
    | ok raised =>
      have hmore := increment_eq_ok_iff.mp hinc
      have hroom : (t.get key).toNat ≠ 2 ^ 64 - 1 := hmore.not_full
      rw [perform_increment_of_ok hinc, hmore.get]
      by_cases heq : key = other
      · subst heq
        rw [if_pos rfl, if_pos rfl, if_neg hroom]
      · rw [if_neg heq, if_neg heq, Nat.add_zero]
    | error e =>
      have hfull : (t.get key).toNat = 2 ^ 64 - 1 := increment_eq_error_iff_full.mp hinc
      rw [perform_increment_of_error hinc]
      by_cases heq : key = other
      · subst heq
        rw [if_pos rfl, if_pos hfull]
      · rw [if_neg heq]
  | raiseTo key n =>
    simp only [Operation.toldOf?, Operation.recount, Option.some.injEq]
    exact toNat_get_raiseTo t key other n
  | get | entries | keys | total | size | isEmpty => rfl

end Step

end StreamAudit.Tally
