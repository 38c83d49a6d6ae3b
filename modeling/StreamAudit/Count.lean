/-!
# Counts

Counts are words of 64 bits, and addition is checked: a sum that no word holds
is an error, never a smaller number. A checked sum therefore is the exact sum
of the natural numbers that the words stand for.
-/

namespace StreamAudit

/-- A number of lines, or a number read from a line. -/
abbrev Count := UInt64

/-- A sum that no word holds. -/
inductive Overflow where
  | addition
  deriving DecidableEq, Repr

def Overflow.message : Overflow → String
  | .addition => "attempt to add with overflow"

/-- The exact sum of two counts, when a word holds it. -/
def Count.add (a b : Count) : Except Overflow Count :=
  if a.toNat + b.toNat < UInt64.size then .ok (a + b) else .error .addition

namespace Count

theorem add_eq_ok_iff (a b c : Count) : add a b = .ok c ↔ c.toNat = a.toNat + b.toNat := by
  have hc := c.toNat_lt
  unfold add
  split
  · next h =>
    have hsum : (a + b).toNat = a.toNat + b.toNat := by
      rw [UInt64.toNat_add]
      exact Nat.mod_eq_of_lt h
    rw [Except.ok.injEq]
    constructor
    · rintro rfl
      exact hsum
    · intro heq
      exact UInt64.toNat_inj.mp (by omega)
  · next h =>
    have hsize : UInt64.size = 2 ^ 64 := rfl
    simp only [reduceCtorEq, false_iff]
    omega

theorem add_eq_error_iff (a b : Count) (e : Overflow) :
    add a b = .error e ↔ UInt64.size ≤ a.toNat + b.toNat := by
  cases e
  unfold add
  split <;> simp <;> omega

end Count

end StreamAudit
