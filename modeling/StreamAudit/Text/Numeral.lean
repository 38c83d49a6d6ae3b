/-!
# Decimal numerals

A numeral is one optional plus sign and at least one ASCII digit; leading zeros
are allowed. A count is read from a numeral whose value fits a word of 64 bits.
Numbers are written without sign and without leading zeros, and reading a
written count gives the count back.
-/

namespace StreamAudit.Text

/-- The digits of a numeral, without the one sign it may carry. -/
def unsigned : List Char → List Char
  | '+' :: digits => digits
  | digits => digits

/-- The value of a numeral; every other text has none. -/
def numeral? (text : List Char) : Option Nat :=
  let digits := unsigned text
  if digits ≠ [] ∧ digits.all Char.isDigit then
    some (Nat.ofDigitChars 10 digits 0)
  else
    none

/-- The count that a numeral names, when a word holds it. -/
def count? (text : List Char) : Option UInt64 :=
  match numeral? text with
  | none => none
  | some n => if h : n < UInt64.size then some (UInt64.ofNatLT n h) else none

def decimal (n : Nat) : List Char :=
  Nat.toDigits 10 n

theorem unsigned_of_isDigit {c : Char} {rest : List Char} (h : c.isDigit = true) :
    unsigned (c :: rest) = c :: rest := by
  have hne : c ≠ '+' := by
    rintro rfl
    simp at h
  unfold unsigned
  split
  · next heq => exact absurd (List.cons.inj heq).1 hne
  · rfl

theorem isDigit_of_mem_decimal {n : Nat} {c : Char} (h : c ∈ decimal n) :
    c.isDigit = true :=
  Nat.isDigit_of_mem_toDigits (by decide) (by decide) h

theorem decimal_ne_nil (n : Nat) : decimal n ≠ [] := by
  rw [decimal, Nat.toDigits_eq_if (by decide)]
  split <;> simp

theorem numeral?_decimal (n : Nat) : numeral? (decimal n) = some n := by
  have hdigits : unsigned (decimal n) = decimal n := by
    match h : decimal n with
    | [] => exact absurd h (decimal_ne_nil n)
    | c :: rest => exact unsigned_of_isDigit (isDigit_of_mem_decimal (n := n) (by simp [h]))
  have hall : (decimal n).all Char.isDigit = true :=
    List.all_eq_true.mpr fun c hc => isDigit_of_mem_decimal hc
  rw [numeral?, hdigits, if_pos ⟨decimal_ne_nil n, hall⟩, decimal, Nat.ofDigitChars_ten_toDigits]

theorem count?_decimal (n : UInt64) : count? (decimal n.toNat) = some n := by
  rw [count?, numeral?_decimal]
  simp [n.toNat_lt]

end StreamAudit.Text
