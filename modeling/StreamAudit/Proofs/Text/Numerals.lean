import Mathlib.Algebra.Group.Nat.Defs
import Mathlib.Data.List.Induction
import StreamAudit.Text.Numeral

/-!
# The grammar of numerals

A row of digits and the number that it spells, digit by digit from the left,
and the numerals made of such a row and at most one plus sign. A text has a
value when this grammar gives it one, and a count is read from it when the
value is below `2 ^ 64`. Leading zeros change neither. The numeral that is
written for a number has no sign and no leading zeros. Every numeral of the
number ends in it. Numbers are told apart by it, also at the end of a text, where
it begins behind the last character that is no digit.
-/

namespace StreamAudit.Text

/-- The digits spell the number in decimal. There is at least one of them. -/
inductive Spells : List Char → Nat → Prop
  | digit {d : Nat} : d < 10 → Spells [Nat.digitChar d] d
  | more {digits : List Char} {n d : Nat} :
      Spells digits n → d < 10 → Spells (digits ++ [Nat.digitChar d]) (10 * n + d)

/-- The text is a numeral with the value. -/
inductive IsNumeral : List Char → Nat → Prop
  | plain {digits : List Char} {n : Nat} : Spells digits n → IsNumeral digits n
  | signed {digits : List Char} {n : Nat} : Spells digits n → IsNumeral ('+' :: digits) n

theorem isDigit_iff_exists (c : Char) : c.isDigit = true ↔ ∃ d < 10, c = Nat.digitChar d := by
  constructor
  · intro h
    obtain ⟨hlow, hhigh⟩ := Char.isDigit_iff_toNat.mp h
    have hzero : '0'.toNat = 48 := rfl
    have hnine : '9'.toNat = 57 := rfl
    refine ⟨c.toNat - 48, by omega, Char.toNat_inj.mp ?_⟩
    rw [Nat.toNat_digitChar_of_lt_ten (by omega)]
    omega
  · rintro ⟨d, hd, rfl⟩
    rw [Nat.isDigit_digitChar, decide_eq_true_eq]
    exact hd

theorem ofDigitChars_append_digitChar (digits : List Char) {d : Nat} (h : d < 10) :
    Nat.ofDigitChars 10 (digits ++ [Nat.digitChar d]) 0 =
      10 * Nat.ofDigitChars 10 digits 0 + d := by
  rw [Nat.ofDigitChars_append, Nat.ofDigitChars_cons_digitChar_of_lt_ten h, Nat.ofDigitChars_nil]

/-- Read from the left, digits have the value that they spell. -/
theorem spells_iff {digits : List Char} {n : Nat} :
    Spells digits n ↔ (digits ≠ [] ∧ digits.all Char.isDigit = true) ∧
      Nat.ofDigitChars 10 digits 0 = n := by
  constructor
  · intro h
    induction h with
    | digit hd =>
      have hvalue := ofDigitChars_append_digitChar [] hd
      exact ⟨by simp [(isDigit_iff_exists _).mpr ⟨_, hd, rfl⟩], by simpa using hvalue⟩
    | more hdigits hd ih =>
      obtain ⟨⟨_, hall⟩, hvalue⟩ := ih
      refine ⟨⟨by simp, ?_⟩, by rw [ofDigitChars_append_digitChar _ hd, hvalue]⟩
      rw [List.all_append, hall]
      simp [(isDigit_iff_exists _).mpr ⟨_, hd, rfl⟩]
  · rintro ⟨⟨hne, hall⟩, rfl⟩
    induction digits using List.reverseRecOn with
    | nil => exact absurd rfl hne
    | append_singleton front c ih =>
      simp only [List.all_append, List.all_cons, List.all_nil, Bool.and_true,
        Bool.and_eq_true] at hall
      obtain ⟨d, hd, rfl⟩ := (isDigit_iff_exists c).mp hall.2
      rw [ofDigitChars_append_digitChar front hd]
      by_cases hfront : front = []
      · subst hfront
        simpa using Spells.digit hd
      · exact .more (ih hfront hall.1) hd

theorem numeral?_eq_some_iff {text : List Char} {n : Nat} :
    numeral? text = some n ↔ IsNumeral text n := by
  have hread : numeral? text = some n ↔ Spells (unsigned text) n := by
    rw [numeral?, spells_iff]
    simp only [Option.ite_none_right_eq_some, Option.some.injEq]
  rw [hread]
  constructor
  · intro h
    unfold unsigned at h
    split at h
    · exact .signed h
    · exact .plain h
  · intro h
    cases h with
    | signed h => exact h
    | plain h =>
      -- a row of digits does not begin with a sign
      obtain ⟨⟨hne, hall⟩, _⟩ := spells_iff.mp h
      obtain ⟨c, rest, rfl⟩ := List.exists_cons_of_ne_nil hne
      rw [List.all_cons, Bool.and_eq_true] at hall
      rwa [unsigned_of_isDigit hall.1]

theorem count?_eq_some_iff {text : List Char} {n : UInt64} :
    count? text = some n ↔ IsNumeral text n.toNat := by
  rw [← numeral?_eq_some_iff, count?]
  cases hvalue : numeral? text with
  | none => simp
  | some value =>
    have hlt := n.toNat_lt_size
    by_cases hroom : value < UInt64.size
    · simp [hroom, ← UInt64.toNat_inj]
    · simp [hroom]
      omega

/-- No count is read from a text that is no numeral or one past every count. -/
theorem count?_eq_none_iff {text : List Char} :
    count? text = none ↔ ∀ n < 2 ^ 64, ¬ IsNumeral text n := by
  rw [Option.eq_none_iff_forall_ne_some]
  constructor
  · intro h n hn hnumeral
    refine h (UInt64.ofNatLT n hn) (count?_eq_some_iff.mpr ?_)
    rwa [UInt64.toNat_ofNatLT]
  · intro h n hn
    exact h n.toNat n.toNat_lt (count?_eq_some_iff.mp hn)

/-- Digits end in the numeral that is written for the number they spell. -/
theorem Spells.decimal_suffix {digits : List Char} {n : Nat} (h : Spells digits n) :
    decimal n <:+ digits := by
  induction h with
  | @digit d hd =>
    have hdecimal : decimal d = [d.digitChar] := Nat.toDigits_of_lt_base hd
    exact hdecimal ▸ List.suffix_rfl
  | @more digits n d _ hd ih =>
    rcases Nat.eq_zero_or_pos n with rfl | hn
    -- after zeros alone the last digit is the whole numeral
    · rw [Nat.mul_zero, Nat.zero_add, decimal, Nat.toDigits_of_lt_base hd]
      exact List.suffix_append _ _
    · rw [decimal, ← Nat.toDigits_append_toDigits (by decide) hn hd, Nat.toDigits_of_lt_base hd,
        List.suffix_append_self_iff]
      exact ih

theorem IsNumeral.decimal_suffix {text : List Char} {n : Nat} (h : IsNumeral text n) :
    decimal n <:+ text := by
  cases h with
  | plain hdigits => exact hdigits.decimal_suffix
  | signed hdigits => exact hdigits.decimal_suffix.trans (List.suffix_cons _ _)

theorem decimal_injective : Function.Injective decimal := by
  intro m n h
  have hvalue := numeral?_decimal m
  rw [h, numeral?_decimal] at hvalue
  exact (Option.some.inj hvalue).symm

theorem lineFeed_not_mem_decimal (n : Nat) : '\n' ∉ decimal n := by
  intro hmem
  exact absurd (isDigit_of_mem_decimal hmem) (by decide)

/-- A text that does not end in a digit holds nothing of a numeral at its end. -/
theorem eq_nil_of_decimal_eq_append {front digits rest : List Char} {n : Nat}
    (h : decimal n = digits ++ rest)
    (hend : ∀ c ∈ (front ++ digits).getLast?, c.isDigit = false) : digits = [] := by
  by_contra hne
  have hmem : digits.getLast hne ∈ decimal n := by
    rw [h]
    exact List.mem_append_left _ (List.getLast_mem hne)
  have hlast : (front ++ digits).getLast? = some (digits.getLast hne) := by
    rw [List.getLast?_append, List.getLast?_eq_some_getLast hne, Option.some_or]
  have hdigit := isDigit_of_mem_decimal hmem
  rw [hend _ hlast] at hdigit
  cases hdigit

/-- A numeral at the end of a text is read back. -/
theorem append_decimal_inj {front front' : List Char} {m n : Nat}
    (hend : ∀ c ∈ front.getLast?, c.isDigit = false)
    (hend' : ∀ c ∈ front'.getLast?, c.isDigit = false)
    (h : front ++ decimal m = front' ++ decimal n) : front = front' ∧ m = n := by
  have hfront : front = front' := by
    rcases List.append_eq_append_iff.mp h with ⟨digits, rfl, hm⟩ | ⟨digits, rfl, hn⟩
    · rw [eq_nil_of_decimal_eq_append hm hend', List.append_nil]
    · rw [eq_nil_of_decimal_eq_append hn hend, List.append_nil]
  subst hfront
  exact ⟨rfl, decimal_injective (List.append_cancel_left h)⟩

end StreamAudit.Text
