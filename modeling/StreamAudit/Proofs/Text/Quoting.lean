import Mathlib.Tactic.SplitIfs
import StreamAudit.Text.Quoted

/-!
# Reading quoted text

Quoted text is read one character at a time. A backslash tells a written form from
a character that stands for itself, the letter behind it tells how far the form
goes, and a code point goes as far as its closing brace. None of this depends on
which characters were hidden, so a reader need not know them, and no two texts are
quoted alike. With the controls among the hidden characters, quoted text holds
none.
-/

namespace StreamAudit.Text

/-! ## Code points in hexadecimal -/

/-- The value of a digit in lower-case hexadecimal. -/
def hexDigit (c : Char) : Nat :=
  if c.isDigit then c.toNat - 48 else c.toNat - 87

def hexadecimal (digits : List Char) : Nat :=
  digits.foldl (fun n c => 16 * n + hexDigit c) 0

theorem hexDigit_digitChar : ∀ d < 16, hexDigit (Nat.digitChar d) = d := by
  decide

theorem hexadecimal_toDigits (n : Nat) : hexadecimal (Nat.toDigits 16 n) = n := by
  induction n using Nat.strongRecOn with
  | ind n ih =>
    by_cases hn : n < 16
    · rw [Nat.toDigits_of_lt_base hn]
      simpa [hexadecimal] using hexDigit_digitChar n hn
    · have hfront := ih (n / 16) (by omega)
      rw [hexadecimal] at hfront
      rw [Nat.toDigits_of_base_le (by decide) (by omega), hexadecimal, List.foldl_append, hfront,
        List.foldl_cons, List.foldl_nil, hexDigit_digitChar _ (Nat.mod_lt n (by decide))]
      omega

theorem exists_of_mem_toDigits {b n : Nat} {c : Char} (hb : 1 < b) (h : c ∈ Nat.toDigits b n) :
    ∃ d < b, c = Nat.digitChar d := by
  induction n using Nat.strongRecOn with
  | ind n ih =>
    by_cases hn : n < b
    · rw [Nat.toDigits_of_lt_base hn, List.mem_singleton] at h
      exact ⟨n, hn, h⟩
    · rw [Nat.toDigits_of_base_le hb (by omega), List.mem_append, List.mem_singleton] at h
      rcases h with h | h
      · exact ih (n / b) (Nat.div_lt_self (by omega) hb) h
      · exact ⟨n % b, Nat.mod_lt n (by omega), h⟩

/-! ## One character -/

/-- The character that a backslash and this letter stand for. -/
def named? : Char → Option Char
  | '\x22' => some '\x22'
  | '\\' => some '\\'
  | 't' => some '\t'
  | 'r' => some '\r'
  | 'n' => some '\n'
  | '0' => some '\x00'
  | _ => none

/-- How a character is written in quoted text. -/
inductive WrittenAs (hidden : Char → Bool) (c : Char) : List Char → Prop
  | named {letter : Char} : named? letter = some c → WrittenAs hidden c ['\\', letter]
  | codePoint : hidden c = true → WrittenAs hidden c (codePoint c)
  | itself : c ≠ '\\' → hidden c = false → WrittenAs hidden c [c]

theorem writtenAs_escape (hidden : Char → Bool) (c : Char) :
    WrittenAs hidden c (escape hidden c) := by
  unfold escape
  split_ifs with hquote hbackslash htab hreturn hfeed hnull hhidden
  · exact .named (by rw [hquote]; rfl)
  · exact .named (by rw [hbackslash]; rfl)
  · exact .named (by rw [htab]; rfl)
  · exact .named (by rw [hreturn]; rfl)
  · exact .named (by rw [hfeed]; rfl)
  · exact .named (by rw [hnull]; rfl)
  · exact .codePoint hhidden
  · exact .itself hbackslash (eq_false_of_ne_true hhidden)

/-- The character that an escaped text begins with, and the text behind its
written form. -/
def unescape? : List Char → Option (Char × List Char)
  | '\\' :: 'u' :: '\x7b' :: rest =>
    some (Char.ofNat (hexadecimal (rest.takeWhile (· ≠ '\x7d'))),
      (rest.dropWhile (· ≠ '\x7d')).drop 1)
  | '\\' :: letter :: rest => (named? letter).map (·, rest)
  | c :: rest => some (c, rest)
  | [] => none

theorem unescape?_codePoint (c : Char) (rest : List Char) :
    unescape? (codePoint c ++ rest) = some (c, rest) := by
  have hbrace : ∀ n < 16, decide (Nat.digitChar n ≠ '\x7d') = true := by decide
  have hdigits : ∀ d ∈ Nat.toDigits 16 c.toNat, decide (d ≠ '\x7d') = true := by
    intro d hd
    obtain ⟨n, hn, rfl⟩ := exists_of_mem_toDigits (by decide) hd
    exact hbrace n hn
  simp only [codePoint, List.cons_append, List.append_assoc, List.nil_append, unescape?]
  rw [List.takeWhile_append_of_pos hdigits, List.dropWhile_append_of_pos hdigits]
  simp [hexadecimal_toDigits]

theorem unescape?_named {letter c : Char} (h : named? letter = some c) (rest : List Char) :
    unescape? ('\\' :: letter :: rest) = some (c, rest) := by
  -- behind a backslash this letter begins a code point, and no other form
  have hletter : letter ≠ 'u' := by
    rintro rfl
    cases h
  rw [unescape?, h, Option.map_some]
  intro _ heq
  exact absurd heq hletter

theorem unescape?_of_ne {c : Char} (h : c ≠ '\\') (rest : List Char) :
    unescape? (c :: rest) = some (c, rest) := by
  unfold unescape?
  split <;> simp_all

/-- A written form is read as its character, whatever stands behind it. -/
theorem WrittenAs.unescape?_append {hidden : Char → Bool} {c : Char} {form : List Char}
    (h : WrittenAs hidden c form) (rest : List Char) :
    unescape? (form ++ rest) = some (c, rest) := by
  cases h with
  | named hletter => exact unescape?_named hletter rest
  | codePoint => exact unescape?_codePoint c rest
  | itself hc => exact unescape?_of_ne hc rest

/-! ## Texts -/

theorem unescape?_flatMap_cons (hidden : Char → Bool) (c : Char) (text : List Char) :
    unescape? ((c :: text).flatMap (escape hidden)) =
      some (c, text.flatMap (escape hidden)) := by
  rw [List.flatMap_cons]
  exact (writtenAs_escape hidden c).unescape?_append _

theorem flatMap_escape_inj {hidden hidden' : Char → Bool} {text other : List Char}
    (h : text.flatMap (escape hidden) = other.flatMap (escape hidden')) : text = other := by
  induction text generalizing other with
  | nil =>
    cases other with
    | nil => rfl
    | cons d other =>
      have hread := unescape?_flatMap_cons hidden' d other
      rw [← h] at hread
      cases hread
  | cons c text ih =>
    have hread := unescape?_flatMap_cons hidden c text
    rw [h] at hread
    cases other with
    | nil => cases hread
    | cons d other =>
      rw [unescape?_flatMap_cons, Option.some.injEq, Prod.mk.injEq] at hread
      obtain ⟨rfl, hrest⟩ := hread
      rw [ih hrest.symm]

/-- No two texts are quoted alike, not even with different characters hidden. -/
theorem quote_inj {hidden hidden' : Char → Bool} {text other : List Char}
    (h : quote hidden text = quote hidden' other) : text = other :=
  flatMap_escape_inj (List.append_cancel_right (List.cons.inj h).2)

/-! ## Controls -/

theorem isControl_digitChar : ∀ d < 16, isControl (Nat.digitChar d) = false := by
  decide

theorem isControl_of_named {letter c : Char} (h : named? letter = some c) :
    isControl letter = false := by
  unfold named? at h
  split at h
  case h_7 => cases h
  all_goals rfl

theorem isControl_of_mem_codePoint {c d : Char} (h : d ∈ codePoint c) : isControl d = false := by
  simp only [codePoint, List.cons_append, List.mem_cons, List.mem_append, List.not_mem_nil,
    or_false] at h
  rcases h with rfl | rfl | rfl | h | rfl
  · rfl
  · rfl
  · rfl
  · obtain ⟨n, hn, rfl⟩ := exists_of_mem_toDigits (by decide) h
    exact isControl_digitChar n hn
  · rfl

section Controls

variable {hidden : Char → Bool} (hcontrols : ∀ c, isControl c = true → hidden c = true)
include hcontrols

theorem WrittenAs.isControl_of_mem {c d : Char} {form : List Char} (h : WrittenAs hidden c form)
    (hd : d ∈ form) : isControl d = false := by
  cases h with
  | @named letter hletter =>
    have hform : d = '\\' ∨ d = letter := by simpa using hd
    rcases hform with rfl | rfl
    · rfl
    · exact isControl_of_named hletter
  | codePoint => exact isControl_of_mem_codePoint hd
  | itself _ hshown =>
    obtain rfl := List.mem_singleton.mp hd
    cases hcontrol : isControl d with
    | false => rfl
    | true =>
      rw [hcontrols d hcontrol] at hshown
      cases hshown

theorem isControl_of_mem_quote {text : List Char} {d : Char} (h : d ∈ quote hidden text) :
    isControl d = false := by
  simp only [quote, List.cons_append, List.mem_cons, List.mem_append, List.mem_flatMap,
    List.not_mem_nil, or_false] at h
  rcases h with rfl | ⟨c, _, hd⟩ | rfl
  · rfl
  · exact (writtenAs_escape hidden c).isControl_of_mem hcontrols hd
  · rfl

end Controls

end StreamAudit.Text
