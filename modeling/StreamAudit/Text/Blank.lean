/-!
# Blank characters

The characters with the Unicode property White_Space, and the trimming of text
at both ends. A run of blanks inside the text stays. Trimmed text neither
begins nor ends with a blank, and trimming it again changes nothing.
-/

namespace StreamAudit.Text

/-- Membership in the Unicode property White_Space. -/
def isBlank (c : Char) : Bool :=
  let n := c.toNat
  (0x09 ≤ n && n ≤ 0x0D) || n == 0x20 || n == 0x85 || n == 0xA0 || n == 0x1680 ||
    (0x2000 ≤ n && n ≤ 0x200A) || n == 0x2028 || n == 0x2029 || n == 0x202F ||
    n == 0x205F || n == 0x3000

def trimEnd (text : List Char) : List Char :=
  (text.reverse.dropWhile isBlank).reverse

def trim (text : List Char) : List Char :=
  trimEnd (text.dropWhile isBlank)

/-- What is left after the leading blanks begins with no blank. -/
theorem isBlank_of_dropWhile_eq_cons {text rest : List Char} {c : Char}
    (h : text.dropWhile isBlank = c :: rest) : isBlank c = false := by
  induction text with
  | nil => simp at h
  | cons d text ih =>
    rw [List.dropWhile_cons] at h
    split at h
    · exact ih h
    · next hd =>
      obtain ⟨rfl, rfl⟩ := List.cons.inj h
      simpa using hd

theorem dropWhile_dropWhile (text : List Char) :
    (text.dropWhile isBlank).dropWhile isBlank = text.dropWhile isBlank := by
  cases h : text.dropWhile isBlank with
  | nil => rfl
  | cons c rest =>
    rw [List.dropWhile_cons, isBlank_of_dropWhile_eq_cons h]
    rfl

theorem trimEnd_trimEnd (text : List Char) : trimEnd (trimEnd text) = trimEnd text := by
  simp [trimEnd, dropWhile_dropWhile]

/-- Only blanks are taken from the end. -/
theorem trimEnd_append_blanks (text : List Char) :
    ∃ blanks, text = trimEnd text ++ blanks ∧ ∀ c ∈ blanks, isBlank c = true := by
  refine ⟨(text.reverse.takeWhile isBlank).reverse, ?_, ?_⟩
  · rw [trimEnd, ← List.reverse_append, List.takeWhile_append_dropWhile, List.reverse_reverse]
  · intro c hc
    rw [List.mem_reverse] at hc
    exact List.all_eq_true.mp List.all_takeWhile c hc

theorem trim_trim (text : List Char) : trim (trim text) = trim text := by
  have hfront : (trim text).dropWhile isBlank = trim text := by
    cases h : trim text with
    | nil => rfl
    | cons c rest =>
      obtain ⟨blanks, hsplit, _⟩ := trimEnd_append_blanks (text.dropWhile isBlank)
      have hcons : text.dropWhile isBlank = c :: (rest ++ blanks) := by
        rw [hsplit, ← trim, h, List.cons_append]
      rw [List.dropWhile_cons, isBlank_of_dropWhile_eq_cons hcons]
      rfl
  rw [trim, hfront, trim, trimEnd_trimEnd]

end StreamAudit.Text
