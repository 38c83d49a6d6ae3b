import StreamAudit.Proofs.Text.Encoding

/-!
# Text shown from its bytes

Lenient decoding takes bytes that encode a text for this text. The bytes of one
character are read as that character, whatever was read before them and whatever
follows: the first byte tells how many there are and the top bits, and the bounds
of the second are met because the character is no surrogate, not written longer
than necessary and not past the last.
-/

namespace StreamAudit.Text.Utf8

/-- A byte as it follows the first one of a character. -/
def following (bits : Nat) : UInt8 :=
  UInt8.ofNat (bits % 64 + 0x80)

theorem toNat_following (bits : Nat) : (following bits).toNat = bits % 64 + 0x80 := by
  rw [following, UInt8.toNat_ofNat']
  omega

/-- The byte is one that can follow. -/
def Unfinished.Admits (u : Unfinished) (b : UInt8) : Prop :=
  u.low.toNat ≤ b.toNat ∧ b.toNat ≤ u.high.toNat

theorem resume_last {low high : UInt8} {n : Nat}
    (h : (⟨1, low, high, n / 64⟩ : Unfinished).Admits (following n)) :
    resume ⟨1, low, high, n / 64⟩ (following n) = ([Char.ofNat n], none) := by
  have hbounds : low ≤ following n ∧ following n ≤ high := h
  simp only [resume, hbounds.1, hbounds.2, decide_true, Bool.and_self, if_true, toNat_following,
    Nat.add_sub_cancel, Nat.le_refl, Nat.div_add_mod]

theorem resume_next {low high : UInt8} {needed n : Nat}
    (h : (⟨needed + 2, low, high, n / 64⟩ : Unfinished).Admits (following n)) :
    resume ⟨needed + 2, low, high, n / 64⟩ (following n) =
      ([], some ⟨needed + 1, 0x80, 0xBF, n⟩) := by
  have hbounds : low ≤ following n ∧ following n ≤ high := h
  have hneeded : ¬ needed + 2 ≤ 1 := by omega
  simp only [resume, hbounds.1, hbounds.2, decide_true, Bool.and_self, if_true, toNat_following,
    Nat.add_sub_cancel, if_neg hneeded, Nat.div_add_mod]
  rfl

/-- Past the second byte there are no closer bounds. -/
theorem admits_following (needed bits more : Nat) :
    (⟨needed, 0x80, 0xBF, bits⟩ : Unfinished).Admits (following more) := by
  have hbyte := toNat_following more
  have hlow : (0x80 : UInt8).toNat = 0x80 := rfl
  have hhigh : (0xBF : UInt8).toNat = 0xBF := rfl
  constructor <;> dsimp only <;> omega

/-- The beginning of a character, by the number of its first byte. -/
theorem begin_eq (b : UInt8) :
    begin b =
      if b.toNat ≤ 0x7F then ([Char.ofNat b.toNat], none)
      else if 0xC2 ≤ b.toNat ∧ b.toNat ≤ 0xDF then ([], some ⟨1, 0x80, 0xBF, b.toNat - 0xC0⟩)
      else if b.toNat = 0xE0 then ([], some ⟨2, 0xA0, 0xBF, 0⟩)
      else if b.toNat = 0xED then ([], some ⟨2, 0x80, 0x9F, 0xD⟩)
      else if 0xE1 ≤ b.toNat ∧ b.toNat ≤ 0xEF then
        ([], some ⟨2, 0x80, 0xBF, b.toNat - 0xE0⟩)
      else if b.toNat = 0xF0 then ([], some ⟨3, 0x90, 0xBF, 0⟩)
      else if 0xF1 ≤ b.toNat ∧ b.toNat ≤ 0xF3 then
        ([], some ⟨3, 0x80, 0xBF, b.toNat - 0xF0⟩)
      else if b.toNat = 0xF4 then ([], some ⟨3, 0x80, 0x8F, 4⟩)
      else ([replacement], none) := by
  simp [begin, UInt8.le_iff_toNat_le, ← UInt8.toNat_inj]

section Begin

variable {b : UInt8} {n : Nat}

theorem begin_one (hb : b.toNat = n) (hn : n ≤ 0x7F) : begin b = ([Char.ofNat n], none) := by
  rw [begin_eq, if_pos (by omega), hb]

theorem begin_two (hb : b.toNat = n / 64 + 0xC0) (hlow : 0x7F < n) (hhigh : n ≤ 0x7FF) :
    begin b = ([], some ⟨1, 0x80, 0xBF, n / 64⟩) := by
  rw [begin_eq, if_neg (by omega), if_pos (by omega), hb, Nat.add_sub_cancel]

/-- The first of three bytes admits the second. After the lowest one it has to be
high, so that the character needs three, and after one other low, so that it is no
surrogate. -/
theorem begin_three (hb : b.toNat = n / 64 / 64 + 0xE0) (hlow : 0x7FF < n) (hhigh : n ≤ 0xFFFF)
    (hscalar : n < 0xD800 ∨ 0xDFFF < n) :
    ∃ low high, begin b = ([], some ⟨2, low, high, n / 64 / 64⟩) ∧
      (⟨2, low, high, n / 64 / 64⟩ : Unfinished).Admits (following (n / 64)) := by
  have hsecond := toNat_following (n / 64)
  rw [begin_eq, if_neg (by omega), if_neg (by omega)]
  by_cases hlowest : n / 64 / 64 = 0
  · refine ⟨0xA0, 0xBF, by rw [if_pos (by omega), hlowest], ?_⟩
    show 0xA0 ≤ (following (n / 64)).toNat ∧ (following (n / 64)).toNat ≤ 0xBF
    omega
  rw [if_neg (by omega)]
  by_cases hsurrogates : n / 64 / 64 = 0xD
  · refine ⟨0x80, 0x9F, by rw [if_pos (by omega), hsurrogates], ?_⟩
    show 0x80 ≤ (following (n / 64)).toNat ∧ (following (n / 64)).toNat ≤ 0x9F
    omega
  · refine ⟨0x80, 0xBF, ?_, admits_following _ _ _⟩
    rw [if_neg (by omega), if_pos (by omega), hb, Nat.add_sub_cancel]

/-- The first of four bytes admits the second. After the lowest one it has to be
high, so that the character needs four, and after the highest low, so that there is
such a character. -/
theorem begin_four (hb : b.toNat = n / 64 / 64 / 64 + 0xF0) (hlow : 0xFFFF < n)
    (hhigh : n ≤ 0x10FFFF) :
    ∃ low high, begin b = ([], some ⟨3, low, high, n / 64 / 64 / 64⟩) ∧
      (⟨3, low, high, n / 64 / 64 / 64⟩ : Unfinished).Admits (following (n / 64 / 64)) := by
  have hsecond := toNat_following (n / 64 / 64)
  rw [begin_eq, if_neg (by omega), if_neg (by omega), if_neg (by omega), if_neg (by omega),
    if_neg (by omega)]
  by_cases hlowest : n / 64 / 64 / 64 = 0
  · refine ⟨0x90, 0xBF, by rw [if_pos (by omega), hlowest], ?_⟩
    show 0x90 ≤ (following (n / 64 / 64)).toNat ∧ (following (n / 64 / 64)).toNat ≤ 0xBF
    omega
  rw [if_neg (by omega)]
  by_cases hhighest : n / 64 / 64 / 64 = 4
  · refine ⟨0x80, 0x8F, by rw [if_neg (by omega), if_pos (by omega), hhighest], ?_⟩
    show 0x80 ≤ (following (n / 64 / 64)).toNat ∧ (following (n / 64 / 64)).toNat ≤ 0x8F
    omega
  · refine ⟨0x80, 0xBF, ?_, admits_following _ _ _⟩
    rw [if_pos (by omega), hb, Nat.add_sub_cancel]

end Begin

/-! ## Characters one after the other -/

section Show

variable {text shown : List Char} {u : Unfinished} {left : Option Unfinished} {b : UInt8}

theorem showFrom_begin (h : begin b = (text, left)) (rest : List UInt8) :
    showFrom none shown (b :: rest) = showFrom left (text.reverse ++ shown) rest := by
  rw [showFrom, h]

theorem showFrom_resume (h : resume u b = (text, left)) (rest : List UInt8) :
    showFrom (some u) shown (b :: rest) = showFrom left (text.reverse ++ shown) rest := by
  rw [showFrom, h]

end Show

theorem toNat_ofNat_of_lt {n : Nat} (h : n < 256) : (UInt8.ofNat n).toNat = n := by
  rw [UInt8.toNat_ofNat']
  exact Nat.mod_eq_of_lt h

section Characters

variable {n : Nat} (shown : List Char) (rest : List UInt8)

theorem showFrom_one (h : n ≤ 0x7F) :
    showFrom none shown (UInt8.ofNat n :: rest) = showFrom none (Char.ofNat n :: shown) rest :=
  showFrom_begin (begin_one (toNat_ofNat_of_lt (by omega)) h) rest

theorem showFrom_two (hlow : 0x7F < n) (hhigh : n ≤ 0x7FF) :
    showFrom none shown (UInt8.ofNat (n / 64 % 32 + 0xC0) :: following n :: rest) =
      showFrom none (Char.ofNat n :: shown) rest := by
  have hfirst : (UInt8.ofNat (n / 64 % 32 + 0xC0)).toNat = n / 64 + 0xC0 := by
    rw [toNat_ofNat_of_lt (by omega)]
    omega
  rw [showFrom_begin (begin_two hfirst hlow hhigh),
    showFrom_resume (resume_last (admits_following _ _ _))]
  rfl

theorem showFrom_three (hlow : 0x7FF < n) (hhigh : n ≤ 0xFFFF)
    (hscalar : n < 0xD800 ∨ 0xDFFF < n) :
    showFrom none shown
        (UInt8.ofNat (n / 64 / 64 % 16 + 0xE0) :: following (n / 64) :: following n :: rest) =
      showFrom none (Char.ofNat n :: shown) rest := by
  have hfirst : (UInt8.ofNat (n / 64 / 64 % 16 + 0xE0)).toNat = n / 64 / 64 + 0xE0 := by
    rw [toNat_ofNat_of_lt (by omega)]
    omega
  obtain ⟨low, high, hbegin, hadmits⟩ := begin_three hfirst hlow hhigh hscalar
  rw [showFrom_begin hbegin, showFrom_resume (resume_next hadmits),
    showFrom_resume (resume_last (admits_following _ _ _))]
  rfl

theorem showFrom_four (hlow : 0xFFFF < n) (hhigh : n ≤ 0x10FFFF) :
    showFrom none shown (UInt8.ofNat (n / 64 / 64 / 64 % 8 + 0xF0) ::
        following (n / 64 / 64) :: following (n / 64) :: following n :: rest) =
      showFrom none (Char.ofNat n :: shown) rest := by
  have hfirst : (UInt8.ofNat (n / 64 / 64 / 64 % 8 + 0xF0)).toNat =
      n / 64 / 64 / 64 + 0xF0 := by
    rw [toNat_ofNat_of_lt (by omega)]
    omega
  obtain ⟨low, high, hbegin, hadmits⟩ := begin_four hfirst hlow hhigh
  rw [showFrom_begin hbegin, showFrom_resume (resume_next hadmits),
    showFrom_resume (resume_next (admits_following _ _ _)),
    showFrom_resume (resume_last (admits_following _ _ _))]
  rfl

end Characters

/-- The bytes of a character are shown as the character. -/
theorem showFrom_utf8EncodeChar (c : Char) (shown : List Char) (rest : List UInt8) :
    showFrom none shown (String.utf8EncodeChar c ++ rest) = showFrom none (c :: shown) rest := by
  have hvalid : c.toNat < 0xD800 ∨ (0xDFFF < c.toNat ∧ c.toNat < 0x110000) := c.valid
  have hchar : Char.ofNat c.toNat = c := Char.ofNat_toNat c
  have hval : c.val.toNat = c.toNat := rfl
  simp only [String.utf8EncodeChar, hval]
  generalize c.toNat = n at hvalid hchar
  have hthird : n / 4096 = n / 64 / 64 := by omega
  have hfourth : n / 262144 = n / 64 / 64 / 64 := by omega
  rw [← hchar, hthird, hfourth]
  split
  · exact showFrom_one shown rest (by omega)
  split
  · exact showFrom_two shown rest (by omega) (by omega)
  split
  · exact showFrom_three shown rest (by omega) (by omega) (by omega)
  · exact showFrom_four shown rest (by omega) (by omega)

/-- Bytes that encode a text are shown as the text. -/
theorem display_encode (text : String) : display (encode text) = text := by
  have hall (chars shown : List Char) :
      showFrom none shown (chars.flatMap String.utf8EncodeChar) = shown.reverse ++ chars := by
    induction chars generalizing shown with
    | nil => simp [showFrom]
    | cons c rest ih =>
      rw [List.flatMap_cons, showFrom_utf8EncodeChar, ih]
      simp
  rw [display, encode_eq_flatMap, hall, List.reverse_nil, List.nil_append, String.ofList_toList]

end StreamAudit.Text.Utf8
