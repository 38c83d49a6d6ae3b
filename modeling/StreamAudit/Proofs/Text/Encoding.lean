import StreamAudit.Text.Utf8

/-!
# Single bytes in encoded text

Bytes can be decoded exactly when they encode some text, and they encode one only.
A character below 128 is encoded as the one byte of its number, and this byte
stands in no other character's encoding. A text can therefore be searched for such
a character in its bytes, as a reader of lines does for line feeds, and what stands
before it and behind it is text again.
-/

namespace StreamAudit.Text.Utf8

theorem isSome_decode?_iff {bytes : List UInt8} :
    (decode? bytes).isSome = true ↔ ∃ text, encode text = bytes := by
  rw [Option.isSome_iff_exists]
  constructor
  · intro h
    obtain ⟨text, htext⟩ := h
    exact ⟨text, (eq_encode_of_decode? htext).symm⟩
  · intro h
    obtain ⟨text, rfl⟩ := h
    exact ⟨text, decode?_encode text⟩

theorem encode_eq_flatMap (text : String) :
    encode text = text.toList.flatMap String.utf8EncodeChar := by
  have hbytes : text.toByteArray = (text.toList.flatMap String.utf8EncodeChar).toByteArray :=
    String.utf8Encode_toList.symm
  rw [encode, String.toUTF8_eq_toByteArray, hbytes]
  simp

theorem encode_append (a b : String) : encode (a ++ b) = encode a ++ encode b := by
  simp [encode_eq_flatMap]

theorem encode_inj {a b : String} : encode a = encode b ↔ a = b := by
  constructor
  · intro h
    have hdecode := decode?_encode a
    rw [h, decode?_encode] at hdecode
    exact (Option.some.inj hdecode).symm
  · exact congrArg encode

theorem encode_eq_nil_iff {text : String} : encode text = [] ↔ text = "" :=
  encode_inj (b := "")

theorem utf8EncodeChar_ascii {c : Char} (hc : c.toNat < 128) :
    String.utf8EncodeChar c = [UInt8.ofNat c.toNat] := by
  have hle : c.val.toNat ≤ 0x7f := Nat.le_of_lt_succ hc
  simp only [String.utf8EncodeChar, if_pos hle]
  rfl

/-- No byte of a character past 127 is below 128. -/
theorem le_of_mem_utf8EncodeChar {c : Char} {b : UInt8} (hc : 128 ≤ c.toNat)
    (hb : b ∈ String.utf8EncodeChar c) : 128 ≤ b.toNat := by
  have hlt : ¬ c.val.toNat ≤ 0x7f := Nat.not_le_of_lt hc
  simp only [String.utf8EncodeChar, if_neg hlt] at hb
  -- two, three or four bytes, each with its highest bit set
  split at hb
  · simp only [List.mem_cons, List.not_mem_nil, or_false] at hb
    rcases hb with rfl | rfl <;> rw [UInt8.toNat_ofNat'] <;> omega
  · split at hb
    · simp only [List.mem_cons, List.not_mem_nil, or_false] at hb
      rcases hb with rfl | rfl | rfl <;> rw [UInt8.toNat_ofNat'] <;> omega
    · simp only [List.mem_cons, List.not_mem_nil, or_false] at hb
      rcases hb with rfl | rfl | rfl | rfl <;> rw [UInt8.toNat_ofNat'] <;> omega

theorem toNat_ofNat_ascii {c : Char} (hc : c.toNat < 128) :
    (UInt8.ofNat c.toNat).toNat = c.toNat := by
  rw [UInt8.toNat_ofNat']
  omega

theorem ofNat_mem_utf8EncodeChar_iff {c d : Char} (hc : c.toNat < 128) :
    UInt8.ofNat c.toNat ∈ String.utf8EncodeChar d ↔ d = c := by
  have hbyte := toNat_ofNat_ascii hc
  constructor
  · intro hmem
    by_cases hd : d.toNat < 128
    · rw [utf8EncodeChar_ascii hd, List.mem_singleton] at hmem
      have heq := congrArg UInt8.toNat hmem
      rw [hbyte, toNat_ofNat_ascii hd] at heq
      exact (Char.toNat_inj.mp heq).symm
    · have hle := le_of_mem_utf8EncodeChar (by omega) hmem
      omega
  · intro heq
    rw [heq, utf8EncodeChar_ascii hc]
    exact List.mem_singleton_self _

/-- A byte below 128 stands in encoded text exactly where its character does. -/
theorem ofNat_mem_encode_iff {text : String} {c : Char} (hc : c.toNat < 128) :
    UInt8.ofNat c.toNat ∈ encode text ↔ c ∈ text.toList := by
  rw [encode_eq_flatMap, List.mem_flatMap]
  simp only [ofNat_mem_utf8EncodeChar_iff hc, exists_eq_right]

/-- Behind a first character below 128 text goes on. -/
theorem exists_of_encode_eq_cons {text : String} {c : Char} (hc : c.toNat < 128)
    {rest : List UInt8} (h : encode text = UInt8.ofNat c.toNat :: rest) :
    ∃ more, encode more = rest := by
  rw [encode_eq_flatMap] at h
  cases hlist : text.toList with
  | nil =>
    rw [hlist] at h
    cases h
  | cons d more =>
    rw [hlist, List.flatMap_cons] at h
    have hmem : UInt8.ofNat c.toNat ∈ String.utf8EncodeChar d := by
      obtain ⟨b, bytes, hd⟩ := List.exists_cons_of_ne_nil (String.utf8EncodeChar_ne_nil (c := d))
      rw [hd, List.cons_append, List.cons.injEq] at h
      rw [hd, h.1]
      exact List.mem_cons_self
    rw [(ofNat_mem_utf8EncodeChar_iff hc).mp hmem, utf8EncodeChar_ascii hc, List.singleton_append,
      List.cons.injEq] at h
    exact ⟨String.ofList more, by rw [encode_eq_flatMap, String.toList_ofList, h.2]⟩

/-- Text up to the first occurrence of a character below 128 is text. -/
theorem takeWhile_encode {c : Char} (hc : c.toNat < 128) (text : String) :
    (encode text).takeWhile (· ≠ UInt8.ofNat c.toNat) =
      encode (String.ofList (text.toList.takeWhile (· ≠ c))) := by
  rw [encode_eq_flatMap, encode_eq_flatMap, String.toList_ofList]
  induction text.toList with
  | nil => rfl
  | cons d rest ih =>
    rw [List.flatMap_cons]
    by_cases hd : d = c
    · subst hd
      rw [utf8EncodeChar_ascii hc, List.singleton_append, List.takeWhile_cons_of_neg (by simp),
        List.takeWhile_cons_of_neg (by simp)]
      rfl
    · have hall : ∀ b ∈ String.utf8EncodeChar d, decide (b ≠ UInt8.ofNat c.toNat) = true := by
        intro b hb
        rw [decide_eq_true_eq]
        rintro rfl
        exact hd ((ofNat_mem_utf8EncodeChar_iff hc).mp hb)
      rw [List.takeWhile_append_of_pos hall, ih, List.takeWhile_cons_of_pos (by simpa using hd),
        List.flatMap_cons]

theorem getLast?_encode {text : String} {c : Char} (hc : c.toNat < 128)
    (h : text.toList.getLast? = some c) :
    (encode text).getLast? = some (UInt8.ofNat c.toNat) := by
  obtain ⟨init, hinit⟩ := List.getLast?_eq_some_iff.mp h
  rw [encode_eq_flatMap, hinit, List.flatMap_append, List.flatMap_singleton,
    utf8EncodeChar_ascii hc, List.getLast?_append]
  rfl

/-- A byte below 128 after other bytes is a character of its own, so it makes no
difference to whether these are encoded text. -/
theorem exists_encode_append_iff {bytes : List UInt8} {c : Char} (hc : c.toNat < 128) :
    (∃ text, encode text = bytes ++ [UInt8.ofNat c.toNat]) ↔ ∃ text, encode text = bytes := by
  constructor
  · intro hended
    obtain ⟨text, htext⟩ := hended
    rw [encode_eq_flatMap] at htext
    rcases List.eq_nil_or_concat text.toList with hnil | ⟨init, d, hinit⟩
    · rw [hnil] at htext
      exact absurd htext.symm (by simp)
    · rw [hinit, List.concat_eq_append, List.flatMap_append, List.flatMap_singleton] at htext
      -- the byte is the last one of the last character, so it is that character
      have hlast : (String.utf8EncodeChar d).getLast? = some (UInt8.ofNat c.toNat) := by
        have hboth := congrArg List.getLast? htext
        rw [List.getLast?_append, List.getLast?_concat] at hboth
        cases hd : (String.utf8EncodeChar d).getLast? with
        | none => exact absurd (List.getLast?_eq_none_iff.mp hd) (String.utf8EncodeChar_ne_nil)
        | some b => simpa [hd] using hboth
      have hd : d = c := (ofNat_mem_utf8EncodeChar_iff hc).mp (List.mem_of_getLast? hlast)
      rw [hd, utf8EncodeChar_ascii hc, List.append_left_inj] at htext
      exact ⟨String.ofList init, by rw [encode_eq_flatMap, String.toList_ofList, htext]⟩
  · intro hbytes
    obtain ⟨text, rfl⟩ := hbytes
    refine ⟨text ++ String.singleton c, ?_⟩
    rw [encode_append, encode_eq_flatMap (String.singleton c)]
    simp [utf8EncodeChar_ascii hc]

end StreamAudit.Text.Utf8
