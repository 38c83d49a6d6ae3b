/-!
# Text from bytes

Strict decoding accepts valid UTF-8 only. Lenient decoding is for display: it
reads every sequence of bytes and puts one replacement character for each
longest piece that begins a character and never completes it, and for each
byte that can begin none.
-/

namespace StreamAudit.Text.Utf8

/-- The text that the bytes encode, if they encode one. -/
def decode? (bytes : List UInt8) : Option String :=
  String.fromUTF8? ⟨bytes.toArray⟩

def encode (text : String) : List UInt8 :=
  text.toUTF8.data.toList

theorem decode?_encode (text : String) : decode? (encode text) = some text := by
  have hbytes : (⟨(encode text).toArray⟩ : ByteArray) = text.toByteArray := by
    simp [encode]
  rw [decode?, hbytes, String.fromUTF8?, dif_pos text.isValidUTF8]
  rfl

theorem eq_encode_of_decode? {bytes : List UInt8} {text : String}
    (h : decode? bytes = some text) : bytes = encode text := by
  simp only [decode?, String.fromUTF8?] at h
  split at h
  · rw [Option.some.injEq] at h
    subst h
    rfl
  · simp at h

/-- A character under way: how many bytes it still needs, the bounds of the
next one, and the bits collected so far. -/
structure Unfinished where
  needed : Nat
  low : UInt8
  high : UInt8
  bits : Nat

/-- The character shown for bytes that encode none. -/
def replacement : Char := '\uFFFD'

/-- A byte at the start of a character: the text it completes, and the
character it leaves under way. The bounds of the second byte keep out longer
forms than necessary, surrogates and code points past the last. -/
def begin (b : UInt8) : List Char × Option Unfinished :=
  if b ≤ 0x7F then ([Char.ofNat b.toNat], none)
  else if 0xC2 ≤ b && b ≤ 0xDF then ([], some ⟨1, 0x80, 0xBF, b.toNat - 0xC0⟩)
  else if b == 0xE0 then ([], some ⟨2, 0xA0, 0xBF, 0⟩)
  else if b == 0xED then ([], some ⟨2, 0x80, 0x9F, 0xD⟩)
  else if 0xE1 ≤ b && b ≤ 0xEF then ([], some ⟨2, 0x80, 0xBF, b.toNat - 0xE0⟩)
  else if b == 0xF0 then ([], some ⟨3, 0x90, 0xBF, 0⟩)
  else if 0xF1 ≤ b && b ≤ 0xF3 then ([], some ⟨3, 0x80, 0xBF, b.toNat - 0xF0⟩)
  else if b == 0xF4 then ([], some ⟨3, 0x80, 0x8F, 4⟩)
  else ([replacement], none)

/-- A byte after a character under way. One out of bounds ends the piece
before it and is read as a beginning. -/
def resume (u : Unfinished) (b : UInt8) : List Char × Option Unfinished :=
  if u.low ≤ b && b ≤ u.high then
    let bits := 64 * u.bits + (b.toNat - 0x80)
    if u.needed ≤ 1 then ([Char.ofNat bits], none)
    else ([], some ⟨u.needed - 1, 0x80, 0xBF, bits⟩)
  else
    let (text, unfinished) := begin b
    (replacement :: text, unfinished)

/-- Lenient decoding from a character that may be under way; the text so far
is held backwards. -/
def showFrom : Option Unfinished → List Char → List UInt8 → List Char
  | none, shown, [] => shown.reverse
  | some _, shown, [] => (replacement :: shown).reverse
  | none, shown, b :: rest =>
    let (text, unfinished) := begin b
    showFrom unfinished (text.reverse ++ shown) rest
  | some u, shown, b :: rest =>
    let (text, unfinished) := resume u b
    showFrom unfinished (text.reverse ++ shown) rest

def display (bytes : List UInt8) : String :=
  String.ofList (showFrom none [] bytes)

end StreamAudit.Text.Utf8
