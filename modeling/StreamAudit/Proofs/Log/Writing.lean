import StreamAudit.Proofs.Log.Entries
import StreamAudit.Proofs.Log.Lines
import StreamAudit.Proofs.Record.RoundTrip
import StreamAudit.Proofs.Text.Encoding

/-!
# Writing a log

A log is written one record a line, and reading it gives the records back in
their order and nothing else. How a line is ended is a free choice for each,
and the last one need not be ended.
-/

namespace StreamAudit

/-- How a written line ends. -/
inductive LineEnd where
  | feed
  | returnFeed
  deriving DecidableEq, Repr

def LineEnd.text : LineEnd → String
  | .feed => "\n"
  | .returnFeed => "\r\n"

namespace Log

/-- The text of a log: records in lines that end as they are told to, and at
most one more whose line is not ended. -/
def write (separator : String) (ended : List (Record × LineEnd)) (last : Option Record) : String :=
  match ended with
  | [] => last.elim "" (·.toLine separator)
  | (r, lineEnd) :: rest => r.toLine separator ++ lineEnd.text ++ write separator rest last

theorem exists_getLast?_encode_toLine (separator : String) (r : Record) :
    ∃ b, (Text.Utf8.encode (r.toLine separator)).getLast? = some b ∧ b ≠ carriageReturn := by
  obtain ⟨d, hlast, hdigit⟩ := Record.exists_getLast?_toLine separator r
  rw [Char.isDigit_iff_toNat] at hdigit
  have hlow : '0'.toNat = 48 := rfl
  have hhigh : '9'.toNat = 57 := rfl
  have hascii : d.toNat < 128 := by omega
  refine ⟨UInt8.ofNat d.toNat, Text.Utf8.getLast?_encode hascii hlast, ?_⟩
  intro heq
  have hbyte := congrArg UInt8.toNat heq
  rw [Text.Utf8.toNat_ofNat_ascii hascii, show carriageReturn.toNat = 13 from rfl] at hbyte
  omega

section Writable

variable {separator : String} {r : Record} (hsep : '\n' ∉ separator.toList)
  (h : r.Writable separator)
include hsep h

theorem lineFeed_not_mem_encode_toLine :
    lineFeed ∉ Text.Utf8.encode (r.toLine separator) := by
  intro hmem
  have hchar := (Text.Utf8.ofNat_mem_encode_iff (c := '\n') (by decide)).mp hmem
  exact Record.lineFeed_not_mem_toLine hsep h hchar

/-- A written line is the first line of what it is put before. -/
theorem lines_toLine (lineEnd : LineEnd) (more : String) :
    lines (Text.Utf8.encode (r.toLine separator ++ lineEnd.text ++ more)) =
      Text.Utf8.encode (r.toLine separator) :: lines (Text.Utf8.encode more) := by
  have hfree := lineFeed_not_mem_encode_toLine hsep h
  rw [Text.Utf8.encode_append, Text.Utf8.encode_append, List.append_assoc]
  cases lineEnd with
  | feed =>
    obtain ⟨b, hlast, hb⟩ := exists_getLast?_encode_toLine separator r
    refine lines_feed hfree ?_ _
    rw [hlast]
    exact fun heq => hb (Option.some.inj heq)
  | returnFeed => exact lines_returnFeed hfree _

theorem lines_toLine_last :
    lines (Text.Utf8.encode (r.toLine separator)) = [Text.Utf8.encode (r.toLine separator)] := by
  obtain ⟨b, hlast, _⟩ := exists_getLast?_encode_toLine separator r
  refine lines_of_not_mem (lineFeed_not_mem_encode_toLine hsep h) ?_
  intro hnil
  rw [hnil] at hlast
  cases hlast

end Writable

theorem lines_write {separator : String} (hsep : '\n' ∉ separator.toList)
    {ended : List (Record × LineEnd)} {last : Option Record}
    (h : ∀ r ∈ ended.map Prod.fst ++ last.toList, r.Writable separator) :
    lines (Text.Utf8.encode (write separator ended last)) =
      (ended.map Prod.fst ++ last.toList).map fun r => Text.Utf8.encode (r.toLine separator) := by
  induction ended with
  | nil =>
    cases last with
    | none => rfl
    | some r => exact lines_toLine_last hsep (h r (by simp))
  | cons line rest ih =>
    obtain ⟨r, lineEnd⟩ := line
    have hrest := ih fun s hs => h s (List.mem_cons_of_mem r hs)
    rw [write, lines_toLine hsep (h r List.mem_cons_self), hrest]
    rfl

theorem record?_encode_toLine {separator : String} {r : Record} (hne : separator ≠ "")
    (hsep : Text.Unbordered separator.toList) (h : r.Writable separator) :
    record? separator (Text.Utf8.encode (r.toLine separator)) = some r := by
  rw [record?, entry, Text.Utf8.decode?_encode]
  simp [Record.ofLine_toLine hne hsep h, Except.toOption]

/-- Reading undoes writing for whole logs, under every separator that is not
empty, cannot overlap itself and holds no line feed, so under every other single
character. Each record is writable under the separator, the lines end either
way, and the last may have no end. -/
theorem entries_write :
    (∀ c : Char, Text.Unbordered [c]) ∧
    ∀ (separator : String) (ended : List (Record × LineEnd)) (last : Option Record),
      separator ≠ "" → Text.Unbordered separator.toList → '\n' ∉ separator.toList →
      (∀ r ∈ ended.map Prod.fst ++ last.toList, r.Writable separator) →
      entries separator (Text.Utf8.encode (write separator ended last)) =
        (ended.map Prod.fst ++ last.toList).map .ok := by
  refine ⟨Text.unbordered_singleton, ?_⟩
  intro separator ended last hne hsep hline hwritable
  rw [entries_eq_map_ok_iff, lines_write hline hwritable, List.map_map]
  apply List.map_congr_left
  intro r hr
  exact record?_encode_toLine hne hsep (hwritable r hr)

/-- Fields that end as the separator begins, a carriage return inside a field,
the largest count, both line ends and a last line without one. -/
theorem entries_write_arrow :
    Text.Unbordered "=>".toList ∧
    (∀ r ∈ [⟨"t=", 0, "a=", 18446744073709551615⟩, ⟨"", 7, "x\ry", 0⟩, (⟨"1", 1, "", 2⟩ : Record)],
      r.Writable "=>") ∧
    entries "=>" (Text.Utf8.encode
        "t==>0=>a==>18446744073709551615\r\n=>7=>x\ry=>0\n1=>1=>=>2") =
      [⟨"t=", 0, "a=", 18446744073709551615⟩, ⟨"", 7, "x\ry", 0⟩, ⟨"1", 1, "", 2⟩].map .ok := by
  have hwritable : ∀ r ∈ [⟨"t=", 0, "a=", 18446744073709551615⟩, ⟨"", 7, "x\ry", 0⟩,
      (⟨"1", 1, "", 2⟩ : Record)], r.Writable "=>" := by
    decide
  have htext : write "=>" [(⟨"t=", 0, "a=", 18446744073709551615⟩, .returnFeed),
      (⟨"", 7, "x\ry", 0⟩, .feed)] (some ⟨"1", 1, "", 2⟩) =
      "t==>0=>a==>18446744073709551615\r\n=>7=>x\ry=>0\n1=>1=>=>2" := by
    decide +kernel
  refine ⟨by decide, hwritable, ?_⟩
  rw [← htext]
  exact entries_write.2 "=>" _ _ (by decide) (by decide) (by decide) hwritable

end Log

end StreamAudit
