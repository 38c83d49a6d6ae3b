import StreamAudit.Audit
import StreamAudit.Proofs.Log.Rows

/-!
# Spellings of a log

The same rows can be written under many separators, and their lines ended with
a line feed, with carriage returns before it or differently from line to line,
the last one not at all. However a log is spelled, it has the same entries,
with the same errors under the same numbers. So an audit of it ends in the same
way, be it in a report or in an error.
-/

namespace StreamAudit

/-- Two logs are audited alike under their separators: line by line, in the
ledger and in the report. -/
structure AuditedAlike (s t : String) (bytes others : List UInt8) : Prop where
  entries : Log.entries s bytes = Log.entries t others
  ledger : Ledger.ofLog s bytes = Ledger.ofLog t others
  report : audit s bytes = audit t others

theorem auditedAlike_of_entries {s t : String} {bytes others : List UInt8}
    (h : Log.entries s bytes = Log.entries t others) : AuditedAlike s t bytes others := by
  have hledger : Ledger.ofLog s bytes = Ledger.ofLog t others := by
    rw [Ledger.ofLog, h, Ledger.ofLog]
  refine ⟨h, hledger, ?_⟩
  rw [audit, hledger, audit]

theorem auditedAlike_of_bare {separator : String} (hsep : '\r' ∉ separator.toList)
    {bytes others : List UInt8}
    (h : (Log.lines bytes).map Log.bare = (Log.lines others).map Log.bare) :
    AuditedAlike separator separator bytes others := by
  apply auditedAlike_of_entries
  rw [Log.entries_eq_mapIdx_bare hsep, Log.entries_eq_mapIdx_bare hsep, h]

/-- Under a separator without carriage return it makes no difference to an audit
how many carriage returns stand directly before each line feed, nor whether a
last line is ended. -/
theorem auditedAlike_of_line_ends (separator : String) (hsep : '\r' ∉ separator.toList) :
    (∀ bytes more, Log.ReturnsAdded bytes more →
      AuditedAlike separator separator more bytes) ∧
    ∀ bytes, ¬ Log.Ended bytes →
      AuditedAlike separator separator (bytes ++ [Log.lineFeed]) bytes := by
  constructor
  · intro bytes more hadded
    exact auditedAlike_of_bare hsep hadded.map_bare_lines
  · intro bytes hended
    exact auditedAlike_of_bare hsep (Log.map_bare_lines_append_lineFeed hended)

/-- A record, a line that is no text, an empty line and a faulty count that
nothing ends: two carriage returns more, one more, one, and a line feed. -/
theorem auditedAlike_of_line_ends_mixed :
    '\r' ∉ ",".toList ∧
    Log.ReturnsAdded
      (Text.Utf8.encode "t,0,a,1\r" ++ Log.lineFeed :: 0xFF :: Log.lineFeed :: Log.lineFeed ::
        Text.Utf8.encode "t,1,b,x\r")
      (Text.Utf8.encode "t,0,a,1\r" ++ Log.carriageReturn :: Log.carriageReturn :: Log.lineFeed ::
        0xFF :: Log.carriageReturn :: Log.lineFeed :: Log.carriageReturn :: Log.lineFeed ::
        Text.Utf8.encode "t,1,b,x\r") ∧
    Log.entries "," (Text.Utf8.encode "t,0,a,1\r" ++ Log.carriageReturn :: Log.carriageReturn ::
        Log.lineFeed :: 0xFF :: Log.carriageReturn :: Log.lineFeed :: Log.carriageReturn ::
        Log.lineFeed :: Text.Utf8.encode "t,1,b,x\r") =
      [.ok ⟨"t", 0, "a", 1⟩, .error (.unreadable 2 .invalidUtf8),
        .error (.malformed 3 (.fieldCount 1)),
        .error (.malformed 4 (.notAnInteger .operatorCount "x"))] ∧
    ¬ Log.Ended (Text.Utf8.encode "t,1,b,x\r") ∧
    AuditedAlike "," "," (Text.Utf8.encode "t,1,b,x\r" ++ [Log.lineFeed])
      (Text.Utf8.encode "t,1,b,x\r") := by
  have hsep : '\r' ∉ ",".toList := by decide
  obtain ⟨hreturns, hfeed⟩ := auditedAlike_of_line_ends "," hsep
  have hlast : Log.ReturnsAdded (Text.Utf8.encode "t,1,b,x\r") (Text.Utf8.encode "t,1,b,x\r") := by
    simpa using Log.ReturnsAdded.nil.append_left (Text.Utf8.encode "t,1,b,x\r")
  have hadded := (((hlast.keep Log.lineFeed).add.keep Log.lineFeed).add.keep 0xFF).keep
    Log.lineFeed |>.add.add.append_left (Text.Utf8.encode "t,0,a,1\r")
  have hended : ¬ Log.Ended (Text.Utf8.encode "t,1,b,x\r") := by decide
  refine ⟨hsep, hadded, ?_, hended, hfeed _ hended⟩
  rw [(hreturns _ _ hadded).entries]
  decide +kernel

/-- Rows of any length are audited alike under any two separators that keep them
apart, whether they hold records or not. -/
theorem auditedAlike_of_separators (s t : String) (rows : List (List String))
    (hrows : Log.Lined rows) (hs : Log.Separates s rows) (ht : Log.Separates t rows) :
    AuditedAlike s t (Text.Utf8.encode (Log.writeRows s rows))
      (Text.Utf8.encode (Log.writeRows t rows)) := by
  apply auditedAlike_of_entries
  rw [hs.entries_writeRows hrows, ht.entries_writeRows hrows]

/-- Separators of different lengths that fields begin and end like, rows of one,
four and five fields, and a carriage return at the end of a row. -/
theorem auditedAlike_of_separators_arrow :
    Log.Lined [["t=", "+1", " a>", "01\r"], [""], ["-", ">", "=", "-1", "\r"]] ∧
    Log.Separates "=>" [["t=", "+1", " a>", "01\r"], [""], ["-", ">", "=", "-1", "\r"]] ∧
    Log.Separates "\t" [["t=", "+1", " a>", "01\r"], [""], ["-", ">", "=", "-1", "\r"]] ∧
    Log.entries "=>" (Text.Utf8.encode "t==>+1=> a>=>01\r\n\n-=>>=>==>-1=>\r\n") =
      [.ok ⟨"t=", 1, "a>", 1⟩, .error (.malformed 2 (.fieldCount 1)),
        .error (.malformed 3 (.fieldCount 5))] ∧
    AuditedAlike "=>" "\t" (Text.Utf8.encode "t==>+1=> a>=>01\r\n\n-=>>=>==>-1=>\r\n")
      (Text.Utf8.encode "t=\t+1\t a>\t01\r\n\n-\t>\t=\t-1\t\r\n") := by
  have hrows : Log.Lined [["t=", "+1", " a>", "01\r"], [""], ["-", ">", "=", "-1", "\r"]] := by
    decide
  have hs : Log.Separates "=>"
      [["t=", "+1", " a>", "01\r"], [""], ["-", ">", "=", "-1", "\r"]] := by decide
  have ht : Log.Separates "\t"
      [["t=", "+1", " a>", "01\r"], [""], ["-", ">", "=", "-1", "\r"]] := by decide
  exact ⟨hrows, hs, ht, by decide +kernel, auditedAlike_of_separators _ _ _ hrows hs ht⟩

end StreamAudit
