import StreamAudit.Log
import StreamAudit.Tally

/-!
# Ledgers

A ledger holds what the checks need to know of a log: for each operator how
many lines it wrote and the highest count it claimed, for each sequence number
how often it was received, how many lines there were, and the highest sequence
number. A record is entered in five steps in a fixed order. A step that would
take a count past its largest value ends the entry, and what the steps before
it did stays.
-/

namespace StreamAudit

/-- The books over the records of a log. -/
structure Ledger where
  lines : Tally String
  lineTotal : Count
  maxCounts : Tally String
  receipts : Tally Count
  maxSequenceNumber : Count

namespace Ledger

def empty : Ledger where
  lines := Tally.empty
  lineTotal := 0
  maxCounts := Tally.empty
  receipts := Tally.empty
  maxSequenceNumber := 0

instance : Inhabited Ledger := ⟨empty⟩

/-- An entry that ran into a full count, with the ledger as it was left. -/
structure Interrupted where
  cause : Overflow
  reached : Ledger

def record (ledger : Ledger) (r : Record) : Except Interrupted Ledger :=
  match ledger.lines.increment r.operator with
  | .error cause => .error ⟨cause, ledger⟩
  | .ok lines =>
    let ledger := { ledger with lines }
    match Count.add ledger.lineTotal 1 with
    | .error cause => .error ⟨cause, ledger⟩
    | .ok lineTotal =>
      let ledger := { ledger with
        lineTotal, maxCounts := ledger.maxCounts.raiseTo r.operator r.operatorCount }
      match ledger.receipts.increment r.sequenceNumber with
      | .error cause => .error ⟨cause, ledger⟩
      | .ok receipts =>
        .ok { ledger with
          receipts, maxSequenceNumber := max ledger.maxSequenceNumber r.sequenceNumber }

def recordAll (ledger : Ledger) (records : List Record) : Except Interrupted Ledger :=
  records.foldlM record ledger

end Ledger

end StreamAudit
