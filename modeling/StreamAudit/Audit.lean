import StreamAudit.Check

/-!
# Audits

An audit enters the entries of a log in a ledger, in their order, and reports
on the ledger. The first line without a record ends it, whatever follows; so
does a count that no word holds.
-/

namespace StreamAudit

/-- Why an audit ends without a report. -/
inductive AuditError where
  | entry (error : EntryError)
  | overflow (error : Overflow)
  deriving DecidableEq, Repr

namespace Ledger

def enter (ledger : Ledger) (entry : Except EntryError Record) : Except AuditError Ledger :=
  match entry with
  | .error error => .error (.entry error)
  | .ok r =>
    match ledger.record r with
    | .error interrupted => .error (.overflow interrupted.cause)
    | .ok ledger => .ok ledger

/-- Enters the lines of a log up to the first without a record. -/
def enterAll (ledger : Ledger) (entries : List (Except EntryError Record)) :
    Except AuditError Ledger :=
  entries.foldlM enter ledger

def ofLog (separator : String) (bytes : List UInt8) : Except AuditError Ledger :=
  empty.enterAll (Log.entries separator bytes)

end Ledger

def audit (separator : String) (bytes : List UInt8) : Except AuditError Report :=
  match Ledger.ofLog separator bytes with
  | .error error => .error error
  | .ok ledger =>
    match ledger.report with
    | .error overflow => .error (.overflow overflow)
    | .ok report => .ok report

end StreamAudit
