import StreamAudit.Count
import StreamAudit.Text.Fields
import StreamAudit.Text.Numeral

/-!
# Records

What one line of a log says: when, which element of the stream, which
operator, and how many elements that operator has counted up to here. A record
is written as its four fields with a separator between them.
-/

namespace StreamAudit

/-- One line of a log. The timestamp is kept as it was written. -/
structure Record where
  timestamp : String
  sequenceNumber : Count
  operator : String
  operatorCount : Count
  deriving DecidableEq, Repr

namespace Record

/-- The four fields of a record, in the order in which they are written. -/
def toFields (r : Record) : List (List Char) :=
  [r.timestamp.toList, Text.decimal r.sequenceNumber.toNat, r.operator.toList,
    Text.decimal r.operatorCount.toNat]

def toLine (separator : String) (r : Record) : String :=
  String.ofList (Text.join separator.toList r.toFields)

end Record

end StreamAudit
