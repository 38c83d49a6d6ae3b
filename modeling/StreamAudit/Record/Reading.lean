import StreamAudit.Record
import StreamAudit.Text.Blank
import StreamAudit.Text.Quoted

/-!
# Reading a record from a line

A line holds a record when the separator cuts it into four fields, the second
and the fourth of which are numerals with blanks around them at most. Of two
faults the first in this order is told: the separator, the number of fields,
the sequence number, the operator count. Blanks around the operator's name are
dropped; the timestamp is kept verbatim.
-/

namespace StreamAudit

/-- The fields of a record that hold a number. -/
inductive NumericField where
  | sequenceNumber
  | operatorCount
  deriving DecidableEq, Repr

/-- The name of the field in messages. -/
def NumericField.name : NumericField → String
  | .sequenceNumber => "sequence number"
  | .operatorCount => "operator count"

/-- Why a line holds no record. -/
inductive RecordError where
  | emptySeparator
  | fieldCount (found : Nat)
  | notAnInteger (field : NumericField) (value : String)
  deriving DecidableEq, Repr

/-- The text of the error, with a faulty value in quotes. In the quotes these
characters are hidden besides the controls. -/
def RecordError.messageHiding (further : Char → Bool) : RecordError → String
  | .emptySeparator => "field separator must not be empty"
  | .fieldCount found => "expected 4 fields, found " ++ Nat.repr found
  | .notAnInteger field value =>
    field.name ++ " is not a non-negative integer: " ++
      String.ofList (Text.quote (Text.controlsAnd further) value.toList)

def RecordError.message : RecordError → String :=
  messageHiding Text.isHidden

namespace Record

/-- The count in a numeric field; blanks around it do not matter. -/
def readCount (field : NumericField) (text : List Char) : Except RecordError Count :=
  match Text.count? (Text.trim text) with
  | some n => .ok n
  | none => .error (.notAnInteger field (String.ofList (Text.trim text)))

/-- The record in a row of fields. -/
def ofFields : List (List Char) → Except RecordError Record
  | [timestamp, sequenceNumber, operator, operatorCount] => do
    let sequenceNumber ← readCount .sequenceNumber sequenceNumber
    let operatorCount ← readCount .operatorCount operatorCount
    return {
      timestamp := String.ofList timestamp
      sequenceNumber
      operator := String.ofList (Text.trim operator)
      operatorCount }
  | row => .error (.fieldCount row.length)

/-- The record in a line. -/
def ofLine (separator line : String) : Except RecordError Record :=
  if separator.isEmpty then
    .error .emptySeparator
  else
    ofFields (Text.fields separator.toList line.toList)

end Record

end StreamAudit
