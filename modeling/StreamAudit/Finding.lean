import StreamAudit.Count
import StreamAudit.Text.Numeral

/-!
# Findings

One disagreement between the accumulated counts of a log, with the numbers
that disagree. Each has one line of text. The number of lines expected from
the range of sequence numbers can exceed a word, so it is a natural number.
-/

namespace StreamAudit

inductive Finding where
  /-- The highest count that an operator claims is not the number of its lines. -/
  | operatorCount (operator : String) (maxReported linesSeen : Count)
  /-- A sequence number was not received once from each source. -/
  | sequenceReceipts (sequenceNumber received expected : Count)
  /-- The lines are not as many as the range of sequence numbers asks for. -/
  | totalVsRange (totalLines : Count) (expectedTotal : Nat)
      (maxSequenceNumber parallelism : Count)
  /-- The lines are not as many as the lines of all operators together. -/
  | totalVsOperators (totalLines perOperatorSum : Count) (operators : List String)
  deriving DecidableEq, Repr

def Count.text (n : Count) : String :=
  String.ofList (Text.decimal n.toNat)

/-- The line of text for a finding, without its end. -/
def Finding.text : Finding → String
  | .operatorCount operator maxReported linesSeen =>
    "operator '" ++ operator ++ "' count does not match: max reported " ++ maxReported.text ++
      ", lines seen " ++ linesSeen.text
  | .sequenceReceipts sequenceNumber received expected =>
    "sequence number " ++ sequenceNumber.text ++
      " has not been received by all sources: received " ++ received.text ++
      ", sources " ++ expected.text
  | .totalVsRange totalLines expectedTotal maxSequenceNumber parallelism =>
    "number of lines does not match counted elements: total lines " ++ totalLines.text ++
      ", expected " ++ String.ofList (Text.decimal expectedTotal) ++
      " ((max sequence number " ++ maxSequenceNumber.text ++ " + 1) * " ++ parallelism.text ++
      " sources)"
  | .totalVsOperators totalLines perOperatorSum operators =>
    "number of lines does not match counted elements per operator: total lines " ++
      totalLines.text ++ ", per-operator sum " ++ perOperatorSum.text ++
      ", saw operators [" ++ ", ".intercalate operators ++ "]"

end StreamAudit
