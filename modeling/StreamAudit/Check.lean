import StreamAudit.Ledger
import StreamAudit.Report

/-!
# Checks

The four checks on a finished ledger. None looks at what another found. The
number of sources is the number of receipts of sequence number 1, and sequence
numbers start at 0, so the lines should number the highest sequence number
plus one for each source; this product is exact. The one thing that can go
wrong is the sum over all operators.
-/

namespace StreamAudit.Ledger

def parallelism (ledger : Ledger) : Count :=
  ledger.receipts.get 1

/-- Operators whose highest claim is not the number of their lines, by name. -/
def operatorFindings (ledger : Ledger) : List Finding :=
  ledger.maxCounts.entries.filterMap fun (operator, maxReported) =>
    let linesSeen := ledger.lines.get operator
    if maxReported = linesSeen then none
    else some (.operatorCount operator maxReported linesSeen)

/-- Sequence numbers that were not received as often as expected, ascending. -/
def receiptFindings (ledger : Ledger) (expected : Count) : List Finding :=
  ledger.receipts.entries.filterMap fun (sequenceNumber, received) =>
    if received = expected then none
    else some (.sequenceReceipts sequenceNumber received expected)

/-- The number of lines that the range of sequence numbers asks for. -/
def expectedTotal (ledger : Ledger) (parallelism : Count) : Nat :=
  (ledger.maxSequenceNumber.toNat + 1) * parallelism.toNat

/-- Whether the lines are as many as the range of sequence numbers asks for. -/
def rangeFinding? (ledger : Ledger) (parallelism : Count) : Option Finding :=
  let expectedTotal := ledger.expectedTotal parallelism
  if ledger.lineTotal.toNat = expectedTotal then none
  else some (.totalVsRange ledger.lineTotal expectedTotal ledger.maxSequenceNumber parallelism)

/-- Whether the lines are as many as the lines of all operators together. -/
def operatorSumFinding? (ledger : Ledger) : Except Overflow (Option Finding) :=
  match ledger.lines.total with
  | .error overflow => .error overflow
  | .ok perOperatorSum =>
    .ok (if ledger.lineTotal = perOperatorSum then none
      else some (.totalVsOperators ledger.lineTotal perOperatorSum ledger.lines.keys))

def report (ledger : Ledger) : Except Overflow Report :=
  match ledger.operatorSumFinding? with
  | .error overflow => .error overflow
  | .ok operatorSumFinding? =>
    let parallelism := ledger.parallelism
    .ok {
      findings := ledger.operatorFindings ++ ledger.receiptFindings parallelism ++
        (ledger.rangeFinding? parallelism).toList ++ operatorSumFinding?.toList
      parallelism
      totalLines := ledger.lineTotal }

end StreamAudit.Ledger
