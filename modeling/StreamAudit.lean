import StreamAudit.Audit
import StreamAudit.Check
import StreamAudit.CommandLine
import StreamAudit.Count
import StreamAudit.FileTree
import StreamAudit.Finding
import StreamAudit.Ledger
import StreamAudit.Log
import StreamAudit.Main
import StreamAudit.Program
import StreamAudit.Proofs.Audit.Arithmetic
import StreamAudit.Proofs.Audit.Composition
import StreamAudit.Proofs.Audit.Consistency
import StreamAudit.Proofs.Audit.Order
import StreamAudit.Proofs.Audit.Reading
import StreamAudit.Proofs.Audit.Spelling
import StreamAudit.Proofs.Audit.Stopping
import StreamAudit.Proofs.Census
import StreamAudit.Proofs.Census.Claims
import StreamAudit.Proofs.Census.Coverage
import StreamAudit.Proofs.Census.Loss
import StreamAudit.Proofs.Census.Stray
import StreamAudit.Proofs.CommandLine.Acceptance
import StreamAudit.Proofs.CommandLine.Separator
import StreamAudit.Proofs.FileTree.Changes
import StreamAudit.Proofs.FileTree.Opening
import StreamAudit.Proofs.Ledger.Agreement
import StreamAudit.Proofs.Ledger.Balance
import StreamAudit.Proofs.Ledger.Findings
import StreamAudit.Proofs.Ledger.Interruption
import StreamAudit.Proofs.Log.Entries
import StreamAudit.Proofs.Log.Lines
import StreamAudit.Proofs.Log.Locality
import StreamAudit.Proofs.Log.Names
import StreamAudit.Proofs.Log.Pieces
import StreamAudit.Proofs.Log.Returns
import StreamAudit.Proofs.Log.Rows
import StreamAudit.Proofs.Log.Writing
import StreamAudit.Proofs.Program.Machines
import StreamAudit.Proofs.Program.Messages
import StreamAudit.Proofs.Program.Outcomes
import StreamAudit.Proofs.Record.Grammar
import StreamAudit.Proofs.Record.Padding
import StreamAudit.Proofs.Record.RoundTrip
import StreamAudit.Proofs.Record.Stability
import StreamAudit.Proofs.Record.Trailing
import StreamAudit.Proofs.Report.Contents
import StreamAudit.Proofs.Report.Faults
import StreamAudit.Proofs.Report.Framing
import StreamAudit.Proofs.Report.Losses
import StreamAudit.Proofs.Report.Miscounts
import StreamAudit.Proofs.Report.StrayRecords
import StreamAudit.Proofs.Report.Wording
import StreamAudit.Proofs.Tally
import StreamAudit.Proofs.Tally.Changes
import StreamAudit.Proofs.Tally.Histories
import StreamAudit.Proofs.Tally.Operations
import StreamAudit.Proofs.Text.Cutting
import StreamAudit.Proofs.Text.Display
import StreamAudit.Proofs.Text.Encoding
import StreamAudit.Proofs.Text.Numerals
import StreamAudit.Proofs.Text.Occurrences
import StreamAudit.Proofs.Text.Padding
import StreamAudit.Proofs.Text.Quoting
import StreamAudit.Proofs.Text.Trimming
import StreamAudit.Record
import StreamAudit.Record.Reading
import StreamAudit.Report
import StreamAudit.Tally
import StreamAudit.Tally.Lemmas
import StreamAudit.Text.Blank
import StreamAudit.Text.Characters
import StreamAudit.Text.Fields
import StreamAudit.Text.Numeral
import StreamAudit.Text.Quoted
import StreamAudit.Text.Utf8
