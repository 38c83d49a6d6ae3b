import StreamAudit.Finding

/-!
# Reports

The outcome of the checks: the findings in the order of the checks, the number
of sources and the number of lines. The text has one line for each finding and
a last one that tells the number of lines.
-/

namespace StreamAudit

structure Report where
  findings : List Finding
  parallelism : Count
  totalLines : Count
  deriving DecidableEq, Repr

namespace Report

/-- A log is consistent when nothing was found. -/
def isConsistent (r : Report) : Bool :=
  r.findings.isEmpty

def summary (r : Report) : String :=
  "Saw " ++ Count.text r.totalLines ++ " lines"

/-- The lines of the text, without their ends. -/
def textLines (r : Report) : List String :=
  r.findings.map Finding.text ++ [r.summary]

/-- The text, each line with its end. -/
def text (r : Report) : String :=
  String.join (r.textLines.map (· ++ "\n"))

end Report

end StreamAudit
