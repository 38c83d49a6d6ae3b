import StreamAudit.Audit
import StreamAudit.CommandLine
import StreamAudit.FileTree

/-!
# The program

From the arguments to the exit code and what is printed. A command line that
is not accepted gives the usage line and code 2. An input that cannot be opened
or has a line without a record gives code 1 and the chain of its causes, and no
report. Any other input gives code 0 and the report, consistent or not. A count
that no word holds, which takes more lines than a word counts, gives code 101.

A program meets its machine in two places: it opens a path and it prints on the
standard output, which may not take all that is printed. On the standard error
stand the causes of what went wrong and nothing else: no diagnostics and no traces
of calls, which an environment can ask for, and with code 101 only the words of
the cause, without what a run-time system writes around them.
-/

namespace StreamAudit

/-- Why the audit of a path gives no report. -/
inductive Failure where
  | cannotOpen (path : List UInt8) (cause : OpenError)
  | inLog (path : List UInt8) (cause : EntryError)
  | overflow (cause : Overflow)
  deriving DecidableEq, Repr

/-- The text of the failure and of each of its causes, outermost first. -/
def Failure.chain : Failure → List String
  | .cannotOpen path cause => ["open log file " ++ Text.Utf8.display path, cause.message]
  | .inLog path cause =>
    ["log parse error in " ++ Text.Utf8.display path, cause.message, cause.causeMessage]
  | .overflow cause => [cause.message]

/-- The report on what was opened for a path. A source that cannot be read fails
where its first line would be. -/
def auditSource (separator : String) (path : List UInt8) :
    Except OpenError Source → Except Failure Report
  | .error cause => .error (.cannotOpen path cause)
  | .ok (.unreadable error) => .error (.inLog path (.unreadable 1 (.system error)))
  | .ok (.content bytes) =>
    match audit separator bytes with
    | .ok report => .ok report
    | .error (.entry cause) => .error (.inLog path cause)
    | .error (.overflow cause) => .error (.overflow cause)

/-- What a run comes to before it prints. -/
inductive Verdict where
  | rejected
  | failed (failure : Failure)
  | reported (report : Report)
  deriving DecidableEq, Repr

def Verdict.ofAudit : Except Failure Report → Verdict
  | .error failure => .failed failure
  | .ok report => .reported report

/-- Comes to a verdict on the arguments. At most one path is opened, the one that
they name. -/
def verdict {m : Type → Type} [Monad m] (opener : List UInt8 → m (Except OpenError Source))
    (arguments : List (List UInt8)) : m Verdict :=
  match CommandLine.parse? arguments with
  | none => return .rejected
  | some invocation => do
    let opened ← opener invocation.input
    return .ofAudit (auditSource invocation.separator invocation.input opened)

/-- Why a text is not printed whole, and what is printed of it. -/
structure Stop where
  printed : String
  error : SystemError
  deriving DecidableEq, Repr

/-- What a program meets: what opening a path gives, and what stops the standard
output from taking a text, if anything does. -/
structure Machine where
  opened : List UInt8 → Except OpenError Source
  stop? : String → Option Stop

/-- A machine with these files and a standard output that nothing stops. -/
def FileSystem.machine (files : FileSystem) : Machine where
  opened := files.source
  stop? := fun _ => none

instance : Coe FileTree Machine := ⟨fun tree => tree.alone.machine⟩

structure Outcome where
  exitCode : Nat
  stdout : String
  stderr : String
  deriving DecidableEq, Repr

namespace Outcome

/-- The causes below the first text of a chain. One stands alone, more are
numbered from 0. -/
def causes : List String → List String
  | [] => []
  | [cause] => ["", "Caused by:", "    " ++ cause]
  | more => "" :: "Caused by:" :: more.mapIdx fun i cause =>
      "    " ++ Nat.repr i ++ ": " ++ cause

def chainText : List String → String
  | [] => ""
  | first :: rest => String.join ((("Error: " ++ first) :: causes rest).map (· ++ "\n"))

def rejected : Outcome := ⟨2, CommandLine.usage ++ "\n", ""⟩

end Outcome

namespace Verdict

/-- What is printed on the standard output. -/
def text : Verdict → String
  | .rejected => CommandLine.usage ++ "\n"
  | .failed _ => ""
  | .reported report => report.text

/-- How a run ends, by what stops its text. A report that is not printed whole is a
failure with one cause; a usage line that is not printed whole ends the run at once. -/
def outcome (stop? : String → Option Stop) (verdict : Verdict) : Outcome :=
  match verdict, stop? verdict.text with
  | .rejected, none => .rejected
  | .rejected, some stop =>
    ⟨101, stop.printed, "failed printing to stdout: " ++ stop.error.message ++ "\n"⟩
  | .failed (.overflow cause), _ => ⟨101, "", cause.message ++ "\n"⟩
  | .failed failure, _ => ⟨1, "", Outcome.chainText failure.chain⟩
  | .reported report, none => ⟨0, report.text, ""⟩
  | .reported _, some stop => ⟨1, stop.printed, Outcome.chainText [stop.error.message]⟩

/-- It matters only what stops the text that is printed. -/
theorem outcome_congr {verdict : Verdict} {stop? other? : String → Option Stop}
    (h : stop? verdict.text = other? verdict.text) :
    verdict.outcome stop? = verdict.outcome other? := by
  unfold outcome
  rw [h]

/-- The text is all that is printed on a standard output that nothing stops. -/
theorem stdout_outcome (verdict : Verdict) :
    (verdict.outcome fun _ => none).stdout = verdict.text := by
  cases verdict with
  | rejected => rfl
  | failed failure => cases failure <;> rfl
  | reported => rfl

end Verdict

def auditPath (machine : Machine) (separator : String) (path : List UInt8) :
    Except Failure Report :=
  auditSource separator path (machine.opened path)

/-- Runs the program on a machine. -/
def run (machine : Machine) (arguments : List (List UInt8)) : Outcome :=
  (Id.run (verdict machine.opened arguments)).outcome machine.stop?

end StreamAudit
