import StreamAudit.Program
import StreamAudit.Proofs.Audit.Stopping
import StreamAudit.Proofs.CommandLine.Acceptance
import StreamAudit.Proofs.FileTree.Opening
import StreamAudit.Proofs.Text.Display

/-!
# How a run ends

On a machine whose standard output takes every write a run ends in one of three
ways, each with its own exit code, and prints either to the standard output or to
the standard error, never to both. Which way it is depends on whether the command
line is accepted and on whether the path that it names leads to a log of records
only; it does not depend on what is found in these records. Nothing is assumed of
what opening a path gives, so it may depend on permissions, links and whatever else
a machine has.
-/

namespace StreamAudit

open CommandLine (Accepts)

/-- How the texts of a failure are printed, the outermost first. -/
inductive Outcome.Printed : List String → String → Prop
  | no_cause (error : String) : Printed [error] ("Error: " ++ error ++ "\n")
  | one_cause (context cause : String) :
      Printed [context, cause] ("Error: " ++ context ++ "\n\nCaused by:\n    " ++ cause ++ "\n")
  | two_causes (context error cause : String) :
      Printed [context, error, cause] ("Error: " ++ context ++ "\n\nCaused by:\n    0: " ++
        error ++ "\n    1: " ++ cause ++ "\n")

/-- The words for why a line holds no record. -/
inductive RecordError.Worded : RecordError → String → Prop
  | emptySeparator : Worded .emptySeparator "field separator must not be empty"
  | fieldCount (found : Nat) :
      Worded (.fieldCount found) ("expected 4 fields, found " ++ Nat.repr found)
  | sequenceNumber (value : String) :
      Worded (.notAnInteger .sequenceNumber value)
        ("sequence number is not a non-negative integer: " ++
          String.ofList (Text.quote (Text.controlsAnd Text.isHidden) value.toList))
  | operatorCount (value : String) :
      Worded (.notAnInteger .operatorCount value)
        ("operator count is not a non-negative integer: " ++
          String.ofList (Text.quote (Text.controlsAnd Text.isHidden) value.toList))

/-- Why an accepted invocation ends without a report: the path has a NUL byte, the
system does not open it, the system does not let it be read, or in what it holds the
first line without a record is not text or is malformed. -/
inductive Fails (machine : Machine) (invocation : Invocation) : List String → Prop
  | nulByte : machine.opened invocation.input = .error .nulByte →
      Fails machine invocation
        ["open log file " ++ Text.Utf8.display invocation.input,
          "file name contained an unexpected NUL byte"]
  | closed {description : String} {code : Nat} :
      machine.opened invocation.input = .error (.system ⟨description, code⟩) →
      Fails machine invocation
        ["open log file " ++ Text.Utf8.display invocation.input,
          description ++ " (os error " ++ Nat.repr code ++ ")"]
  | unreadable {description : String} {code : Nat} :
      machine.opened invocation.input = .ok (.unreadable ⟨description, code⟩) →
      Fails machine invocation
        ["log parse error in " ++ Text.Utf8.display invocation.input, "read error at line 1",
          description ++ " (os error " ++ Nat.repr code ++ ")"]
  | notText {bytes : List UInt8} {records : List Record}
      {rest : List (Except EntryError Record)} :
      machine.opened invocation.input = .ok (.content bytes) →
      Log.entries invocation.separator bytes =
        records.map .ok ++ .error (.unreadable (records.length + 1) .invalidUtf8) :: rest →
      Fails machine invocation
        ["log parse error in " ++ Text.Utf8.display invocation.input,
          "read error at line " ++ Nat.repr (records.length + 1),
          "stream did not contain valid UTF-8"]
  | malformed {bytes : List UInt8} {records : List Record} {cause : RecordError}
      {rest : List (Except EntryError Record)} {text : String} :
      machine.opened invocation.input = .ok (.content bytes) →
      Log.entries invocation.separator bytes =
        records.map .ok ++ .error (.malformed (records.length + 1) cause) :: rest →
      RecordError.Worded cause text →
      Fails machine invocation
        ["log parse error in " ++ Text.Utf8.display invocation.input,
          "malformed line " ++ Nat.repr (records.length + 1), text]

/-- A run on the arguments ends in this way. -/
inductive Ends (machine : Machine) (arguments : List (List UInt8)) : Outcome → Prop
  | rejected : (∀ invocation, ¬ Accepts arguments invocation) →
      Ends machine arguments
        ⟨2, "Usage: parallel-log-verify <inputfile> [--separator=<sep>]\n", ""⟩
  | failed {invocation : Invocation} {chain : List String} {printed : String} :
      Accepts arguments invocation → Fails machine invocation chain →
      Outcome.Printed chain printed → Ends machine arguments ⟨1, "", printed⟩
  | reported {invocation : Invocation} {bytes : List UInt8} {report : Report} :
      Accepts arguments invocation → machine.opened invocation.input = .ok (.content bytes) →
      audit invocation.separator bytes = .ok report →
      Ends machine arguments ⟨0, report.text, ""⟩

/-- Nothing stops the standard output. -/
def Machine.TakesEveryWrite (machine : Machine) : Prop :=
  ∀ text, machine.stop? text = none

/-! ## Failures -/

theorem Outcome.Printed.chainText_eq {chain : List String} {printed : String}
    (h : Outcome.Printed chain printed) : Outcome.chainText chain = printed := by
  have hzero : Nat.repr 0 = "0" := rfl
  have hone : Nat.repr 1 = "1" := rfl
  apply String.toList_injective
  cases h <;> simp [chainText, causes, String.join, hzero, hone]

theorem RecordError.worded_message (e : RecordError) : e.Worded e.message := by
  cases e with
  | emptySeparator => exact .emptySeparator
  | fieldCount found => exact .fieldCount found
  | notAnInteger field value =>
    cases field with
    | sequenceNumber => exact .sequenceNumber value
    | operatorCount => exact .operatorCount value

theorem RecordError.Worded.message_eq {e : RecordError} {text : String} (h : e.Worded text) :
    e.message = text := by
  cases h <;> rfl

variable {machine : Machine} {arguments : List (List UInt8)}

theorem Fails.exists_printed {invocation : Invocation} {chain : List String}
    (h : Fails machine invocation chain) : ∃ printed, Outcome.Printed chain printed := by
  cases h with
  | nulByte => exact ⟨_, .one_cause _ _⟩
  | closed => exact ⟨_, .one_cause _ _⟩
  | unreadable => exact ⟨_, .two_causes _ _ _⟩
  | notText => exact ⟨_, .two_causes _ _ _⟩
  | malformed => exact ⟨_, .two_causes _ _ _⟩

/-- The first entry tells the path, which is shown as it is if it is a text. There are
two entries if the path cannot be opened, and three if there is no report on what it
leads to. -/
theorem Fails.context {invocation : Invocation} {chain : List String} {path : String}
    (h : Fails machine invocation chain) (hpath : invocation.input = Text.Utf8.encode path) :
    (chain.length = 2 ∧ chain.head? = some ("open log file " ++ path) ∧
      ∃ cause, machine.opened invocation.input = .error cause) ∨
    (chain.length = 3 ∧ chain.head? = some ("log parse error in " ++ path) ∧
      ∃ source, machine.opened invocation.input = .ok source) := by
  have hshown : Text.Utf8.display invocation.input = path := by
    rw [hpath, Text.Utf8.display_encode]
  cases h with
  | nulByte hopened => exact .inl ⟨rfl, by rw [hshown]; rfl, _, hopened⟩
  | closed hopened => exact .inl ⟨rfl, by rw [hshown]; rfl, _, hopened⟩
  | unreadable hopened => exact .inr ⟨rfl, by rw [hshown]; rfl, _, hopened⟩
  | notText hopened => exact .inr ⟨rfl, by rw [hshown]; rfl, _, hopened⟩
  | malformed hopened => exact .inr ⟨rfl, by rw [hshown]; rfl, _, hopened⟩

theorem run_of_accepts {invocation : Invocation} (h : Accepts arguments invocation) :
    run machine arguments =
      (Verdict.ofAudit (auditPath machine invocation.separator invocation.input)).outcome
        machine.stop? := by
  simp only [run, verdict, h.parse?_eq]
  rfl

theorem run_of_not_accepts (h : ∀ invocation, ¬ Accepts arguments invocation) :
    run machine arguments = Verdict.rejected.outcome machine.stop? := by
  simp only [run, verdict, CommandLine.parse?_eq_none_iff.mpr h]
  rfl

section Room

variable (hroom : ∀ path bytes, machine.opened path = .ok (.content bytes) →
  (Log.lines bytes).length < UInt64.size)
include hroom

/-- Where a word can number the lines of whatever is opened, an invocation fails or
gives a report. -/
theorem fails_or_audit (invocation : Invocation) :
    (∃ chain, Fails machine invocation chain) ∨
      ∃ bytes report, machine.opened invocation.input = .ok (.content bytes) ∧
        audit invocation.separator bytes = .ok report := by
  cases hopened : machine.opened invocation.input with
  | error cause =>
    cases cause with
    | nulByte => exact .inl ⟨_, .nulByte hopened⟩
    | system error => exact .inl ⟨_, .closed hopened⟩
  | ok source =>
    cases source with
    | unreadable error => exact .inl ⟨_, .unreadable hopened⟩
    | content bytes =>
      cases haudit : audit invocation.separator bytes with
      | ok report => exact .inr ⟨bytes, report, rfl, haudit⟩
      | error error =>
        have hlines := hroom _ bytes hopened
        obtain ⟨cause, records, rest, _, hread⟩ := (audit_eq_error_iff hlines).mp haudit
        -- the first error has the number after those of the records before it
        have hline := Log.line_of_first_error hread
        cases cause with
        | unreadable line cause =>
          obtain rfl : line = records.length + 1 := hline
          obtain rfl := Log.cause_of_unreadable (hread ▸ List.mem_append_cons_self)
          exact .inl ⟨_, .notText hopened hread⟩
        | malformed line cause =>
          obtain rfl : line = records.length + 1 := hline
          exact .inl ⟨_, .malformed hopened hread cause.worded_message⟩

theorem auditPath_of_first_error {separator : String} {path bytes : List UInt8}
    {records : List Record} {error : EntryError} {rest : List (Except EntryError Record)}
    (hopened : machine.opened path = .ok (.content bytes))
    (hread : Log.entries separator bytes = records.map .ok ++ .error error :: rest) :
    auditPath machine separator path = .error (.inLog path error) := by
  rw [auditPath, hopened, auditSource, audit_of_first_error (hroom path bytes hopened) hread]

theorem Fails.outcome_eq {invocation : Invocation} {chain : List String}
    (h : Fails machine invocation chain) :
    (Verdict.ofAudit (auditPath machine invocation.separator invocation.input)).outcome
        machine.stop? = ⟨1, "", Outcome.chainText chain⟩ := by
  cases h with
  | nulByte hopened =>
    rw [auditPath, hopened]
    rfl
  | closed hopened =>
    rw [auditPath, hopened]
    rfl
  | unreadable hopened =>
    rw [auditPath, hopened]
    rfl
  | notText hopened hread =>
    rw [auditPath_of_first_error hroom hopened hread]
    rfl
  | malformed hopened hread hworded =>
    rw [auditPath_of_first_error hroom hopened hread, ← hworded.message_eq]
    rfl

theorem exists_ends (arguments : List (List UInt8)) :
    ∃ outcome, Ends machine arguments outcome := by
  by_cases haccepts : ∃ invocation, Accepts arguments invocation
  · obtain ⟨invocation, hinvocation⟩ := haccepts
    obtain ⟨chain, hfails⟩ | ⟨bytes, report, hopened, haudit⟩ := fails_or_audit hroom invocation
    · obtain ⟨printed, hprinted⟩ := hfails.exists_printed
      exact ⟨_, .failed hinvocation hfails hprinted⟩
    · exact ⟨_, .reported hinvocation hopened haudit⟩
  · exact ⟨_, .rejected (not_exists.mp haccepts)⟩

end Room

/-! ## A standard output that stops -/

section Stopped

variable {printed description : String} {code : Nat}

theorem run_of_stopped_usage (hnone : ∀ invocation, ¬ Accepts arguments invocation)
    (hstop : machine.stop? "Usage: parallel-log-verify <inputfile> [--separator=<sep>]\n" =
      some ⟨printed, description, code⟩) :
    run machine arguments = ⟨101, printed,
      "failed printing to stdout: " ++ (description ++ " (os error " ++ Nat.repr code ++ ")") ++
        "\n"⟩ := by
  have hend : Verdict.rejected.outcome machine.stop? =
      Verdict.rejected.outcome fun _ => some ⟨printed, description, code⟩ :=
    Verdict.outcome_congr hstop
  rw [run_of_not_accepts hnone, hend]
  rfl

/-- Part of a report is printed before a failure if the standard output stops. The
failure then has no cause besides what the system says. -/
theorem run_of_stopped_report {invocation : Invocation} {bytes : List UInt8} {report : Report}
    (haccepts : Accepts arguments invocation)
    (hopened : machine.opened invocation.input = .ok (.content bytes))
    (haudit : audit invocation.separator bytes = .ok report)
    (hstop : machine.stop? report.text = some ⟨printed, description, code⟩) :
    run machine arguments = ⟨1, printed,
      "Error: " ++ (description ++ " (os error " ++ Nat.repr code ++ ")") ++ "\n"⟩ := by
  have hend : (Verdict.reported report).outcome machine.stop? =
      (Verdict.reported report).outcome fun _ => some ⟨printed, description, code⟩ :=
    Verdict.outcome_congr hstop
  rw [run_of_accepts haccepts, auditPath, hopened, auditSource, haudit, Verdict.ofAudit, hend,
    ← (Outcome.Printed.no_cause _).chainText_eq]
  rfl

end Stopped

/-! ## A standard output that takes every write -/

section Whole

variable (hstdout : machine.TakesEveryWrite)
include hstdout

theorem outcome_of_takes (verdict : Verdict) :
    verdict.outcome machine.stop? = verdict.outcome fun _ => none :=
  Verdict.outcome_congr (hstdout verdict.text)

theorem run_rejected (hnone : ∀ invocation, ¬ Accepts arguments invocation) :
    run machine arguments =
      ⟨2, "Usage: parallel-log-verify <inputfile> [--separator=<sep>]\n", ""⟩ := by
  rw [run_of_not_accepts hnone, outcome_of_takes hstdout]
  rfl

variable (hroom : ∀ path bytes, machine.opened path = .ok (.content bytes) →
  (Log.lines bytes).length < UInt64.size)
include hroom

variable {outcome : Outcome}

theorem Ends.run_eq (h : Ends machine arguments outcome) : run machine arguments = outcome := by
  cases h with
  | rejected hnone => exact run_rejected hstdout hnone
  | failed haccepts hfails hprinted =>
    rw [run_of_accepts haccepts, hfails.outcome_eq hroom, hprinted.chainText_eq]
  | reported haccepts hopened haudit =>
    rw [run_of_accepts haccepts, auditPath, hopened, auditSource, haudit, Verdict.ofAudit,
      outcome_of_takes hstdout]
    rfl

theorem run_eq_iff_ends : run machine arguments = outcome ↔ Ends machine arguments outcome := by
  constructor
  · intro h
    obtain ⟨other, hother⟩ := exists_ends hroom arguments
    rwa [← h, hother.run_eq hstdout hroom]
  · exact Ends.run_eq hstdout hroom

theorem ends_run (arguments : List (List UInt8)) :
    Ends machine arguments (run machine arguments) :=
  (run_eq_iff_ends hstdout hroom).mp rfl

theorem exitCode_eq_two_iff :
    (run machine arguments).exitCode = 2 ↔ ∀ invocation, ¬ Accepts arguments invocation := by
  constructor
  · intro h
    have hends := ends_run hstdout hroom arguments
    generalize run machine arguments = outcome at h hends
    cases hends with
    | rejected hnone => exact hnone
    | failed => cases h
    | reported => cases h
  · intro hnone
    rw [run_rejected hstdout hnone]

theorem exitCode_eq_one_iff :
    (run machine arguments).exitCode = 1 ↔
      ∃ invocation chain, Accepts arguments invocation ∧ Fails machine invocation chain := by
  constructor
  · intro h
    have hends := ends_run hstdout hroom arguments
    generalize run machine arguments = outcome at h hends
    cases hends with
    | rejected => cases h
    | failed haccepts hfails => exact ⟨_, _, haccepts, hfails⟩
    | reported => cases h
  · intro h
    obtain ⟨invocation, chain, haccepts, hfails⟩ := h
    obtain ⟨printed, hprinted⟩ := hfails.exists_printed
    rw [(Ends.failed haccepts hfails hprinted).run_eq hstdout hroom]

theorem exitCode_eq_zero_iff :
    (run machine arguments).exitCode = 0 ↔
      ∃ invocation, Accepts arguments invocation ∧ ∀ chain, ¬ Fails machine invocation chain := by
  constructor
  · intro h
    by_cases haccepts : ∃ invocation, Accepts arguments invocation
    · obtain ⟨invocation, hinvocation⟩ := haccepts
      refine ⟨invocation, hinvocation, fun chain hfails => ?_⟩
      have hone := (exitCode_eq_one_iff hstdout hroom).mpr ⟨invocation, chain, hinvocation, hfails⟩
      rw [h] at hone
      cases hone
    · have htwo := (exitCode_eq_two_iff hstdout hroom).mpr (not_exists.mp haccepts)
      rw [h] at htwo
      cases htwo
  · intro h
    obtain ⟨invocation, haccepts, hnone⟩ := h
    obtain ⟨chain, hfails⟩ | ⟨bytes, report, hopened, haudit⟩ := fails_or_audit hroom invocation
    · exact absurd hfails (hnone chain)
    · rw [(Ends.reported haccepts hopened haudit).run_eq hstdout hroom]

end Whole

/-- On a machine whose standard output takes every write, and where a word can number
the lines of whatever is opened, every run ends in one way, and that way is told by
what the command line asks for and what it leads to. The exit code is 2 exactly if
the command line is not accepted, 1 exactly if what it asks for fails, and 0
otherwise. The chain of a failure has two entries if the path cannot be opened and
three if it can, and the first tells the path. A command line that is not accepted
ends a run in the same way on any other machine. -/
theorem run_ends (machine : Machine) (arguments : List (List UInt8))
    (hstdout : machine.TakesEveryWrite)
    (hroom : ∀ path bytes, machine.opened path = .ok (.content bytes) →
      (Log.lines bytes).length < UInt64.size) :
    (∀ outcome, run machine arguments = outcome ↔ Ends machine arguments outcome) ∧
    ((run machine arguments).exitCode = 2 ↔ ∀ invocation, ¬ Accepts arguments invocation) ∧
    ((run machine arguments).exitCode = 1 ↔
      ∃ invocation chain, Accepts arguments invocation ∧ Fails machine invocation chain) ∧
    ((run machine arguments).exitCode = 0 ↔
      ∃ invocation, Accepts arguments invocation ∧ ∀ chain, ¬ Fails machine invocation chain) ∧
    (∀ invocation chain path, Fails machine invocation chain →
      invocation.input = Text.Utf8.encode path →
      (chain.length = 2 ∧ chain.head? = some ("open log file " ++ path) ∧
        ∃ cause, machine.opened invocation.input = .error cause) ∨
      (chain.length = 3 ∧ chain.head? = some ("log parse error in " ++ path) ∧
        ∃ source, machine.opened invocation.input = .ok source)) ∧
    ((∀ invocation, ¬ Accepts arguments invocation) →
      ∀ other : Machine, other.TakesEveryWrite → run other arguments = run machine arguments) := by
  refine ⟨fun _ => run_eq_iff_ends hstdout hroom, exitCode_eq_two_iff hstdout hroom,
    exitCode_eq_one_iff hstdout hroom, exitCode_eq_zero_iff hstdout hroom,
    fun _ _ _ => Fails.context, ?_⟩
  intro hnone other hother
  rw [run_rejected hother hnone, run_rejected hstdout hnone]

/-- Three logs in a working directory below the root. One lacks a record, one has a
line that is no text, and one has a number with a line separator in it. -/
def FileSystem.threeLogs : FileSystem where
  root := .directory [(Text.Utf8.encode "logs", .directory
    [(Text.Utf8.encode "out.csv", .file (Text.Utf8.encode "t,1,a,1\n")),
      (Text.Utf8.encode "raw.csv", .file (Text.Utf8.encode "t,1,a,1\nt,2,a," ++ [0xFF, 0x0A])),
      (Text.Utf8.encode "odd.csv", .file (Text.Utf8.encode "t,1\u20282,a,1"))])]
  workingDirectory := [Text.Utf8.encode "logs"]

/-- A report on a path that goes up and down again; a log that is cut at another
separator, by its path from the root; a number that is none; a line that is no text;
a directory; a name that nothing has and that is no text; no arguments. -/
theorem run_ends_threeLogs :
    FileSystem.threeLogs.machine.TakesEveryWrite ∧
    (∀ path bytes, FileSystem.threeLogs.machine.opened path = .ok (.content bytes) →
      (Log.lines bytes).length < UInt64.size) ∧
    Ends FileSystem.threeLogs.machine [Text.Utf8.encode "..//logs/out.csv"]
      ⟨0, "number of lines does not match counted elements: total lines 1, expected 2 " ++
        "((max sequence number 1 + 1) * 1 sources)\nSaw 1 lines\n", ""⟩ ∧
    Ends FileSystem.threeLogs.machine
      [Text.Utf8.encode "/logs/out.csv", Text.Utf8.encode "--", Text.Utf8.encode "--separator=;"]
      ⟨1, "", "Error: log parse error in /logs/out.csv\n\nCaused by:\n" ++
        "    0: malformed line 1\n    1: expected 4 fields, found 1\n"⟩ ∧
    Ends FileSystem.threeLogs.machine [Text.Utf8.encode "odd.csv"]
      ⟨1, "", "Error: log parse error in odd.csv\n\nCaused by:\n    0: malformed line 1\n" ++
        "    1: sequence number is not a non-negative integer: \"1\\u\x7b2028\x7d2\"\n"⟩ ∧
    Ends FileSystem.threeLogs.machine [Text.Utf8.encode "raw.csv"]
      ⟨1, "", "Error: log parse error in raw.csv\n\nCaused by:\n" ++
        "    0: read error at line 2\n    1: stream did not contain valid UTF-8\n"⟩ ∧
    Ends FileSystem.threeLogs.machine [Text.Utf8.encode "."]
      ⟨1, "", "Error: log parse error in .\n\nCaused by:\n" ++
        "    0: read error at line 1\n    1: Is a directory (os error 21)\n"⟩ ∧
    Ends FileSystem.threeLogs.machine [Text.Utf8.encode "out" ++ [0xC3]]
      ⟨1, "", "Error: open log file out\uFFFD\n\nCaused by:\n" ++
        "    No such file or directory (os error 2)\n"⟩ ∧
    Ends FileSystem.threeLogs.machine []
      ⟨2, "Usage: parallel-log-verify <inputfile> [--separator=<sep>]\n", ""⟩ := by
  have hstdout : FileSystem.threeLogs.machine.TakesEveryWrite := fun _ => rfl
  have hroom : ∀ path bytes, FileSystem.threeLogs.machine.opened path = .ok (.content bytes) →
      (Log.lines bytes).length < UInt64.size := by
    intro path bytes h
    have hwithin := FileSystem.within_of_source h
    simp only [FileSystem.threeLogs, FileTree.within_directory_iff, reduceCtorEq, List.mem_cons,
      List.not_mem_nil, or_false, false_or, exists_eq_or_imp, exists_eq_left,
      FileTree.within_file_iff, FileTree.file.injEq] at hwithin
    rcases hwithin with rfl | rfl | rfl <;> decide +kernel
  obtain ⟨hreport, _⟩ := run_ends _ [Text.Utf8.encode "..//logs/out.csv"] hstdout hroom
  obtain ⟨hmalformed, _⟩ := run_ends _ [Text.Utf8.encode "/logs/out.csv", Text.Utf8.encode "--",
    Text.Utf8.encode "--separator=;"] hstdout hroom
  obtain ⟨hodd, _⟩ := run_ends _ [Text.Utf8.encode "odd.csv"] hstdout hroom
  obtain ⟨hraw, _⟩ := run_ends _ [Text.Utf8.encode "raw.csv"] hstdout hroom
  obtain ⟨hdirectory, _⟩ := run_ends _ [Text.Utf8.encode "."] hstdout hroom
  obtain ⟨habsent, _⟩ := run_ends _ [Text.Utf8.encode "out" ++ [0xC3]] hstdout hroom
  obtain ⟨hempty, _⟩ := run_ends _ [] hstdout hroom
  refine ⟨hstdout, hroom, (hreport _).mp ?_, (hmalformed _).mp ?_, (hodd _).mp ?_,
    (hraw _).mp ?_, (hdirectory _).mp ?_, (habsent _).mp ?_, (hempty _).mp ?_⟩ <;>
    decide +kernel

end StreamAudit
