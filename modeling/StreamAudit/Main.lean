import StreamAudit.Program

/-!
# The command

Runs the program on the files of the machine. Nothing is decided here: the program
comes to its verdict and makes the outcome of it, and what it asks for is done,
one path opened and one text printed.
-/

namespace StreamAudit

/-- What the operating system says in a failed action. -/
def SystemError.ofFailure : IO.Error → SystemError
  | .alreadyExists _ code details => ⟨details, code.toNat⟩
  | .otherError code details => ⟨details, code.toNat⟩
  | .resourceBusy code details => ⟨details, code.toNat⟩
  | .resourceVanished code details => ⟨details, code.toNat⟩
  | .unsupportedOperation code details => ⟨details, code.toNat⟩
  | .hardwareFault code details => ⟨details, code.toNat⟩
  | .unsatisfiedConstraints code details => ⟨details, code.toNat⟩
  | .illegalOperation code details => ⟨details, code.toNat⟩
  | .protocolError code details => ⟨details, code.toNat⟩
  | .timeExpired code details => ⟨details, code.toNat⟩
  | .interrupted _ code details => ⟨details, code.toNat⟩
  | .noFileOrDirectory _ code details => ⟨details, code.toNat⟩
  | .invalidArgument _ code details => ⟨details, code.toNat⟩
  | .permissionDenied _ code details => ⟨details, code.toNat⟩
  | .resourceExhausted _ code details => ⟨details, code.toNat⟩
  | .inappropriateType _ code details => ⟨details, code.toNat⟩
  | .noSuchThing _ code details => ⟨details, code.toNat⟩
  | .unexpectedEof => ⟨"unexpected end of file", 0⟩
  | .userError details => ⟨details, 0⟩

def readSource (handle : IO.FS.Handle) : IO Source := do
  match ← handle.readBinToEnd.toBaseIO with
  | .ok bytes => return .content bytes.toList
  | .error failure => return .unreadable (.ofFailure failure)

def openSource (path : List UInt8) : IO (Except OpenError Source) := do
  match ← (IO.FS.Handle.mk (Text.Utf8.display path) .read).toBaseIO with
  | .ok handle => return .ok (← readSource handle)
  | .error failure => return .error (.system (.ofFailure failure))

def printWhole (text : String) : IO Unit := do
  let stdout ← IO.getStdout
  stdout.putStr text
  stdout.flush

/-- Prints a text and gives what stopped it. How much of it was printed before is
not known here. -/
def print (text : String) : IO (Option Stop) := do
  match ← (printWhole text).toBaseIO with
  | .ok _ => return none
  | .error failure => return some ⟨"", .ofFailure failure⟩

/-- Runs the program on the files of the machine. -/
def runOnMachine (arguments : List String) : IO Outcome := do
  let verdict ← verdict openSource (arguments.map Text.Utf8.encode)
  let stop ← print verdict.text
  return verdict.outcome fun _ => stop

end StreamAudit

/-- Runs the program, says what went wrong and hands on the exit code. -/
def main (arguments : List String) : IO UInt32 := do
  let outcome ← StreamAudit.runOnMachine arguments
  let _ ← (IO.eprint outcome.stderr).toBaseIO
  return outcome.exitCode.toUInt32
