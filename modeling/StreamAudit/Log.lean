import StreamAudit.Record.Reading
import StreamAudit.Text.Utf8

/-!
# Logs

A log is a sequence of bytes. Its lines end at line feeds; one carriage return
directly before a line feed belongs to the ending. A last line needs no ending
and then keeps a carriage return; after a final line feed there is no further
line. An entry is what one line holds, a record or the reason why there is
none, and depends on nothing but that line and its number, which counts from 1.
-/

namespace StreamAudit

/-- What the operating system says when it cannot open, read or write: a
description and a number. -/
structure SystemError where
  description : String
  code : Nat
  deriving DecidableEq, Repr

def SystemError.message (e : SystemError) : String :=
  e.description ++ " (os error " ++ Nat.repr e.code ++ ")"

/-- Why the bytes of a line give no text. -/
inductive ReadError where
  | invalidUtf8
  | system (error : SystemError)
  deriving DecidableEq, Repr

def ReadError.message : ReadError → String
  | .invalidUtf8 => "stream did not contain valid UTF-8"
  | .system error => error.message

/-- A line without a record, by its number. -/
inductive EntryError where
  | unreadable (line : Nat) (cause : ReadError)
  | malformed (line : Nat) (cause : RecordError)
  deriving DecidableEq, Repr

namespace EntryError

def line : EntryError → Nat
  | .unreadable line _ => line
  | .malformed line _ => line

/-- The text of the error, without its cause. -/
def message : EntryError → String
  | .unreadable line _ => "read error at line " ++ Nat.repr line
  | .malformed line _ => "malformed line " ++ Nat.repr line

def causeMessage : EntryError → String
  | .unreadable _ cause => cause.message
  | .malformed _ cause => cause.message

end EntryError

namespace Log

def lineFeed : UInt8 := 0x0A

def carriageReturn : UInt8 := 0x0D

/-- A line held backwards, without one carriage return at its end. -/
def dropReturn : List UInt8 → List UInt8
  | [] => []
  | b :: line => if b = carriageReturn then line else b :: line

/-- One pass over the bytes. The finished lines are held with the latest
first, the line under way is held backwards. -/
def linesFrom : List (List UInt8) → List UInt8 → List UInt8 → List (List UInt8)
  | finished, [], [] => finished.reverse
  | finished, b :: line, [] => ((b :: line).reverse :: finished).reverse
  | finished, line, b :: rest =>
    if b = lineFeed then
      linesFrom ((dropReturn line).reverse :: finished) [] rest
    else
      linesFrom finished (b :: line) rest

def lines (bytes : List UInt8) : List (List UInt8) :=
  linesFrom [] [] bytes

def entry (separator : String) (number : Nat) (bytes : List UInt8) :
    Except EntryError Record :=
  match Text.Utf8.decode? bytes with
  | none => .error (.unreadable number .invalidUtf8)
  | some line =>
    match Record.ofLine separator line with
    | .error cause => .error (.malformed number cause)
    | .ok record => .ok record

def entries (separator : String) (bytes : List UInt8) : List (Except EntryError Record) :=
  (lines bytes).mapIdx fun i line => entry separator (i + 1) line

/-- The finished lines stay in front of whatever the rest of the pass finds. -/
theorem linesFrom_finished (finished : List (List UInt8)) (line bytes : List UInt8) :
    linesFrom finished line bytes = finished.reverse ++ linesFrom [] line bytes := by
  induction bytes generalizing finished line with
  | nil => cases line <;> simp [linesFrom]
  | cons b rest ih =>
    rw [linesFrom, linesFrom]
    split
    · rw [ih, ih [_]]
      simp
    · exact ih finished (b :: line)

/-- After a line feed the pass begins anew. -/
theorem linesFrom_append (line bytes more : List UInt8) :
    linesFrom [] line (bytes ++ lineFeed :: more) =
      linesFrom [] line (bytes ++ [lineFeed]) ++ lines more := by
  induction bytes generalizing line with
  | nil =>
    simp only [List.nil_append, linesFrom, if_pos, lines]
    rw [linesFrom_finished]
  | cons b rest ih =>
    rw [List.cons_append, List.cons_append, linesFrom, linesFrom]
    split
    · rw [linesFrom_finished, linesFrom_finished [_], ih, List.append_assoc]
    · exact ih (b :: line)

theorem lines_append (bytes more : List UInt8) :
    lines (bytes ++ lineFeed :: more) = lines (bytes ++ [lineFeed]) ++ lines more :=
  linesFrom_append [] bytes more

theorem length_entries (separator : String) (bytes : List UInt8) :
    (entries separator bytes).length = (lines bytes).length := by
  simp [entries]

end Log

end StreamAudit
