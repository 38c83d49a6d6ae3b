import StreamAudit.Text.Fields
import StreamAudit.Text.Utf8

/-!
# The command line

An input path and at most one further argument. Arguments are bytes, because a
path need not be text. The further argument may carry the separator of the
fields: it does when a marker stands anywhere in it, and the separator then is
all that follows as many characters as the marker has, counted from the start.
An argument without the marker is accepted and means nothing.
-/

namespace StreamAudit

structure Invocation where
  input : List UInt8
  separator : String
  deriving DecidableEq, Repr

namespace CommandLine

/-- The one line printed for a command line that is not accepted. -/
def usage : String :=
  "Usage: parallel-log-verify <inputfile> [--separator=<sep>]"

/-- The separator between fields when no argument carries one. -/
def defaultSeparator : String := ","

/-- The text by which an argument tells that it carries a separator. -/
def separatorMarker : String := "--separator="

def separator? (argument : String) : Option String :=
  if Text.occursIn separatorMarker.toList argument.toList then
    some (String.ofList (argument.toList.drop separatorMarker.length))
  else
    none

/-- Two hyphens: alone they only tell that values follow, and a named option
begins with them. -/
def hyphens : List UInt8 := [0x2D, 0x2D]

def equalsSign : UInt8 := 0x3D

/-- Whether the argument can be read as a value. One that begins as a named
option does is looked at for its name, and the name has to be text. -/
def isReadable (argument : List UInt8) : Bool :=
  !hyphens.isPrefixOf argument ||
    (Text.Utf8.decode? ((argument.drop 2).takeWhile (· ≠ equalsSign))).isSome

/-- The values among the arguments: all but the first that is two hyphens
alone. The arguments before that one have to be readable. -/
def values? (arguments : List (List UInt8)) : Option (List (List UInt8)) :=
  if (arguments.takeWhile (· ≠ hyphens)).all isReadable then
    some (arguments.erase hyphens)
  else
    none

/-- The invocation that the arguments ask for, if they are accepted. -/
def parse? (arguments : List (List UInt8)) : Option Invocation :=
  match values? arguments with
  | some [input] =>
    if input.isEmpty then none else some ⟨input, defaultSeparator⟩
  | some [input, option] =>
    if input.isEmpty then none
    else
      match Text.Utf8.decode? option with
      | none => none
      | some option => some ⟨input, (separator? option).getD defaultSeparator⟩
  | _ => none

end CommandLine

end StreamAudit
