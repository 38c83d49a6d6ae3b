import Std.Data.ExtTreeMap
import StreamAudit.Count

/-!
# Tallies

A tally keeps one count for each key that it has been told of. A key it has
not been told of reads as zero, and reading adds none. Keys are listed in
ascending order. Two tallies with the same counts for the same keys are equal,
whatever happened to them before.
-/

namespace StreamAudit

universe u

/-- Counts by key, in ascending order of the keys. -/
structure Tally (α : Type u) [Ord α] where
  counts : Std.ExtTreeMap α Count

namespace Tally

variable {α : Type u} [Ord α] [Std.TransOrd α]

def empty : Tally α := ⟨∅⟩

instance : Inhabited (Tally α) := ⟨empty⟩

/-- The count of a key, zero for one not told of. -/
def get (t : Tally α) (key : α) : Count :=
  t.counts.getD key 0

/-- One more for a key. A count that is at its largest stays, and the tally
with it. -/
def increment (t : Tally α) (key : α) : Except Overflow (Tally α) :=
  match Count.add (t.get key) 1 with
  | .ok n => .ok ⟨t.counts.insert key n⟩
  | .error e => .error e

/-- At least the given count for a key; the key is told of in any case. -/
def raiseTo (t : Tally α) (key : α) (n : Count) : Tally α :=
  ⟨t.counts.insert key (max (t.get key) n)⟩

/-- The keys with their counts, in ascending order of the keys. -/
def entries (t : Tally α) : List (α × Count) :=
  t.counts.toList

def keys (t : Tally α) : List α :=
  t.counts.keys

def size (t : Tally α) : Nat :=
  t.counts.size

def isEmpty (t : Tally α) : Bool :=
  t.counts.isEmpty

/-- The sum of all counts, when a word holds it. -/
def total (t : Tally α) : Except Overflow Count :=
  t.entries.foldlM (fun sum entry => Count.add sum entry.2) 0

end Tally

end StreamAudit
