import StreamAudit.Proofs.Audit.Stopping
import StreamAudit.Proofs.Log.Locality

/-!
# Logs read in parts

A log can be cut after any line. What the first part is read as does not depend
on the rest, and the rest is read as a log of its own, but for the numbers of
its lines, which go on from those of the first part. So the ledger of the whole
is reached by entering the rest on top of the ledger of the first part, and the
first error of the whole is the first error of the part that has it.
-/

namespace StreamAudit

namespace Ledger

theorem ofLog_append (separator : String) {first : List UInt8} (h : Log.Ended first)
    (more : List UInt8) :
    ofLog separator (first ++ more) = ofLog separator first >>= fun ledger =>
      ledger.enterAll ((Log.entries separator more).map
        (Except.mapError (EntryError.shift (Log.lines first).length))) := by
  rw [ofLog, Log.entries_append_of_ended separator h, enterAll_append]
  rfl

theorem ofLog_append_of_error {separator : String} {first : List UInt8} {error : AuditError}
    (h : Log.Ended first) (herror : ofLog separator first = .error error) (more : List UInt8) :
    ofLog separator (first ++ more) = .error error := by
  rw [ofLog_append separator h, herror]
  rfl

section More

variable {separator : String} {first more : List UInt8} {ledger : Ledger}
  (h : Log.Ended first) (hroom : (Log.lines (first ++ more)).length < UInt64.size)
  (hfirst : ofLog separator first = .ok ledger)
include h hroom hfirst

/-- The ledger of the first part agrees with records that leave room for as many
more as the rest has lines. -/
theorem exists_agrees_of_append : ∃ seen : List Record, ledger.Agrees seen ∧
    seen.length + (Log.entries separator more).length < UInt64.size := by
  obtain ⟨seen, hread, _, hagrees⟩ := ofLog_eq_ok_iff.mp hfirst
  refine ⟨seen, hagrees, ?_⟩
  have hseen : (Log.lines first).length = seen.length := by
    rw [← Log.length_entries separator, hread, List.length_map]
  rw [Log.lines_append_of_ended h, List.length_append, hseen] at hroom
  rwa [Log.length_entries]

theorem ofLog_append_of_records {records : List Record}
    (hmore : Log.entries separator more = records.map .ok) :
    ∃ final, ledger.recordAll records = .ok final ∧
      ofLog separator (first ++ more) = .ok final := by
  obtain ⟨seen, hagrees, hseen⟩ := exists_agrees_of_append h hroom hfirst
  rw [hmore, List.length_map] at hseen
  obtain ⟨final, hrun, hentered⟩ := hagrees.exists_enterAll hseen
  refine ⟨final, hrun, ?_⟩
  rw [ofLog_append separator h, hfirst, hmore, List.map_map]
  exact hentered

theorem ofLog_append_of_first_error {records : List Record} {error : EntryError}
    {rest : List (Except EntryError Record)}
    (hmore : Log.entries separator more = records.map .ok ++ .error error :: rest) :
    ofLog separator (first ++ more) =
      .error (.entry (error.shift (Log.lines first).length)) := by
  obtain ⟨seen, hagrees, hseen⟩ := exists_agrees_of_append h hroom hfirst
  rw [hmore, List.length_append, List.length_map] at hseen
  rw [ofLog_append separator h, hfirst, hmore, List.map_append, List.map_map]
  exact hagrees.enterAll_first_error (by omega)

end More

end Ledger

/-- Every entry of a log is determined by the bytes of its own line and by its
number: bytes that encode no text give one error, and other bytes give what the
line without its ending is read as. There is an entry for each line feed and one
for a last line without an end. A log continued after a line end has the entries
of its first part and then those of the rest, with the numbers that go on, and
its ledger is that of the first part with the records of the rest entered on
top, unless a first error of either part is all that comes of it. -/
theorem entries_and_ledger_of_append :
    (∀ (separator : String) (bytes : List UInt8),
      (Log.entries separator bytes).length =
        bytes.count Log.lineFeed + (if Log.Ended bytes then 0 else 1) ∧
      (Log.pieces bytes).length = (Log.entries separator bytes).length ∧
      ∀ (i : Nat) (piece : List UInt8), (Log.pieces bytes)[i]? = some piece →
        ((∀ text, Text.Utf8.encode text ≠ piece) → (Log.entries separator bytes)[i]? =
          some (.error (.unreadable (i + 1) .invalidUtf8))) ∧
        ∀ text, Text.Utf8.encode text = piece →
          ∃ line, Text.Utf8.encode line = Log.content piece ∧
            (Log.entries separator bytes)[i]? =
              some ((Record.ofLine separator line).mapError (.malformed (i + 1)))) ∧
    ∀ (separator : String) (first more : List UInt8), Log.Ended first →
      (Log.entries separator first).length = first.count Log.lineFeed ∧
      Log.entries separator (first ++ more) = Log.entries separator first ++
        (Log.entries separator more).map
          (Except.mapError (EntryError.shift (first.count Log.lineFeed))) ∧
      (∀ error, Ledger.ofLog separator first = .error error →
        Ledger.ofLog separator (first ++ more) = .error error) ∧
      ∀ ledger, (Log.lines (first ++ more)).length < UInt64.size →
        Ledger.ofLog separator first = .ok ledger →
        (∀ records, Log.entries separator more = records.map .ok →
          ∃ final, ledger.recordAll records = .ok final ∧
            Ledger.ofLog separator (first ++ more) = .ok final) ∧
        ∀ (records : List Record) error rest,
          Log.entries separator more = records.map .ok ++ .error error :: rest →
          Ledger.ofLog separator (first ++ more) =
            .error (.entry (error.shift (first.count Log.lineFeed))) := by
  constructor
  · intro separator bytes
    refine ⟨by rw [Log.length_entries, Log.length_lines], ?_, ?_⟩
    · exact Log.length_pieces separator bytes
    · intro i piece hpiece
      constructor
      · intro hnone
        exact Log.getElem?_entries_of_not_text separator hpiece hnone
      · intro text htext
        exact Log.getElem?_entries_of_text separator hpiece htext
  · intro separator first more hended
    have hlines : (Log.lines first).length = first.count Log.lineFeed := by
      rw [Log.length_lines, if_pos hended, Nat.add_zero]
    rw [← hlines]
    refine ⟨Log.length_entries separator first, Log.entries_append_of_ended separator hended more,
      ?_, ?_⟩
    · intro error herror
      exact Ledger.ofLog_append_of_error hended herror more
    · intro ledger hroom hfirst
      constructor
      · intro records hmore
        exact Ledger.ofLog_append_of_records hended hroom hfirst hmore
      · intro records error rest hmore
        exact Ledger.ofLog_append_of_first_error hended hroom hfirst hmore

/-- Two records with both line ends, continued by a line that is no text and a
last line whose carriage return nothing removes. The error has the number that
its line has in the whole. -/
theorem entries_and_ledger_of_append_invalid :
    Log.Ended (Text.Utf8.encode "t,0,a,1\r\nt,1,a,2\n") ∧
    Log.entries "," (Text.Utf8.encode "t,0,a,1\r\nt,1,a,2\n" ++
        ([0x74, 0xFF, 0x0A] ++ Text.Utf8.encode "t,x\r,b,1")) =
      [.ok ⟨"t", 0, "a", 1⟩, .ok ⟨"t", 1, "a", 2⟩, .error (.unreadable 3 .invalidUtf8),
        .error (.malformed 4 (.notAnInteger .sequenceNumber "x"))] ∧
    Ledger.ofLog "," (Text.Utf8.encode "t,0,a,1\r\nt,1,a,2\n" ++
        ([0x74, 0xFF, 0x0A] ++ Text.Utf8.encode "t,x\r,b,1")) =
      .error (.entry (.unreadable 3 .invalidUtf8)) := by
  have hended : Log.Ended (Text.Utf8.encode "t,0,a,1\r\nt,1,a,2\n") := by decide
  have hfirst : Log.entries "," (Text.Utf8.encode "t,0,a,1\r\nt,1,a,2\n") =
      [⟨"t", 0, "a", 1⟩, ⟨"t", 1, "a", 2⟩].map .ok := by decide +kernel
  have hmore : Log.entries "," ([0x74, 0xFF, 0x0A] ++ Text.Utf8.encode "t,x\r,b,1") =
      [].map .ok ++ .error (.unreadable 1 .invalidUtf8) ::
        [.error (.malformed 2 (.notAnInteger .sequenceNumber "x"))] := by decide +kernel
  obtain ⟨ledger, hledger, _⟩ := Ledger.exists_ofLog hfirst (by decide)
  obtain ⟨_, happend, _, hrun⟩ := entries_and_ledger_of_append.2 ","
    (Text.Utf8.encode "t,0,a,1\r\nt,1,a,2\n")
    ([0x74, 0xFF, 0x0A] ++ Text.Utf8.encode "t,x\r,b,1") hended
  refine ⟨hended, ?_, (hrun ledger (by decide +kernel) hledger).2 _ _ _ hmore⟩
  rw [happend, hfirst, hmore]
  decide

end StreamAudit
