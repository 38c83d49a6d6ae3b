import StreamAudit.Proofs.Text.Numerals
import StreamAudit.Proofs.Text.Occurrences
import StreamAudit.Proofs.Text.Trimming
import StreamAudit.Record.Reading

/-!
# The grammar of record lines

What a line is read as, said without the reader: by the cut at first
occurrences, by cores and by numerals. One rule accepts and four tell a fault.
For every line under every separator exactly one outcome is derived, and it is
the reader's. The rules exclude each other, so the order in which faults are
told is part of them.
-/

namespace StreamAudit.Record

open Text (CutsInto IsCore IsNumeral)

/-- The core of the text is a numeral for the count. -/
def HoldsCount (text : List Char) (n : Count) : Prop :=
  ∃ core, IsCore text core ∧ IsNumeral core n.toNat

/-- The core of the text is no numeral, or one for a number past every count. -/
def HoldsNoCount (text core : List Char) : Prop :=
  IsCore text core ∧ ∀ n < 2 ^ 64, ¬ IsNumeral core n

/-- The line is read under the separator with this outcome. -/
inductive Reads (separator line : String) : Except RecordError Record → Prop
  | emptySeparator : separator = "" → Reads separator line (.error .emptySeparator)
  | fieldCount {row : List (List Char)} : separator ≠ "" →
      CutsInto separator.toList line.toList row → row.length ≠ 4 →
      Reads separator line (.error (.fieldCount row.length))
  | sequenceNumber {timestamp sequenceNumber operator operatorCount value : List Char} :
      separator ≠ "" →
      CutsInto separator.toList line.toList [timestamp, sequenceNumber, operator, operatorCount] →
      HoldsNoCount sequenceNumber value →
      Reads separator line (.error (.notAnInteger .sequenceNumber (String.ofList value)))
  | operatorCount {timestamp sequenceNumber operator operatorCount value : List Char} {n : Count} :
      separator ≠ "" →
      CutsInto separator.toList line.toList [timestamp, sequenceNumber, operator, operatorCount] →
      HoldsCount sequenceNumber n → HoldsNoCount operatorCount value →
      Reads separator line (.error (.notAnInteger .operatorCount (String.ofList value)))
  | record {r : Record} {sequenceNumber operator operatorCount : List Char} : separator ≠ "" →
      CutsInto separator.toList line.toList
        [r.timestamp.toList, sequenceNumber, operator, operatorCount] →
      HoldsCount sequenceNumber r.sequenceNumber → IsCore operator r.operator.toList →
      HoldsCount operatorCount r.operatorCount → Reads separator line (.ok r)

/-! ## Numeric fields -/

theorem readCount_eq_ok_iff {field : NumericField} {text : List Char} {n : Count} :
    readCount field text = .ok n ↔ HoldsCount text n := by
  have hcore : HoldsCount text n ↔ Text.count? (Text.trim text) = some n := by
    simp only [HoldsCount, Text.isCore_iff, exists_eq_left, Text.count?_eq_some_iff]
  rw [hcore, readCount]
  cases Text.count? (Text.trim text) <;> simp

theorem readCount_eq_error_iff {field : NumericField} {text : List Char} {e : RecordError} :
    readCount field text = .error e ↔
      ∃ value, HoldsNoCount text value ∧ e = .notAnInteger field (String.ofList value) := by
  have hcore : (∃ value, HoldsNoCount text value ∧ e = .notAnInteger field (String.ofList value)) ↔
      Text.count? (Text.trim text) = none ∧
        e = .notAnInteger field (String.ofList (Text.trim text)) := by
    simp only [HoldsNoCount, Text.isCore_iff, and_assoc, exists_eq_left, Text.count?_eq_none_iff]
  rw [hcore, readCount]
  cases Text.count? (Text.trim text) <;> simp [eq_comm]

/-! ## Rows of fields -/

theorem ofFields_of_length_ne {row : List (List Char)} (h : row.length ≠ 4) :
    ofFields row = .error (.fieldCount row.length) := by
  unfold ofFields
  split
  · exact absurd rfl h
  · rfl

section Four

variable {timestamp sequenceNumber operator operatorCount : List Char}

theorem ofFields_of_sequenceNumber_error {e : RecordError}
    (h : readCount .sequenceNumber sequenceNumber = .error e) :
    ofFields [timestamp, sequenceNumber, operator, operatorCount] = .error e := by
  rw [ofFields, h]
  rfl

theorem ofFields_of_operatorCount_error {n : Count} {e : RecordError}
    (hn : readCount .sequenceNumber sequenceNumber = .ok n)
    (h : readCount .operatorCount operatorCount = .error e) :
    ofFields [timestamp, sequenceNumber, operator, operatorCount] = .error e := by
  rw [ofFields, hn, h]
  rfl

theorem ofFields_of_counts {n m : Count}
    (hn : readCount .sequenceNumber sequenceNumber = .ok n)
    (hm : readCount .operatorCount operatorCount = .ok m) :
    ofFields [timestamp, sequenceNumber, operator, operatorCount] =
      .ok ⟨String.ofList timestamp, n, String.ofList (Text.trim operator), m⟩ := by
  rw [ofFields, hn, hm]
  rfl

end Four

/-! ## Lines -/

section Line

variable {separator line : String}

theorem ofLine_of_cutsInto {row : List (List Char)} (hne : separator ≠ "")
    (h : CutsInto separator.toList line.toList row) : ofLine separator line = ofFields row := by
  have hlist : separator.toList ≠ [] := mt String.toList_eq_nil_iff.mp hne
  rw [ofLine, if_neg (by simpa using hne), h.fields_eq hlist]

/-- The reader's outcome is derived by the rules. -/
theorem reads_ofLine (separator line : String) : Reads separator line (ofLine separator line) := by
  by_cases hne : separator = ""
  · rw [ofLine, if_pos (by simpa using hne)]
    exact .emptySeparator hne
  · have hlist : separator.toList ≠ [] := mt String.toList_eq_nil_iff.mp hne
    obtain ⟨row, hrow⟩ := Text.exists_cutsInto hlist line.toList
    rw [ofLine_of_cutsInto hne hrow]
    by_cases hfour : row.length = 4
    · obtain ⟨timestamp, sequenceNumber, operator, operatorCount, rfl⟩ :=
        List.length_eq_four.mp hfour
      cases hn : readCount .sequenceNumber sequenceNumber with
      | error e =>
        obtain ⟨value, hvalue, rfl⟩ := readCount_eq_error_iff.mp hn
        rw [ofFields_of_sequenceNumber_error hn]
        exact .sequenceNumber hne hrow hvalue
      | ok n =>
        cases hm : readCount .operatorCount operatorCount with
        | error e =>
          obtain ⟨value, hvalue, rfl⟩ := readCount_eq_error_iff.mp hm
          rw [ofFields_of_operatorCount_error hn hm]
          exact .operatorCount hne hrow (readCount_eq_ok_iff.mp hn) hvalue
        | ok m =>
          rw [ofFields_of_counts hn hm]
          have hcore := Text.isCore_iff.mpr (String.toList_ofList (l := Text.trim operator))
          rw [← String.toList_ofList (l := timestamp)] at hrow
          exact .record hne hrow (readCount_eq_ok_iff.mp hn) hcore (readCount_eq_ok_iff.mp hm)
    · rw [ofFields_of_length_ne hfour]
      exact .fieldCount hne hrow hfour

/-- No other outcome is derived. -/
theorem Reads.ofLine_eq {outcome : Except RecordError Record} (h : Reads separator line outcome) :
    ofLine separator line = outcome := by
  cases h with
  | emptySeparator hempty => rw [ofLine, if_pos (by simpa using hempty)]
  | fieldCount hne hrow hlength =>
    rw [ofLine_of_cutsInto hne hrow, ofFields_of_length_ne hlength]
  | sequenceNumber hne hrow hvalue =>
    rw [ofLine_of_cutsInto hne hrow]
    exact ofFields_of_sequenceNumber_error (readCount_eq_error_iff.mpr ⟨_, hvalue, rfl⟩)
  | operatorCount hne hrow hn hvalue =>
    rw [ofLine_of_cutsInto hne hrow]
    exact ofFields_of_operatorCount_error (readCount_eq_ok_iff.mpr hn)
      (readCount_eq_error_iff.mpr ⟨_, hvalue, rfl⟩)
  | record hne hrow hn hoperator hm =>
    rw [ofLine_of_cutsInto hne hrow,
      ofFields_of_counts (readCount_eq_ok_iff.mpr hn) (readCount_eq_ok_iff.mpr hm),
      ← Text.isCore_iff.mp hoperator, String.ofList_toList, String.ofList_toList]

end Line

/-- The reader accepts exactly what the grammar of record lines derives, with
the record that it derives, and of every other line tells the fault that the
grammar tells. The notions that the grammar is made of decide: a separator that
is not empty cuts every line in one way, which leaves out nothing but the
separators, and every text has one core. -/
theorem ofLine_eq_iff_reads :
    (∀ (separator line : String) (outcome : Except RecordError Record),
      ofLine separator line = outcome ↔ Reads separator line outcome) ∧
    (∀ separator text : List Char, separator ≠ [] → ∃! row, CutsInto separator text row) ∧
    (∀ (separator text : List Char) (row : List (List Char)), CutsInto separator text row →
      Text.join separator row = text) ∧
    (∀ text : List Char, ∃! core, IsCore text core) ∧
    NumericField.sequenceNumber.name = "sequence number" ∧
    NumericField.operatorCount.name = "operator count" := by
  refine ⟨?_, ?_, ?_, ?_, rfl, rfl⟩
  · intro separator line outcome
    constructor
    · intro h
      exact h ▸ reads_ofLine separator line
    · exact Reads.ofLine_eq
  · intro separator text hne
    refine ⟨Text.fields separator text, (Text.cutsInto_iff hne).mpr rfl, ?_⟩
    intro row hrow
    exact (Text.cutsInto_iff hne).mp hrow
  · intro separator text row h
    exact h.join_eq
  · intro text
    refine ⟨Text.trim text, Text.isCore_iff.mpr rfl, ?_⟩
    intro core hcore
    exact Text.isCore_iff.mp hcore

/-- A separator that overlaps itself, in a line that has it early by one
character; a sign and leading zeros before the largest count; a numeral one past
it, with blanks of other kinds around. -/
theorem ofLine_eq_iff_reads_overlapping :
    Reads "aa" "taa+0018446744073709551615aaaopaa\t18446744073709551616\u3000"
      (.error (.notAnInteger .operatorCount "18446744073709551616")) ∧
    "aa".toList ≠ [] ∧
    (∃! row, CutsInto "aa".toList "taaaop".toList row) ∧
    CutsInto "aa".toList "taaaop".toList ["t".toList, "aop".toList] ∧
    Text.join "aa".toList ["t".toList, "aop".toList] = "taaaop".toList := by
  obtain ⟨hiff, hunique, hjoin, _⟩ := ofLine_eq_iff_reads
  have hread : ofLine "aa" "taa+0018446744073709551615aaaopaa\t18446744073709551616\u3000" =
      .error (.notAnInteger .operatorCount "18446744073709551616") := by decide +kernel
  have hne : "aa".toList ≠ [] := by decide
  have hcut : CutsInto "aa".toList "taaaop".toList ["t".toList, "aop".toList] :=
    (Text.cutsInto_iff hne).mpr (by decide)
  exact ⟨(hiff _ _ _).mp hread, hne, hunique _ _ hne, hcut, hjoin _ _ _ hcut⟩

end StreamAudit.Record
