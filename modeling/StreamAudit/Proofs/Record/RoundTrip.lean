import StreamAudit.Proofs.Record.Grammar
import StreamAudit.Proofs.Text.Cutting

/-!
# Reading a written record

A record is read back from its own line when the separator cannot overlap
itself and stands in none of the fields. Beyond that the operator's name may not
begin or end with a blank, because the reader drops such blanks.
-/

namespace StreamAudit

namespace Text

theorem isBlank_of_isDigit {c : Char} (h : c.isDigit = true) : isBlank c = false := by
  rw [Char.isDigit_iff_toNat] at h
  have hlow : '0'.toNat = 48 := rfl
  have hhigh : '9'.toNat = 57 := rfl
  simp [isBlank]
  omega

theorem trim_decimal (n : Nat) : trim (decimal n) = decimal n :=
  trim_of_core
    (fun _ hc => isBlank_of_isDigit (isDigit_of_mem_decimal (List.mem_of_head? hc)))
    fun _ hc => isBlank_of_isDigit (isDigit_of_mem_decimal (List.mem_of_getLast? hc))

end Text

namespace Record

theorem readCount_decimal (field : NumericField) (n : Count) :
    readCount field (Text.decimal n.toNat) = .ok n := by
  rw [readCount, Text.trim_decimal, Text.count?_decimal]

/-- The fields of a record hold the record, but for blanks around the operator's
name. -/
theorem ofFields_toFields (r : Record) (h : Text.trim r.operator.toList = r.operator.toList) :
    ofFields r.toFields = .ok r := by
  rw [toFields, ofFields, readCount_decimal, readCount_decimal, h]
  simp [bind, Except.bind, pure, Except.pure]

/-- Joined fields are read as the fields themselves. -/
theorem ofLine_join {separator : String} (hne : separator ≠ "")
    (hsep : Text.Unbordered separator.toList) {row : List (List Char)} (hrow : row ≠ [])
    (hfree : ∀ field ∈ row, ¬ separator.toList <:+: field) :
    ofLine separator (String.ofList (Text.join separator.toList row)) = ofFields row := by
  apply ofLine_of_cutsInto hne
  rw [String.toList_ofList]
  exact Text.cutsInto_join hsep hrow hfree

/-- A record is read back from its line when the separator stands in none of its
fields. -/
theorem ofLine_toLine_of_free {separator : String} {r : Record} (hne : separator ≠ "")
    (hsep : Text.Unbordered separator.toList)
    (hfree : ∀ field ∈ r.toFields, ¬ separator.toList <:+: field)
    (htrim : Text.trim r.operator.toList = r.operator.toList) :
    ofLine separator (r.toLine separator) = .ok r := by
  have hrow : r.toFields ≠ [] := List.cons_ne_nil _ _
  rw [toLine, ofLine_join hne hsep hrow hfree]
  exact ofFields_toFields r htrim

/-- What a record needs to be written in one line under a separator: no field
holds the separator, the texts hold no line feed, and no blanks surround the
operator's name. -/
structure Writable (separator : String) (r : Record) : Prop where
  timestamp : ¬ separator.toList <:+: r.timestamp.toList
  sequenceNumber : ¬ separator.toList <:+: Text.decimal r.sequenceNumber.toNat
  operator : ¬ separator.toList <:+: r.operator.toList
  operatorCount : ¬ separator.toList <:+: Text.decimal r.operatorCount.toNat
  timestamp_line : '\n' ∉ r.timestamp.toList
  operator_line : '\n' ∉ r.operator.toList
  operator_trim : Text.trim r.operator.toList = r.operator.toList

instance (separator : String) (r : Record) : Decidable (r.Writable separator) :=
  decidable_of_iff
    ((¬ separator.toList <:+: r.timestamp.toList ∧
      ¬ separator.toList <:+: Text.decimal r.sequenceNumber.toNat ∧
      ¬ separator.toList <:+: r.operator.toList ∧
      ¬ separator.toList <:+: Text.decimal r.operatorCount.toNat) ∧
      '\n' ∉ r.timestamp.toList ∧ '\n' ∉ r.operator.toList ∧
      Text.trim r.operator.toList = r.operator.toList)
    ⟨fun ⟨⟨ht, hs, ho, hc⟩, htl, hol, htrim⟩ => ⟨ht, hs, ho, hc, htl, hol, htrim⟩,
      fun ⟨ht, hs, ho, hc, htl, hol, htrim⟩ => ⟨⟨ht, hs, ho, hc⟩, htl, hol, htrim⟩⟩

section Line

variable {separator : String} {r : Record}

/-- Under a separator without borders a writable record is read back. -/
theorem ofLine_toLine (hne : separator ≠ "") (hsep : Text.Unbordered separator.toList)
    (h : r.Writable separator) : ofLine separator (r.toLine separator) = .ok r := by
  have hfree : ∀ field ∈ r.toFields, ¬ separator.toList <:+: field := by
    intro field hfield
    simp only [toFields, List.mem_cons, List.not_mem_nil, or_false] at hfield
    rcases hfield with rfl | rfl | rfl | rfl
    · exact h.timestamp
    · exact h.sequenceNumber
    · exact h.operator
    · exact h.operatorCount
  exact ofLine_toLine_of_free hne hsep hfree h.operator_trim

theorem toList_toLine (separator : String) (r : Record) :
    (r.toLine separator).toList =
      r.timestamp.toList ++ (separator.toList ++ (Text.decimal r.sequenceNumber.toNat ++
        (separator.toList ++ (r.operator.toList ++ (separator.toList ++
          Text.decimal r.operatorCount.toNat))))) := by
  simp [toLine, toFields, Text.join, List.intercalate]

theorem lineFeed_not_mem_toLine (hsep : '\n' ∉ separator.toList) (h : r.Writable separator) :
    '\n' ∉ (r.toLine separator).toList := by
  simp [toList_toLine, hsep, Text.lineFeed_not_mem_decimal, h.timestamp_line, h.operator_line]

/-- The line of a record ends in a digit, so never in a carriage return. -/
theorem exists_getLast?_toLine (separator : String) (r : Record) :
    ∃ d : Char, (r.toLine separator).toList.getLast? = some d ∧ d.isDigit = true := by
  have hne := Text.decimal_ne_nil r.operatorCount.toNat
  refine ⟨(Text.decimal r.operatorCount.toNat).getLast hne, ?_,
    Text.isDigit_of_mem_decimal (List.getLast_mem hne)⟩
  simp only [toList_toLine, List.getLast?_append, List.getLast?_eq_some_getLast hne,
    Option.some_or]

end Line

end Record

end StreamAudit
