import StreamAudit.Proofs.Record.RoundTrip

/-!
# Writing a record that was read

A line may spell its record in many ways, with blanks around the fields and with
signs and zeros before the numbers. What is read from it is free of them, and
is always fit to be written: each written field is a piece of the field it was
read from, so the separator, which stands in no field of a cut, stands in none
of these either. Only between the fields could it be met anew, and there it is
not when it cannot overlap itself.
-/

namespace StreamAudit.Record

variable {separator line : String} {r : Record}

/-- The numeral of a count is a piece of every text that holds the count. -/
theorem HoldsCount.decimal_infix {text : List Char} {n : Count} (h : HoldsCount text n) :
    Text.decimal n.toNat <:+: text := by
  obtain ⟨core, hcore, hnumeral⟩ := h
  exact hnumeral.decimal_suffix.isInfix.trans hcore.isInfix

/-- Only a separator that is not empty lets a record be read. -/
theorem separator_ne_of_ofLine (h : ofLine separator line = .ok r) : separator ≠ "" := by
  rintro rfl
  cases h

/-- The separator stands in none of the fields that are written for a record
that was read. -/
theorem free_of_ofLine (h : ofLine separator line = .ok r) :
    ∀ field ∈ r.toFields, ¬ separator.toList <:+: field := by
  have hlist : separator.toList ≠ [] :=
    mt String.toList_eq_nil_iff.mp (separator_ne_of_ofLine h)
  have hreads := reads_ofLine separator line
  rw [h] at hreads
  cases hreads with
  | @record _ sequenceNumber operator operatorCount _ hrow hn hoperator hm =>
    have hfree : ∀ field ∈ [r.timestamp.toList, sequenceNumber, operator, operatorCount],
        ¬ separator.toList <:+: field := fun field => hrow.not_infix_of_mem hlist
    simp only [List.forall_mem_cons] at hfree
    obtain ⟨htimestamp, hsequence, hname, hcount, _⟩ := hfree
    have hwritten : ∀ {written field : List Char}, written <:+: field →
        ¬ separator.toList <:+: field → ¬ separator.toList <:+: written :=
      fun hpiece hnot hmet => hnot (hmet.trans hpiece)
    simp only [toFields, List.forall_mem_cons]
    exact ⟨htimestamp, hwritten hn.decimal_infix hsequence, hwritten hoperator.isInfix hname,
      hwritten hm.decimal_infix hcount, by simp⟩

/-- The operator's name was a core, so no blanks surround it. -/
theorem trim_operator_of_ofLine (h : ofLine separator line = .ok r) :
    Text.trim r.operator.toList = r.operator.toList := by
  have hreads := reads_ofLine separator line
  rw [h] at hreads
  cases hreads with
  | record _ _ _ hoperator _ => rw [Text.isCore_iff.mp hoperator, Text.trim_trim]

/-- What was read is written in a line that is read as the same record, under
every separator that cannot overlap itself. Under any separator, what was read
holds the separator neither in the time nor in the operator's name, and no blank
begins or ends this name. -/
theorem ofLine_toLine_of_read (separator line : String) (r : Record)
    (h : ofLine separator line = .ok r) :
    (Text.Unbordered separator.toList → ofLine separator (r.toLine separator) = .ok r) ∧
    ¬ separator.toList <:+: r.timestamp.toList ∧
    ¬ separator.toList <:+: r.operator.toList ∧
    (∀ c, r.operator.toList.head? = some c → c.toNat ∉ Text.whiteSpace) ∧
    ∀ c, r.operator.toList.getLast? = some c → c.toNat ∉ Text.whiteSpace := by
  have hfree := free_of_ofLine h
  have htrim := trim_operator_of_ofLine h
  have hcore : Text.IsCore r.operator.toList r.operator.toList := Text.isCore_iff.mpr htrim.symm
  refine ⟨?_, ?_, ?_, hcore.head, hcore.last⟩
  · intro hsep
    exact ofLine_toLine_of_free (separator_ne_of_ofLine h) hsep hfree htrim
  · exact hfree _ (by simp [toFields])
  · exact hfree _ (by simp [toFields])

/-- A separator of a digit and a sign, with a sign, zeros and blanks to be left
out next to it. The name then ends as the separator begins. -/
theorem ofLine_toLine_of_read_digit :
    ofLine "7+" "t7++00187+\u3000op 7 7+05" = .ok ⟨"t", 18, "op 7", 5⟩ ∧
    Text.Unbordered "7+".toList ∧
    ofLine "7+" "t7+187+op 77+5" = .ok ⟨"t", 18, "op 7", 5⟩ ∧
    ¬ "7+".toList <:+: "op 7".toList := by
  have hread : ofLine "7+" "t7++00187+\u3000op 7 7+05" = .ok ⟨"t", 18, "op 7", 5⟩ := by
    decide +kernel
  have hsep : Text.Unbordered "7+".toList := by decide
  obtain ⟨hagain, _, hname, _⟩ := ofLine_toLine_of_read "7+" _ _ hread
  have hline : (⟨"t", 18, "op 7", 5⟩ : Record).toLine "7+" = "t7+187+op 77+5" := by
    decide +kernel
  exact ⟨hread, hsep, hline ▸ hagain hsep, hname⟩

/-- A separator that overlaps itself can be met anew, here where a blank behind
the name is left out. -/
example : ofLine "aa" "taa1aaxa aa2" = .ok ⟨"t", 1, "xa", 2⟩ ∧
    ofLine "aa" ((⟨"t", 1, "xa", 2⟩ : Record).toLine "aa") =
      .error (.notAnInteger .operatorCount "a2") := by
  decide +kernel

end StreamAudit.Record
