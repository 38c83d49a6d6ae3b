import StreamAudit.Proofs.Record.Grammar
import StreamAudit.Proofs.Text.Padding

/-!
# Blanks around the fields of a line

Blanks put around the fields after the first make no difference to what a line
is read as, as long as no blank stands in the separator. The cut finds the padded
fields, numbers and names are read by their cores, and a faulty number is told by
its core as well. Only the timestamp is kept verbatim, which is why the first
field is left as it is.
-/

namespace StreamAudit.Record

variable {timestamp : List Char} {rest padded : List (List Char)}

theorem readCount_padded (field : NumericField) {text padded : List Char}
    (h : Text.Padded (Text.isBlank · = true) text padded) :
    readCount field padded = readCount field text := by
  rw [readCount, readCount, h.trim_eq]

/-- Every outcome stays, the faults with their values included. -/
theorem ofFields_padded
    (h : List.Forall₂ (Text.Padded (Text.isBlank · = true)) rest padded) :
    ofFields (timestamp :: padded) = ofFields (timestamp :: rest) := by
  by_cases hthree : rest.length = 3
  · obtain ⟨sequenceNumber, operator, operatorCount, rfl⟩ := List.length_eq_three.mp hthree
    obtain ⟨_, _, hsequence, hthen, rfl⟩ := List.forall₂_cons_left_iff.mp h
    obtain ⟨_, _, hoperator, hlast, rfl⟩ := List.forall₂_cons_left_iff.mp hthen
    obtain ⟨_, _, hcount, hnil, rfl⟩ := List.forall₂_cons_left_iff.mp hlast
    obtain rfl := List.forall₂_nil_left_iff.mp hnil
    rw [ofFields, ofFields, readCount_padded _ hsequence, readCount_padded _ hcount,
      hoperator.trim_eq]
  · have hlength := h.length_eq
    rw [ofFields_of_length_ne (by rw [List.length_cons]; omega),
      ofFields_of_length_ne (by rw [List.length_cons]; omega), List.length_cons, List.length_cons,
      hlength]

/-- Blanks around the fields of a line after the first, put there under a
separator that holds no blank and may overlap itself. The padded fields are those
that the separator cuts the new line into, and the outcome is that of the line:
the same record, the same number of fields found, or the same faulty value of the
same field. -/
theorem ofLine_of_padded (separator line : String) (hne : separator ≠ "")
    (hsep : ∀ c ∈ separator.toList, c.toNat ∉ Text.whiteSpace)
    (timestamp : List Char) (rest padded : List (List Char))
    (hfields : Text.fields separator.toList line.toList = timestamp :: rest)
    (hpadded : List.Forall₂ (Text.Padded (·.toNat ∈ Text.whiteSpace)) rest padded) :
    Text.fields separator.toList (Text.join separator.toList (timestamp :: padded)) =
      timestamp :: padded ∧
    ofLine separator (String.ofList (Text.join separator.toList (timestamp :: padded))) =
      ofLine separator line := by
  have hlist : separator.toList ≠ [] := mt String.toList_eq_nil_iff.mp hne
  have hcut := (Text.cutsInto_iff hlist).mpr hfields.symm
  have hforeign : ∀ c : Char, c.toNat ∈ Text.whiteSpace → c ∉ separator.toList :=
    fun c hblank hmem => hsep c hmem hblank
  have hcutPadded := hcut.pad hlist
    (.cons (Text.Padded.refl _ timestamp) (hpadded.imp fun _ _ h => h.imp hforeign))
  refine ⟨hcutPadded.fields_eq hlist, ?_⟩
  have hblanks : List.Forall₂ (Text.Padded (Text.isBlank · = true)) rest padded :=
    hpadded.imp fun _ _ h => h.imp fun c hc => (Text.isBlank_iff c).mpr hc
  rw [ofLine_of_cutsInto hne hcut,
    ofLine_of_cutsInto hne (by rwa [String.toList_ofList]), ofFields_padded hblanks]

/-- A separator that overlaps itself, around fields that begin as it does: in one
line a record, in the other a faulty number, told without the blanks. -/
theorem ofLine_of_padded_overlapping :
    "aa" ≠ "" ∧ (∀ c ∈ "aa".toList, c.toNat ∉ Text.whiteSpace) ∧
    Text.fields "aa".toList "taa1aaaopaa7".toList =
      ["t".toList, "1".toList, "aop".toList, "7".toList] ∧
    ofLine "aa" "taa\t1aa\u2003aop aa\r\n7\u3000" = ofLine "aa" "taa1aaaopaa7" ∧
    ofLine "aa" "taa1aaaopaa7" = .ok ⟨"t", 1, "aop", 7⟩ ∧
    Text.fields "aa".toList "taaaxaaopaa7".toList =
      ["t".toList, "ax".toList, "op".toList, "7".toList] ∧
    ofLine "aa" "taa ax\u00A0aaop\taa7" = ofLine "aa" "taaaxaaopaa7" ∧
    ofLine "aa" "taaaxaaopaa7" = .error (.notAnInteger .sequenceNumber "ax") := by
  have hsep : ∀ c ∈ "aa".toList, c.toNat ∉ Text.whiteSpace := by simp [Text.whiteSpace]
  have hrecord : Text.fields "aa".toList "taa1aaaopaa7".toList =
      ["t".toList, "1".toList, "aop".toList, "7".toList] := by decide
  have hfault : Text.fields "aa".toList "taaaxaaopaa7".toList =
      ["t".toList, "ax".toList, "op".toList, "7".toList] := by decide
  obtain ⟨_, hread⟩ := ofLine_of_padded "aa" "taa1aaaopaa7" (by decide) hsep _ _
    ["\t1".toList, "\u2003aop ".toList, "\r\n7\u3000".toList] hrecord
    (.cons ⟨['\t'], [], rfl, by simp [Text.whiteSpace]⟩
      (.cons ⟨['\u2003'], [' '], rfl, by simp [Text.whiteSpace]⟩
        (.cons ⟨['\r', '\n'], ['\u3000'], rfl, by simp [Text.whiteSpace]⟩ .nil)))
  obtain ⟨_, htold⟩ := ofLine_of_padded "aa" "taaaxaaopaa7" (by decide) hsep _ _
    [" ax\u00A0".toList, "op\t".toList, "7".toList] hfault
    (.cons ⟨[' '], ['\u00A0'], rfl, by simp [Text.whiteSpace]⟩
      (.cons ⟨[], ['\t'], rfl, by simp [Text.whiteSpace]⟩ (.cons (Text.Padded.refl _ _) .nil)))
  exact ⟨by decide, hsep, hrecord, hread, by decide +kernel, hfault, htold, by decide +kernel⟩

end StreamAudit.Record
