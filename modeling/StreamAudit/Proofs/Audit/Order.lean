import StreamAudit.Proofs.Audit.Reading

/-!
# What an audit does not see

The report depends on the triples of sequence number, operator and operator
count that a log holds, each as often as it is held. It depends neither on
their order nor on timestamps, on the separator or on how lines are ended. Two
runs are compared here; that each of them succeeds is part of the result.
-/

namespace StreamAudit

/-- Logs with the same triples have the same ledger. -/
theorem Ledger.ofLog_unique_of_perm {s₁ s₂ : String} {b₁ b₂ : List UInt8} {l₁ l₂ : Ledger}
    (h₁ : Ledger.ofLog s₁ b₁ = .ok l₁) (h₂ : Ledger.ofLog s₂ b₂ = .ok l₂)
    (hperm : ((Log.records s₁ b₁).map Record.triple).Perm
      ((Log.records s₂ b₂).map Record.triple)) : l₁ = l₂ := by
  obtain ⟨rs₁, hread₁, _, hagrees₁⟩ := Ledger.ofLog_eq_ok_iff.mp h₁
  obtain ⟨rs₂, hread₂, _, hagrees₂⟩ := Ledger.ofLog_eq_ok_iff.mp h₂
  rw [Log.records_of_entries hread₁, Log.records_of_entries hread₂] at hperm
  exact (hagrees₁.perm hperm).unique hagrees₂

theorem exists_report_of_ofLog {separator : String} {bytes : List UInt8} {ledger : Ledger}
    (h : Ledger.ofLog separator bytes = .ok ledger) :
    ∃ report, ledger.report = .ok report ∧ audit separator bytes = .ok report := by
  obtain ⟨records, _, _, hagrees⟩ := Ledger.ofLog_eq_ok_iff.mp h
  exact ⟨_, hagrees.report, audit_eq_ok_iff.mpr ⟨ledger, h, hagrees.report⟩⟩

/-- Any two logs that are read without error and hold the same triples, each as
often, under whatever separators, give the same report and the same text. In
particular the lines of a log that gives a report may stand in any order. -/
theorem audit_eq_of_perm_triples :
    (∀ (s₁ s₂ : String) (b₁ b₂ : List UInt8) (l₁ l₂ : Ledger),
      Ledger.ofLog s₁ b₁ = .ok l₁ → Ledger.ofLog s₂ b₂ = .ok l₂ →
      ((Log.records s₁ b₁).map Record.triple).Perm ((Log.records s₂ b₂).map Record.triple) →
      ∃ r₁ r₂, audit s₁ b₁ = .ok r₁ ∧ audit s₂ b₂ = .ok r₂ ∧ r₁ = r₂ ∧
        Text.Utf8.encode r₁.text = Text.Utf8.encode r₂.text) ∧
    ∀ (separator : String) (b₁ b₂ : List UInt8) (report : Report),
      audit separator b₁ = .ok report → (Log.lines b₁).Perm (Log.lines b₂) →
      audit separator b₂ = .ok report := by
  constructor
  · intro s₁ s₂ b₁ b₂ l₁ l₂ h₁ h₂ hperm
    obtain rfl := Ledger.ofLog_unique_of_perm h₁ h₂ hperm
    obtain ⟨report, hreport, haudit₁⟩ := exists_report_of_ofLog h₁
    have haudit₂ := audit_eq_ok_iff.mpr ⟨l₁, h₂, hreport⟩
    exact ⟨report, report, haudit₁, haudit₂, rfl, rfl⟩
  · intro separator b₁ b₂ report haudit hlines
    obtain ⟨rs₁, ledger, hread₁, hroom, hagrees, hreport⟩ := audit_eq_ok_iff_agrees.mp haudit
    obtain ⟨rs₂, hread₂, hperm⟩ := Log.exists_entries_of_perm hlines hread₁
    rw [hperm.length_eq] at hroom
    exact audit_eq_ok_iff_agrees.mpr
      ⟨rs₂, ledger, hread₂, hroom, hagrees.perm (hperm.map Record.triple), hreport⟩

/-- The records of one log written anew: other timestamps, another separator,
other line ends and another order. Then its own lines in another order. -/
theorem audit_eq_of_perm_triples_semicolon :
    ((Log.records "," (Text.Utf8.encode "1,0,a,1\n2,1,a,2\n3,1,b,7")).map Record.triple).Perm
      ((Log.records ";" (Text.Utf8.encode "9;1; b ;7\r\n;0;a;+1\nx;1;a;02\n")).map
        Record.triple) ∧
    ∃ r₁ r₂, audit "," (Text.Utf8.encode "1,0,a,1\n2,1,a,2\n3,1,b,7") = .ok r₁ ∧
      audit ";" (Text.Utf8.encode "9;1; b ;7\r\n;0;a;+1\nx;1;a;02\n") = .ok r₂ ∧ r₁ = r₂ ∧
      Text.Utf8.encode r₁.text = Text.Utf8.encode r₂.text ∧
      audit "," (Text.Utf8.encode "3,1,b,7\n1,0,a,1\n2,1,a,2\n") = .ok r₁ := by
  have hcomma : Log.entries "," (Text.Utf8.encode "1,0,a,1\n2,1,a,2\n3,1,b,7") =
      [⟨"1", 0, "a", 1⟩, ⟨"2", 1, "a", 2⟩, ⟨"3", 1, "b", 7⟩].map .ok := by decide +kernel
  have hsemicolon : Log.entries ";" (Text.Utf8.encode "9;1; b ;7\r\n;0;a;+1\nx;1;a;02\n") =
      [⟨"9", 1, "b", 7⟩, ⟨"", 0, "a", 1⟩, ⟨"x", 1, "a", 2⟩].map .ok := by decide +kernel
  have hperm : ((Log.records "," (Text.Utf8.encode "1,0,a,1\n2,1,a,2\n3,1,b,7")).map
      Record.triple).Perm ((Log.records ";"
        (Text.Utf8.encode "9;1; b ;7\r\n;0;a;+1\nx;1;a;02\n")).map Record.triple) := by
    rw [Log.records_of_entries hcomma, Log.records_of_entries hsemicolon]
    decide
  obtain ⟨l₁, hlog₁, _⟩ := Ledger.exists_ofLog hcomma (by decide)
  obtain ⟨l₂, hlog₂, _⟩ := Ledger.exists_ofLog hsemicolon (by decide)
  obtain ⟨r₁, r₂, haudit₁, haudit₂, heq, htext⟩ :=
    audit_eq_of_perm_triples.1 _ _ _ _ l₁ l₂ hlog₁ hlog₂ hperm
  have hlines : (Log.lines (Text.Utf8.encode "1,0,a,1\n2,1,a,2\n3,1,b,7")).Perm
      (Log.lines (Text.Utf8.encode "3,1,b,7\n1,0,a,1\n2,1,a,2\n")) := by
    decide +kernel
  have hreordered := audit_eq_of_perm_triples.2 "," _ _ r₁ haudit₁ hlines
  exact ⟨hperm, r₁, r₂, haudit₁, haudit₂, heq, htext, hreordered⟩

end StreamAudit
