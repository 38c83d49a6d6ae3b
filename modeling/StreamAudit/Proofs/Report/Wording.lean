import StreamAudit.Proofs.Ledger.Balance
import StreamAudit.Proofs.Report.Framing

/-!
# What the text of a report tells

The text of a report tells every name and every number of its findings, though
names are written without quoting and can hold any wording. A line is read from
its end: the numbers behind the name stand at known places there, and what is
left is the name. Only the finding that lists names cannot be read back, since a
name can hold the comma that stands between two. The number of sources is not
told.
-/

namespace StreamAudit

namespace Text

/-- The text ends in a character that is no digit. -/
def EndsInWord (text : String) : Prop :=
  text.toList.getLast?.any (fun c => !c.isDigit) = true

instance (text : String) : Decidable (EndsInWord text) :=
  inferInstanceAs (Decidable (_ = _))

/-- Behind a word, whatever stands in front of it, a numeral is read back. -/
theorem append_numeral_inj {front front' word : String} {m n : Nat} (hword : EndsInWord word)
    (h : front ++ word ++ String.ofList (decimal m) = front' ++ word ++ String.ofList (decimal n)) :
    front = front' ∧ m = n := by
  have hend : ∀ text : String, ∀ c ∈ (text ++ word).toList.getLast?, c.isDigit = false := by
    intro text c hc
    obtain ⟨last, hlast, hdigit⟩ := (Option.any_eq_true _ _).mp hword
    rw [String.toList_append, List.getLast?_append, hlast] at hc
    obtain rfl := Option.some.inj hc
    simpa using hdigit
  have hlists : (front ++ word).toList ++ decimal m = (front' ++ word).toList ++ decimal n := by
    rw [← String.toList_ofList (l := decimal m), ← String.toList_ofList (l := decimal n),
      ← String.toList_append, ← String.toList_append, h]
  obtain ⟨hfront, hnumber⟩ := append_decimal_inj (hend front) (hend front') hlists
  exact ⟨(String.append_left_inj word).mp (String.toList_inj.mp hfront), hnumber⟩

theorem head?_append {front : String} {c : Char} (h : front.toList.head? = some c)
    (back : String) : (front ++ back).toList.head? = some c := by
  rw [String.toList_append, List.head?_append, h, Option.some_or]

end Text

open Text

namespace Count

theorem text_injective : Function.Injective Count.text := by
  intro m n h
  have hdecimal := decimal_injective (String.ofList_inj.mp h)
  exact UInt64.toNat_inj.mp hdecimal

theorem append_text_inj {front front' word : String} {m n : Count} (hword : EndsInWord word)
    (h : front ++ word ++ m.text = front' ++ word ++ n.text) : front = front' ∧ m = n := by
  obtain ⟨hfront, hnumber⟩ := append_numeral_inj hword h
  exact ⟨hfront, UInt64.toNat_inj.mp hnumber⟩

end Count

namespace Finding

/-- The character that the text of a finding begins with. -/
def initial : Finding → Char
  | .operatorCount _ _ _ => 'o'
  | .sequenceReceipts _ _ _ => 's'
  | .totalVsRange _ _ _ _ => 'n'
  | .totalVsOperators _ _ _ => 'n'

theorem head?_text (f : Finding) : f.text.toList.head? = some f.initial := by
  unfold text
  cases f with
  | operatorCount | sequenceReceipts =>
    iterate 5 refine head?_append ?_ _
    rfl
  | totalVsRange =>
    iterate 8 refine head?_append ?_ _
    rfl
  | totalVsOperators =>
    iterate 6 refine head?_append ?_ _
    rfl

/-! Each kind of finding is read from the end of its text, one number after the
other. -/

theorem operatorCount_of_text_eq {operator operator' : String} {max max' seen seen' : Count}
    (h : (operatorCount operator max seen).text = (operatorCount operator' max' seen').text) :
    operatorCount operator max seen = operatorCount operator' max' seen' := by
  obtain ⟨hmax, rfl⟩ := Count.append_text_inj (by decide) h
  obtain ⟨hname, rfl⟩ := Count.append_text_inj (by decide) hmax
  rw [(String.append_right_inj _).mp hname]

theorem sequenceReceipts_of_text_eq {number number' received received' expected expected' : Count}
    (h : (sequenceReceipts number received expected).text =
      (sequenceReceipts number' received' expected').text) :
    sequenceReceipts number received expected = sequenceReceipts number' received' expected' := by
  obtain ⟨hreceived, rfl⟩ := Count.append_text_inj (by decide) h
  obtain ⟨hnumber, rfl⟩ := Count.append_text_inj (by decide) hreceived
  rw [Count.text_injective ((String.append_right_inj _).mp hnumber)]

theorem totalVsRange_of_text_eq {total total' max max' parallelism parallelism' : Count}
    {expected expected' : Nat}
    (h : (totalVsRange total expected max parallelism).text =
      (totalVsRange total' expected' max' parallelism').text) :
    totalVsRange total expected max parallelism =
      totalVsRange total' expected' max' parallelism' := by
  have hsources := (String.append_left_inj _).mp h
  obtain ⟨hmax, rfl⟩ := Count.append_text_inj (by decide) hsources
  obtain ⟨hexpected, rfl⟩ := Count.append_text_inj (by decide) hmax
  obtain ⟨htotal, rfl⟩ := append_numeral_inj (by decide) hexpected
  rw [Count.text_injective ((String.append_right_inj _).mp htotal)]

/-- The finding is one on the sum over all operators, which lists their names. -/
def ListsNames : Finding → Prop
  | .totalVsOperators _ _ _ => True
  | _ => False

instance : DecidablePred ListsNames
  | .operatorCount _ _ _ | .sequenceReceipts _ _ _ | .totalVsRange _ _ _ _ =>
    inferInstanceAs (Decidable False)
  | .totalVsOperators _ _ _ => inferInstanceAs (Decidable True)

/-- Findings that list no names are told apart by their texts. -/
theorem eq_of_text_eq {f g : Finding} (hf : ¬ f.ListsNames) (hg : ¬ g.ListsNames)
    (h : f.text = g.text) : f = g := by
  have hinitial : f.initial = g.initial := by
    have hhead := f.head?_text
    rw [h, g.head?_text] at hhead
    exact (Option.some.inj hhead).symm
  cases f with
  | operatorCount =>
    cases g with
    | operatorCount => exact operatorCount_of_text_eq h
    | sequenceReceipts | totalVsRange | totalVsOperators => simp [initial] at hinitial
  | sequenceReceipts =>
    cases g with
    | sequenceReceipts => exact sequenceReceipts_of_text_eq h
    | operatorCount | totalVsRange | totalVsOperators => simp [initial] at hinitial
  | totalVsRange =>
    cases g with
    | totalVsRange => exact totalVsRange_of_text_eq h
    | operatorCount | sequenceReceipts => simp [initial] at hinitial
    | totalVsOperators => exact absurd trivial hg
  | totalVsOperators => exact absurd trivial hf

theorem eq_of_map_text_eq {fs gs : List Finding} (hfs : ∀ f ∈ fs, ¬ f.ListsNames)
    (hgs : ∀ g ∈ gs, ¬ g.ListsNames) (h : fs.map text = gs.map text) : fs = gs := by
  induction fs generalizing gs with
  | nil => exact (List.map_eq_nil_iff.mp h.symm).symm
  | cons f fs ih =>
    cases gs with
    | nil => cases h
    | cons g gs =>
      obtain ⟨hf, hfs⟩ := List.forall_mem_cons.mp hfs
      obtain ⟨hg, hgs⟩ := List.forall_mem_cons.mp hgs
      obtain ⟨hhead, htail⟩ := List.cons.inj h
      rw [eq_of_text_eq hf hg hhead, ih hfs hgs htail]

end Finding

namespace Report

/-- The text of the report can be read back: no name holds a line feed, and no
finding lists names. -/
structure Plain (report : Report) : Prop where
  lined : report.Lined
  no_list : ∀ f ∈ report.findings, ¬ f.ListsNames

instance (report : Report) : Decidable report.Plain :=
  decidable_of_iff
    ((∀ f ∈ report.findings, ∀ name ∈ f.names, Unbroken name) ∧
      ∀ f ∈ report.findings, ¬ f.ListsNames)
    ⟨fun ⟨hlined, hlist⟩ => ⟨hlined, hlist⟩, fun ⟨hlined, hlist⟩ => ⟨hlined, hlist⟩⟩

section Reading

variable {report other : Report}

theorem totalLines_eq_of_summary_eq (h : report.summary = other.summary) :
    report.totalLines = other.totalLines := by
  have htotal := (String.append_left_inj _).mp h
  exact Count.text_injective ((String.append_right_inj _).mp htotal)

theorem Lined.textLines_eq (h : report.Lined) (h' : other.Lined)
    (htext : report.text = other.text) : report.textLines = other.textLines := by
  have hlines := h.splitOn_text
  rw [htext, h'.splitOn_text] at hlines
  have hcut := List.append_cancel_right hlines
  exact (List.map_inj_right fun _ _ heq => String.toList_inj.mp heq).mp hcut.symm

theorem Plain.eq_of_text_eq (h : report.Plain) (h' : other.Plain)
    (htext : report.text = other.text) :
    report.findings = other.findings ∧ report.totalLines = other.totalLines := by
  have hlines := h.lined.textLines_eq h'.lined htext
  obtain ⟨hfindings, hsummary⟩ := List.append_inj' hlines rfl
  exact ⟨Finding.eq_of_map_text_eq h.no_list h'.no_list hfindings,
    totalLines_eq_of_summary_eq (List.singleton_inj.mp hsummary)⟩

end Reading

end Report

theorem plain_of_audit {separator : String} {bytes : List UInt8} {report : Report}
    (h : audit separator bytes = .ok report) : report.Plain := by
  refine ⟨lined_of_audit h, ?_⟩
  obtain ⟨records, ledger, _, _, hagrees, hreport⟩ := audit_eq_ok_iff_agrees.mp h
  obtain ⟨report', hreport', hnone⟩ := hagrees.balanced.exists_report
  obtain rfl : report' = report := Except.ok.inj (hreport'.symm.trans hreport)
  intro f hf hlist
  cases f with
  | totalVsOperators total sum operators => exact hnone total sum operators hf
  | _ => exact hlist

/-- The text of a report tells all of its findings and the number of lines, and
nothing else: reports with the same text agree in these, if no name holds a line
feed and no finding lists names. The reports of audits are such reports. -/
theorem text_eq_iff_of_plain :
    (∀ report other : Report, report.Plain → other.Plain →
      (report.text = other.text ↔
        report.findings = other.findings ∧ report.totalLines = other.totalLines)) ∧
    ∀ (separator : String) (bytes : List UInt8) (report : Report),
      audit separator bytes = .ok report → report.Plain := by
  refine ⟨?_, fun _ _ _ haudit => plain_of_audit haudit⟩
  intro report other hplain hplain'
  refine ⟨hplain.eq_of_text_eq hplain', ?_⟩
  rintro ⟨hfindings, htotal⟩
  rw [Report.text, Report.text, Report.textLines, Report.textLines, Report.summary,
    Report.summary, hfindings, htotal]

/-- A name that holds the wording and the numbers of the finding on another name
does not pass for it; reports that differ in the number of sources only read the
same; and the report of a log with such a name can be read back. -/
theorem text_eq_iff_of_plain_imitated :
    Report.Plain ⟨[.operatorCount "a' count does not match: max reported 1, lines seen 2" 1 2],
      1, 5⟩ ∧
    Report.Plain ⟨[.operatorCount "a" 1 2], 1, 5⟩ ∧ Report.Plain ⟨[.operatorCount "a" 1 2], 3, 5⟩ ∧
    Report.text ⟨[.operatorCount "a' count does not match: max reported 1, lines seen 2" 1 2],
      1, 5⟩ ≠ Report.text ⟨[.operatorCount "a" 1 2], 1, 5⟩ ∧
    Report.text ⟨[.operatorCount "a" 1 2], 1, 5⟩ = Report.text ⟨[.operatorCount "a" 1 2], 3, 5⟩ ∧
    audit ";" (Text.Utf8.encode "t;1;a, lines seen 2;3\nt;0;b;1") =
      .ok ⟨[.operatorCount "a, lines seen 2" 3 1], 1, 2⟩ ∧
    Report.Plain ⟨[.operatorCount "a, lines seen 2" 3 1], 1, 2⟩ := by
  have himitated : Report.Plain
      ⟨[.operatorCount "a' count does not match: max reported 1, lines seen 2" 1 2], 1, 5⟩ := by
    decide
  have hone : Report.Plain ⟨[.operatorCount "a" 1 2], 1, 5⟩ := by decide
  have hthree : Report.Plain ⟨[.operatorCount "a" 1 2], 3, 5⟩ := by decide
  have haudit : audit ";" (Text.Utf8.encode "t;1;a, lines seen 2;3\nt;0;b;1") =
      .ok ⟨[.operatorCount "a, lines seen 2" 3 1], 1, 2⟩ := by
    decide +kernel
  obtain ⟨hiff, hplain⟩ := text_eq_iff_of_plain
  refine ⟨himitated, hone, hthree, ?_, (hiff _ _ hone hthree).mpr ⟨rfl, rfl⟩, haudit,
    hplain _ _ _ haudit⟩
  intro htext
  exact absurd ((hiff _ _ himitated hone).mp htext).1 (by decide)

/-! Both conditions are needed: a name with a line feed can hold a whole finding,
and a listed name with a comma can hold two names. -/

example :
    Report.text ⟨[.operatorCount
      ("a' count does not match: max reported 1, lines seen 2\n" ++ "operator 'b") 3 4], 1, 5⟩ =
    Report.text ⟨[.operatorCount "a" 1 2, .operatorCount "b" 3 4], 1, 5⟩ := by
  decide +kernel

example : Finding.text (.totalVsOperators 1 2 ["a, b"]) =
    Finding.text (.totalVsOperators 1 2 ["a", "b"]) := by
  decide +kernel

end StreamAudit
