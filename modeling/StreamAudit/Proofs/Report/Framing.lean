import StreamAudit.Proofs.Audit.Reading
import StreamAudit.Proofs.Log.Names
import StreamAudit.Proofs.Text.Numerals

/-!
# The lines of a report's text

The names of operators are written as they are, without quoting, so the text of
a report falls into the lines that it is meant to have as long as no name holds
a line feed. Names that were read from a log hold none. What else a name may
hold makes no difference to where lines end: it can look like another finding
only within its own line.
-/

namespace StreamAudit

namespace Text

/-- The text stays in one line when it is written. -/
def Unbroken (text : String) : Prop :=
  '\n' ∉ text.toList

instance (text : String) : Decidable (Unbroken text) :=
  inferInstanceAs (Decidable ('\n' ∉ text.toList))

theorem Unbroken.append {front back : String} (hfront : Unbroken front)
    (hback : Unbroken back) : Unbroken (front ++ back) := by
  rw [Unbroken, String.toList_append, List.mem_append, not_or]
  exact ⟨hfront, hback⟩

theorem unbroken_decimal (n : Nat) : Unbroken (String.ofList (decimal n)) := by
  rw [Unbroken, String.toList_ofList]
  exact lineFeed_not_mem_decimal n

theorem unbroken_intercalate {separator : String} {texts : List String}
    (hseparator : Unbroken separator) (htexts : ∀ text ∈ texts, Unbroken text) :
    Unbroken (separator.intercalate texts) := by
  rw [Unbroken, String.toList_intercalate]
  intro hmem
  rcases mem_of_mem_join hmem with hin | ⟨field, hfield, hin⟩
  · exact hseparator hin
  · obtain ⟨text, htext, rfl⟩ := List.mem_map.mp hfield
    exact htexts text htext hin

/-- Lines that all have an end are joined by their ends, with nothing behind the
last one. -/
theorem flatMap_append_lineFeed (texts : List String) :
    texts.flatMap (fun text => text.toList ++ ['\n']) =
      join ['\n'] (texts.map String.toList ++ [[]]) := by
  induction texts with
  | nil => rfl
  | cons text texts ih =>
    have hne : texts.map String.toList ++ [[]] ≠ [] := by simp
    rw [List.flatMap_cons, ih, List.map_cons, List.cons_append, join_cons hne, List.append_assoc]

end Text

open Text

theorem Count.unbroken_text (n : Count) : Unbroken n.text :=
  unbroken_decimal n.toNat

/-- The operators that a finding names. -/
def Finding.names : Finding → List String
  | .operatorCount operator _ _ => [operator]
  | .sequenceReceipts _ _ _ => []
  | .totalVsRange _ _ _ _ => []
  | .totalVsOperators _ _ operators => operators

/-- Besides names, the text of a finding is made of words and numerals. -/
theorem Finding.unbroken_text {f : Finding} (h : ∀ name ∈ f.names, Unbroken name) :
    Unbroken f.text := by
  have hcount := Count.unbroken_text
  unfold Finding.text
  -- the goals that are left open in each case are the fixed words
  cases f with
  | operatorCount operator maxReported linesSeen =>
    have hname : Unbroken operator := h operator (List.mem_singleton_self operator)
    refine .append (.append (.append (.append (.append ?_ hname) ?_) (hcount _)) ?_) (hcount _)
    all_goals decide
  | sequenceReceipts number received expected =>
    refine .append (.append (.append (.append (.append ?_ (hcount _)) ?_) (hcount _)) ?_)
      (hcount _)
    all_goals decide
  | totalVsRange totalLines expectedTotal maxSequenceNumber parallelism =>
    have htotal := unbroken_decimal expectedTotal
    refine .append (.append (.append (.append (.append (.append (.append (.append ?_
      (hcount _)) ?_) htotal) ?_) (hcount _)) ?_) (hcount _)) ?_
    all_goals decide
  | totalVsOperators totalLines perOperatorSum operators =>
    have hnames : Unbroken (", ".intercalate operators) := unbroken_intercalate (by decide) h
    refine .append (.append (.append (.append (.append (.append ?_ (hcount _)) ?_) (hcount _)) ?_)
      hnames) ?_
    all_goals decide

namespace Report

/-- No finding names an operator with a line feed in its name. -/
def Lined (report : Report) : Prop :=
  ∀ f ∈ report.findings, ∀ name ∈ f.names, Unbroken name

theorem toList_text (report : Report) :
    report.text.toList = report.textLines.flatMap (fun line => line.toList ++ ['\n']) := by
  rw [text, String.toList_join, List.flatMap_map]
  simp only [String.toList_append]
  rfl

section Lines

variable {report : Report} (h : report.Lined)
include h

theorem Lined.unbroken : ∀ line ∈ report.textLines, Unbroken line := by
  intro line hline
  rw [textLines, List.mem_append, List.mem_map, List.mem_singleton] at hline
  rcases hline with ⟨f, hf, rfl⟩ | rfl
  · exact Finding.unbroken_text (h f hf)
  · exact .append (.append (by decide) (Count.unbroken_text _)) (by decide)

/-- There are no line feeds in the text but the ends of its lines. -/
theorem Lined.count_lineFeed : report.text.toList.count '\n' = report.findings.length + 1 := by
  have hline : ∀ line ∈ report.textLines,
      (List.count '\n' ∘ fun line => line.toList ++ ['\n']) line = 1 := by
    intro line hmem
    have hnone := List.count_eq_zero.mpr (h.unbroken line hmem)
    rw [Function.comp_apply, List.count_append, hnone, List.count_singleton_self]
  rw [toList_text, List.count_flatMap, List.map_congr_left hline, List.map_const',
    List.sum_replicate_nat]
  simp [textLines]

/-- Cut at its line feeds, the text falls into its lines and nothing behind them. -/
theorem Lined.splitOn_text :
    report.text.toList.splitOn '\n' = report.textLines.map String.toList ++ [[]] := by
  rw [toList_text, flatMap_append_lineFeed]
  refine List.splitOn_intercalate '\n' ?_ (by simp)
  intro line hline
  rw [List.mem_append, List.mem_map, List.mem_singleton] at hline
  rcases hline with ⟨line, hmem, rfl⟩ | rfl
  · exact h.unbroken line hmem
  · exact List.not_mem_nil

end Lines

end Report

namespace Ledger.Agrees

variable {ledger : Ledger} {records : List Record} (h : ledger.Agrees records)
include h

/-- An operator that is reported has written a record. -/
theorem exists_of_mem_operatorFindings {f : Finding} (hf : f ∈ ledger.operatorFindings) :
    ∃ r ∈ records, f.names = [r.operator] := by
  rw [operatorFindings_eq_map_differing, List.mem_map] at hf
  obtain ⟨operator, hdiffers, rfl⟩ := hf
  obtain ⟨r, hr, rfl⟩ := (h.mem_maxCounts operator).mp (List.mem_filter.mp hdiffers).1
  exact ⟨r, hr, rfl⟩

theorem lined {report : Report} (hreport : ledger.report = .ok report)
    (hnames : ∀ r ∈ records, Unbroken r.operator) : report.Lined := by
  rw [h.report] at hreport
  obtain rfl := Except.ok.inj hreport
  intro f hf name hname
  rw [List.mem_append, List.mem_append, Option.mem_toList] at hf
  rcases hf with (hf | hf) | hf
  · obtain ⟨r, hr, hnamed⟩ := h.exists_of_mem_operatorFindings hf
    rw [hnamed, List.mem_singleton] at hname
    exact hname ▸ hnames r hr
  · obtain ⟨_, _, rfl⟩ := eq_of_mem_receiptFindings hf
    cases hname
  · obtain rfl := eq_of_rangeFinding? hf
    cases hname

end Ledger.Agrees

theorem lined_of_audit {separator : String} {bytes : List UInt8} {report : Report}
    (h : audit separator bytes = .ok report) : report.Lined := by
  obtain ⟨records, ledger, hread, _, hagrees, hreport⟩ := audit_eq_ok_iff_agrees.mp h
  exact hagrees.lined hreport (Log.lineFeed_not_mem_operator hread)

/-- The text of an audit cannot be broken or forged by names: it ends in a line
feed, and cut at its line feeds it is the texts of the findings in their order
and the line with the number of lines. This is so for every log, whatever its
names hold, and for every separator. -/
theorem text_of_audit_lines (separator : String) (bytes : List UInt8) (report : Report)
    (h : audit separator bytes = .ok report) :
    report.text.toList.count '\n' = report.findings.length + 1 ∧
    report.text.toList.splitOn '\n' =
      (report.findings.map Finding.text ++
        ["Saw " ++ Count.text report.totalLines ++ " lines"]).map String.toList ++ [[]] ∧
    report.text.toList.getLast? = some '\n' := by
  have hlined := lined_of_audit h
  refine ⟨hlined.count_lineFeed, hlined.splitOn_text, ?_⟩
  rw [Report.toList_text, Report.textLines, List.flatMap_append, List.flatMap_singleton,
    ← List.append_assoc]
  exact List.getLast?_concat

/-- A name that holds the wording of a finding, and a carriage return as well, is
told of in one line. -/
theorem text_of_audit_lines_imitated :
    audit ";" (Text.Utf8.encode "t;0;a, lines seen 0\roperator 'b;7\nt;1;c;1") =
      .ok ⟨[.operatorCount "a, lines seen 0\roperator 'b" 7 1], 1, 2⟩ ∧
    (Report.text ⟨[.operatorCount "a, lines seen 0\roperator 'b" 7 1], 1, 2⟩).toList.splitOn
        '\n' = ["operator 'a, lines seen 0\roperator 'b' count does not match: " ++
          "max reported 7, lines seen 1", "Saw 2 lines", ""].map String.toList := by
  have haudit : audit ";" (Text.Utf8.encode "t;0;a, lines seen 0\roperator 'b;7\nt;1;c;1") =
      .ok ⟨[.operatorCount "a, lines seen 0\roperator 'b" 7 1], 1, 2⟩ := by
    decide +kernel
  obtain ⟨_, hlines, _⟩ := text_of_audit_lines _ _ _ haudit
  refine ⟨haudit, ?_⟩
  rw [hlines]
  rfl

end StreamAudit
