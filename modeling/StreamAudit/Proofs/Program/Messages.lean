import Std.Data.String.ToNat
import StreamAudit.Proofs.Program.Outcomes
import StreamAudit.Proofs.Text.Quoting

/-!
# What the message of a faulty line tells

The message of a faulty line tells the whole fault: which kind it is, how many
fields there were, which field is no numeral and what stands in it. The first
letter tells the kind and the field, and the value is quoted, so it is read back
whatever it holds. A message holds no control, so it stays on its own line in the
printed chain of causes. Both are so for any choice of further characters that
quoting hides besides the controls.
-/

namespace StreamAudit

namespace Text

/-- No control stands in the text. -/
def NoControl (text : String) : Prop :=
  ∀ c ∈ text.toList, isControl c = false

instance (text : String) : Decidable (NoControl text) :=
  decidable_of_iff (text.toList.any isControl = false) (by simp [NoControl])

theorem NoControl.append {front back : String} (hfront : NoControl front)
    (hback : NoControl back) : NoControl (front ++ back) := by
  intro c hc
  rw [String.toList_append, List.mem_append] at hc
  rcases hc with hc | hc
  · exact hfront c hc
  · exact hback c hc

theorem noControl_repr (n : Nat) : NoControl (Nat.repr n) := by
  intro c hc
  rw [Nat.toList_repr] at hc
  obtain ⟨d, hd, rfl⟩ := exists_of_mem_toDigits (by decide) hc
  exact isControl_digitChar d (by omega)

end Text

open Text (NoControl isControl)

namespace RecordError

section Reading

variable {further : Char → Bool}

/-- The letter that the message begins with. -/
def initial : RecordError → Char
  | .emptySeparator => 'f'
  | .fieldCount _ => 'e'
  | .notAnInteger .sequenceNumber _ => 's'
  | .notAnInteger .operatorCount _ => 'o'

theorem field_eq_of_initial_eq {field field' : NumericField} {value value' : String}
    (h : (notAnInteger field value).initial = (notAnInteger field' value').initial) :
    field = field' := by
  cases field with
  | sequenceNumber =>
    cases field' with
    | sequenceNumber => rfl
    | operatorCount => cases h
  | operatorCount =>
    cases field' with
    | sequenceNumber => cases h
    | operatorCount => rfl

theorem head?_messageHiding (further : Char → Bool) (e : RecordError) :
    (e.messageHiding further).toList.head? = some e.initial := by
  unfold messageHiding
  cases e with
  | emptySeparator => simp [initial]
  | fieldCount found => simp [initial]
  | notAnInteger field value => cases field <;> simp [initial, NumericField.name]

theorem eq_of_messageHiding_fieldCount {m n : Nat}
    (h : messageHiding further (.fieldCount m) = messageHiding further (.fieldCount n)) :
    m = n :=
  Nat.repr_injective ((String.append_right_inj _).mp h)

theorem eq_of_messageHiding_notAnInteger {field : NumericField} {value value' : String}
    (h : messageHiding further (.notAnInteger field value) =
      messageHiding further (.notAnInteger field value')) : value = value' :=
  String.toList_inj.mp (Text.quote_inj (String.ofList_inj.mp ((String.append_right_inj _).mp h)))

/-- The message tells the error. -/
theorem eq_of_messageHiding_eq {e e' : RecordError}
    (h : e.messageHiding further = e'.messageHiding further) : e = e' := by
  have hinitial : e.initial = e'.initial := by
    have hhead := head?_messageHiding further e
    rw [h, head?_messageHiding] at hhead
    exact (Option.some.inj hhead).symm
  -- errors of two kinds differ in the first letter
  cases e with
  | emptySeparator =>
    cases e' with
    | emptySeparator => rfl
    | fieldCount => cases hinitial
    | notAnInteger field => cases field <;> cases hinitial
  | fieldCount m =>
    cases e' with
    | emptySeparator => cases hinitial
    | fieldCount n => rw [eq_of_messageHiding_fieldCount h]
    | notAnInteger field => cases field <;> cases hinitial
  | notAnInteger field value =>
    cases e' with
    | emptySeparator => cases field <;> cases hinitial
    | fieldCount => cases field <;> cases hinitial
    | notAnInteger field' value' =>
      obtain rfl := field_eq_of_initial_eq hinitial
      rw [eq_of_messageHiding_notAnInteger h]

theorem noControl_messageHiding (further : Char → Bool) (e : RecordError) :
    NoControl (e.messageHiding further) := by
  unfold messageHiding
  cases e with
  | emptySeparator =>
    show NoControl "field separator must not be empty"
    decide
  | fieldCount found => exact .append (by decide) (Text.noControl_repr found)
  | notAnInteger field value =>
    have hname : NoControl field.name := by cases field <;> decide
    refine .append (.append hname (by decide)) ?_
    intro c hc
    rw [String.toList_ofList] at hc
    exact Text.isControl_of_mem_quote (fun _ => Text.controlsAnd_of_isControl) hc

end Reading

end RecordError

/-- A last cause without a line feed is the last line of the chain, behind its
number. -/
theorem Outcome.splitOn_chainText {context error cause : String} (h : '\n' ∉ cause.toList) :
    ∃ front, (chainText [context, error, cause]).toList.splitOn '\n' =
      front ++ [("    1: " ++ cause).toList, []] := by
  have hline : '\n' ∉ ("    1: " ++ cause).toList := by
    rw [String.toList_append, List.mem_append, not_or]
    exact ⟨by decide, h⟩
  have htext : (chainText [context, error, cause]).toList =
      ("Error: " ++ context ++ "\n\nCaused by:\n    0: " ++ error).toList ++
        '\n' :: (("    1: " ++ cause).toList ++ '\n' :: []) := by
    rw [(Printed.two_causes context error cause).chainText_eq]
    simp
  rw [htext, List.splitOn_append_cons_self, List.splitOn_append_cons_self,
    List.splitOn_eq_singleton hline, List.splitOn_nil]
  exact ⟨_, rfl⟩

namespace RecordError

/-- Whatever characters are hidden besides the controls, two faults with the same
message are the same fault, no message holds a control, and in the printed chain of
causes a message is the last line, all of it. The messages of lines are such
messages. -/
theorem messageHiding_eq_iff (further : Char → Bool) :
    (∀ e e' : RecordError, e.messageHiding further = e'.messageHiding further ↔ e = e') ∧
    (∀ e : RecordError, ∀ c ∈ (e.messageHiding further).toList, isControl c = false) ∧
    (∀ (context error : String) (e : RecordError), ∃ front,
      (Outcome.chainText [context, error, e.messageHiding further]).toList.splitOn '\n' =
        front ++ [("    1: " ++ e.messageHiding further).toList, []]) ∧
    messageHiding Text.isHidden = message := by
  refine ⟨?_, noControl_messageHiding further, ?_, rfl⟩
  · intro e e'
    constructor
    · exact eq_of_messageHiding_eq
    · intro h
      rw [h]
  · intro context error e
    apply Outcome.splitOn_chainText
    intro hmem
    cases noControl_messageHiding further e '\n' hmem

/-- A value that is spelled as the written form of a bell and one that begins with
a bell, also when the digit behind it is hidden; a value with a carriage return, a
line separator and a quote. -/
theorem messageHiding_eq_iff_imitated :
    Record.ofLine "," "t,\\u\x7b7\x7d7,op,1" =
      .error (.notAnInteger .sequenceNumber "\\u\x7b7\x7d7") ∧
    Record.ofLine ";" "t;\x077;op;1" = .error (.notAnInteger .sequenceNumber "\x077") ∧
    message (.notAnInteger .sequenceNumber "\\u\x7b7\x7d7") ≠
      message (.notAnInteger .sequenceNumber "\x077") ∧
    messageHiding (· = '7') (.notAnInteger .sequenceNumber "\\u\x7b7\x7d7") ≠
      messageHiding (· = '7') (.notAnInteger .sequenceNumber "\x077") ∧
    Record.ofLine "," "t,1,op,5\r\u2028\"6" =
      .error (.notAnInteger .operatorCount "5\r\u2028\"6") ∧
    (∃ front, (Outcome.chainText ["log parse error in a\nb", "malformed line 3",
        message (.notAnInteger .operatorCount "5\r\u2028\"6")]).toList.splitOn '\n' =
      front ++ [("    1: operator count is not a non-negative integer: " ++
        "\"5\\r\\u\x7b2028\x7d\\\"6\"").toList, []]) := by
  have hspelled : Record.ofLine "," "t,\\u\x7b7\x7d7,op,1" =
      .error (.notAnInteger .sequenceNumber "\\u\x7b7\x7d7") := by decide +kernel
  have hbell : Record.ofLine ";" "t;\x077;op;1" =
      .error (.notAnInteger .sequenceNumber "\x077") := by decide +kernel
  have hbroken : Record.ofLine "," "t,1,op,5\r\u2028\"6" =
      .error (.notAnInteger .operatorCount "5\r\u2028\"6") := by decide +kernel
  obtain ⟨hiff, _, hlines, hmessage⟩ := messageHiding_eq_iff Text.isHidden
  obtain ⟨hseven, _⟩ := messageHiding_eq_iff (· = '7')
  refine ⟨hspelled, hbell, ?_, (hseven _ _).not.mpr (by decide), hbroken, ?_⟩
  · rw [← hmessage]
    exact (hiff _ _).not.mpr (by decide)
  · obtain ⟨front, hfront⟩ := hlines "log parse error in a\nb" "malformed line 3"
      (.notAnInteger .operatorCount "5\r\u2028\"6")
    rw [hmessage] at hfront
    refine ⟨front, hfront.trans ?_⟩
    have htext : message (.notAnInteger .operatorCount "5\r\u2028\"6") =
        "operator count is not a non-negative integer: " ++
          "\"5\\r\\u\x7b2028\x7d\\\"6\"" := by decide +kernel
    rw [htext]
    rfl

end RecordError

end StreamAudit
