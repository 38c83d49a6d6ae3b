import Mathlib.Data.List.TakeWhile
import StreamAudit.CommandLine
import StreamAudit.Proofs.Text.Encoding

/-!
# The command lines that are accepted

The arguments in which an accepted command line consists, said without the
reader of arguments: one value that is not empty, or two of which the second is
text. Two hyphens alone count as a value from their second occurrence on, and
only what stands before the first is looked at for the names of options. A
command line asks for at most one invocation.
-/

namespace StreamAudit.CommandLine

/-- An argument that begins as a named option does has a name that is text. -/
def Readable (argument : List UInt8) : Prop :=
  ∀ rest, argument = hyphens ++ rest →
    ∃ name, Text.Utf8.encode name = rest.takeWhile (· ≠ equalsSign)

/-- The values that stand in the arguments. -/
inductive Values : List (List UInt8) → List (List UInt8) → Prop
  | plain {arguments : List (List UInt8)} :
      hyphens ∉ arguments → (∀ argument ∈ arguments, Readable argument) →
      Values arguments arguments
  | escaped {before after : List (List UInt8)} :
      hyphens ∉ before → (∀ argument ∈ before, Readable argument) →
      Values (before ++ hyphens :: after) (before ++ after)

/-- The command line is accepted and asks for the invocation. -/
inductive Accepts (arguments : List (List UInt8)) : Invocation → Prop
  | alone {input : List UInt8} : Values arguments [input] → input ≠ [] →
      Accepts arguments ⟨input, ","⟩
  | unmarked {input : List UInt8} {option : String} :
      Values arguments [input, Text.Utf8.encode option] → input ≠ [] →
      ¬ "--separator=".toList <:+: option.toList → Accepts arguments ⟨input, ","⟩
  | marked {input : List UInt8} {option : String} :
      Values arguments [input, Text.Utf8.encode option] → input ≠ [] →
      "--separator=".toList <:+: option.toList →
      Accepts arguments ⟨input, String.ofList (option.toList.drop 12)⟩

/-! ## Values -/

theorem isReadable_iff {argument : List UInt8} :
    isReadable argument = true ↔ Readable argument := by
  unfold Readable
  rw [isReadable, Bool.or_eq_true, Bool.not_eq_true', ← Bool.not_eq_true,
    List.isPrefixOf_iff_prefix, Text.Utf8.isSome_decode?_iff]
  constructor
  · intro h rest hrest
    subst hrest
    exact h.resolve_left fun hnot => hnot (List.prefix_append _ _)
  · intro h
    by_cases hprefix : hyphens <+: argument
    · obtain ⟨rest, rfl⟩ := hprefix
      exact .inr (h rest rfl)
    · exact .inl hprefix

theorem all_isReadable_iff {arguments : List (List UInt8)} :
    arguments.all isReadable = true ↔ ∀ argument ∈ arguments, Readable argument := by
  simp only [List.all_eq_true, isReadable_iff]

theorem values?_of_not_mem {arguments : List (List UInt8)} (h : hyphens ∉ arguments) :
    values? arguments = if arguments.all isReadable then some arguments else none := by
  have hall : arguments.takeWhile (· ≠ hyphens) = arguments := by
    rw [List.takeWhile_eq_self_iff]
    intro argument hmem
    exact decide_eq_true (ne_of_mem_of_not_mem hmem h)
  rw [values?, hall, List.erase_of_not_mem h]

theorem values?_append_hyphens {before : List (List UInt8)} (h : hyphens ∉ before)
    (after : List (List UInt8)) :
    values? (before ++ hyphens :: after) =
      if before.all isReadable then some (before ++ after) else none := by
  have hbefore : (before ++ hyphens :: after).takeWhile (· ≠ hyphens) = before := by
    rw [List.takeWhile_append_of_pos]
    · simp
    · intro argument hmem
      exact decide_eq_true (ne_of_mem_of_not_mem hmem h)
  rw [values?, hbefore, List.erase_append_right _ h, List.erase_cons_head]

theorem values?_eq_some_iff {arguments values : List (List UInt8)} :
    values? arguments = some values ↔ Values arguments values := by
  constructor
  · intro h
    by_cases hmem : hyphens ∈ arguments
    · obtain ⟨before, after, rfl, hbefore⟩ := List.eq_append_cons_of_mem hmem
      rw [values?_append_hyphens hbefore, Option.ite_none_right_eq_some] at h
      obtain ⟨hall, hvalues⟩ := h
      obtain rfl := Option.some.inj hvalues
      exact .escaped hbefore (all_isReadable_iff.mp hall)
    · rw [values?_of_not_mem hmem, Option.ite_none_right_eq_some] at h
      obtain ⟨hall, hvalues⟩ := h
      obtain rfl := Option.some.inj hvalues
      exact .plain hmem (all_isReadable_iff.mp hall)
  · intro h
    cases h with
    | plain hnot hall => rw [values?_of_not_mem hnot, if_pos (all_isReadable_iff.mpr hall)]
    | escaped hnot hall =>
      rw [values?_append_hyphens hnot, if_pos (all_isReadable_iff.mpr hall)]

/-! ## Invocations -/

theorem separator?_of_marked {argument : String}
    (h : "--separator=".toList <:+: argument.toList) :
    separator? argument = some (String.ofList (argument.toList.drop 12)) :=
  if_pos ((Text.occursIn_iff_infix _ _).mpr h)

theorem separator?_of_unmarked {argument : String}
    (h : ¬ "--separator=".toList <:+: argument.toList) : separator? argument = none :=
  if_neg (fun hoccurs => h ((Text.occursIn_iff_infix _ _).mp hoccurs))

variable {arguments : List (List UInt8)} {invocation : Invocation}

theorem parse?_of_one {input : List UInt8} (hvalues : Values arguments [input])
    (hinput : input ≠ []) : parse? arguments = some ⟨input, ","⟩ := by
  rw [parse?, values?_eq_some_iff.mpr hvalues]
  exact if_neg (by simpa using hinput)

theorem parse?_of_two {input : List UInt8} {option : String}
    (hvalues : Values arguments [input, Text.Utf8.encode option]) (hinput : input ≠ []) :
    parse? arguments = some ⟨input, (separator? option).getD ","⟩ := by
  rw [parse?, values?_eq_some_iff.mpr hvalues]
  simp only [Text.Utf8.decode?_encode, List.isEmpty_iff, if_neg hinput]
  rfl

theorem Accepts.parse?_eq (h : Accepts arguments invocation) :
    parse? arguments = some invocation := by
  cases h with
  | alone hvalues hinput => exact parse?_of_one hvalues hinput
  | unmarked hvalues hinput hmark =>
    rw [parse?_of_two hvalues hinput, separator?_of_unmarked hmark, Option.getD_none]
  | marked hvalues hinput hmark =>
    rw [parse?_of_two hvalues hinput, separator?_of_marked hmark, Option.getD_some]

theorem accepts_of_parse? (h : parse? arguments = some invocation) :
    Accepts arguments invocation := by
  unfold parse? at h
  split at h
  next input hvalues =>
    obtain ⟨hinput, hinvocation⟩ := Option.ite_none_left_eq_some.mp h
    obtain rfl := Option.some.inj hinvocation
    exact .alone (values?_eq_some_iff.mp hvalues) (by simpa using hinput)
  next input bytes hvalues =>
    obtain ⟨hinput, hread⟩ := Option.ite_none_left_eq_some.mp h
    split at hread
    · cases hread
    · next option hdecode =>
      obtain rfl := Option.some.inj hread
      rw [Text.Utf8.eq_encode_of_decode? hdecode] at hvalues
      by_cases hmark : "--separator=".toList <:+: option.toList
      · rw [separator?_of_marked hmark, Option.getD_some]
        exact .marked (values?_eq_some_iff.mp hvalues) (by simpa using hinput) hmark
      · rw [separator?_of_unmarked hmark, Option.getD_none]
        exact .unmarked (values?_eq_some_iff.mp hvalues) (by simpa using hinput) hmark
  next => cases h

theorem parse?_eq_some_iff : parse? arguments = some invocation ↔ Accepts arguments invocation :=
  ⟨accepts_of_parse?, Accepts.parse?_eq⟩

theorem parse?_eq_none_iff :
    parse? arguments = none ↔ ∀ invocation, ¬ Accepts arguments invocation := by
  rw [Option.eq_none_iff_forall_ne_some]
  exact forall_congr' fun _ => not_congr parse?_eq_some_iff

end StreamAudit.CommandLine
