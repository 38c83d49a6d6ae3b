import Mathlib.Data.List.DropRight
import StreamAudit.Proofs.CommandLine.Acceptance

/-!
# The separator that an argument carries

The marker may stand anywhere in an argument, but the separator is what follows the
first twelve characters of the argument. The two agree when the argument begins
with the marker. Behind other text the separator keeps the end of the marker, as
many characters as there are before it, and behind more than twelve characters the
whole marker and what is left of these. Which occurrence of the marker is meant
makes no difference. With an input that is text, both arguments are read as values,
whatever they look like, unless one of them is the two hyphens alone.
-/

namespace StreamAudit.CommandLine

open Text.Utf8 (encode)

/-! ## Behind the first twelve characters -/

theorem separator?_eq_none_iff {argument : String} :
    separator? argument = none ↔ ¬ "--separator=".toList <:+: argument.toList := by
  constructor
  · intro h hmark
    rw [separator?_of_marked hmark] at h
    cases h
  · exact separator?_of_unmarked

theorem marker_isInfix (u v : String) :
    "--separator=".toList <:+: (u ++ "--separator=" ++ v).toList := by
  rw [String.toList_append, String.toList_append]
  exact ⟨u.toList, v.toList, rfl⟩

theorem drop_append_rtake (marker : List Char) {before : List Char}
    (h : before.length ≤ marker.length) (after : List Char) :
    (before ++ (marker ++ after)).drop marker.length = marker.rtake before.length ++ after := by
  rw [List.drop_append, List.drop_eq_nil_of_le h, List.nil_append,
    List.drop_append_of_le_length (Nat.sub_le _ _), List.rtake]

/-- Up to twelve characters before the marker leave as many of its last characters. -/
theorem separator?_append_of_le {u : String} (h : u.length ≤ 12) (v : String) :
    separator? (u ++ "--separator=" ++ v) =
      some (String.ofList ("--separator=".toList.rtake u.length) ++ v) := by
  rw [← String.length_toList] at h ⊢
  rw [separator?_of_marked (marker_isInfix u v), Option.some.injEq]
  apply String.toList_injective
  simp only [String.toList_append, String.toList_ofList, List.append_assoc]
  exact drop_append_rtake "--separator=".toList h v.toList

/-- More than twelve leave the marker, and what follows the twelve before it. -/
theorem separator?_append_of_lt {u : String} (h : 12 < u.length) (v : String) :
    separator? (u ++ "--separator=" ++ v) =
      some (String.ofList (u.toList.drop 12) ++ "--separator=" ++ v) := by
  rw [← String.length_toList] at h
  rw [separator?_of_marked (marker_isInfix u v), Option.some.injEq]
  apply String.toList_injective
  simp only [String.toList_append, String.toList_ofList, List.append_assoc]
  exact List.drop_append_of_le_length h.le

theorem separator?_marker_append (separator : String) :
    separator? ("--separator=" ++ separator) = some separator := by
  have h := separator?_append_of_le (u := "") (by decide) separator
  simpa using h

/-! ## Arguments that are text -/

/-- Text can be read as a value, also when it begins as a named option does. -/
theorem readable_encode (text : String) : Readable (encode text) := by
  intro rest h
  obtain ⟨more, hmore⟩ := Text.Utf8.exists_of_encode_eq_cons (c := '-') (by decide) h
  obtain ⟨name, rfl⟩ := Text.Utf8.exists_of_encode_eq_cons (c := '-') (by decide) hmore
  exact ⟨_, (Text.Utf8.takeWhile_encode (c := '=') (by decide) name).symm⟩

theorem encode_eq_hyphens_iff {text : String} : encode text = hyphens ↔ text = "--" :=
  Text.Utf8.encode_inj (b := "--")

theorem values_of_texts (arguments : List String) (h : "--" ∉ arguments) :
    Values (arguments.map encode) (arguments.map encode) := by
  apply Values.plain
  · intro hmem
    obtain ⟨text, htext, hhyphens⟩ := List.mem_map.mp hmem
    exact h (encode_eq_hyphens_iff.mp hhyphens ▸ htext)
  · intro argument hmem
    obtain ⟨text, _, rfl⟩ := List.mem_map.mp hmem
    exact readable_encode text

section Input

variable {input : String} (hne : input ≠ "") (hhyphens : input ≠ "--")
include hne hhyphens

theorem parse?_of_texts {option : String} (h : option ≠ "--") :
    parse? [encode input, encode option] =
      some ⟨encode input, (separator? option).getD ","⟩ := by
  have hvalues : Values [encode input, encode option] [encode input, encode option] :=
    values_of_texts [input, option] (by simp [hhyphens.symm, h.symm])
  exact parse?_of_two hvalues (mt Text.Utf8.encode_eq_nil_iff.mp hne)

/-- Two hyphens as the second argument are no option. -/
theorem parse?_of_text_hyphens :
    parse? [encode input, encode "--"] = some ⟨encode input, ","⟩ := by
  have hvalues : Values ([encode input] ++ hyphens :: []) ([encode input] ++ []) := by
    apply Values.escaped
    · rw [List.mem_singleton]
      exact fun h => hhyphens (encode_eq_hyphens_iff.mp h.symm)
    · intro argument hmem
      rw [List.mem_singleton.mp hmem]
      exact readable_encode input
  exact parse?_of_one hvalues (mt Text.Utf8.encode_eq_nil_iff.mp hne)

theorem parse?_of_marker_append (separator : String) :
    parse? [encode input, encode ("--separator=" ++ separator)] =
      some ⟨encode input, separator⟩ := by
  have hoption : "--separator=" ++ separator ≠ "--" := by
    intro h
    have hlength := congrArg String.length h
    rw [String.length_append] at hlength
    have hmarker : "--separator=".length = 12 := rfl
    have htwo : "--".length = 2 := rfl
    omega
  rw [parse?_of_texts hne hhyphens hoption, separator?_marker_append, Option.getD_some]

theorem parse?_of_unmarked {option : String} (h : ¬ "--separator=".toList <:+: option.toList) :
    parse? [encode input, encode option] = some ⟨encode input, ","⟩ := by
  by_cases hoption : option = "--"
  · rw [hoption]
    exact parse?_of_text_hyphens hne hhyphens
  · rw [parse?_of_texts hne hhyphens hoption, separator?_of_unmarked h, Option.getD_none]

end Input

/-- An argument carries a separator exactly if the marker stands in it, and the
separator is then what follows the first twelve characters, wherever the marker
stands and whichever of its occurrences is taken. So the marker with any separator
behind it is an option for this separator, also for the empty one, and an option
without the marker leaves the comma. -/
theorem separator_of_arguments :
    (∀ argument, separator? argument = none ↔
      ¬ "--separator=".toList <:+: argument.toList) ∧
    (∀ u v : String, u.length ≤ 12 → separator? (u ++ "--separator=" ++ v) =
      some (String.ofList ("--separator=".toList.rtake u.length) ++ v)) ∧
    (∀ u v : String, 12 < u.length → separator? (u ++ "--separator=" ++ v) =
      some (String.ofList (u.toList.drop 12) ++ "--separator=" ++ v)) ∧
    ∀ input : String, input ≠ "" → input ≠ "--" →
      (∀ separator, parse? [encode input, encode ("--separator=" ++ separator)] =
        some ⟨encode input, separator⟩) ∧
      ∀ option : String, ¬ "--separator=".toList <:+: option.toList →
        parse? [encode input, encode option] = some ⟨encode input, ","⟩ := by
  refine ⟨fun _ => separator?_eq_none_iff, fun u v h => separator?_append_of_le h v,
    fun u v h => separator?_append_of_lt h v, ?_⟩
  intro input hne hhyphens
  exact ⟨parse?_of_marker_append hne hhyphens, fun _ h => parse?_of_unmarked hne hhyphens h⟩

/-- Two letters before the marker, fourteen before it, an input that looks like an
option and an empty separator, and two hyphens in place of an option. -/
theorem separator_of_arguments_sliced :
    "éé".length ≤ 12 ∧ separator? ("éé" ++ "--separator=" ++ "→") = some "r=→" ∧
    12 < "--separator=éé".length ∧
    separator? ("--separator=éé" ++ "--separator=" ++ ";") = some "éé--separator=;" ∧
    "--x=→" ≠ "" ∧ "--x=→" ≠ "--" ∧
    parse? [encode "--x=→", encode "--separator="] = some ⟨encode "--x=→", ""⟩ ∧
    ¬ "--separator=".toList <:+: "--".toList ∧
    parse? [encode "--x=→", encode "--"] = some ⟨encode "--x=→", ","⟩ := by
  obtain ⟨_, hle, hlt, hparse⟩ := separator_of_arguments
  obtain ⟨hmarked, hunmarked⟩ := hparse "--x=→" (by decide) (by decide)
  exact ⟨by decide, hle "éé" "→" (by decide), by decide, hlt "--separator=éé" ";" (by decide),
    by decide, by decide, hmarked "", by decide, hunmarked "--" (by decide)⟩

end StreamAudit.CommandLine
