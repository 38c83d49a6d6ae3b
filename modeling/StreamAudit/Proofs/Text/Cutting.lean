import StreamAudit.Proofs.Text.Occurrences

/-!
# Cutting what was joined

Joined fields are found again when the separator stands in none of them and
cannot overlap itself. The second condition is needed: after a field that ends
in `a`, the separator `aa` is met one character too early.
-/

namespace StreamAudit.Text

/-- No beginning of the text is also an end of it, but for the empty text and
the whole. -/
def Unbordered (text : List Char) : Prop :=
  ∀ border, border ≠ [] → border ≠ text → border <+: text → ¬ border <:+ text

instance (text : List Char) : Decidable (Unbordered text) :=
  decidable_of_iff (∀ border ∈ text.inits, border ≠ [] → border ≠ text → ¬ border <:+ text) (by
    simp only [List.mem_inits]
    exact ⟨fun h border hne hproper hpre => h border hpre hne hproper,
      fun h border hpre hne hproper => h border hne hproper hpre⟩)

theorem unbordered_singleton (c : Char) : Unbordered [c] := by
  intro border hne hproper hpre
  rcases List.prefix_cons_iff.mp hpre with hnil | ⟨rest, hcons, hrest⟩
  · exact absurd hnil hne
  · rw [List.prefix_nil.mp hrest] at hcons
    exact absurd hcons hproper

/-- A separator that follows a text free of it is not met inside that text:
a match there would end in the separator that follows and leave a border. -/
theorem not_prefix_append {separator field rest : List Char} (hsep : Unbordered separator)
    (hfree : ¬ separator <:+: field) (hne : field ≠ []) :
    ¬ separator <+: field ++ (separator ++ rest) := by
  intro hpre
  rcases Nat.le_total separator.length field.length with hle | hle
  -- the match would lie inside the field
  · have hfield := List.prefix_of_prefix_length_le hpre (List.prefix_append _ _) hle
    exact hfree hfield.isInfix
  -- the match would reach past the field, which it then begins with
  · obtain ⟨border, rfl⟩ := List.prefix_of_prefix_length_le (List.prefix_append _ _) hpre hle
    have hborder : border <+: field ++ border := by
      rw [List.prefix_append_right_inj] at hpre
      exact List.prefix_of_prefix_length_le hpre (List.prefix_append _ _) (by simp)
    have hproper : border ≠ field ++ border := by
      intro heq
      exact hne (List.append_left_eq_self.mp heq.symm)
    have hnil : border ≠ [] := by
      rintro rfl
      exact hfree (by simp)
    exact hsep border hnil hproper hborder (List.suffix_append _ _)

/-- Where the separator was written after a field is where it is first met. -/
theorem isFirst_of_unbordered {separator field : List Char} (hsep : Unbordered separator)
    (hfree : ¬ separator <:+: field) (rest : List Char) : IsFirst separator field rest := by
  induction field with
  | nil => exact isFirst_nil _ _
  | cons c field ih =>
    have hmiss : ¬ separator <+: (c :: field) ++ (separator ++ rest) :=
      not_prefix_append hsep hfree (List.cons_ne_nil c field)
    rw [List.infix_cons_iff, not_or] at hfree
    exact isFirst_cons_iff.mpr ⟨hmiss, ih hfree.2⟩

theorem cutsInto_join {separator : List Char} (hsep : Unbordered separator)
    {row : List (List Char)} (hrow : row ≠ []) (hfree : ∀ field ∈ row, ¬ separator <:+: field) :
    CutsInto separator (join separator row) row := by
  induction row with
  | nil => exact absurd rfl hrow
  | cons field rest ih =>
    have hfield := hfree field List.mem_cons_self
    by_cases hrest : rest = []
    · subst hrest
      simpa [join, List.intercalate] using CutsInto.last hfield
    · rw [join_cons hrest]
      exact .field (isFirst_of_unbordered hsep hfield _)
        (ih hrest fun next hnext => hfree next (List.mem_cons_of_mem field hnext))

theorem mem_join {separator field : List Char} {row : List (List Char)} {c : Char}
    (hfield : field ∈ row) (hc : c ∈ field) : c ∈ join separator row := by
  induction row with
  | nil => cases hfield
  | cons first rest ih =>
    by_cases hrest : rest = []
    · subst hrest
      obtain rfl := List.mem_singleton.mp hfield
      simpa [join, List.intercalate] using hc
    · rw [join_cons hrest, List.mem_append, List.mem_append]
      rcases List.mem_cons.mp hfield with rfl | hmore
      · exact .inl hc
      · exact .inr (.inr (ih hmore))

/-- A joined row holds no characters but those of its fields and of the separator. -/
theorem mem_of_mem_join {separator : List Char} {row : List (List Char)} {c : Char}
    (h : c ∈ join separator row) : c ∈ separator ∨ ∃ field ∈ row, c ∈ field := by
  induction row with
  | nil => simp [join, List.intercalate] at h
  | cons field rest ih =>
    by_cases hrest : rest = []
    · subst hrest
      exact .inr ⟨field, List.mem_cons_self, by simpa [join, List.intercalate] using h⟩
    · rw [join_cons hrest, List.mem_append, List.mem_append] at h
      rcases h with hfield | hsep | hmore
      · exact .inr ⟨field, List.mem_cons_self, hfield⟩
      · exact .inl hsep
      · rcases ih hmore with hsep | ⟨next, hnext, hc⟩
        · exact .inl hsep
        · exact .inr ⟨next, List.mem_cons_of_mem field hnext, hc⟩

end StreamAudit.Text
