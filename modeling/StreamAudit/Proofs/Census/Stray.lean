import StreamAudit.Proofs.Census.Coverage

/-!
# The census with a stray record

Records that cover a range evenly are disturbed at one place: a record more, or
a record under another number. The receipts of all other numbers stay, and two
even coverings that share the receipts of one number have equally many sources.
So the disturbed number shows, but for one case: with a single source, one more
record just past the range is the range of one number more.
-/

namespace StreamAudit.Census

/-- A record more is one more receipt of its number. -/
theorem receipts_insert (before after : List Record) (r : Record) (number : Nat) :
    receipts (before ++ r :: after) number =
      receipts (before ++ after) number + if r.sequenceNumber.toNat = number then 1 else 0 := by
  simp only [receipts, List.countP_append, List.countP_cons, decide_eq_true_eq]
  omega

section Stray

variable {records disturbed : List Record} {sources last sources' last' : Nat}

/-- Even coverings that share the receipts of a number have equally many sources. -/
theorem Covers.sources_eq (h : Covers records sources last) (h' : Covers disturbed sources' last')
    (hsources : 1 ≤ sources) {number : Nat} (hnumber : number ≤ last)
    (hsame : receipts disturbed number = receipts records number) : sources' = sources := by
  rw [h.received number hnumber] at hsame
  by_cases hle : number ≤ last'
  · rw [← hsame, h'.received number hle]
  · have hzero := h'.absent number (by omega)
    omega

variable (hcovers : Covers records sources last) (hsources : 1 ≤ sources) (hlast : 1 ≤ last)
include hcovers hsources hlast

/-- One more record leaves an even covering only at the end of a range that has
one source. -/
theorem exists_covers_insert_iff {number : Nat}
    (hinsert : ∀ n, receipts disturbed n = receipts records n + if number = n then 1 else 0) :
    (∃ sources' last', 1 ≤ sources' ∧ 1 ≤ last' ∧ Covers disturbed sources' last') ↔
      sources = 1 ∧ number = last + 1 := by
  constructor
  · intro hdisturbed
    obtain ⟨sources', last', _, _, hcovers'⟩ := hdisturbed
    -- one of the numbers 0 and 1 is not the new record's
    have hsame : sources' = sources := by
      by_cases hzero : number = 0
      · exact hcovers.sources_eq hcovers' hsources hlast (by rw [hinsert, if_neg (by omega)]; rfl)
      · exact hcovers.sources_eq hcovers' hsources (Nat.zero_le last)
          (by rw [hinsert, if_neg hzero]; rfl)
    have hreceived : receipts disturbed number = receipts records number + 1 := by
      rw [hinsert, if_pos rfl]
    have hle' : number ≤ last' := hcovers'.le_last_of_pos (by omega)
    rw [hcovers'.received number hle', hsame] at hreceived
    have hlt : last < number := by
      by_contra hle
      rw [hcovers.received number (by omega)] at hreceived
      omega
    rw [hcovers.absent number hlt] at hreceived
    refine ⟨hreceived, ?_⟩
    by_contra hne
    -- otherwise the number after the last is missing
    have hnext := hcovers'.received (last + 1) (by omega)
    rw [hinsert, if_neg hne, hcovers.absent (last + 1) (by omega)] at hnext
    omega
  · intro hend
    obtain ⟨rfl, rfl⟩ := hend
    refine ⟨1, last + 1, le_rfl, by omega, ?_, ?_⟩
    · intro n hn
      rw [hinsert]
      by_cases hnew : last + 1 = n
      · rw [if_pos hnew, hcovers.absent n (by omega)]
      · rw [if_neg hnew, hcovers.received n (by omega)]
    · intro n hn
      rw [hinsert, if_neg (by omega), hcovers.absent n (by omega)]

section Move

variable {origin target : Nat} (hne : origin ≠ target)
  (hmove : ∀ n, receipts disturbed n + (if origin = n then 1 else 0) =
    receipts records n + if target = n then 1 else 0)
  (hcovers' : Covers disturbed sources' last')
include hne hmove hcovers'

omit hlast in
/-- With as many sources as before, the number that the record left would lie
past the new range, and the number it went to past the old one. -/
theorem sources_ne_of_move : sources' ≠ sources := by
  rintro rfl
  have horigin := hmove origin
  have htarget := hmove target
  rw [if_pos rfl, if_neg (Ne.symm hne)] at horigin
  rw [if_neg hne, if_pos rfl] at htarget
  have hbefore := hcovers.receipts_le origin
  have hafter := hcovers'.receipts_le target
  have hleft : origin ≤ last := hcovers.le_last_of_pos (by omega)
  have hcame : target ≤ last' := hcovers'.le_last_of_pos (by omega)
  have hgone : last' < origin := by
    by_contra hle
    rw [hcovers'.received origin (by omega)] at horigin
    omega
  have hnew : last < target := by
    by_contra hle
    rw [hcovers.received target (by omega)] at htarget
    omega
  omega

/-- A record under another number never leaves an even covering. -/
theorem false_of_move (hsources' : 1 ≤ sources') (hlast' : 1 ≤ last') : False := by
  by_cases hfree : ∃ n ≤ last, n ≠ origin ∧ n ≠ target
  · obtain ⟨n, hn, hnotOrigin, hnotTarget⟩ := hfree
    have hsame := hmove n
    rw [if_neg (Ne.symm hnotOrigin), if_neg (Ne.symm hnotTarget)] at hsame
    exact sources_ne_of_move hcovers hsources hne hmove hcovers'
      (hcovers.sources_eq hcovers' hsources hn hsame)
  · -- the range is 0 and 1, and the record went from one of them to the other
    have honly : ∀ n ≤ last, n = origin ∨ n = target := by
      intro n hn
      by_contra hnot
      exact hfree ⟨n, hn, by omega, by omega⟩
    have hzero := honly 0 (Nat.zero_le last)
    have hone := honly 1 hlast
    have hlastOne : last = 1 := by
      by_contra hlarge
      have htwo := honly 2 (by omega)
      omega
    have hlastOne' : last' = 1 := by
      by_contra hlarge
      have htwo := hmove 2
      rw [if_neg (by omega), if_neg (by omega), hcovers.absent 2 (by omega),
        hcovers'.received 2 (by omega)] at htwo
      omega
    have hreceived := hcovers'.received origin (by omega)
    have hreceived' := hcovers'.received target (by omega)
    have horigin := hmove origin
    have htarget := hmove target
    rw [if_pos rfl, if_neg (Ne.symm hne), hcovers.received origin (by omega)] at horigin
    rw [if_neg hne, if_pos rfl, hcovers.received target (by omega)] at htarget
    omega

end Move

end Stray

end StreamAudit.Census
