import StreamAudit.Proofs.Census.Claims
import StreamAudit.Proofs.Ledger.Findings

/-!
# What the checks tell of a miscount

Records of honest operators, one of which then claims another count in one of
its records. The check on the claims is silent before. Afterwards it tells of
that operator and of no other, with its highest claim and its lines, unless the
highest claim is still the number of its lines. No other check looks at claims,
so none of them changes what it tells.
-/

namespace StreamAudit

/-- All of a record that is entered outside the book of claims. -/
def Record.receipt (r : Record) : Count × String :=
  (r.sequenceNumber, r.operator)

namespace Ledger

/-- The ledgers agree in everything but what the operators claim. -/
structure SameButClaims (ledger other : Ledger) : Prop where
  lines : ledger.lines = other.lines
  lineTotal : ledger.lineTotal = other.lineTotal
  receipts : ledger.receipts = other.receipts
  maxSequenceNumber : ledger.maxSequenceNumber = other.maxSequenceNumber

namespace SameButClaims

theorem refl (ledger : Ledger) : ledger.SameButClaims ledger := ⟨rfl, rfl, rfl, rfl⟩

section Step

variable {ledger other next next' : Ledger}

theorem record {r r' : Record} (h : ledger.SameButClaims other) (hsame : r.receipt = r'.receipt)
    (hr : ledger.record r = .ok next) (hr' : other.record r' = .ok next') :
    next.SameButClaims next' := by
  obtain ⟨hnumber, hoperator⟩ := Prod.mk.inj hsame
  obtain ⟨hlines, htotal, _, hreceipts, hmax⟩ := (record_eq_ok_iff _ _ _).mp hr
  obtain ⟨hlines', htotal', _, hreceipts', hmax'⟩ := (record_eq_ok_iff _ _ _).mp hr'
  rw [h.lines, hoperator, hlines'] at hlines
  rw [h.lineTotal, htotal'] at htotal
  rw [h.receipts, hnumber, hreceipts'] at hreceipts
  rw [h.maxSequenceNumber, hnumber, ← hmax'] at hmax
  exact ⟨(Except.ok.inj hlines).symm, (Except.ok.inj htotal).symm,
    (Except.ok.inj hreceipts).symm, hmax⟩

/-- Two runs over records that differ in times and claims only. -/
theorem recordAll {records records' : List Record} (h : ledger.SameButClaims other)
    (hsame : records.map Record.receipt = records'.map Record.receipt)
    (hrun : ledger.recordAll records = .ok next) (hrun' : other.recordAll records' = .ok next') :
    next.SameButClaims next' := by
  induction records generalizing ledger other records' with
  | nil =>
    obtain rfl := List.map_eq_nil_iff.mp hsame.symm
    obtain rfl := Except.ok.inj hrun
    obtain rfl := Except.ok.inj hrun'
    exact h
  | cons r rest ih =>
    obtain ⟨r', rest', rfl, hr, hrest⟩ := List.map_eq_cons_iff.mp hsame.symm
    rw [recordAll_cons] at hrun hrun'
    cases hfirst : ledger.record r with
    | error e =>
      rw [hfirst] at hrun
      cases hrun
    | ok mid =>
      cases hfirst' : other.record r' with
      | error e =>
        rw [hfirst'] at hrun'
        cases hrun'
      | ok mid' =>
        rw [hfirst] at hrun
        rw [hfirst'] at hrun'
        exact ih (h.record hr.symm hfirst hfirst') hrest.symm hrun hrun'

end Step

/-! ## Checks that do not look at claims -/

variable {ledger other : Ledger} (h : ledger.SameButClaims other)
include h

theorem parallelism_eq : ledger.parallelism = other.parallelism := by
  rw [parallelism, h.receipts, parallelism]

theorem receiptFindings_eq (expected : Count) :
    ledger.receiptFindings expected = other.receiptFindings expected := by
  rw [receiptFindings, h.receipts, receiptFindings]

theorem rangeFinding?_eq (parallelism : Count) :
    ledger.rangeFinding? parallelism = other.rangeFinding? parallelism := by
  rw [rangeFinding?, expectedTotal, h.lineTotal, h.maxSequenceNumber]
  rfl

theorem operatorSumFinding?_eq : ledger.operatorSumFinding? = other.operatorSumFinding? := by
  rw [operatorSumFinding?, h.lines, h.lineTotal]
  rfl

end SameButClaims

/-! ## The check on claims -/

/-- The operators told of are those among the records whose highest claim is not
the number of their lines. -/
theorem Agrees.operatorFindings_eq_map {ledger : Ledger} {records : List Record}
    (h : ledger.Agrees records) (operators : List String) (hascending : operators.Pairwise (· < ·))
    (hmem : ∀ operator, operator ∈ operators ↔ (∃ r ∈ records, r.operator = operator) ∧
      Census.highestClaim records operator ≠ Census.lines records operator) :
    ledger.operatorFindings = operators.map fun operator =>
      .operatorCount operator (ledger.maxCounts.get operator) (ledger.lines.get operator) := by
  have hdiffer : ledger.maxCounts.Differ ledger.lines.get operators := by
    refine ⟨hascending, ?_⟩
    intro operator
    rw [hmem, h.mem_maxCounts, ne_eq, ne_eq, ← UInt64.toNat_inj, h.maxCounts, h.lines]
  rw [Tally.differ_iff ledger.pairwise_keys_lt.2.1] at hdiffer
  rw [operatorFindings_eq_map_differing, hdiffer]

theorem Agrees.operatorFindings_of_honest {ledger : Ledger} {records : List Record}
    (h : ledger.Agrees records) (hhonest : Census.Honest records) : ledger.operatorFindings = [] :=
  h.operatorFindings_eq_nil_iff.mpr fun r _ => hhonest.highestClaim r.operator

/-- With one claim replaced, only the operator that makes it can be told of. -/
theorem Agrees.operatorFindings_of_replaced {ledger : Ledger} {before after : List Record}
    {r : Record} {count : Count}
    (h : ledger.Agrees (before ++ { r with operatorCount := count } :: after))
    (hhonest : Census.Honest (before ++ r :: after)) :
    ledger.operatorFindings =
      if ledger.maxCounts.get r.operator = ledger.lines.get r.operator then []
      else [.operatorCount r.operator (ledger.maxCounts.get r.operator)
        (ledger.lines.get r.operator)] := by
  have hothers : ∀ operator, operator ≠ r.operator →
      Census.highestClaim (before ++ { r with operatorCount := count } :: after) operator =
        Census.lines (before ++ { r with operatorCount := count } :: after) operator := by
    intro operator hne
    rw [Census.highestClaim_replaced_of_ne before after r count (Ne.symm hne),
      Census.lines_replaced, hhonest.highestClaim]
  have hsame : ledger.maxCounts.get r.operator = ledger.lines.get r.operator ↔
      Census.highestClaim (before ++ { r with operatorCount := count } :: after) r.operator =
        Census.lines (before ++ { r with operatorCount := count } :: after) r.operator := by
    rw [← UInt64.toNat_inj, h.maxCounts, h.lines]
  split
  · next heq =>
    refine h.operatorFindings_eq_map [] .nil ?_
    intro operator
    simp only [List.not_mem_nil, false_iff, not_and, not_not]
    intro _
    by_cases hoperator : operator = r.operator
    · rw [hoperator]
      exact hsame.mp heq
    · exact hothers operator hoperator
  · next hne =>
    refine h.operatorFindings_eq_map [r.operator] (List.pairwise_singleton _ _) ?_
    intro operator
    rw [List.mem_singleton]
    constructor
    · rintro rfl
      exact ⟨⟨_, List.mem_append_right _ List.mem_cons_self, rfl⟩, mt hsame.mpr hne⟩
    · intro htold
      by_contra hoperator
      exact htold.2 (hothers operator hoperator)

end Ledger

/-- A single wrong claim is told of exactly as far as the highest claim shows it.
Of honest records the check on claims tells nothing. When one record of an
operator claims any other count, in whatever place, the check is still silent if
the highest claim is still the number of the operator's lines, and otherwise it
tells of this operator alone, with both numbers. The other checks tell what they
told before. -/
theorem operatorFindings_of_miscount (records : List Record)
    (hroom : records.length < UInt64.size) (hhonest : Census.Honest records) :
    ∃ ledger, Ledger.empty.recordAll records = .ok ledger ∧ ledger.operatorFindings = [] ∧
      ∀ (before after : List Record) (r : Record) (count : Count),
        records = before ++ r :: after →
        ∃ (miscounted : Ledger) (maxReported linesSeen : Count),
          Ledger.empty.recordAll (before ++ { r with operatorCount := count } :: after) =
            .ok miscounted ∧
          linesSeen.toNat = Census.lines records r.operator ∧
          maxReported.toNat =
            Census.claimAfter linesSeen.toNat r.operatorCount.toNat count.toNat ∧
          miscounted.operatorFindings =
            (if maxReported = linesSeen then []
            else [.operatorCount r.operator maxReported linesSeen]) ∧
          miscounted.parallelism = ledger.parallelism ∧
          (∀ expected, miscounted.receiptFindings expected = ledger.receiptFindings expected) ∧
          (∀ parallelism,
            miscounted.rangeFinding? parallelism = ledger.rangeFinding? parallelism) ∧
          miscounted.operatorSumFinding? = ledger.operatorSumFinding? := by
  obtain ⟨ledger, hrun, hagrees⟩ := Ledger.exists_agrees records hroom
  refine ⟨ledger, hrun, hagrees.operatorFindings_of_honest hhonest, ?_⟩
  rintro before after r count rfl
  have hroom' : (before ++ { r with operatorCount := count } :: after).length < UInt64.size := by
    simpa using hroom
  obtain ⟨miscounted, hrun', hagrees'⟩ := Ledger.exists_agrees _ hroom'
  have hsame : (before ++ { r with operatorCount := count } :: after).map Record.receipt =
      (before ++ r :: after).map Record.receipt := by
    simp [Record.receipt]
  have hbooks := (Ledger.SameButClaims.refl Ledger.empty).recordAll hsame hrun' hrun
  have hlines : (miscounted.lines.get r.operator).toNat =
      Census.lines (before ++ r :: after) r.operator := by
    rw [hagrees'.lines, Census.lines_replaced]
  refine ⟨miscounted, miscounted.maxCounts.get r.operator, miscounted.lines.get r.operator,
    hrun', hlines, ?_, hagrees'.operatorFindings_of_replaced hhonest, hbooks.parallelism_eq,
    hbooks.receiptFindings_eq, hbooks.rangeFinding?_eq, hbooks.operatorSumFinding?_eq⟩
  rw [hlines, hagrees'.maxCounts, hhonest.highestClaim_replaced]

/-- Operator `a` has three lines among which another operator's stands. Its last
claim lowered to 0 leaves 2 as the highest and is told of; its claim of 1 raised
to 3 is masked by the honest 3. The only claim of `b` lowered to 0 is told of. -/
theorem operatorFindings_of_miscount_masked :
    Census.Honest [⟨"1", 0, "a", 1⟩, ⟨"2", 0, "b", 1⟩, ⟨"3", 1, "a", 3⟩, ⟨"4", 2, "a", 2⟩] ∧
    (∃ miscounted, Ledger.empty.recordAll
        [⟨"1", 0, "a", 1⟩, ⟨"2", 0, "b", 1⟩, ⟨"3", 1, "a", 0⟩, ⟨"4", 2, "a", 2⟩] =
          .ok miscounted ∧ miscounted.operatorFindings = [.operatorCount "a" 2 3]) ∧
    (∃ miscounted, Ledger.empty.recordAll
        [⟨"1", 0, "a", 3⟩, ⟨"2", 0, "b", 1⟩, ⟨"3", 1, "a", 3⟩, ⟨"4", 2, "a", 2⟩] =
          .ok miscounted ∧ miscounted.operatorFindings = []) ∧
    ∃ miscounted, Ledger.empty.recordAll
        [⟨"1", 0, "a", 1⟩, ⟨"2", 0, "b", 0⟩, ⟨"3", 1, "a", 3⟩, ⟨"4", 2, "a", 2⟩] =
          .ok miscounted ∧ miscounted.operatorFindings = [.operatorCount "b" 0 1] := by
  have hhonest : Census.Honest
      [⟨"1", 0, "a", 1⟩, ⟨"2", 0, "b", 1⟩, ⟨"3", 1, "a", 3⟩, ⟨"4", 2, "a", 2⟩] := by decide
  obtain ⟨_, _, _, hreplaced⟩ := operatorFindings_of_miscount _ (by decide) hhonest
  refine ⟨hhonest, ?_, ?_, ?_⟩
  · obtain ⟨lowered, m, n, hrun, hn, hm, htold, _⟩ :=
      hreplaced [⟨"1", 0, "a", 1⟩, ⟨"2", 0, "b", 1⟩] [⟨"4", 2, "a", 2⟩] ⟨"3", 1, "a", 3⟩ 0 rfl
    obtain rfl : n = 3 := UInt64.toNat_inj.mp hn
    obtain rfl : m = 2 := UInt64.toNat_inj.mp hm
    exact ⟨lowered, hrun, htold⟩
  · obtain ⟨raised, m, n, hrun, hn, hm, htold, _⟩ :=
      hreplaced [] [⟨"2", 0, "b", 1⟩, ⟨"3", 1, "a", 3⟩, ⟨"4", 2, "a", 2⟩] ⟨"1", 0, "a", 1⟩ 3 rfl
    obtain rfl : n = 3 := UInt64.toNat_inj.mp hn
    obtain rfl : m = 3 := UInt64.toNat_inj.mp hm
    exact ⟨raised, hrun, htold⟩
  · obtain ⟨lowered, m, n, hrun, hn, hm, htold, _⟩ :=
      hreplaced [⟨"1", 0, "a", 1⟩] [⟨"3", 1, "a", 3⟩, ⟨"4", 2, "a", 2⟩] ⟨"2", 0, "b", 1⟩ 0 rfl
    obtain rfl : n = 1 := UInt64.toNat_inj.mp hn
    obtain rfl : m = 0 := UInt64.toNat_inj.mp hm
    exact ⟨lowered, hrun, htold⟩

end StreamAudit
