import Mathlib.Data.List.Induction
import StreamAudit.Proofs.Tally.Operations

/-!
# Tallies and their histories

A tally that was empty at first is asked for one operation after the other, and
what it gives is told by the operations alone. The keys are those that the
operations told of. The count of a key comes from the operations that told of this
key, one after the other from zero on, whatever happened to other keys in between.
Readings and interrupted increments are part of a history, and make no difference
to what follows.
-/

namespace StreamAudit.Tally

universe u

section History

variable {α : Type u}

/-- The keys that the operations told of. -/
def toldOf (history : List (Operation α)) : List α :=
  history.filterMap Operation.toldOf?

theorem mem_toldOf_append_singleton (history : List (Operation α)) (op : Operation α) (key : α) :
    key ∈ toldOf (history ++ [op]) ↔ op.toldOf? = some key ∨ key ∈ toldOf history := by
  rw [toldOf, List.filterMap_append, List.mem_append, or_comm]
  simp [toldOf]

section Replay

variable [DecidableEq α]

/-- The count of a key, by the operations that told of it. -/
def replay (history : List (Operation α)) (key : α) : Nat :=
  (history.filter fun op => op.toldOf? = some key).foldl Operation.recount 0

theorem replay_append_singleton (history : List (Operation α)) (op : Operation α) (key : α) :
    replay (history ++ [op]) key =
      if op.toldOf? = some key then op.recount (replay history key) else replay history key := by
  rw [replay, List.filter_append, List.foldl_append]
  by_cases h : op.toldOf? = some key
  · simp [h, replay]
  · simp [h, replay]

theorem replay_of_not_mem {history : List (Operation α)} {key : α}
    (h : key ∉ toldOf history) : replay history key = 0 := by
  have hnone : (history.filter fun op => op.toldOf? = some key) = [] := by
    rw [List.filter_eq_nil_iff]
    intro op hop htold
    exact h (List.mem_filterMap.mpr ⟨op, hop, by simpa using htold⟩)
  rw [replay, hnone, List.foldl_nil]

end Replay

variable [Ord α] [Std.TransOrd α]

/-- The tally that is left when the operations were performed on an empty one,
interrupted ones included. -/
def after (history : List (Operation α)) : Tally α :=
  history.foldl (fun t op => (t.perform op).2) empty

theorem after_append_singleton (history : List (Operation α)) (op : Operation α) :
    after (history ++ [op]) = ((after history).perform op).2 := by
  rw [after, List.foldl_append]
  rfl

variable [DecidableEq α]

/-- The tally has the keys and the counts that the history tells. -/
structure Follows (t : Tally α) (history : List (Operation α)) : Prop where
  mem_keys : ∀ key, key ∈ t.keys ↔ key ∈ toldOf history
  get : ∀ key, (t.get key).toNat = replay history key

theorem follows_empty : (empty : Tally α).Follows [] where
  mem_keys key := by simp [keys_empty, toldOf]
  get key := by
    rw [get_empty]
    rfl

variable [Std.LawfulEqOrd α] {t : Tally α} {history : List (Operation α)}

theorem Follows.perform (h : t.Follows history) (op : Operation α) :
    (t.perform op).2.Follows (history ++ [op]) where
  mem_keys key := by rw [mem_keys_perform, h.mem_keys, mem_toldOf_append_singleton]
  get key := by rw [toNat_get_perform, h.get, replay_append_singleton]

theorem follows_after (history : List (Operation α)) : (after history).Follows history := by
  induction history using List.reverseRecOn with
  | nil => exact follows_empty
  | append_singleton history op ih =>
    rw [after_append_singleton]
    exact ih.perform op

end History

/-! ## What is given after a history -/

section Giving

variable {α : Type u} [Ord α]

/-- Two strictly ascending lists of the same elements are equal. -/
theorem eq_of_ascending [Std.TransOrd α] {β : Type u} {f : β → α} {xs ys : List β}
    (hxs : xs.Pairwise fun a b => compare (f a) (f b) = .lt)
    (hys : ys.Pairwise fun a b => compare (f a) (f b) = .lt)
    (hmem : ∀ x, x ∈ xs ↔ x ∈ ys) : xs = ys := by
  have hirrefl : Std.Irrefl fun a b : β => compare (f a) (f b) = .lt :=
    ⟨fun a h => by simp [Std.ReflOrd.compare_self] at h⟩
  have hantisymm : Std.Antisymm fun a b : β => compare (f a) (f b) = .lt :=
    ⟨fun a b hab hba => by
      rw [Std.OrientedOrd.eq_swap, hba] at hab
      cases hab⟩
  exact hxs.eq_of_mem_iff hys fun x => hmem x

variable [DecidableEq α]

/-- The operation gives this after the history. -/
inductive Gives (history : List (Operation α)) :
    Operation α → Except Overflow (Answer α) → Prop
  | increment {key : α} : replay history key ≠ 2 ^ 64 - 1 →
      Gives history (.increment key) (.ok .done)
  | full {key : α} : replay history key = 2 ^ 64 - 1 →
      Gives history (.increment key) (.error .addition)
  | raiseTo {key : α} {n : Count} : Gives history (.raiseTo key n) (.ok .done)
  | get {key : α} {n : Count} : n.toNat = replay history key →
      Gives history (.get key) (.ok (.count n))
  | entries {entries : List (α × Count)} :
      entries.Pairwise (fun a b => compare a.1 b.1 = .lt) →
      (∀ entry, entry ∈ entries ↔
        entry.1 ∈ toldOf history ∧ entry.2.toNat = replay history entry.1) →
      Gives history .entries (.ok (.entries entries))
  | keys {keys : List α} : keys.Pairwise (fun a b => compare a b = .lt) →
      (∀ key, key ∈ keys ↔ key ∈ toldOf history) → Gives history .keys (.ok (.keys keys))
  | total {n : Count} : n.toNat = ∑ key ∈ (toldOf history).toFinset, replay history key →
      Gives history .total (.ok (.count n))
  | totalFull : 2 ^ 64 ≤ ∑ key ∈ (toldOf history).toFinset, replay history key →
      Gives history .total (.error .addition)
  | size : Gives history .size (.ok (.size (toldOf history).toFinset.card))
  | isEmpty {empty : Bool} : (empty = true ↔ toldOf history = []) →
      Gives history .isEmpty (.ok (.isEmpty empty))

variable [Std.TransOrd α]

section Follows

variable {t : Tally α} {history : List (Operation α)} (h : t.Follows history)
include h

theorem Follows.toFinset_keys : t.keys.toFinset = (toldOf history).toFinset := by
  ext key
  rw [List.mem_toFinset, List.mem_toFinset, h.mem_keys]

theorem Follows.size_eq : t.size = (toldOf history).toFinset.card := by
  rw [← h.toFinset_keys, List.toFinset_card_of_nodup t.nodup_keys, ← length_entries,
    ← map_fst_entries, List.length_map]

theorem Follows.isEmpty_iff : t.isEmpty = true ↔ toldOf history = [] := by
  have hkeys : t.isEmpty = t.keys.isEmpty := Std.ExtTreeMap.isEmpty_keys.symm
  rw [hkeys, List.isEmpty_iff, List.eq_nil_iff_forall_not_mem, List.eq_nil_iff_forall_not_mem]
  simp only [h.mem_keys]

variable [Std.LawfulEqOrd α]

theorem Follows.mem_entries (entry : α × Count) :
    entry ∈ t.entries ↔
      entry.1 ∈ toldOf history ∧ entry.2.toNat = replay history entry.1 := by
  rw [entries_eq_map_keys, List.mem_map, ← h.mem_keys, ← h.get, UInt64.toNat_inj]
  constructor
  · rintro ⟨key, hkey, rfl⟩
    exact ⟨hkey, rfl⟩
  · rintro ⟨hkey, hn⟩
    exact ⟨entry.1, hkey, Prod.ext rfl hn.symm⟩

theorem Follows.sum_entries :
    (t.entries.map (·.2.toNat)).sum = ∑ key ∈ (toldOf history).toFinset, replay history key := by
  rw [← h.toFinset_keys, List.sum_toFinset _ t.nodup_keys, entries_eq_map_keys, List.map_map]
  simp only [Function.comp_def, h.get]

theorem Follows.gives (op : Operation α) : Gives history op (t.perform op).1 := by
  cases op with
  | increment key =>
    cases hinc : t.increment key with
    | ok raised =>
      have hroom : (t.get key).toNat ≠ 2 ^ 64 - 1 := (increment_eq_ok_iff.mp hinc).not_full
      rw [perform_increment_of_ok hinc]
      exact .increment (h.get key ▸ hroom)
    | error e =>
      have hfull : (t.get key).toNat = 2 ^ 64 - 1 := increment_eq_error_iff_full.mp hinc
      cases e
      rw [perform_increment_of_error hinc]
      exact .full (h.get key ▸ hfull)
  | raiseTo key n => exact .raiseTo
  | get key => exact .get (h.get key)
  | entries => exact .entries t.pairwise_entries h.mem_entries
  | keys => exact .keys t.pairwise_keys h.mem_keys
  | total =>
    cases htotal : t.total with
    | ok n =>
      have hsum := (total_eq_ok_iff t n).mp htotal
      simp only [Tally.perform, htotal, Except.map]
      exact .total (hsum.trans h.sum_entries)
    | error e =>
      have hfull := (total_eq_error_iff t e).mp htotal
      cases e
      simp only [Tally.perform, htotal, Except.map]
      exact .totalFull (h.sum_entries ▸ hfull)
  | size =>
    rw [Tally.perform, h.size_eq]
    exact .size
  | isEmpty => exact .isEmpty h.isEmpty_iff

end Follows

/-- After a history an operation gives one thing at most. -/
theorem Gives.unique {history : List (Operation α)} {op : Operation α}
    {result other : Except Overflow (Answer α)} (h : Gives history op result)
    (h' : Gives history op other) : result = other := by
  cases h with
  | increment hroom =>
    cases h' with
    | increment => rfl
    | full hfull => exact absurd hfull hroom
  | full hfull =>
    cases h' with
    | increment hroom => exact absurd hfull hroom
    | full => rfl
  | raiseTo =>
    cases h'
    rfl
  | get hn =>
    cases h' with
    | get hm => rw [UInt64.toNat_inj.mp (hn.trans hm.symm)]
  | entries hascending hmem =>
    cases h' with
    | entries hascending' hmem' =>
      rw [eq_of_ascending hascending hascending' fun entry => (hmem entry).trans (hmem' entry).symm]
  | keys hascending hmem =>
    cases h' with
    | keys hascending' hmem' =>
      rw [eq_of_ascending (f := id) hascending hascending' fun key =>
        (hmem key).trans (hmem' key).symm]
  | @total n hn =>
    have hlt := n.toNat_lt
    cases h' with
    | total hm => rw [UInt64.toNat_inj.mp (hn.trans hm.symm)]
    | totalFull hfull => omega
  | totalFull hfull =>
    cases h' with
    | @total n hn =>
      have hlt := n.toNat_lt
      omega
    | totalFull => rfl
  | size =>
    cases h'
    rfl
  | isEmpty hempty =>
    cases h' with
    | isEmpty hempty' => rw [Bool.eq_iff_iff.mpr (hempty.trans hempty'.symm)]

end Giving

/-- What an operation gives after a history is exactly what the history tells: an
increment is interrupted if the replay of its key is full and done otherwise, and
every reading has the keys told of, in strictly ascending order, with the counts
that the replay of each key has. Readings and interrupted increments leave the tally
as it was. The replay of a key that the history did not tell of is zero. -/
theorem perform_after_eq_iff_gives {α : Type u} [Ord α] [Std.TransOrd α] [Std.LawfulEqOrd α]
    [DecidableEq α] (history : List (Operation α)) :
    (∀ op result, ((after history).perform op).1 = result ↔ Gives history op result) ∧
    (∀ op, (op.toldOf? = none ∨ ∃ e, Gives history op (.error e)) →
      after (history ++ [op]) = after history) ∧
    ∀ key, key ∉ toldOf history → replay history key = 0 := by
  have hgives := (follows_after history).gives
  refine ⟨?_, ?_, fun _ => replay_of_not_mem⟩
  · intro op result
    constructor
    · intro h
      exact h ▸ hgives op
    · exact (hgives op).unique
  · intro op h
    rw [after_append_singleton]
    rcases h with hread | ⟨e, hinterrupted⟩
    · exact perform_of_toldOf?_eq_none hread
    · exact perform_of_error ((hgives op).unique hinterrupted)

/-- A key told of with nothing, and one that is full when it is to be incremented.
One more for the first, and no word holds the total. -/
theorem perform_after_eq_iff_gives_full :
    ∃ history : List (Operation String), history =
        [.raiseTo "b" 0, .increment "a", .raiseTo "a" 18446744073709551615, .get "c",
          .increment "a", .increment "b"] ∧
      ((after history).perform .entries).1 =
        .ok (.entries [("a", 18446744073709551615), ("b", 1)]) ∧
      ((after history).perform .size).1 = .ok (.size 2) ∧
      ((after history).perform .total).1 = .error .addition ∧
      ((after history).perform (.increment "a")).1 = .error .addition ∧
      after (history ++ [.increment "a"]) = after history ∧
      "c" ∉ toldOf history ∧ replay history "c" = 0 := by
  refine ⟨_, rfl, ?_⟩
  generalize hhistory : ([.raiseTo "b" 0, .increment "a", .raiseTo "a" 18446744073709551615,
    .get "c", .increment "a", .increment "b"] : List (Operation String)) = history
  have htold : toldOf history = ["b", "a", "a", "a", "b"] := by
    subst hhistory
    rfl
  have ha : replay history "a" = 18446744073709551615 := by
    subst hhistory
    decide
  have hb : replay history "b" = 1 := by
    subst hhistory
    decide
  have hkeys : (toldOf history).toFinset = {"a", "b"} := by
    rw [htold]
    decide
  have hc : "c" ∉ toldOf history := by
    rw [htold]
    decide
  obtain ⟨hiff, hleft, hzero⟩ := perform_after_eq_iff_gives history
  refine ⟨(hiff _ _).mpr (.entries (by decide +kernel) ?_), ?_, (hiff _ _).mpr (.totalFull ?_),
    (hiff _ _).mpr (.full ha), hleft _ (.inr ⟨_, .full ha⟩), hc, hzero _ hc⟩
  · rintro ⟨key, n⟩
    have hmem : key ∈ toldOf history ↔ key = "a" ∨ key = "b" := by
      rw [← List.mem_toFinset, hkeys, Finset.mem_insert, Finset.mem_singleton]
    simp only [List.mem_cons, Prod.mk.injEq, List.not_mem_nil, or_false]
    constructor
    · rintro (⟨rfl, rfl⟩ | ⟨rfl, rfl⟩)
      · exact ⟨hmem.mpr (.inl rfl), ha.symm⟩
      · exact ⟨hmem.mpr (.inr rfl), hb.symm⟩
    · rintro ⟨hkey, hn⟩
      rcases hmem.mp hkey with rfl | rfl
      · exact .inl ⟨rfl, UInt64.toNat_inj.mp (hn.trans ha)⟩
      · exact .inr ⟨rfl, UInt64.toNat_inj.mp (hn.trans hb)⟩
  · have hsize : (toldOf history).toFinset.card = 2 := by
      rw [hkeys]
      rfl
    exact hsize ▸ (hiff _ _).mpr .size
  · rw [hkeys, Finset.sum_pair (by decide), ha, hb]
    decide

end StreamAudit.Tally
