import Mathlib.Algebra.BigOperators.Group.Finset.Basic
import Mathlib.Data.List.Nodup
import Mathlib.Tactic.Common

/-!
# Batches from the front of a queue

A queue is worked off in rounds.  A round takes the first `limit` elements; those it cannot finish
go back to where they were, *in front* of the elements that were not taken.  So elements that fail
again and again keep the others from their turn.

`reached_iff` is the exact account: after `k` rounds every element has had a turn if and only if
the length of the queue and the failures of the first `k - 1` rounds together are at most
`limit * k`.
-/

namespace Batches

variable {α : Type*} {limit : ℕ} {keep : ℕ → α → Bool} {q : List α}

/-- One round: the taken elements that `keep` holds back stay in front. -/
def round (limit : ℕ) (keep : α → Bool) (q : List α) : List α :=
  (q.take limit).filter keep ++ q.drop limit

/-- The queue after `k` rounds. -/
def rounds (limit : ℕ) (keep : ℕ → α → Bool) (q : List α) : ℕ → List α
  | 0 => q
  | k + 1 => round limit (keep k) (rounds limit keep q k)

/-- How many of the elements round `k` takes are held back. -/
def failures (limit : ℕ) (keep : ℕ → α → Bool) (q : List α) (k : ℕ) : ℕ :=
  ((rounds limit keep q k).take limit).countP (keep k)

/-- How many elements of the queue have been taken by one of the first `k` rounds: a round takes
new ones only after those that the round before it held back. -/
def reached (limit : ℕ) (keep : ℕ → α → Bool) (q : List α) : ℕ → ℕ
  | 0 => 0
  | 1 => limit
  | k + 2 => reached limit keep q (k + 1) + (limit - failures limit keep q k)

lemma failures_le (k : ℕ) : failures limit keep q k ≤ limit :=
  List.countP_le_length.trans (List.length_take_le _ _)

/-- The elements that are held back after `k` rounds. -/
def heldBack (limit : ℕ) (keep : ℕ → α → Bool) (q : List α) : ℕ → List α
  | 0 => []
  | k + 1 => ((rounds limit keep q k).take limit).filter (keep k)

lemma length_heldBack_le (k : ℕ) : (heldBack limit keep q k).length ≤ limit := by
  cases k with
  | zero => simp [heldBack]
  | succ k => exact (List.length_filter_le _ _).trans (List.length_take_le _ _)

/-- What one more round reaches. -/
lemma reached_succ (k : ℕ) : reached limit keep q (k + 1)
    = reached limit keep q k + (limit - (heldBack limit keep q k).length) := by
  cases k with
  | zero => simp [reached, heldBack]
  | succ k =>
      have hlength : (heldBack limit keep q (k + 1)).length = failures limit keep q k := by
        rw [heldBack, failures, List.countP_eq_length_filter]
      rw [reached, hlength]

/-- **The queue after `k` rounds**: the elements that are held back, then those that no round has
taken. -/
lemma rounds_eq (k : ℕ) :
    rounds limit keep q k = heldBack limit keep q k ++ q.drop (reached limit keep q k) := by
  induction k with
  | zero => simp [rounds, heldBack, reached]
  | succ k ih =>
      have hdrop : (rounds limit keep q k).drop limit = q.drop (reached limit keep q (k + 1)) := by
        rw [ih, List.drop_append, List.drop_drop, reached_succ,
          List.drop_of_length_le (length_heldBack_le k), List.nil_append]
      rw [rounds, round, hdrop, heldBack]

/-- The elements round `k` takes: those held back, then new ones. -/
lemma take_rounds (k : ℕ) : (rounds limit keep q k).take limit
    = heldBack limit keep q k ++ (q.drop (reached limit keep q k)).take
        (limit - (heldBack limit keep q k).length) := by
  rw [rounds_eq, List.take_append, List.take_of_length_le (length_heldBack_le k)]

/-- **An element has had a turn** in one of the first `k` rounds exactly if it is among the first
`reached k` of the queue. -/
lemma mem_take_reached {x : α} (k : ℕ) : x ∈ q.take (reached limit keep q k) ↔
    ∃ i < k, x ∈ (rounds limit keep q i).take limit := by
  induction k with
  | zero => simp [reached]
  | succ k ih =>
      have hheld : x ∈ heldBack limit keep q k →
          ∃ i < k, x ∈ (rounds limit keep q i).take limit := by
        intro hx
        cases k with
        | zero => simp [heldBack] at hx
        | succ k => exact ⟨k, by omega, List.mem_of_mem_filter hx⟩
      rw [reached_succ, List.take_add, List.mem_append, ih]
      constructor
      · rintro (⟨i, hi, hx⟩ | hx)
        · exact ⟨i, by omega, hx⟩
        · refine ⟨k, by omega, ?_⟩
          rw [take_rounds]
          exact List.mem_append_right _ hx
      · rintro ⟨i, hi, hx⟩
        by_cases hik : i = k
        · subst hik
          rw [take_rounds, List.mem_append] at hx
          exact hx.imp_left hheld
        · exact Or.inl ⟨i, by omega, hx⟩

/-- New elements and failures share the turns. -/
lemma reached_add_failures (k : ℕ) : reached limit keep q k
    + ∑ i ∈ Finset.range (k - 1), failures limit keep q i = limit * k := by
  induction k using Nat.twoStepInduction with
  | zero => simp [reached]
  | one => simp [reached]
  | more k _ ih =>
      have hle : failures limit keep q k ≤ limit := failures_le k
      simp only [Nat.add_sub_cancel, show k + 2 - 1 = k + 1 by omega] at ih ⊢
      rw [reached, Finset.sum_range_succ, Nat.mul_add]
      rw [Nat.mul_add] at ih
      omega

/-- **When everyone has had a turn.** -/
theorem reached_iff (limit : ℕ) (keep : ℕ → α → Bool) (hq : q.Nodup) (k : ℕ) :
    (∀ x ∈ q, ∃ i < k, x ∈ (rounds limit keep q i).take limit) ↔
      q.length + ∑ i ∈ Finset.range (k - 1), failures limit keep q i ≤ limit * k := by
  have hall : (∀ x ∈ q, ∃ i < k, x ∈ (rounds limit keep q i).take limit) ↔
      q.length ≤ reached limit keep q k := by
    simp only [← mem_take_reached]
    constructor
    · intro h
      have hsubset : q ⊆ q.take (reached limit keep q k) := h
      have hlength : q.length ≤ (q.take (reached limit keep q k)).length :=
        (List.subperm_of_subset hq hsubset).length_le
      rw [List.length_take] at hlength
      omega
    · intro h x hx
      rwa [List.take_of_length_le h]
  have hturns : reached limit keep q k
      + ∑ i ∈ Finset.range (k - 1), failures limit keep q i = limit * k := reached_add_failures k
  rw [hall]
  omega

/-- What is finished stays finished. -/
lemma mem_of_mem_rounds {x : α} {k j : ℕ} (hkj : k ≤ j) (h : x ∈ rounds limit keep q j) :
    x ∈ rounds limit keep q k := by
  induction j with
  | zero => rwa [Nat.le_zero.mp hkj]
  | succ j ih =>
      by_cases hk : k = j + 1
      · rwa [hk]
      · refine ih (by omega) ?_
        rcases List.mem_append.mp h with h | h
        · exact List.mem_of_mem_take (List.mem_of_mem_filter h)
        · exact List.mem_of_mem_drop h

lemma nodup_rounds (hq : q.Nodup) (k : ℕ) : (rounds limit keep q k).Nodup := by
  induction k with
  | zero => exact hq
  | succ k ih =>
      have hsplit := ih
      rw [← List.take_append_drop limit (rounds limit keep q k)] at hsplit
      exact hsplit.sublist (List.Sublist.append_right List.filter_sublist _)

/-- An element whose turn ends without being held back is finished. -/
lemma notMem_rounds_succ (hq : q.Nodup) {x : α} {k : ℕ}
    (hx : x ∈ (rounds limit keep q k).take limit) (hkeep : keep k x = false) :
    x ∉ rounds limit keep q (k + 1) := by
  intro h
  rcases List.mem_append.mp h with h | h
  · simp [hkeep] at h
  · exact List.disjoint_take_drop (nodup_rounds hq k) (le_refl _) hx h

end Batches
