import Mathlib.Algebra.Order.Ring.Basic
import Mathlib.Tactic.Linarith
import Mathlib.Tactic.Ring

/-!
# Backoff with a cap and jitter

Delays that grow from one failure to the next by a factor, up to a cap, and are then spread around
their value by a random unit.  The jitter is symmetric and multiplicative: a fraction `f` puts the
delay anywhere between `1 - f` and `1 + f` times its value, and the cap is applied once more.

* `delay_le` — no delay exceeds the cap.
* `delay_mono` — for one random unit, later delays are not shorter.
* `delay_pos_iff` — a delay is positive unless the jitter takes all of it, which only the full
  fraction does, at the smallest unit.
-/

namespace Backoff

variable {α : Type*} [CommRing α]

/-- What the jitter multiplies a delay with. -/
def spread (fraction unit : α) : α := 1 + fraction * (2 * unit - 1)

/-- It is a sum of two parts, neither of which is negative for a fraction. -/
lemma spread_eq (fraction unit : α) :
    spread fraction unit = (1 - fraction) + 2 * (fraction * unit) := by
  rw [spread]
  ring

variable [LinearOrder α]

/-- The delay after `n` earlier failures, without jitter. -/
def base (initial growth cap : α) (n : ℕ) : α := min (initial * growth ^ n) cap

/-- The delay after `n` earlier failures. -/
def delay (initial growth cap fraction unit : α) (n : ℕ) : α :=
  min cap (max 0 (base initial growth cap n * spread fraction unit))

variable [IsStrictOrderedRing α] {initial growth cap fraction unit : α}

/-! ## Without jitter -/

lemma base_pos (hinitial : 0 < initial) (hgrowth : 1 ≤ growth) (hcap : initial ≤ cap) (n : ℕ) :
    0 < base initial growth cap n := by
  have hpow : 0 < growth ^ n := pow_pos (by linarith) n
  exact lt_min (mul_pos hinitial hpow) (by linarith)

lemma base_mono (hinitial : 0 ≤ initial) (hgrowth : 1 ≤ growth) :
    Monotone (base initial growth cap) := by
  intro m n hmn
  have hpow : growth ^ m ≤ growth ^ n := pow_le_pow_right₀ hgrowth hmn
  exact min_le_min_right cap (mul_le_mul_of_nonneg_left hpow hinitial)

/-! ## The jitter -/

lemma spread_nonneg (hfraction : 0 ≤ fraction) (hfull : fraction ≤ 1) (hunit : 0 ≤ unit) :
    0 ≤ spread fraction unit := by
  have htimes : 0 ≤ fraction * unit := mul_nonneg hfraction hunit
  rw [spread_eq]
  linarith

/-- **Only the full fraction reaches zero**, and only at the smallest unit. -/
lemma spread_eq_zero_iff (hfraction : 0 ≤ fraction) (hfull : fraction ≤ 1) (hunit : 0 ≤ unit) :
    spread fraction unit = 0 ↔ fraction = 1 ∧ unit = 0 := by
  rw [spread_eq]
  constructor
  · intro hzero
    have htimes : 0 ≤ fraction * unit := mul_nonneg hfraction hunit
    have hone : fraction = 1 := by linarith
    rw [hone] at hzero
    exact ⟨hone, by linarith⟩
  · rintro ⟨rfl, rfl⟩
    ring

/-! ## With jitter -/

omit [IsStrictOrderedRing α] in
lemma delay_le (n : ℕ) : delay initial growth cap fraction unit n ≤ cap := min_le_left _ _

/-- **Later delays are not shorter.** -/
lemma delay_mono (hinitial : 0 ≤ initial) (hgrowth : 1 ≤ growth)
    (hspread : 0 ≤ spread fraction unit) :
    Monotone (delay initial growth cap fraction unit) := by
  intro m n hmn
  have hbase : base initial growth cap m ≤ base initial growth cap n :=
    base_mono hinitial hgrowth hmn
  exact min_le_min_left cap (max_le_max_left 0 (mul_le_mul_of_nonneg_right hbase hspread))

/-- **A delay is positive exactly if the jitter leaves something of it.** -/
lemma delay_pos_iff_spread (hinitial : 0 < initial) (hgrowth : 1 ≤ growth) (hcap : initial ≤ cap)
    (n : ℕ) : 0 < delay initial growth cap fraction unit n ↔ 0 < spread fraction unit := by
  have hbase : 0 < base initial growth cap n := base_pos hinitial hgrowth hcap n
  rw [delay, lt_min_iff, lt_max_iff, mul_pos_iff_of_pos_left hbase]
  constructor
  · rintro ⟨_, hfalse | hspread⟩
    · exact absurd hfalse (lt_irrefl 0)
    · exact hspread
  · intro hspread
    exact ⟨by linarith, Or.inr hspread⟩

lemma delay_pos_iff (hinitial : 0 < initial) (hgrowth : 1 ≤ growth) (hcap : initial ≤ cap)
    (hfraction : 0 ≤ fraction) (hfull : fraction ≤ 1) (hunit : 0 ≤ unit) (n : ℕ) :
    0 < delay initial growth cap fraction unit n ↔ ¬ (fraction = 1 ∧ unit = 0) := by
  rw [delay_pos_iff_spread hinitial hgrowth hcap, ← spread_eq_zero_iff hfraction hfull hunit]
  exact (spread_nonneg hfraction hfull hunit).lt_iff_ne'

end Backoff
