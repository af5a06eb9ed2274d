import Mathlib.Algebra.Order.Floor.Ring
import Mathlib.Algebra.Order.Field.Basic
import Mathlib.Data.List.Induction
import Mathlib.Tactic.Linarith
import Mathlib.Tactic.Ring
import Mathlib.Tactic.FieldSimp

/-!
# A fixed cadence

A timer with a period that is looked at from time to time.  Each look at or after the due time
fires it, and the due time moves on by whole periods until it lies in the future: what was missed
between two looks is not made up for.

The due times lie on the grid of the start.  `slot` numbers the intervals of that grid, and the
two facts about a timer that has been looked at in order are

* `due_snoc` — after a look the timer is due at the next point of the grid, and
* `due_le_iff` — a look fires exactly if it is the first one in its slot.
-/

namespace Cadence

universe u

variable {α : Type u} [Field α] [LinearOrder α] [FloorRing α]

/-- The number of the grid interval that a time lies in. -/
def slot (start interval t : α) : ℤ := ⌊(t - start) / interval⌋

/-- The due time after a look at `now` that fires a timer due at `due`. -/
def advance (interval due now : α) : α := due + (⌊(now - due) / interval⌋ + 1 : ℤ) * interval

/-- The due time after looks at the given times, in order. -/
def due (start interval : α) (looks : List α) : α :=
  looks.foldl (fun d now => if now < d then d else advance interval d now) start

variable {start interval : α}

@[simp] lemma due_nil : due start interval [] = start := rfl

lemma due_append_singleton (looks : List α) (now : α) :
    due start interval (looks ++ [now])
      = if now < due start interval looks then due start interval looks
        else advance interval (due start interval looks) now := by
  rw [due, List.foldl_append]
  rfl

variable [IsStrictOrderedRing α]

lemma slot_mono (h : 0 < interval) {a b : α} (hab : a ≤ b) :
    slot start interval a ≤ slot start interval b := by
  refine Int.floor_le_floor ?_
  gcongr

/-- A time is before a point of the grid exactly if its slot is. -/
lemma lt_grid_iff (h : 0 < interval) {t : α} {c : ℤ} :
    t < start + interval * c ↔ slot start interval t < c := by
  rw [slot, Int.floor_lt, div_lt_iff₀ h]
  constructor <;> intro hlt <;> linarith

/-- The slot of a time, by the points of the grid around it. -/
lemma slot_eq_iff (h : 0 < interval) {t : α} {k : ℤ} :
    slot start interval t = k ↔ start + interval * k ≤ t ∧ t < start + interval * (k + 1) := by
  have hlow : start + interval * k ≤ t ↔ k ≤ slot start interval t := by
    rw [← not_lt, lt_grid_iff h, not_lt]
  have hhigh : t < start + interval * (k + 1) ↔ slot start interval t < k + 1 := by
    rw [← lt_grid_iff h]
    push_cast
    rfl
  rw [hlow, hhigh]
  omega

/-- The end of a slot is after every time in it, and at most one period later. -/
lemma slot_end (h : 0 < interval) (start t : α) :
    t < start + interval * ((slot start interval t + 1 : ℤ) : α) ∧
      start + interval * ((slot start interval t + 1 : ℤ) : α) ≤ t + interval := by
  refine ⟨(lt_grid_iff h).mpr (lt_add_one _), ?_⟩
  have hnot : ¬ t < start + interval * (slot start interval t : α) :=
    fun hlt => lt_irrefl _ ((lt_grid_iff h).mp hlt)
  push_cast
  linarith

/-- **From a point of the grid the due time moves to the end of the current slot.** -/
lemma advance_grid (h : 0 < interval) (start : α) (c : ℤ) (now : α) :
    advance interval (start + interval * c) now
      = start + interval * ((slot start interval now + 1 : ℤ) : α) := by
  have hshift : (now - (start + interval * c)) / interval = (now - start) / interval - c := by
    field_simp
    ring
  rw [advance, hshift, Int.floor_sub_intCast, ← slot]
  push_cast
  ring

/-- **After a look in order the timer is due at the end of the look's slot.** -/
theorem due_snoc (h : 0 < interval) {looks : List α} {now : α}
    (hstart : ∀ t ∈ looks ++ [now], start ≤ t) (horder : (looks ++ [now]).Pairwise (· ≤ ·)) :
    due start interval (looks ++ [now])
      = start + interval * ((slot start interval now + 1 : ℤ) : α) := by
  induction looks using List.reverseRecOn generalizing now with
  | nil =>
      have hnot : ¬ now < start := not_lt.mpr (hstart now (by simp))
      have hgrid := advance_grid h start 0 now
      rw [Int.cast_zero, mul_zero, add_zero] at hgrid
      rw [due_append_singleton, due_nil, if_neg hnot, hgrid]
  | append_singleton looks last ih =>
      have hinit := List.pairwise_append.mp horder
      have hlast : last ≤ now := hinit.2.2 last (by simp) now (by simp)
      rw [due_append_singleton, ih (fun t ht => hstart t (List.mem_append_left _ ht)) hinit.1]
      split_ifs with hsame
      · -- the look is in the slot of the last one
        have hle : slot start interval last ≤ slot start interval now := slot_mono h hlast
        rw [lt_grid_iff h] at hsame
        have heq : slot start interval now = slot start interval last := by omega
        rw [heq]
      · exact advance_grid h _ _ now

/-- **A look fires the timer exactly if it is the first one in its slot.** -/
theorem due_le_iff (h : 0 < interval) {looks : List α} {now : α}
    (hstart : ∀ t ∈ looks ++ [now], start ≤ t) (horder : (looks ++ [now]).Pairwise (· ≤ ·)) :
    due start interval looks ≤ now ↔
      ∀ t ∈ looks, slot start interval t ≠ slot start interval now := by
  rw [← not_lt]
  rcases List.eq_nil_or_concat looks with rfl | ⟨before, last, rfl⟩
  · simpa using hstart
  · rw [List.concat_eq_append] at hstart horder ⊢
    have hinit := List.pairwise_append.mp horder
    rw [due_snoc h (fun t ht => hstart t (List.mem_append_left _ ht)) hinit.1, lt_grid_iff h]
    have hle : ∀ t ∈ before ++ [last], slot start interval t ≤ slot start interval last := by
      intro t ht
      rcases List.mem_append.mp ht with ht | ht
      · exact slot_mono h ((List.pairwise_append.mp hinit.1).2.2 t ht last (by simp))
      · rw [List.mem_singleton.mp ht]
    have hnow : slot start interval last ≤ slot start interval now :=
      slot_mono h (hinit.2.2 last (by simp) now (by simp))
    constructor
    · intro hnot t ht heq
      have := hle t ht
      omega
    · intro hne hlt
      exact hne last (by simp) (by omega)

end Cadence
