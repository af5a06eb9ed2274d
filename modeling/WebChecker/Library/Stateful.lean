import Mathlib.Tactic.Common

/-!
# Programs that change a state and can fail

A program of `EStateM` leaves a state behind whether it returns or raises: what it did before the
exception stays done.  This file reads such a program as its two observations, `outcome` and
`after`, with the rule of composition for each, and has the rules for a property of the state that
a program keeps in every case (`Keeps`).
-/

namespace Stateful

universe u

variable {ε σ α β : Type u}

/-- What the program returns or raises. -/
def outcome (x : EStateM ε σ α) (s : σ) : Except ε α :=
  match x.run s with
  | .ok a _ => .ok a
  | .error e _ => .error e

/-- The state that the program leaves, whether it returns or raises. -/
def after (x : EStateM ε σ α) (s : σ) : σ :=
  match x.run s with
  | .ok _ s' => s'
  | .error _ s' => s'

/-! ## Composition -/

/-- Both observations are made of the run. -/
lemma observed_eq {x : EStateM ε σ α} {y : EStateM ε σ α} {s s' : σ} (h : x.run s = y.run s') :
    outcome x s = outcome y s' ∧ after x s = after y s' := by
  unfold outcome after
  rw [h]
  exact ⟨rfl, rfl⟩

lemma run_of_outcome_ok {x : EStateM ε σ α} {s : σ} {a : α} (h : outcome x s = .ok a) :
    x.run s = .ok a (after x s) := by
  unfold outcome at h
  unfold after
  split at h
  · next hrun => rw [hrun, Except.ok.inj h]
  · simp at h

lemma run_of_outcome_error {x : EStateM ε σ α} {s : σ} {e : ε} (h : outcome x s = .error e) :
    x.run s = .error e (after x s) := by
  unfold outcome at h
  unfold after
  split at h
  · simp at h
  · next hrun => rw [hrun, Except.error.inj h]

/-- What comes after a program that raises is not run. -/
lemma bind_of_error {x : EStateM ε σ α} {f : α → EStateM ε σ β} {s : σ} {e : ε}
    (h : outcome x s = .error e) :
    outcome (x >>= f) s = .error e ∧ after (x >>= f) s = after x s := by
  have hthrow : (x >>= f).run s = (throw e : EStateM ε σ β).run (after x s) := by
    rw [EStateM.run_bind, run_of_outcome_error h]
    rfl
  exact observed_eq hthrow

/-- What comes after a program that returns starts in the state it leaves. -/
lemma bind_of_ok {x : EStateM ε σ α} {f : α → EStateM ε σ β} {s : σ} {a : α}
    (h : outcome x s = .ok a) :
    outcome (x >>= f) s = outcome (f a) (after x s) ∧
      after (x >>= f) s = after (f a) (after x s) := by
  have hrest : (x >>= f).run s = (f a).run (after x s) := by
    rw [EStateM.run_bind, run_of_outcome_ok h]
  exact observed_eq hrest

/-! ## What a program keeps -/

/-- A property of the state that the program keeps in every case. -/
def Keeps (I : σ → Prop) (x : EStateM ε σ α) : Prop := ∀ s, I s → I (after x s)

variable {I : σ → Prop}

lemma Keeps.pure (a : α) : Keeps I (pure a : EStateM ε σ α) := fun _ h => h

lemma Keeps.throw (e : ε) : Keeps I (throw e : EStateM ε σ α) := fun _ h => h

lemma Keeps.get : Keeps I (get : EStateM ε σ σ) := fun _ h => h

lemma Keeps.bind {x : EStateM ε σ α} {f : α → EStateM ε σ β} (hx : Keeps I x)
    (hf : ∀ a, Keeps I (f a)) : Keeps I (x >>= f) := by
  intro s hs
  cases h : outcome x s with
  | error e =>
      rw [(bind_of_error h).2]
      exact hx s hs
  | ok a =>
      rw [(bind_of_ok h).2]
      exact hf a _ (hx s hs)

lemma Keeps.forM {f : β → EStateM ε σ PUnit} {xs : List β} (hf : ∀ x ∈ xs, Keeps I (f x)) :
    Keeps I (xs.forM f) := by
  induction xs with
  | nil => exact Keeps.pure _
  | cons x xs ih =>
      exact (hf x List.mem_cons_self).bind fun _ =>
        ih fun y hy => hf y (List.mem_cons_of_mem _ hy)

end Stateful
