import Mathlib.Logic.Function.Basic
import Mathlib.Tactic.Common

/-!
# Differences between maps

A map from keys to values that may be absent, and the edits that lead from one to another.  An edit
names a key and the value it has afterwards, `none` if the key is gone.

* `Exact` says that edits are to the values of the second map and leave out no key on which the two
  differ.  It is all that is needed for the edits to turn the first map into the second
  (`Exact.applyEdits_eq`), in whatever order they are.
* `editsAlong` collects the edits between consecutive states of a list.  If each of them is exact,
  together they lead from the first state to the last (`applyEdits_along`).
-/

namespace Diff

universe u v w

variable {κ : Type u} {ν : Type v} {σ : Type w}

/-- A change of one key. -/
structure Edit (κ : Type u) (ν : Type v) where
  key : κ
  value : Option ν

/-- The edits lead to the second map and miss no difference. -/
structure Exact (m m' : κ → Option ν) (es : List (Edit κ ν)) : Prop where
  value_eq : ∀ e ∈ es, e.value = m' e.key
  covers : ∀ k, m k ≠ m' k → ∃ e ∈ es, e.key = k

/-- The edits between consecutive states. -/
def editsAlong (diff : σ → σ → List (Edit κ ν)) : σ → List σ → List (Edit κ ν)
  | _, [] => []
  | s, s' :: ss => diff s s' ++ editsAlong diff s' ss

/-- One more state adds the edits from the last one. -/
lemma editsAlong_snoc (diff : σ → σ → List (Edit κ ν)) (s : σ) (ss : List σ) (s' : σ) :
    editsAlong diff s (ss ++ [s'])
      = editsAlong diff s ss ++ diff ((s :: ss).getLast (List.cons_ne_nil s ss)) s' := by
  induction ss generalizing s with
  | nil => simp [editsAlong]
  | cons t ss ih =>
      rw [List.cons_append, editsAlong, editsAlong, ih t, List.append_assoc, List.getLast_cons_cons]

section Applying

variable [DecidableEq κ]

/-- The map after some edits. -/
def applyEdits (m : κ → Option ν) (es : List (Edit κ ν)) : κ → Option ν :=
  es.foldl (fun m e => Function.update m e.key e.value) m

@[simp] lemma applyEdits_nil (m : κ → Option ν) : applyEdits m [] = m := rfl

lemma applyEdits_append (m : κ → Option ν) (es es' : List (Edit κ ν)) :
    applyEdits m (es ++ es') = applyEdits (applyEdits m es) es' := List.foldl_append

/-- **Exact edits turn the first map into the second.** -/
theorem Exact.applyEdits_eq {m m' : κ → Option ν} {es : List (Edit κ ν)} (h : Exact m m' es) :
    applyEdits m es = m' := by
  induction es generalizing m with
  | nil =>
      funext k
      by_contra hne
      obtain ⟨e, he, _⟩ := h.covers k hne
      exact absurd he List.not_mem_nil
  | cons e es ih =>
      refine ih (m := Function.update m e.key e.value) ⟨fun e' he' => ?_, fun k hk => ?_⟩
      · exact h.value_eq e' (List.mem_cons_of_mem _ he')
      · have hkey : k ≠ e.key := by
          rintro rfl
          exact hk (by rw [Function.update_self, h.value_eq e List.mem_cons_self])
        rw [Function.update_of_ne hkey] at hk
        obtain ⟨e', he', rfl⟩ := h.covers k hk
        rcases List.mem_cons.mp he' with rfl | he'
        · exact absurd rfl hkey
        · exact ⟨e', he', rfl⟩

/-- **From the first state to the last.** -/
theorem applyEdits_along {view : σ → κ → Option ν} {diff : σ → σ → List (Edit κ ν)}
    (h : ∀ s s', Exact (view s) (view s') (diff s s')) (s : σ) (ss : List σ) :
    applyEdits (view s) (editsAlong diff s ss)
      = view ((s :: ss).getLast (List.cons_ne_nil s ss)) := by
  induction ss generalizing s with
  | nil => rfl
  | cons s' ss ih =>
      rw [editsAlong, applyEdits_append, (h s s').applyEdits_eq, ih s', List.getLast_cons_cons]

end Applying

end Diff
