import WebChecker.Core.Transitions
import WebChecker.Library.Diff

/-!
# Transitions as a difference between snapshots

A snapshot is seen as the map from identifiers to availabilities, absent identifiers included
(`CheckResult.availabilityOf`).  A transition edits this map at one identifier, and
`detectTransitions` finds exactly the edits between two snapshots: one for every identifier whose
value differs, of the type that the two values determine (`changeType`), with the opportunities of
the two snapshots (`minimalDiff_detectTransitions`).

So transitions can be replayed: over a list of snapshots they lead from the first map to the last.
-/

namespace WebChecker

open Diff

/-- The type of a change between two values of one identifier; `none` if nothing changes. -/
def changeType : Option Availability → Option Availability → Option TransitionType
  | none, none => none
  | none, some _ => some .appeared
  | some _, none => some .disappeared
  | some a, some b => if a = b then none else some (availabilityTransition b)

/-- What a transition says about its identifier: the value it has afterwards. -/
def OpportunityTransition.edit (t : OpportunityTransition) : Edit String Availability :=
  ⟨t.opportunityId, t.current.map Opportunity.availability⟩

/-- The transitions are exactly the differences between two snapshots, in the order of the second
and then of the first. -/
structure MinimalDiff (p c : CheckResult) (ts : List OpportunityTransition) : Prop where
  /-- An identifier changes exactly if its value differs. -/
  changes_iff : ∀ id, (∃ t ∈ ts, t.opportunityId = id) ↔ p.availabilityOf id ≠ c.availabilityOf id
  /-- No identifier changes twice. -/
  nodup : (ts.map OpportunityTransition.opportunityId).Nodup
  previous_eq : ∀ t ∈ ts, t.previous = p.byId t.opportunityId
  current_eq : ∀ t ∈ ts, t.current = c.byId t.opportunityId
  type_eq : ∀ t ∈ ts,
    changeType (p.availabilityOf t.opportunityId) (c.availabilityOf t.opportunityId) = some t.type
  order : ts.map OpportunityTransition.opportunityId
    = (c.opportunities.map Opportunity.id).filter
        (fun id => p.availabilityOf id ≠ c.availabilityOf id) ++
      (p.opportunities.map Opportunity.id).filter fun id => c.availabilityOf id = none

/-! ## The edits of a comparison -/

lemma availabilityOf_eq_none {r : CheckResult} {id : String} :
    r.availabilityOf id = none ↔ r.byId id = none := by
  rw [CheckResult.availabilityOf, Option.map_eq_none_iff]

lemma byId_of_mem {r : CheckResult} {o : Opportunity} (h : o ∈ r.opportunities) :
    r.byId o.id = some o := CheckResult.byId_eq_some.mpr ⟨h, rfl⟩

lemma availabilityOf_of_mem {r : CheckResult} {o : Opportunity} (h : o ∈ r.opportunities) :
    r.availabilityOf o.id = some o.availability := by
  rw [CheckResult.availabilityOf, byId_of_mem h, Option.map_some]

/-- A current opportunity yields a transition exactly if its value differs. -/
lemma currentTransition_isSome {p c : CheckResult} {o : Opportunity} (h : o ∈ c.opportunities) :
    (currentTransition p o).isSome = true ↔ p.availabilityOf o.id ≠ c.availabilityOf o.id := by
  rw [availabilityOf_of_mem h, CheckResult.availabilityOf, currentTransition]
  cases hold : p.byId o.id with
  | none => simp
  | some old =>
      by_cases heq : old.availability = o.availability
      · simp [heq]
      · simp [heq]

/-- A previous opportunity yields a transition exactly if it is gone. -/
lemma previousTransition_isSome {c : CheckResult} {o : Opportunity} :
    (previousTransition c o).isSome = true ↔ c.availabilityOf o.id = none := by
  rw [availabilityOf_eq_none, previousTransition]
  cases c.byId o.id <;> simp

/-- **What a transition carries**: the opportunities of the two snapshots, and the type that their
values determine. -/
lemma detectTransitions_carries {p c : CheckResult} {t : OpportunityTransition}
    (h : t ∈ detectTransitions p c) :
    t.previous = p.byId t.opportunityId ∧ t.current = c.byId t.opportunityId ∧
      changeType (p.availabilityOf t.opportunityId) (c.availabilityOf t.opportunityId)
        = some t.type := by
  rcases mem_detectTransitions.mp h with ⟨o, ho, h⟩ | ⟨o, ho, h⟩
  · have hcurrent := byId_of_mem ho
    rcases currentTransition_eq_some.mp h with ⟨hnone, rfl⟩ | ⟨old, hold, hne, rfl⟩
    · refine ⟨hnone.symm, hcurrent.symm, ?_⟩
      show changeType (p.availabilityOf o.id) (c.availabilityOf o.id) = some .appeared
      rw [availabilityOf_of_mem ho, availabilityOf_eq_none.mpr hnone, changeType]
    · refine ⟨hold.symm, hcurrent.symm, ?_⟩
      show changeType (p.availabilityOf o.id) (c.availabilityOf o.id) = some _
      rw [availabilityOf_of_mem ho, CheckResult.availabilityOf, hold, Option.map_some, changeType,
        if_neg hne]
      rfl
  · obtain ⟨hnone, rfl⟩ := previousTransition_eq_some.mp h
    refine ⟨(byId_of_mem ho).symm, hnone.symm, ?_⟩
    show changeType (p.availabilityOf o.id) (c.availabilityOf o.id) = some .disappeared
    rw [availabilityOf_of_mem ho, availabilityOf_eq_none.mpr hnone, changeType]

/-- An identifier of one of the two snapshots whose value differs has a transition. -/
lemma exists_detectTransitions {p c : CheckResult} {id : String}
    (h : p.availabilityOf id ≠ c.availabilityOf id) :
    ∃ t ∈ detectTransitions p c, t.opportunityId = id := by
  cases hc : c.byId id with
  | some o =>
      obtain ⟨ho, rfl⟩ := CheckResult.byId_eq_some.mp hc
      obtain ⟨t, ht⟩ := Option.isSome_iff_exists.mp ((currentTransition_isSome ho).mpr h)
      exact ⟨t, mem_detectTransitions.mpr (Or.inl ⟨o, ho, ht⟩), currentTransition_opportunityId ht⟩
  | none =>
      have hgone := availabilityOf_eq_none.mpr hc
      cases hp : p.byId id with
      | none => exact absurd ((availabilityOf_eq_none.mpr hp).trans hgone.symm) h
      | some o =>
          obtain ⟨ho, rfl⟩ := CheckResult.byId_eq_some.mp hp
          exact ⟨_, mem_detectTransitions.mpr
            (Or.inr ⟨o, ho, previousTransition_eq_some.mpr ⟨hc, rfl⟩⟩), rfl⟩

/-- Selecting with an optional result keeps the order of what yields one. -/
lemma map_filterMap_eq_filter {α β γ : Type} {f : α → Option β} {g : β → γ} {h : α → γ}
    {q : γ → Bool} {l : List α} (hq : ∀ a ∈ l, (f a).isSome = q (h a))
    (hg : ∀ a b, f a = some b → g b = h a) :
    (l.filterMap f).map g = (l.map h).filter q := by
  induction l with
  | nil => rfl
  | cons a l ih =>
      have ih := ih fun x hx => hq x (List.mem_cons_of_mem _ hx)
      have ha := hq a List.mem_cons_self
      rw [List.filterMap_cons, List.map_cons, List.filter_cons, ← ha]
      cases hf : f a with
      | none => simpa using ih
      | some b => simpa [hg a b hf] using ih

/-- **A comparison finds exactly the differences.** -/
theorem minimalDiff_detectTransitions (p c : CheckResult) :
    MinimalDiff p c (detectTransitions p c) where
  changes_iff id := by
    refine ⟨?_, exists_detectTransitions⟩
    rintro ⟨t, ht, rfl⟩ heq
    have htype := (detectTransitions_carries ht).2.2
    rw [heq] at htype
    cases hc : c.availabilityOf t.opportunityId with
    | none => simp [hc, changeType] at htype
    | some a => simp [hc, changeType] at htype
  nodup := nodup_detectTransitions p c
  previous_eq t ht := (detectTransitions_carries ht).1
  current_eq t ht := (detectTransitions_carries ht).2.1
  type_eq t ht := (detectTransitions_carries ht).2.2
  order := by
    rw [detectTransitions, List.map_append]
    congr 1
    · refine map_filterMap_eq_filter (fun o ho => ?_) fun o t => currentTransition_opportunityId
      rw [Bool.eq_iff_iff, currentTransition_isSome ho, decide_eq_true_eq]
    · refine map_filterMap_eq_filter (fun o ho => ?_) fun o t ht => ?_
      · rw [Bool.eq_iff_iff, previousTransition_isSome, decide_eq_true_eq]
      · obtain ⟨_, rfl⟩ := previousTransition_eq_some.mp ht
        rfl

/-! ## Replaying -/

/-- **Its transitions lead from one snapshot to the other.** -/
lemma exact_detectTransitions (p c : CheckResult) :
    Exact p.availabilityOf c.availabilityOf
      ((detectTransitions p c).map OpportunityTransition.edit) where
  value_eq e he := by
    obtain ⟨t, ht, rfl⟩ := List.mem_map.mp he
    rw [OpportunityTransition.edit, (detectTransitions_carries ht).2.1]
    rfl
  covers id hid := by
    obtain ⟨t, ht, rfl⟩ := exists_detectTransitions hid
    exact ⟨t.edit, List.mem_map_of_mem ht, rfl⟩

/-- The edits of a list of snapshots, each compared with the one before it. -/
def snapshotEdits (first : CheckResult) (rest : List CheckResult) :
    List (Edit String Availability) :=
  editsAlong (fun p c => (detectTransitions p c).map OpportunityTransition.edit) first rest

/-- The transitions of a list of snapshots lead from the first to the last. -/
lemma replay_snapshots (first : CheckResult) (rest : List CheckResult) :
    applyEdits first.availabilityOf (snapshotEdits first rest)
      = ((first :: rest).getLast (List.cons_ne_nil first rest)).availabilityOf :=
  applyEdits_along exact_detectTransitions first rest

end WebChecker
