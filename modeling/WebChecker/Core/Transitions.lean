import WebChecker.Core.Models

/-!
# Transitions between snapshots

`detectTransitions` compares two complete snapshots of one job; `detectInitialTransitions` is what
the first snapshot of a job yields.  A transition carries the opportunity before and after, and
`state_ok` is what its constructor checks: at least one of the two is there, and the identifier is
theirs.
-/

namespace WebChecker

/-- The kinds of change between two snapshots. -/
inductive TransitionType where
  | appeared
  | disappeared
  | becameAvailable
  | becameUnavailable
  | availabilityUnknown
  | initiallyAvailable
deriving DecidableEq, Repr

/-- The text of a transition type. -/
def TransitionType.value : TransitionType → String
  | appeared => "appeared"
  | disappeared => "disappeared"
  | becameAvailable => "became_available"
  | becameUnavailable => "became_unavailable"
  | availabilityUnknown => "availability_unknown"
  | initiallyAvailable => "initially_available"

/-- One normalized change of an opportunity, with the checks of its constructor. -/
structure OpportunityTransition where
  type : TransitionType
  opportunityId : String
  previous : Option Opportunity
  current : Option Opportunity
  state_ok : (current.or previous).map Opportunity.id = some opportunityId

/-- `current or previous`: the opportunity the transition is about. -/
def OpportunityTransition.opportunity (t : OpportunityTransition) : Opportunity :=
  (t.current.or t.previous).get (by
    have h := congrArg Option.isSome t.state_ok
    simpa using h)

def appearedTransition (o : Opportunity) : OpportunityTransition :=
  ⟨.appeared, o.id, none, some o, rfl⟩

def changedTransition (type : TransitionType) (old o : Opportunity) : OpportunityTransition :=
  ⟨type, o.id, some old, some o, rfl⟩

def disappearedTransition (o : Opportunity) : OpportunityTransition :=
  ⟨.disappeared, o.id, some o, none, rfl⟩

def initialTransition (o : Opportunity) : OpportunityTransition :=
  ⟨.initiallyAvailable, o.id, none, some o, rfl⟩

/-- The type of a change to a given availability. -/
def availabilityTransition : Availability → TransitionType
  | .available => .becameAvailable
  | .unavailable => .becameUnavailable
  | .unknown => .availabilityUnknown

/-- The body of the loop over the current opportunities. -/
def currentTransition (previous : CheckResult) (o : Opportunity) : Option OpportunityTransition :=
  match previous.byId o.id with
  | none => some (appearedTransition o)
  | some old =>
    if old.availability = o.availability then none
    else some (changedTransition (availabilityTransition o.availability) old o)

/-- The body of the loop over the previous opportunities. -/
def previousTransition (current : CheckResult) (o : Opportunity) : Option OpportunityTransition :=
  match current.byId o.id with
  | none => some (disappearedTransition o)
  | some _ => none

/-- The deterministic transitions between two snapshots. -/
def detectTransitions (previous current : CheckResult) : List OpportunityTransition :=
  current.opportunities.filterMap (currentTransition previous) ++
    previous.opportunities.filterMap (previousTransition current)

/-- The available opportunities of a first snapshot. -/
def detectInitialTransitions (current : CheckResult) : List OpportunityTransition :=
  (current.opportunities.filter fun o => o.availability = .available).map initialTransition

/-- What a snapshot yields against the snapshot before it, if there is one. -/
def transitionsSince (previous : Option CheckResult) (current : CheckResult) :
    List OpportunityTransition :=
  match previous with
  | none => detectInitialTransitions current
  | some p => detectTransitions p current

/-! ## What the transitions are -/

lemma mem_detectTransitions {p c : CheckResult} {t : OpportunityTransition} :
    t ∈ detectTransitions p c ↔
      (∃ o ∈ c.opportunities, currentTransition p o = some t) ∨
        ∃ o ∈ p.opportunities, previousTransition c o = some t := by
  simp [detectTransitions, List.mem_filterMap]

/-- What one current opportunity can yield. -/
lemma currentTransition_eq_some {p : CheckResult} {o : Opportunity} {t : OpportunityTransition} :
    currentTransition p o = some t ↔
      (p.byId o.id = none ∧ t = appearedTransition o) ∨
        ∃ old, p.byId o.id = some old ∧ old.availability ≠ o.availability ∧
          t = changedTransition (availabilityTransition o.availability) old o := by
  unfold currentTransition
  split
  · next hnone =>
      simp [hnone, eq_comm]
  · next old hold =>
      simp only [hold, reduceCtorEq, false_and, Option.some.injEq, false_or, exists_eq_left',
        Option.ite_none_left_eq_some, ne_eq]
      exact and_congr_right fun _ => eq_comm

/-- What one previous opportunity can yield. -/
lemma previousTransition_eq_some {c : CheckResult} {o : Opportunity} {t : OpportunityTransition} :
    previousTransition c o = some t ↔ c.byId o.id = none ∧ t = disappearedTransition o := by
  unfold previousTransition
  split
  · next hnone => simp [hnone, eq_comm]
  · next o' ho' => simp [ho']

/-- **`became_available` is exactly the edge its name says**: the opportunity is in both
snapshots, not available in the first and available in the second. -/
theorem exists_becameAvailable {p c : CheckResult} {id : String} :
    (∃ t ∈ detectTransitions p c, t.type = .becameAvailable ∧ t.opportunityId = id) ↔
      (∃ a, p.availabilityOf id = some a ∧ a ≠ .available) ∧
        c.availabilityOf id = some .available := by
  constructor
  · rintro ⟨t, ht, htype, rfl⟩
    rcases mem_detectTransitions.mp ht with ⟨o, ho, h⟩ | ⟨o, ho, h⟩
    · rcases currentTransition_eq_some.mp h with ⟨_, rfl⟩ | ⟨old, hold, hne, rfl⟩
      · exact absurd htype (by simp [appearedTransition])
      · have hav : o.availability = .available := by
          cases ha : o.availability with
          | available => rfl
          | unavailable => simp [changedTransition, availabilityTransition, ha] at htype
          | unknown => simp [changedTransition, availabilityTransition, ha] at htype
        have hcur : c.byId o.id = some o := CheckResult.byId_eq_some.mpr ⟨ho, rfl⟩
        refine ⟨⟨old.availability, ?_, hav ▸ hne⟩, ?_⟩
        · show p.availabilityOf o.id = some old.availability
          rw [CheckResult.availabilityOf, hold, Option.map_some]
        · show c.availabilityOf o.id = some .available
          rw [CheckResult.availabilityOf, hcur, Option.map_some, hav]
    · obtain ⟨_, rfl⟩ := previousTransition_eq_some.mp h
      exact absurd htype (by simp [disappearedTransition])
  · rintro ⟨⟨a, ha, hne⟩, hc⟩
    obtain ⟨old, hold, rfl⟩ := Option.map_eq_some_iff.mp ha
    obtain ⟨o, ho, hav⟩ := Option.map_eq_some_iff.mp hc
    obtain ⟨hmem, rfl⟩ := CheckResult.byId_eq_some.mp ho
    refine ⟨changedTransition (availabilityTransition o.availability) old o, ?_, ?_, rfl⟩
    · refine mem_detectTransitions.mpr (Or.inl ⟨o, hmem, currentTransition_eq_some.mpr (Or.inr ?_)⟩)
      exact ⟨old, hold, hav ▸ hne, rfl⟩
    · rw [hav]
      rfl

/-- A comparison never takes a snapshot for a first one. -/
lemma ne_initiallyAvailable {p c : CheckResult} {t : OpportunityTransition}
    (ht : t ∈ detectTransitions p c) : t.type ≠ .initiallyAvailable := by
  rcases mem_detectTransitions.mp ht with ⟨o, _, h⟩ | ⟨o, _, h⟩
  · rcases currentTransition_eq_some.mp h with ⟨_, rfl⟩ | ⟨old, _, _, rfl⟩
    · simp [appearedTransition]
    · cases o.availability <;> simp [changedTransition, availabilityTransition]
  · obtain ⟨_, rfl⟩ := previousTransition_eq_some.mp h
    simp [disappearedTransition]

/-- The edge `became_available` stands for. -/
def becomesAvailable (id : String) (p c : CheckResult) : Bool :=
  (p.availabilityOf id).any (· != .available) && c.availabilityOf id == some .available

/-- How often an opportunity becomes available along a list of snapshots. -/
def availableEdges (id : String) : List CheckResult → ℕ
  | p :: c :: rest => (if becomesAvailable id p c then 1 else 0) + availableEdges id (c :: rest)
  | _ => 0

/-- One more snapshot adds the edge from the last one. -/
lemma availableEdges_snoc (id : String) (ss : List CheckResult) (c : CheckResult) :
    availableEdges id (ss ++ [c])
      = availableEdges id ss + if ss.getLast?.any (becomesAvailable id · c) then 1 else 0 := by
  induction ss with
  | nil => rfl
  | cons s ss ih =>
      cases ss with
      | nil => exact Nat.add_comm _ _
      | cons s' ss =>
          rw [List.cons_append, List.cons_append, availableEdges, ← List.cons_append, ih,
            availableEdges, List.getLast?_cons_cons, Nat.add_assoc]

lemma becomesAvailable_iff {p c : CheckResult} {id : String} :
    becomesAvailable id p c = true ↔
      ∃ t ∈ detectTransitions p c, t.type = .becameAvailable ∧ t.opportunityId = id := by
  rw [exists_becameAvailable, becomesAvailable, Bool.and_eq_true, beq_iff_eq, Option.any_eq_true]
  simp

/-- Every transition names the opportunity it was found for. -/
lemma currentTransition_opportunityId {p : CheckResult} {o : Opportunity}
    {t : OpportunityTransition} (h : currentTransition p o = some t) : t.opportunityId = o.id := by
  rcases currentTransition_eq_some.mp h with ⟨_, rfl⟩ | ⟨old, _, _, rfl⟩
  · rfl
  · rfl

/-- **No opportunity changes twice in one comparison.** -/
theorem nodup_detectTransitions (p c : CheckResult) :
    ((detectTransitions p c).map OpportunityTransition.opportunityId).Nodup := by
  have hsub : ∀ {l : List Opportunity} {f : Opportunity → Option OpportunityTransition},
      (l.map Opportunity.id).Nodup → (∀ o t, f o = some t → t.opportunityId = o.id) →
      ((l.filterMap f).map OpportunityTransition.opportunityId).Nodup := by
    intro l f hl hf
    refine hl.sublist ?_
    induction l with
    | nil => exact List.Sublist.refl _
    | cons o l ih =>
        rw [List.map_cons, List.filterMap_cons]
        cases ho : f o with
        | none => exact (ih (List.nodup_cons.mp hl).2).cons _
        | some t =>
            dsimp only
            rw [List.map_cons, hf o t ho]
            exact (ih (List.nodup_cons.mp hl).2).cons_cons _
  rw [detectTransitions, List.map_append, List.nodup_append]
  refine ⟨hsub c.ids_nodup fun o t h => currentTransition_opportunityId h,
    hsub p.ids_nodup fun o t h => ?_, ?_⟩
  · obtain ⟨_, rfl⟩ := previousTransition_eq_some.mp h
    rfl
  · rintro a ha b hb rfl
    obtain ⟨t, ht, rfl⟩ := List.mem_map.mp ha
    obtain ⟨t', ht', hid⟩ := List.mem_map.mp hb
    obtain ⟨o, ho, hot⟩ := List.mem_filterMap.mp ht
    obtain ⟨o', _, hot'⟩ := List.mem_filterMap.mp ht'
    obtain ⟨hnone, rfl⟩ := previousTransition_eq_some.mp hot'
    refine CheckResult.byId_eq_none.mp hnone o ho ?_
    rw [← currentTransition_opportunityId hot, ← hid]
    rfl

/-- The same for a first snapshot. -/
theorem nodup_detectInitialTransitions (c : CheckResult) :
    ((detectInitialTransitions c).map OpportunityTransition.opportunityId).Nodup := by
  rw [detectInitialTransitions, List.map_map]
  exact c.ids_nodup.sublist (List.filter_sublist.map _)

end WebChecker
