import WebChecker.Drivers.BcParks.Window
import WebChecker.Storage.Recordable

/-!
# Which newly available dates are announced

The plan of `jobs.example.yaml` selects `initially_available` and `became_available`.  The first
is only for the first snapshot of a job, and the second only for an opportunity that both
snapshots have.  A date that the previous snapshot did not show comes in as `appeared`, whatever
its availability, and `appeared` is not selected.

So whether a date that can be booked now is announced depends on the check before: on whether its
window reached the date, with the slot to come.  `newlyAvailable_announced_iff` says that it
depends on nothing else.
-/

namespace WebChecker

open Relational Results Runs

variable {zone : ProviderZone} {config : BCParksDayUseConfig}

/-! ## Checks of one job -/

/-- The operations of the store so far, and the last check recorded for the job. -/
structure Watch (zone : ProviderZone) (config : BCParksDayUseConfig) where
  past : List StoreOp := []
  last : Option (ParksCheck zone config) := none

def Watch.database (s : Watch zone config) : Database := Store.exec .empty s.past

/-- A check of the job is recorded, or something else happens to the store. -/
inductive WatchAction (zone : ProviderZone) (config : BCParksDayUseConfig) where
  | check (c : ParksCheck zone config)
  | other (op : StoreOp)

/-- The operation records a snapshot of the job. -/
def StoreOp.recordsJob (jobId : String) : StoreOp → Bool
  | .recordSuccess j _ _ => j = jobId
  | _ => false

/-- Checks of one job, recorded in a store that is used for other things as well. -/
def watching (jobId : String) (plan : NotificationPlan) :
    Process (Watch zone config) (WatchAction zone config) where
  step s
    | .check c => some ⟨s.past ++ [.recordSuccess jobId c.result plan], some c⟩
    | .other op => if op.recordsJob jobId then none else some ⟨s.past ++ [op], s.last⟩

/-- The row announces an opportunity of the job. -/
def announcesOpportunity (jobId channel id : String) (n : OutboxRow) : Bool :=
  n.jobId == jobId && n.channel == channel && n.opportunityId == id

/-- A date that is available and was not, or of which nothing was known, is announced once on every
channel. -/
def AnnouncesNewlyAvailable (jobId : String) (plan : NotificationPlan) (s : Watch zone config) :
    WatchAction zone config → Prop
  | .check c => ∀ d, c.result.availabilityOf (parksId config d) = some .available →
      (s.last.bind fun l => l.result.availabilityOf (parksId config d)) ≠ some .available →
      ∀ channel ∈ plan.channels,
        (enqueued (Store.event s.database (.recordSuccess jobId c.result plan))).countP
          (announcesOpportunity jobId channel (parksId config d)) = 1
  | .other _ => True

/-- The check before showed every date that can be booked now and could not then: it was in the
window, and its slot was not over. -/
def ShowedNewlyBookable (plan : NotificationPlan) (s : Watch zone config) :
    WatchAction zone config → Prop
  | .check c => plan.channels ≠ [] → ∀ l ∈ s.last, ∀ d, c.Bookable d → ¬ l.Bookable d →
      l.InWindow d ∧ ¬ l.Over d
  | .other _ => True

/-! ## One check -/

/-- What a check records can be written. -/
lemma ParksCheck.serialisable (c : ParksCheck zone config) : Serialisable c.result := by
  intro o ho
  obtain ⟨item, _, hshows⟩ := c.mem_result ho
  exact hshows.dumps

/-- The last check is the last snapshot recorded for the job. -/
def RecordedLast (jobId : String) (s : Watch zone config) : Prop :=
  (snapshots jobId (Store.history .empty s.past)).getLast? = s.last.map ParksCheck.result

/-- What recording a check does. -/
lemma event_check {jobId : String} {s : Watch zone config} (h : RecordedLast jobId s)
    (c : ParksCheck zone config) (plan : NotificationPlan) :
    ∃ outcome rows, Store.event s.database (.recordSuccess jobId c.result plan)
      = ⟨s.database, .recordSuccess jobId c.result plan, .recorded outcome,
          recorded s.database jobId c.result plan
            (transitionsSince (s.last.map ParksCheck.result) c.result) rows⟩ := by
  have hreach : Reachable s.database := ⟨s.past, rfl⟩
  obtain ⟨previous, rows, hprevious, _, hrecord⟩ :=
    hreach.recordSuccess_ok jobId c.serialisable plan
  obtain ⟨stored, hstored, hrel⟩ := latestCommitted_run s.past jobId
  obtain rfl : stored = previous := Except.ok.inj (hstored.symm.trans hprevious)
  rw [h] at hrel
  refine ⟨⟨stored.isNone, transitionsSince stored c.result⟩, rows, ?_⟩
  rw [← recorded_congr (transitionsSince_stored hrel c.result)]
  simp [Machine.event, Store, applyOp, hrecord, settle]

lemma recordedLast_step (jobId : String) (plan : NotificationPlan) (s : Watch zone config)
    (a : WatchAction zone config) (s' : Watch zone config) (h : RecordedLast jobId s)
    (hstep : (watching jobId plan).step s a = some s') : RecordedLast jobId s' := by
  cases a with
  | check c =>
      obtain rfl := Option.some.inj hstep
      obtain ⟨outcome, rows, hevent⟩ := event_check h c plan
      rw [Watch.database] at hevent
      rw [RecordedLast, Machine.history_snoc, snapshots_snoc, hevent]
      simp [committedBy]
  | other op =>
      simp only [watching] at hstep
      split_ifs at hstep with hrecords
      obtain rfl := Option.some.inj hstep
      have hcommitted : committedBy jobId (Store.event (Store.exec .empty s.past) op) = none := by
        cases op with
        | recordSuccess j result plan =>
            have hne : j ≠ jobId := by simpa [StoreOp.recordsJob] using hrecords
            simp only [committedBy, Machine.event]
            split <;> simp_all
        | _ => rfl
      rw [RecordedLast, Machine.history_snoc, snapshots_snoc, hcommitted, Option.map_none,
        Option.toList_none, List.append_nil]
      exact h

/-- **The rows of a check for an opportunity**: one on each channel if a selected transition is
about it. -/
lemma countP_enqueued_check {jobId channel : String} {plan : NotificationPlan}
    (hchannel : channel ∈ plan.channels) {s : Watch zone config} (h : RecordedLast jobId s)
    (c : ParksCheck zone config) (id : String) :
    (enqueued (Store.event s.database (.recordSuccess jobId c.result plan))).countP
        (announcesOpportunity jobId channel id)
      = if ∃ t ∈ transitionsSince (s.last.map ParksCheck.result) c.result,
          t.type ∈ plan.on ∧ t.opportunityId = id then 1 else 0 := by
  obtain ⟨outcome, rows, hevent⟩ := event_check h c plan
  have hcount := countP_enqueued_of_type s.database (.recordSuccess jobId c.result plan)
    (.recorded outcome) jobId id c.result (s.last.map ParksCheck.result) rows hchannel
    (p := fun type => type ∈ plan.on) fun type htype => of_decide_eq_true htype
  simp only [decide_eq_true_eq] at hcount
  rw [hevent, ← hcount]
  refine List.countP_congr fun n hn => ?_
  have htype := enqueued_recorded_type _ _ _ _ _ _ _ _ n hn
  simp [announcesOpportunity, htype]

/-- **A selected transition is about a newly available date** exactly if the check before, where
there is one, showed the date. -/
lemma exists_selected_iff {plan : NotificationPlan}
    (hplan : ∀ type, type ∈ plan.on ↔ type = .initiallyAvailable ∨ type = .becameAvailable)
    {last : Option (ParksCheck zone config)} {c : ParksCheck zone config} {d : Date}
    (havailable : c.result.availabilityOf (parksId config d) = some .available)
    (hnew : (last.bind fun l => l.result.availabilityOf (parksId config d)) ≠ some .available) :
    (∃ t ∈ transitionsSince (last.map ParksCheck.result) c.result,
        t.type ∈ plan.on ∧ t.opportunityId = parksId config d) ↔
      ∀ l ∈ last, l.InWindow d ∧ ¬ l.Over d := by
  cases last with
  | none =>
      refine iff_of_true ?_ (by simp)
      obtain ⟨o, ho, hav⟩ := Option.map_eq_some_iff.mp havailable
      obtain ⟨hmem, hid⟩ := CheckResult.byId_eq_some.mp ho
      refine ⟨initialTransition o, ?_, (hplan _).mpr (Or.inl rfl), hid⟩
      exact List.mem_map_of_mem (List.mem_filter.mpr ⟨hmem, by simpa using hav⟩)
  | some l =>
      have hbecame : (∃ t ∈ detectTransitions l.result c.result,
            t.type ∈ plan.on ∧ t.opportunityId = parksId config d) ↔
          ∃ t ∈ detectTransitions l.result c.result,
            t.type = .becameAvailable ∧ t.opportunityId = parksId config d := by
        refine exists_congr fun t => and_congr_right fun ht => and_congr_left fun _ => ?_
        simp [hplan, ne_initiallyAvailable ht]
      rw [Option.map_some, transitionsSince, hbecame, exists_becameAvailable]
      simp only [Option.mem_some_iff, forall_eq']
      rw [← not_iff_not, ← l.byId_eq_none]
      rw [Option.bind_some] at hnew
      cases hbyId : l.result.byId (parksId config d) with
      | none => simp [CheckResult.availabilityOf, hbyId]
      | some old =>
          have hold : old.availability ≠ .available := by
            simpa [CheckResult.availabilityOf, hbyId] using hnew
          simp [CheckResult.availabilityOf, hbyId, hold] at havailable ⊢
          exact havailable

/-- **A newly available date is announced exactly if the check before showed it.** -/
lemma announces_iff {jobId : String} {plan : NotificationPlan}
    (hplan : ∀ type, type ∈ plan.on ↔ type = .initiallyAvailable ∨ type = .becameAvailable)
    {s : Watch zone config} (h : RecordedLast jobId s) (a : WatchAction zone config) :
    AnnouncesNewlyAvailable jobId plan s a ↔ ShowedNewlyBookable plan s a := by
  cases a with
  | other op => exact Iff.rfl
  | check c =>
      constructor
      · intro hannounces hchannels l hl d hbookable hnew
        obtain ⟨channel, hchannel⟩ := List.exists_mem_of_ne_nil _ hchannels
        have havailable := c.availabilityOf_eq_available.mpr hbookable
        have hnew' : (s.last.bind fun l => l.result.availabilityOf (parksId config d))
            ≠ some .available := by
          rw [Option.mem_def.mp hl, Option.bind_some]
          exact fun h => hnew (l.availabilityOf_eq_available.mp h)
        have hcount := hannounces d havailable hnew' channel hchannel
        rw [countP_enqueued_check hchannel h] at hcount
        split_ifs at hcount with hselected
        exact (exists_selected_iff hplan havailable hnew').mp hselected l hl
      · intro hshowed d havailable hnew channel hchannel
        rw [countP_enqueued_check hchannel h, if_pos]
        refine (exists_selected_iff hplan havailable hnew).mpr fun l hl => ?_
        refine hshowed (List.ne_nil_of_mem hchannel) l hl d
          (c.availabilityOf_eq_available.mp havailable) fun hbookable => hnew ?_
        rw [Option.mem_def.mp hl, Option.bind_some]
        exact l.availabilityOf_eq_available.mpr hbookable

/-! ## Runs -/

/-- **Which newly available dates are announced.**  Along every run, a date that is available and
was not is announced once on every channel exactly if the check before it, where there is one,
showed the date: in its window, with the slot to come. -/
theorem newlyAvailable_announced_iff (jobId : String) {plan : NotificationPlan}
    (hplan : ∀ type, type ∈ plan.on ↔ type = .initiallyAvailable ∨ type = .becameAvailable)
    (as : List (WatchAction zone config)) :
    (watching jobId plan).AllSteps (AnnouncesNewlyAvailable jobId plan) {} as ↔
      (watching jobId plan).AllSteps (ShowedNewlyBookable plan) {} as := by
  refine Process.allSteps_congr (I := RecordedLast jobId) (recordedLast_step jobId plan) ?_ rfl
  intro s a hs
  exact announces_iff hplan hs a

/-- Two checks of one morning, before and after booking opens. -/
theorem newlyAvailable_announced_opening :
    ∃ c₁ c₂ : ParksCheck summerZone southBeach,
      c₁.responses = southBeachAt 15 6 (by decide) ∧ c₂.responses = southBeachAt 15 8 (by decide) ∧
      ((watching "parks" .email).AllSteps (AnnouncesNewlyAvailable "parks" .email) {}
          [.check c₁, .check c₂] ↔
        (watching "parks" .email).AllSteps (ShowedNewlyBookable .email) {}
          [.check c₁, .check c₂]) := by
  obtain ⟨c₁, h₁, _⟩ := exists_southBeachCheck 15 6 (by decide) (by decide +kernel)
  obtain ⟨c₂, h₂, _⟩ := exists_southBeachCheck 15 8 (by decide) (by decide +kernel)
  refine ⟨c₁, c₂, h₁, h₂, newlyAvailable_announced_iff "parks" (fun type => ?_) _⟩
  cases type <;> simp [NotificationPlan.email]

/-- **A date that comes into the window after booking has opened is not announced.**  The second
check is a day after the first and past seven o'clock: the last day of its window can be booked, and
the window of the first check did not reach it. -/
theorem nextDay_not_announced :
    ∃ c₁ c₂ : ParksCheck summerZone southBeach,
      c₁.responses = southBeachAt 15 8 (by decide) ∧ c₂.responses = southBeachAt 16 8 (by decide) ∧
      ¬ (watching "parks" .email).AllSteps (AnnouncesNewlyAvailable "parks" .email) {}
          [.check c₁, .check c₂] := by
  obtain ⟨c₁, h₁, hfacility₁, hnow₁⟩ := exists_southBeachCheck 15 8 (by decide) (by decide +kernel)
  obtain ⟨c₂, h₂, hfacility₂, hnow₂⟩ := exists_southBeachCheck 16 8 (by decide) (by decide +kernel)
  refine ⟨c₁, c₂, h₁, h₂, fun hall => ?_⟩
  have houtside : ¬ c₁.InWindow (august 17 (by decide)) := by
    rw [ParksCheck.InWindow, hfacility₁, hnow₁]
    decide +kernel
  have hbookable : c₂.Bookable (august 17 (by decide)) := by
    refine ⟨?_, ?_, ?_, ?_, ?_⟩
    · rw [ParksCheck.InWindow, hfacility₂, hnow₂]
      decide +kernel
    · rw [ParksCheck.Over, hnow₂]
      decide +kernel
    · rw [hfacility₂]
      decide +kernel
    · rw [ParksCheck.PreOpen, hfacility₂, hnow₂]
      decide +kernel
    · rw [h₂]
      decide +kernel
  have hplan : ∀ type, type ∈ NotificationPlan.email.on ↔
      type = .initiallyAvailable ∨ type = .becameAvailable := by
    intro type
    cases type <;> simp [NotificationPlan.email]
  have hrecorded := recordedLast_step "parks" .email ({} : Watch summerZone southBeach) (.check c₁)
    _ rfl rfl
  have hshowed := (announces_iff hplan hrecorded (.check c₂)).mp (hall.2 _ rfl).1
  refine houtside (hshowed (by decide) c₁ rfl _ hbookable fun h => houtside h.inWindow).1

end WebChecker
