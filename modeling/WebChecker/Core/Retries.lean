import WebChecker.Core.Scheduler
import WebChecker.Library.Backoff

/-!
# Retries that wait

A failed attempt is followed by another one after a delay, and the delays of a policy should be
positive, capped and growing.  They are instances of `Backoff.delay`, so they are capped and growing
for every random unit, and positive except at one point: a jitter of the whole delay with the random
unit zero, which the constructor of the policy and the generator both admit.

`retries_wait_iff` says so of a policy, and of the runs of the worker: every retry of a run waits
exactly if none of its delays was drawn at that point.
-/

namespace WebChecker

open Relational Results Runs Dispatch

/-! ## One policy -/

namespace RetryPolicy

variable (retry : RetryPolicy)

/-- What the delays of a policy should be for a random unit: positive, capped and growing. -/
structure DelaysWait (randomUnit : ℚ) : Prop where
  delay_pos : ∀ k, 1 ≤ k → k < retry.maxAttempts → 0 < retry.delayAfterFailure k randomUnit
  delay_le : ∀ k, 1 ≤ k → k < retry.maxAttempts →
    retry.delayAfterFailure k randomUnit ≤ retry.maxDelaySeconds
  delay_mono : ∀ j k, 1 ≤ j → j ≤ k → k < retry.maxAttempts →
    retry.delayAfterFailure j randomUnit ≤ retry.delayAfterFailure k randomUnit

/-- The jitter takes all of the delay. -/
def JitteredAway (randomUnit : ℚ) : Prop := retry.jitterFraction = 1 ∧ randomUnit = 0

/-- The delays are those of a backoff by the factor two. -/
lemma delayAfterFailure_eq (k : ℕ) (randomUnit : ℚ) :
    retry.delayAfterFailure k randomUnit =
      Backoff.delay retry.initialDelaySeconds 2 retry.maxDelaySeconds retry.jitterFraction
        randomUnit (k - 1) := rfl

variable {retry} {randomUnit : ℚ}

lemma initialDelay_pos (hretries : 1 < retry.maxAttempts) : 0 < retry.initialDelaySeconds :=
  lt_of_le_of_ne retry.initialDelay_nonneg (retry.initialDelay_ne hretries).symm

/-- **A delay is positive** unless the jitter takes all of it. -/
lemma delayAfterFailure_pos_iff (hretries : 1 < retry.maxAttempts) (hunit : 0 ≤ randomUnit)
    (k : ℕ) : 0 < retry.delayAfterFailure k randomUnit ↔ ¬ retry.JitteredAway randomUnit := by
  rw [delayAfterFailure_eq]
  exact Backoff.delay_pos_iff (initialDelay_pos hretries) one_le_two retry.initialDelay_le
    retry.jitter_nonneg retry.jitter_le hunit (k - 1)

lemma delayAfterFailure_mono (hunit : 0 ≤ randomUnit) :
    Monotone fun k => retry.delayAfterFailure k randomUnit := by
  have hspread := Backoff.spread_nonneg retry.jitter_nonneg retry.jitter_le hunit
  intro j k hjk
  exact Backoff.delay_mono retry.initialDelay_nonneg one_le_two hspread (Nat.sub_le_sub_right hjk 1)

/-- **The delays of a policy.** -/
lemma delaysWait_iff (hretries : 1 < retry.maxAttempts) (hunit : 0 ≤ randomUnit) :
    retry.DelaysWait randomUnit ↔ ¬ retry.JitteredAway randomUnit := by
  constructor
  · intro h
    exact (delayAfterFailure_pos_iff hretries hunit 1).mp (h.delay_pos 1 le_rfl hretries)
  · intro haway
    constructor
    · intro k _ _
      exact (delayAfterFailure_pos_iff hretries hunit k).mpr haway
    · intro k _ _
      exact Backoff.delay_le (k - 1)
    · intro j k _ hjk _
      exact delayAfterFailure_mono hunit hjk

end RetryPolicy

/-! ## The retries of a run -/

/-- A further attempt starts only after a delay has been scheduled for the failed one. -/
def RetriesScheduled (log : List (CheckAttempt × AttemptEvent)) : Prop :=
  ∀ before (x : CheckAttempt), before ++ [(x.next, .checkStarted)] <+: log → 1 ≤ x.number →
    ∃ delay error, (x, .retryScheduled delay error) ∈ before

/-- **No execution retries without waiting.** -/
structure Worker.WaitsBeforeRetries (w : Worker) : Prop where
  scheduled : RetriesScheduled w.log
  delay_pos : ∀ x delay error, (x, .retryScheduled delay error) ∈ w.log → 0 < delay

/-- The attempt in which the step raises, with its job and what the step reads: the driver raises,
the snapshot is not recorded, or the dispatch raises. -/
def Scheduler.failing (scheduler : Scheduler) (w : Worker) :
    WorkerAction → Option (ScheduledJob × CheckAttempt × Readings)
  | .driver jobId outcome readings =>
    match w.tasks jobId with
    | .checking job x =>
      match outcome with
      | .error _ => some (job, x, readings)
      | .ok result =>
        match recordSuccess w.db job.id result job.notifications with
        | .error _ => some (job, x, readings)
        | .ok _ => none
    | _ => none
  | .dispatch jobId a readings =>
    match w.tasks jobId with
    | .dispatching job x pass =>
      match (notificationOutbox scheduler.notifiers dispatchLimit).step w.db pass a with
      | some (_, .raised _) => some (job, x, readings)
      | _ => none
    | _ => none
  | _ => none

/-- If the step raises in an attempt that is not the last one, the random unit does not take all of
the delay. -/
def Scheduler.DrawsWait (scheduler : Scheduler) (w : Worker) (act : WorkerAction) : Prop :=
  ∀ job x readings, scheduler.failing w act = some (job, x, readings) →
    x.number < job.retry.maxAttempts → ¬ job.retry.JitteredAway readings.randomUnit

/-! ### What holds in every run -/

/-- The task is in an attempt that its job has, and sleeps after a delay was scheduled. -/
def JobTask.Paced (log : List (CheckAttempt × AttemptEvent)) : JobTask → Prop
  | done => True
  | checking job x => 1 ≤ x.number ∧ x.number ≤ job.retry.maxAttempts
  | dispatching job x _ => 1 ≤ x.number ∧ x.number ≤ job.retry.maxAttempts
  | sleeping job x => (1 ≤ x.number ∧ x.number < job.retry.maxAttempts) ∧
      ∃ delay error, (x, .retryScheduled delay error) ∈ log
  | alerting _ => True

/-- The tasks are paced, and so were those that have gone on. -/
structure Worker.Paced (w : Worker) : Prop where
  tasks : ∀ jobId, (w.tasks jobId).Paced w.log
  scheduled : RetriesScheduled w.log

lemma JobTask.Paced.mono {log log' : List (CheckAttempt × AttemptEvent)} {task : JobTask}
    (h : task.Paced log) (hsub : log ⊆ log') : task.Paced log' := by
  cases task with
  | sleeping job x =>
      obtain ⟨hnumber, delay, error, hmem⟩ := h
      exact ⟨hnumber, delay, error, hsub hmem⟩
  | _ => exact h

lemma paced_start (db : Database) : (Worker.start db).Paced where
  tasks jobId := trivial
  scheduled before x hprefix _ := by simp [Worker.start] at hprefix

namespace Worker.Paced

variable {w : Worker} (h : w.Paced)
include h

/-- A task moves on. -/
lemma setTask {jobId : String} {task : JobTask} (htask : task.Paced w.log) :
    (w.setTask jobId task).Paced where
  tasks j := by
    show (Function.update w.tasks jobId task j).Paced w.log
    by_cases hj : j = jobId
    · subst hj
      simpa using htask
    · simpa [hj] using h.tasks j
  scheduled := h.scheduled

/-- An event is logged.  A start needs a reason. -/
lemma emit {x : CheckAttempt} {event : AttemptEvent}
    (hstart : event = .checkStarted → ∀ y : CheckAttempt, y.next = x → 1 ≤ y.number →
      ∃ delay error, (y, .retryScheduled delay error) ∈ w.log) : (w.emit x event).Paced where
  tasks jobId := (h.tasks jobId).mono (List.subset_append_left _ _)
  scheduled before y hprefix hnumber := by
    rw [Worker.emit, List.prefix_concat_iff] at hprefix
    rcases hprefix with hlast | hprefix
    · obtain ⟨rfl, hevent⟩ := List.append_inj' hlast rfl
      simp only [List.cons.injEq, Prod.mk.injEq, and_true] at hevent
      exact hstart hevent.2.symm y hevent.1 hnumber
    · exact h.scheduled before y hprefix hnumber

/-- The store and the counters are not part of the pace. -/
lemma withStore (db : Database) (executions : String → ℕ) :
    ({ w with db := db, executions := executions } : Worker).Paced := ⟨h.tasks, h.scheduled⟩

lemma beginAttempt {job : ScheduledJob} {x : CheckAttempt}
    (hnumber : 1 ≤ x.number ∧ x.number ≤ job.retry.maxAttempts)
    (hreason : ∀ y : CheckAttempt, y.next = x → 1 ≤ y.number →
      ∃ delay error, (y, .retryScheduled delay error) ∈ w.log) :
    (Scheduler.beginAttempt w job x).Paced :=
  (h.emit fun _ => hreason).setTask hnumber

variable (scheduler : Scheduler) {job : ScheduledJob} {x : CheckAttempt}

lemma afterFailure (hnumber : 1 ≤ x.number ∧ x.number ≤ job.retry.maxAttempts)
    (readings : Readings) (error : RaisedException) :
    (scheduler.afterFailure w job x readings error).Paced := by
  have heffect := scheduler.afterFailure_effect w job x readings error
  generalize scheduler.afterFailure w job x readings error = w' at heffect ⊢
  cases heffect with
  | retried hmore =>
      refine (h.emit (by simp)).setTask ⟨⟨hnumber.1, lt_of_le_of_ne hnumber.2 hmore⟩, ?_⟩
      exact ⟨_, _, List.mem_append_right _ (List.mem_singleton_self _)⟩
  | gaveUp => exact (h.emit (by simp)).setTask trivial
  | unrecorded => exact ((h.emit (by simp)).emit (by simp)).setTask trivial
  | reported => exact (((h.emit (by simp)).emit (by simp)).withStore _ _).setTask trivial

lemma afterSuccess (readings : Readings) : (scheduler.afterSuccess w x readings).Paced := by
  have heffect := scheduler.afterSuccess_effect w x readings
  generalize scheduler.afterSuccess w x readings = w' at heffect ⊢
  cases heffect with
  | ended => exact (h.emit (by simp)).setTask trivial
  | evaluated => exact ((h.emit (by simp)).withStore _ _).setTask trivial

lemma afterDriver (hnumber : 1 ≤ x.number ∧ x.number ≤ job.retry.maxAttempts)
    (readings : Readings) (outcome : Except RaisedException CheckResult) :
    (scheduler.afterDriver w job x readings outcome).Paced := by
  cases outcome with
  | error e => exact h.afterFailure scheduler hnumber readings e
  | ok result =>
      rw [Scheduler.afterDriver]
      split
      · exact h.afterFailure scheduler hnumber readings _
      · exact ((h.withStore _ _).emit (by simp)).setTask hnumber

lemma afterDispatch (hnumber : 1 ≤ x.number ∧ x.number ≤ job.retry.maxAttempts)
    (readings : Readings) (pass : Pass PendingNotification Datetime StorageError) :
    (scheduler.afterDispatch w job x readings pass).Paced := by
  cases pass with
  | raised e => exact h.afterFailure scheduler hnumber readings e.raised
  | running todo =>
      cases todo with
      | nil => exact h.afterSuccess scheduler readings
      | cons => exact h.setTask hnumber
  | _ => exact h.setTask hnumber

lemma afterAlert (jobId : String) (pass : Pass OperationalAlert Datetime StorageError) :
    (Scheduler.afterAlert w jobId pass).Paced := by
  cases pass with
  | running todo => cases todo <;> exact h.setTask trivial
  | _ => exact h.setTask trivial

/-- **Every step keeps the pace.** -/
lemma step {w' : Worker} {act : WorkerAction} (hstep : scheduler.process.step w act = some w') :
    w'.Paced := by
  cases Scheduler.effect_of_step hstep with
  | @started jobId job hjob htask =>
      refine (h.withStore _ _).beginAttempt ⟨le_rfl, job.retry.maxAttempts_pos⟩ ?_
      intro y hy hnumber
      have hone : y.number + 1 = 1 := congrArg Retrying.Attempt.number hy
      omega
  | @returned jobId outcome readings job x htask =>
      have hnumber := h.tasks jobId
      rw [htask] at hnumber
      exact h.afterDriver scheduler hnumber readings outcome
  | @dispatched jobId a readings job x pass db pass' htask heffect =>
      have hnumber := h.tasks jobId
      rw [htask] at hnumber
      exact (h.withStore db w.executions).afterDispatch scheduler hnumber readings pass'
  | @woke jobId job x htask =>
      have hsleeping := h.tasks jobId
      rw [htask] at hsleeping
      obtain ⟨⟨hpos, hlt⟩, delay, error, hmem⟩ := hsleeping
      refine h.beginAttempt ⟨Nat.le_add_left 1 _, hlt⟩ ?_
      rintro y hy _
      obtain rfl : y = x := by
        cases y
        cases x
        simpa [Retrying.Attempt.next] using hy
      exact ⟨delay, error, hmem⟩
  | @alerted jobId a registry pass db pass' hregistry htask heffect =>
      exact (h.withStore db w.executions).afterAlert jobId pass'

end Worker.Paced

/-! ### The delays of a run -/

/-- The delay that an event schedules. -/
def AttemptEvent.delay : AttemptEvent → Option ℚ
  | retryScheduled delay _ => some delay
  | _ => none

/-- The delays in the log. -/
def Worker.delays (w : Worker) : List ℚ := w.log.filterMap fun e => e.2.delay

section Delays

variable (w : Worker) (scheduler : Scheduler) (job : ScheduledJob) (x : CheckAttempt)
  (readings : Readings)

@[simp] lemma delays_emit (event : AttemptEvent) :
    (w.emit x event).delays = w.delays ++ event.delay.toList := by
  cases h : event.delay <;> simp [Worker.delays, Worker.emit, h]

@[simp] lemma delays_setTask (jobId : String) (task : JobTask) :
    (w.setTask jobId task).delays = w.delays := rfl

@[simp] lemma delays_withStore (db : Database) (executions : String → ℕ) :
    ({ w with db := db, executions := executions } : Worker).delays = w.delays := rfl

@[simp] lemma delays_beginAttempt : (Scheduler.beginAttempt w job x).delays = w.delays := by
  simp [Scheduler.beginAttempt, AttemptEvent.delay]

/-- **A failed attempt** schedules a delay unless it is the last one. -/
lemma delays_afterFailure (error : RaisedException) :
    (scheduler.afterFailure w job x readings error).delays = w.delays ++
      if x.number = job.retry.maxAttempts then []
      else [job.retry.delayAfterFailure x.number readings.randomUnit] := by
  have heffect := scheduler.afterFailure_effect w job x readings error
  generalize scheduler.afterFailure w job x readings error = w' at heffect ⊢
  cases heffect with
  | retried hmore => simp [hmore, AttemptEvent.delay]
  | gaveUp hlast => simp [hlast, AttemptEvent.delay]
  | unrecorded hlast => simp [hlast, AttemptEvent.delay]
  | reported hlast => simp [hlast, AttemptEvent.delay]

lemma delays_afterSuccess : (scheduler.afterSuccess w x readings).delays = w.delays := by
  have heffect := scheduler.afterSuccess_effect w x readings
  generalize scheduler.afterSuccess w x readings = w' at heffect ⊢
  cases heffect <;> simp [AttemptEvent.delay]

lemma delays_afterAlert (jobId : String) (pass : Pass OperationalAlert Datetime StorageError) :
    (Scheduler.afterAlert w jobId pass).delays = w.delays := by
  cases pass with
  | running todo => cases todo <;> rfl
  | _ => rfl

end Delays

/-- The delay that follows a failed attempt. -/
def scheduledDelay : Option (ScheduledJob × CheckAttempt × Readings) → List ℚ
  | some (job, x, readings) =>
    if x.number = job.retry.maxAttempts then []
    else [job.retry.delayAfterFailure x.number readings.randomUnit]
  | none => []

section Steps

variable {scheduler : Scheduler} {w w' : Worker} {jobId : String} {readings : Readings}

lemma delays_driver {outcome : Except RaisedException CheckResult}
    (hstep : scheduler.process.step w (.driver jobId outcome readings) = some w') :
    w'.delays = w.delays ++
      scheduledDelay (scheduler.failing w (.driver jobId outcome readings)) := by
  cases Scheduler.effect_of_step hstep with
  | @returned _ _ _ job x htask =>
      rw [Scheduler.failing, htask]
      cases outcome with
      | error e => exact delays_afterFailure _ _ _ _ _ _
      | ok result =>
          rw [Scheduler.afterDriver]
          dsimp only
          cases recordSuccess w.db job.id result job.notifications with
          | error e => exact delays_afterFailure _ _ _ _ _ _
          | ok out => simp [AttemptEvent.delay, scheduledDelay]

lemma delays_dispatch {a : PassStep Datetime String}
    (hstep : scheduler.process.step w (.dispatch jobId a readings) = some w') :
    w'.delays = w.delays ++ scheduledDelay (scheduler.failing w (.dispatch jobId a readings)) := by
  simp only [Scheduler.process] at hstep
  split at hstep
  next job x pass htask =>
    obtain ⟨⟨db, pass'⟩, hpass, rfl⟩ := Option.map_eq_some_iff.mp hstep
    rw [Scheduler.failing, htask]
    dsimp only
    rw [hpass]
    cases pass' with
    | raised e => exact delays_afterFailure _ _ _ _ _ _
    | running todo =>
        cases todo with
        | nil => simp [Scheduler.afterDispatch, delays_afterSuccess, scheduledDelay]
        | cons => simp [Scheduler.afterDispatch, scheduledDelay]
    | idle => simp [Scheduler.afterDispatch, scheduledDelay]
    | sending => simp [Scheduler.afterDispatch, scheduledDelay]
  next => simp at hstep

/-- **A step schedules the delay of the attempt that it makes fail**, and no other. -/
lemma delays_step {act : WorkerAction} (hstep : scheduler.process.step w act = some w') :
    w'.delays = w.delays ++ scheduledDelay (scheduler.failing w act) := by
  cases act with
  | driver jobId outcome readings => exact delays_driver hstep
  | dispatch jobId a readings => exact delays_dispatch hstep
  | start jobId =>
      cases Scheduler.effect_of_step hstep with
      | started => simp [Scheduler.failing, scheduledDelay]
  | wake jobId =>
      cases Scheduler.effect_of_step hstep with
      | woke => simp [Scheduler.failing, scheduledDelay]
  | alert jobId a =>
      cases Scheduler.effect_of_step hstep with
      | alerted => simp [Scheduler.failing, scheduledDelay, delays_afterAlert]

end Steps

lemma mem_delays {w : Worker} {delay : ℚ} :
    delay ∈ w.delays ↔ ∃ x error, (x, .retryScheduled delay error) ∈ w.log := by
  simp only [Worker.delays, List.mem_filterMap, Prod.exists]
  constructor
  · rintro ⟨x, event, hmem, hdelay⟩
    cases event with
    | retryScheduled d error =>
        obtain rfl : d = delay := by simpa [AttemptEvent.delay] using hdelay
        exact ⟨x, error, hmem⟩
    | _ => simp [AttemptEvent.delay] at hdelay
  · rintro ⟨x, error, hmem⟩
    exact ⟨x, _, hmem, rfl⟩

/-- With the pace kept, only the length of the delays matters. -/
lemma Worker.Paced.waits_iff {w : Worker} (h : w.Paced) :
    w.WaitsBeforeRetries ↔ ∀ delay ∈ w.delays, 0 < delay := by
  constructor
  · intro hwaits delay hdelay
    obtain ⟨x, error, hmem⟩ := mem_delays.mp hdelay
    exact hwaits.delay_pos x delay error hmem
  · intro hpos
    exact ⟨h.scheduled, fun x delay error hmem => hpos delay (mem_delays.mpr ⟨x, error, hmem⟩)⟩

/-- The failing attempt is one that its job has. -/
lemma Worker.Paced.failing_number {scheduler : Scheduler} {w : Worker} (h : w.Paced)
    {act : WorkerAction} {job : ScheduledJob} {x : CheckAttempt} {readings : Readings}
    (hfails : scheduler.failing w act = some (job, x, readings)) :
    1 ≤ x.number ∧ x.number ≤ job.retry.maxAttempts := by
  cases act with
  | driver jobId outcome readings' =>
      have hnumber := h.tasks jobId
      rw [Scheduler.failing] at hfails
      cases htask : w.tasks jobId with
      | checking job' x' =>
          rw [htask] at hnumber hfails
          have hsame : some (job', x', readings') = some (job, x, readings) := by
            cases outcome with
            | error e => exact hfails
            | ok result =>
                dsimp only at hfails
                split at hfails
                · exact hfails
                · simp at hfails
          cases hsame
          exact hnumber
      | _ => simp [htask] at hfails
  | dispatch jobId a readings' =>
      have hnumber := h.tasks jobId
      rw [Scheduler.failing] at hfails
      cases htask : w.tasks jobId with
      | dispatching job' x' pass =>
          rw [htask] at hnumber hfails
          dsimp only at hfails
          split at hfails
          · cases hfails
            exact hnumber
          · simp at hfails
      | _ => simp [htask] at hfails
  | _ => simp [Scheduler.failing] at hfails

/-- **The delay of a failed attempt** is positive exactly if the random unit leaves some of it. -/
lemma Worker.Paced.scheduledDelay_pos_iff {scheduler : Scheduler} {w : Worker} (h : w.Paced)
    (act : WorkerAction) :
    (∀ delay ∈ scheduledDelay (scheduler.failing w act), 0 < delay) ↔
      scheduler.DrawsWait w act := by
  rw [Scheduler.DrawsWait]
  cases hfails : scheduler.failing w act with
  | none => simp [scheduledDelay]
  | some failed =>
      obtain ⟨job, x, readings⟩ := failed
      obtain ⟨hpos, hle⟩ := h.failing_number hfails
      have hone : (∀ job' x' readings', some (job, x, readings) = some (job', x', readings') →
            x'.number < job'.retry.maxAttempts → ¬ job'.retry.JitteredAway readings'.randomUnit) ↔
          (x.number < job.retry.maxAttempts → ¬ job.retry.JitteredAway readings.randomUnit) := by
        constructor
        · intro hall
          exact hall job x readings rfl
        · rintro hthis _ _ _ ⟨⟩
          exact hthis
      rw [hone, scheduledDelay]
      by_cases hlast : x.number = job.retry.maxAttempts
      · rw [if_pos hlast]
        simp [hlast]
      · have hlt : x.number < job.retry.maxAttempts := lt_of_le_of_ne hle hlast
        rw [if_neg hlast, List.forall_mem_singleton, forall_prop_of_true hlt]
        exact RetryPolicy.delayAfterFailure_pos_iff (hpos.trans_lt hlt) readings.randomUnit.2.1 _

/-! ## When retries wait -/

/-- **One step of the worker** keeps every retry waiting exactly if it draws a delay that waits. -/
lemma waits_step {scheduler : Scheduler} {w w' : Worker} {act : WorkerAction} (h : w.Paced)
    (hwaits : w.WaitsBeforeRetries) (hstep : scheduler.process.step w act = some w') :
    w'.WaitsBeforeRetries ↔ scheduler.DrawsWait w act := by
  rw [(h.step scheduler hstep).waits_iff, delays_step hstep, ← h.scheduledDelay_pos_iff act]
  rw [h.waits_iff] at hwaits
  simp only [List.forall_mem_append]
  exact and_iff_right hwaits

/-- **When retries wait.**  The delays of a policy with several attempts are positive, capped and
growing for a random unit unless the jitter is the whole delay and the unit is zero.  In a run of
the worker, every retry of every execution waits exactly if no delay was drawn like that. -/
theorem retries_wait_iff {retry : RetryPolicy} {randomUnit : ℚ} (hretries : 1 < retry.maxAttempts)
    (hunit : 0 ≤ randomUnit ∧ randomUnit < 1) (scheduler : Scheduler) {db : Database}
    {acts : List WorkerAction} {w : Worker}
    (hrun : scheduler.process.run (Worker.start db) acts = some w) :
    (retry.DelaysWait randomUnit ↔ ¬ (retry.jitterFraction = 1 ∧ randomUnit = 0)) ∧
      (scheduler.process.AllStates Worker.WaitsBeforeRetries (Worker.start db) acts ↔
        scheduler.process.AllSteps scheduler.DrawsWait (Worker.start db) acts) := by
  have hstart : (Worker.start db).WaitsBeforeRetries := by
    rw [(paced_start db).waits_iff]
    simp [Worker.delays, Worker.start]
  have inv : ∀ w act w', Worker.Paced w → scheduler.process.step w act = some w' → w'.Paced :=
    fun _ _ _ h hstep => h.step scheduler hstep
  have hstep : ∀ w act w', Worker.Paced w → w.WaitsBeforeRetries →
      scheduler.process.step w act = some w' →
        (w'.WaitsBeforeRetries ↔ scheduler.DrawsWait w act) :=
    fun _ _ _ h hwaits hstep => waits_step h hwaits hstep
  constructor
  · exact RetryPolicy.delaysWait_iff hretries hunit.1
  · exact Process.allStates_iff_allSteps inv hstep (paced_start db) hstart hrun

/-- Two attempts, with a delay that the jitter may take all of. -/
def fullJitter : RetryPolicy :=
  { RetryPolicy.once with
    maxAttempts := 2
    jitterFraction := 1
    maxAttempts_pos := by decide
    maxAttempts_le := by decide
    jitter_nonneg := zero_le_one
    jitter_le := le_rfl
    initialDelay_ne := by norm_num [RetryPolicy.once] }

/-- One job with that policy, and no alerts. -/
def flaky : Scheduler :=
  .create [{ id := "swim", schedule := some (.everyMinute fullJitter) }] .email none 3 []

/-- The first attempt fails and the second one starts. -/
def failOnce (randomUnit : { u : ℚ // 0 ≤ u ∧ u < 1 }) : List WorkerAction :=
  [.start "swim",
    .driver "swim" (.error ⟨"RuntimeError", "temporary"⟩) ⟨.epoch, fun _ => .epoch, randomUnit⟩,
    .wake "swim"]

lemma half_mem_unit : 0 ≤ (1 / 2 : ℚ) ∧ (1 / 2 : ℚ) < 1 := by norm_num

lemma zero_mem_unit : 0 ≤ (0 : ℚ) ∧ (0 : ℚ) < 1 := by norm_num

theorem retries_wait_iff_halfUnit :
    fullJitter.DelaysWait (1 / 2) ∧
    ∃ w, flaky.process.run (Worker.start .empty) (failOnce ⟨1 / 2, half_mem_unit⟩) = some w ∧
      (flaky.process.AllStates Worker.WaitsBeforeRetries (Worker.start .empty)
          (failOnce ⟨1 / 2, half_mem_unit⟩) ↔
        flaky.process.AllSteps flaky.DrawsWait (Worker.start .empty)
          (failOnce ⟨1 / 2, half_mem_unit⟩)) := by
  have hrun : (flaky.process.run (Worker.start .empty)
      (failOnce ⟨1 / 2, half_mem_unit⟩)).isSome = true := by decide +kernel
  obtain ⟨w, hw⟩ := Option.isSome_iff_exists.mp hrun
  obtain ⟨hpolicy, hwaits⟩ :=
    retries_wait_iff (show 1 < fullJitter.maxAttempts by decide) half_mem_unit flaky hw
  exact ⟨hpolicy.mpr (by norm_num), w, hw, hwaits⟩

/-- **The random unit zero takes all of the delay**, and the second attempt starts at once. -/
theorem zeroUnit_retries_at_once :
    ¬ fullJitter.DelaysWait 0 ∧
    ∃ w, flaky.process.run (Worker.start .empty) (failOnce ⟨0, zero_mem_unit⟩) = some w ∧
      (⟨"swim", 0, 2⟩, .checkStarted) ∈ w.log ∧ ¬ w.WaitsBeforeRetries := by
  have hzero : ¬ 0 < fullJitter.delayAfterFailure 1 0 := by decide +kernel
  refine ⟨fun h => hzero (h.delay_pos 1 le_rfl (by decide)), ?_⟩
  have hlog : (flaky.process.run (Worker.start .empty) (failOnce ⟨0, zero_mem_unit⟩)).map (fun w =>
      decide ((⟨"swim", 0, 2⟩, .checkStarted) ∈ w.log ∧
        (⟨"swim", 0, 1⟩, .retryScheduled 0 "RuntimeError: temporary") ∈ w.log)) = some true := by
    decide +kernel
  obtain ⟨w, hw, hmem⟩ := Option.map_eq_some_iff.mp hlog
  rw [decide_eq_true_eq] at hmem
  exact ⟨w, hw, hmem.1, fun h => lt_irrefl 0 (h.delay_pos _ _ _ hmem.2)⟩

end WebChecker
