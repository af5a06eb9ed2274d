import WebChecker.Core.Scheduler

/-!
# Committed checks

A check commits its snapshot and dispatches afterwards, and what the dispatch raises is raised by
the check: the scheduler then counts the attempt as failed, retries it and reports the job as
failing, although its snapshot is recorded.  The rows a check dispatches belong to all jobs, so the
pass of another job can deliver one of them first, and recording the outcome of the second send
raises (`commit_lost`).

`outline` shows the worker as a set of parties whose attempts commit.  `step_refines` says that it
is one, and that an attempt fails after its commit exactly if its pass records the outcome of a row
that is delivered already.  `commitsKept_iff` follows: no other exception reaches a committed check.
-/

namespace WebChecker

open Relational Results Runs Dispatch

/-! ## The worker as parties that commit -/

/-- What an event means for an attempt. -/
def AttemptEvent.mark : AttemptEvent → Retrying.Mark
  | checkStarted => .started
  | snapshotRecorded => .committed
  | checkSucceeded => .succeeded
  | retryScheduled _ _ => .failed
  | checkFailed _ => .failed
  | failureReported _ => .reported

/-- Where a job stands: its snapshot is recorded when it dispatches. -/
def JobTask.phase : JobTask → Retrying.Phase String
  | done => .idle
  | checking _ x => .running x false
  | dispatching _ x _ => .running x true
  | sleeping _ x => .waiting x
  | alerting _ => .idle

/-- The worker without its store. -/
def Worker.outline (w : Worker) : Retrying.State String :=
  ⟨fun jobId => (w.tasks jobId).phase, w.executions, w.log.map fun e => (e.1, e.2.mark)⟩

section Outline

variable (w : Worker)

@[simp] lemma outline_db (db : Database) : ({ w with db := db } : Worker).outline = w.outline := rfl

@[simp] lemma outline_emit (x : CheckAttempt) (event : AttemptEvent) :
    (w.emit x event).outline
      = { w.outline with log := w.outline.log ++ [(x, event.mark)] } := by
  simp [Worker.outline, Worker.emit]

@[simp] lemma outline_setTask (jobId : String) (task : JobTask) :
    (w.setTask jobId task).outline
      = { w.outline with phase := Function.update w.outline.phase jobId task.phase } := by
  simp only [Worker.outline, Worker.setTask, Retrying.State.mk.injEq, and_true]
  funext j
  by_cases hj : j = jobId <;> simp [hj]

/-- A task that stays where it is, as far as the outline goes. -/
lemma outline_setTask_of_phase {jobId : String} {task : JobTask}
    (h : w.outline.phase jobId = task.phase) : (w.setTask jobId task).outline = w.outline := by
  rw [outline_setTask, ← h, Function.update_eq_self]

end Outline

/-! ## What the steps amount to -/

section Steps

variable (scheduler : Scheduler) {w : Worker} (job : ScheduledJob) {x : CheckAttempt}

/-- **A failed attempt** is retried or given up. -/
lemma outline_afterFailure {c : Bool} (hphase : w.outline.phase x.party = .running x c)
    (readings : Readings) (error : RaisedException) :
    ∃ b, Retrying.process.step w.outline b
        = some (scheduler.afterFailure w job x readings error).outline ∧
      (Retrying.SparesCommitted w.outline b ↔ c = false) := by
  have hspares : (∀ y, w.outline.phase x.party ≠ .running y true) ↔ c = false := by
    rw [hphase]
    cases c <;> simp
  have heffect := scheduler.afterFailure_effect w job x readings error
  generalize scheduler.afterFailure w job x readings error = w' at heffect ⊢
  cases heffect with
  | retried hmore =>
      refine ⟨.retry x.party, ?_, hspares⟩
      simp [Retrying.process, hphase, Retrying.State.moved, JobTask.phase, AttemptEvent.mark]
  | gaveUp hlast =>
      refine ⟨.giveUp x.party false, ?_, hspares⟩
      simp [Retrying.process, hphase, Retrying.State.moved, JobTask.phase, AttemptEvent.mark]
  | unrecorded hlast =>
      refine ⟨.giveUp x.party true, ?_, hspares⟩
      simp [Retrying.process, hphase, Retrying.State.moved, JobTask.phase, AttemptEvent.mark]
  | reported hlast hrecord =>
      refine ⟨.giveUp x.party true, ?_, hspares⟩
      simp [Retrying.process, hphase, Retrying.State.moved, JobTask.phase, AttemptEvent.mark]

/-- **A successful attempt.** -/
lemma outline_afterSuccess (hphase : w.outline.phase x.party = .running x true)
    (readings : Readings) :
    Retrying.process.step w.outline (.succeed x.party)
      = some (scheduler.afterSuccess w x readings).outline := by
  have heffect := scheduler.afterSuccess_effect w x readings
  generalize scheduler.afterSuccess w x readings = w' at heffect ⊢
  cases heffect <;>
    simp [Retrying.process, hphase, Retrying.State.moved, JobTask.phase, AttemptEvent.mark]

/-- **The driver's outcome** is recorded, or the attempt fails. -/
lemma outline_afterDriver (hphase : w.outline.phase x.party = .running x false)
    (readings : Readings) (outcome : Except RaisedException CheckResult) :
    ∃ b, Retrying.process.step w.outline b
        = some (scheduler.afterDriver w job x readings outcome).outline ∧
      Retrying.SparesCommitted w.outline b := by
  cases outcome with
  | error e =>
      obtain ⟨b, hb, hspares⟩ := outline_afterFailure scheduler job hphase readings e
      exact ⟨b, hb, hspares.mpr rfl⟩
  | ok result =>
      rw [Scheduler.afterDriver]
      cases recordSuccess w.db job.id result job.notifications with
      | error e =>
          obtain ⟨b, hb, hspares⟩ := outline_afterFailure scheduler job hphase readings e.raised
          exact ⟨b, hb, hspares.mpr rfl⟩
      | ok out =>
          refine ⟨.commit x.party, ?_, trivial⟩
          simp [Retrying.process, hphase, Retrying.State.moved, JobTask.phase, AttemptEvent.mark]

/-- **A step of the dispatch** ends the attempt if the pass is over: with a failure if it has
raised. -/
lemma outline_afterDispatch (hphase : w.outline.phase x.party = .running x true)
    (readings : Readings) (pass : Pass PendingNotification Datetime StorageError) :
    ∃ bs, Retrying.process.run w.outline bs
        = some (scheduler.afterDispatch w job x readings pass).outline ∧
      (Retrying.process.AllSteps Retrying.SparesCommitted w.outline bs
        ↔ ¬ ∃ e, pass = .raised e) := by
  have hstays : (w.setTask x.party (.dispatching job x pass)).outline = w.outline :=
    outline_setTask_of_phase w hphase
  cases pass with
  | idle => exact ⟨[], congrArg some hstays.symm, by simp [Process.AllSteps]⟩
  | sending => exact ⟨[], congrArg some hstays.symm, by simp [Process.AllSteps]⟩
  | running todo =>
      cases todo with
      | cons => exact ⟨[], congrArg some hstays.symm, by simp [Process.AllSteps]⟩
      | nil =>
          have hstep := outline_afterSuccess scheduler hphase readings
          refine ⟨[.succeed x.party], ?_, by simp [Process.AllSteps, Retrying.SparesCommitted]⟩
          simpa [Process.run, Scheduler.afterDispatch] using hstep
  | raised e =>
      obtain ⟨b, hb, hspares⟩ := outline_afterFailure scheduler job hphase readings e.raised
      refine ⟨[b], by simpa [Process.run, Scheduler.afterDispatch] using hb, ?_⟩
      simp [Process.AllSteps, hspares]

/-! ## The store stays consistent -/

lemma consistent_afterFailure (hc : Consistent w.db) (readings : Readings)
    (error : RaisedException) :
    Consistent (scheduler.afterFailure w job x readings error).db := by
  have heffect := scheduler.afterFailure_effect w job x readings error
  generalize scheduler.afterFailure w job x readings error = w' at heffect ⊢
  cases heffect with
  | reported _ hrecord => exact hc.settled (.recordCheckFailure ..) rfl hrecord
  | _ => exact hc

lemma consistent_afterSuccess (hc : Consistent w.db) (readings : Readings) :
    Consistent (scheduler.afterSuccess w x readings).db := by
  have heffect := scheduler.afterSuccess_effect w x readings
  generalize scheduler.afterSuccess w x readings = w' at heffect ⊢
  cases heffect with
  | ended => exact hc
  | evaluated hraise => exact hc.settled (.raiseDeliveryBacklogAlerts ..) rfl hraise

lemma consistent_afterDriver (hc : Consistent w.db) (readings : Readings)
    (outcome : Except RaisedException CheckResult) :
    Consistent (scheduler.afterDriver w job x readings outcome).db := by
  cases outcome with
  | error e => exact consistent_afterFailure scheduler job hc readings e
  | ok result =>
      rw [Scheduler.afterDriver]
      split
      · exact consistent_afterFailure scheduler job hc readings _
      · rename_i hrecord
        exact hc.settled (.recordSuccess ..) rfl hrecord

lemma consistent_afterDispatch (hc : Consistent w.db) (readings : Readings)
    (pass : Pass PendingNotification Datetime StorageError) :
    Consistent (scheduler.afterDispatch w job x readings pass).db := by
  cases pass with
  | idle => exact hc
  | sending => exact hc
  | raised e => exact consistent_afterFailure scheduler job hc readings e.raised
  | running todo =>
      cases todo with
      | nil => exact consistent_afterSuccess scheduler hc readings
      | cons => exact hc

lemma db_afterAlert (w : Worker) (jobId : String)
    (pass : Pass OperationalAlert Datetime StorageError) :
    (Scheduler.afterAlert w jobId pass).db = w.db := by
  cases pass with
  | idle => rfl
  | sending => rfl
  | raised => rfl
  | running todo => cases todo <;> rfl

lemma outline_afterAlert {jobId : String} (hphase : w.outline.phase jobId = .idle)
    (pass : Pass OperationalAlert Datetime StorageError) :
    (Scheduler.afterAlert w jobId pass).outline = w.outline := by
  cases pass with
  | idle => exact outline_setTask_of_phase w hphase
  | sending => exact outline_setTask_of_phase w hphase
  | raised => exact outline_setTask_of_phase w hphase
  | running todo => cases todo <;> exact outline_setTask_of_phase w hphase

end Steps

/-! ## The refinement -/

/-- Whenever a check's dispatch records the outcome of an attempt, the row is still undelivered. -/
def FindsRowUndelivered (scheduler : Scheduler) (w : Worker) : WorkerAction → Prop
  | .dispatch jobId a _ => ∀ job x pass, w.tasks jobId = .dispatching job x pass →
      ∀ n, (notificationOutbox scheduler.notifiers dispatchLimit).records pass a = some n →
        n.id ∈ pendingIds w.db
  | _ => True

/-- The pass of a task that dispatches. -/
def JobTask.dispatched : JobTask → Option (Pass PendingNotification Datetime StorageError)
  | dispatching _ _ pass => some pass
  | _ => none

lemma findsRowUndelivered_dispatch {scheduler : Scheduler} {w : Worker} {jobId : String}
    {a : PassStep Datetime String} {readings : Readings} :
    FindsRowUndelivered scheduler w (.dispatch jobId a readings) ↔
      ∀ pass ∈ (w.tasks jobId).dispatched,
        ∀ n ∈ (notificationOutbox scheduler.notifiers dispatchLimit).records pass a,
          n.id ∈ pendingIds w.db := by
  rw [FindsRowUndelivered]
  cases w.tasks jobId <;> simp [JobTask.dispatched]

instance (scheduler : Scheduler) (w : Worker) :
    ∀ act, Decidable (FindsRowUndelivered scheduler w act)
  | .dispatch _ _ _ => decidable_of_iff _ findsRowUndelivered_dispatch.symm
  | .start _ | .driver _ _ _ | .wake _ | .alert _ _ => isTrue trivial

/-- **A step of the dispatch raises** exactly if it records the outcome of a delivered row. -/
lemma raises_iff {registry : NotifierRegistry} {db db' : Database}
    {pass pass' : Pass PendingNotification Datetime StorageError} {a : PassStep Datetime String}
    (hc : Consistent db)
    (h : (notificationOutbox registry dispatchLimit).Effect db pass a db' pass') :
    (∃ e, pass' = .raised e) ↔
      ¬ ∀ n, (notificationOutbox registry dispatchLimit).records pass a = some n →
        n.id ∈ pendingIds db := by
  refine h.raised_iff (fun e he => ?_) fun n time error => recordAttempt_error_iff
  have hlist : listPendingNotifications db dispatchLimit = .error e := he
  simp [listPendingNotifications_eq hc] at hlist

/-- **One step of the worker** is a step of a party, or none; and it makes a committed attempt fail
exactly if it records the outcome of a row that is delivered already. -/
lemma step_refines {scheduler : Scheduler} {w w' : Worker} {act : WorkerAction}
    (hc : Consistent w.db) (inv : Retrying.Inv w.outline)
    (h : scheduler.process.step w act = some w') :
    ∃ bs, Retrying.process.run w.outline bs = some w'.outline ∧
      (Retrying.process.AllSteps Retrying.SparesCommitted w.outline bs
        ↔ FindsRowUndelivered scheduler w act) := by
  -- a single step of a party that loses no commit
  have hone : ∀ {b}, Retrying.process.step w.outline b = some w'.outline →
      Retrying.SparesCommitted w.outline b → FindsRowUndelivered scheduler w act →
      ∃ bs, Retrying.process.run w.outline bs = some w'.outline ∧
        (Retrying.process.AllSteps Retrying.SparesCommitted w.outline bs
          ↔ FindsRowUndelivered scheduler w act) := by
    intro b hb hspares hfinds
    exact ⟨[b], by simpa [Process.run] using hb, by simp [Process.AllSteps, hspares, hfinds]⟩
  have hparty : ∀ {jobId x c}, w.outline.phase jobId = .running x c → x.party = jobId := by
    intro jobId x c hphase
    exact (inv.own jobId x (by rw [hphase]; rfl)).1
  cases Scheduler.effect_of_step h with
  | @started jobId job hjob htask =>
      have hphase : w.outline.phase jobId = .idle := congrArg JobTask.phase htask
      refine hone (b := .begin jobId) ?_ trivial trivial
      rw [Scheduler.beginAttempt, outline_setTask, outline_emit]
      simp only [Retrying.process, hphase]
      rfl
  | @returned jobId outcome readings job x htask =>
      have hphase : w.outline.phase jobId = .running x false := congrArg JobTask.phase htask
      obtain rfl := hparty hphase
      obtain ⟨b, hb, hspares⟩ := outline_afterDriver scheduler job hphase readings outcome
      exact hone hb hspares trivial
  | @dispatched jobId a readings job x pass db pass' htask heffect =>
      have hphase : w.outline.phase jobId = .running x true := congrArg JobTask.phase htask
      obtain rfl := hparty hphase
      obtain ⟨bs, hbs, hspares⟩ := outline_afterDispatch scheduler (w := { w with db := db }) job
        hphase readings pass'
      refine ⟨bs, hbs, hspares.trans ?_⟩
      rw [raises_iff hc heffect, not_not, FindsRowUndelivered, htask]
      simp
  | @woke jobId job x htask =>
      have hphase : w.outline.phase jobId = .waiting x := congrArg JobTask.phase htask
      obtain rfl := (inv.own jobId x (by rw [hphase]; rfl)).1
      refine hone (b := .again x.party) ?_ trivial trivial
      simp [Retrying.process, hphase, Scheduler.beginAttempt, Retrying.State.moved, JobTask.phase,
        AttemptEvent.mark, Retrying.Attempt.next]
  | @alerted jobId a registry pass db pass' hregistry htask heffect =>
      have hphase : w.outline.phase jobId = .idle := congrArg JobTask.phase htask
      refine ⟨[], ?_, by simp [Process.AllSteps, FindsRowUndelivered]⟩
      exact congrArg some (outline_afterAlert (w := { w with db := db }) hphase pass').symm

lemma consistent_effect {scheduler : Scheduler} {w w' : Worker} {act : WorkerAction}
    (hc : Consistent w.db) (h : scheduler.Effect w act w') : Consistent w'.db := by
  cases h with
  | started => exact hc
  | woke => exact hc
  | returned => exact consistent_afterDriver scheduler _ hc _ _
  | @dispatched jobId a readings job x pass db pass' htask heffect =>
      refine consistent_afterDispatch scheduler (w := { w with db := db }) job ?_ readings pass'
      rcases heffect.store with rfl | ⟨n, time, error, hrecord⟩
      · exact hc
      · cases error with
        | none => exact hc.settledUpdate (.markNotificationDelivered n.id time) rfl hrecord
        | some e => exact hc.settledUpdate (.recordNotificationFailure n.id time e) rfl hrecord
  | @alerted jobId a registry pass db pass' hregistry htask heffect =>
      rw [db_afterAlert]
      rcases heffect.store with rfl | ⟨n, time, error, hrecord⟩
      · exact hc
      · cases error with
        | none => exact hc.settledUpdate (.markOperationalAlertDelivered n.id time) rfl hrecord
        | some e => exact hc.settledUpdate (.recordOperationalAlertFailure n.id time e) rfl hrecord

lemma consistent_step {scheduler : Scheduler} {w w' : Worker} {act : WorkerAction}
    (hc : Consistent w.db) (h : scheduler.process.step w act = some w') : Consistent w'.db :=
  consistent_effect hc (Scheduler.effect_of_step h)

/-! ## Commits that are kept -/

/-- No committed check is turned into a failed one. -/
structure Worker.CommitsKept (w : Worker) : Prop where
  /-- An attempt that has recorded its snapshot still dispatches, or has ended with
  `check_succeeded`. -/
  succeeded : ∀ x, (x, .snapshotRecorded) ∈ w.log →
    (∃ job pass, w.tasks x.party = .dispatching job x pass) ∨ (x, .checkSucceeded) ∈ w.log
  retry_not_scheduled : ∀ x delay error, (x, .snapshotRecorded) ∈ w.log →
    (x, .retryScheduled delay error) ∉ w.log
  not_failed : ∀ x error, (x, .snapshotRecorded) ∈ w.log → (x, .checkFailed error) ∉ w.log
  /-- The failure of its execution is not recorded. -/
  unreported : ∀ x y error, (x, .snapshotRecorded) ∈ w.log → (y, .failureReported error) ∈ w.log →
    y.party = x.party → y.execution ≠ x.execution

lemma mem_outline_log {w : Worker} {x : CheckAttempt} {m : Retrying.Mark} :
    (x, m) ∈ w.outline.log ↔ ∃ event, (x, event) ∈ w.log ∧ event.mark = m := by
  simp only [Worker.outline, List.mem_map, Prod.mk.injEq, Prod.exists]
  constructor
  · rintro ⟨_, event, h, rfl, rfl⟩
    exact ⟨event, h, rfl⟩
  · rintro ⟨event, h, rfl⟩
    exact ⟨x, event, h, rfl, rfl⟩

lemma mark_eq_committed {event : AttemptEvent} :
    event.mark = .committed ↔ event = .snapshotRecorded := by
  cases event <;> simp [AttemptEvent.mark]

lemma mark_eq_succeeded {event : AttemptEvent} :
    event.mark = .succeeded ↔ event = .checkSucceeded := by
  cases event <;> simp [AttemptEvent.mark]

lemma phase_eq_committed {task : JobTask} {x : CheckAttempt} :
    task.phase = .running x true ↔ ∃ job pass, task = .dispatching job x pass := by
  cases task <;> simp [JobTask.phase]

/-- The commits of the worker are those of its parties. -/
lemma commitsKept_iff_kept {w : Worker} (inv : Retrying.Inv w.outline) :
    w.CommitsKept ↔ Retrying.Kept w.outline := by
  have hcommitted : ∀ x, (x, .committed) ∈ w.outline.log ↔ (x, .snapshotRecorded) ∈ w.log := by
    intro x
    simp [mem_outline_log, mark_eq_committed]
  have hsucceeded : ∀ x, (x, .succeeded) ∈ w.outline.log ↔ (x, .checkSucceeded) ∈ w.log := by
    intro x
    simp [mem_outline_log, mark_eq_succeeded]
  have hrunning : ∀ x : CheckAttempt, w.outline.phase x.party = .running x true ↔
      ∃ job pass, w.tasks x.party = .dispatching job x pass := fun x => phase_eq_committed
  constructor
  · intro h x hx
    rw [hrunning, hsucceeded]
    exact h.succeeded x ((hcommitted x).mp hx)
  · intro h
    constructor
    · intro x hx
      rw [← hrunning, ← hsucceeded]
      exact h x ((hcommitted x).mpr hx)
    · intro x delay error hx hretry
      exact (h.unreported inv ((hcommitted x).mpr hx)).1 (mem_outline_log.mpr ⟨_, hretry, rfl⟩)
    · intro x error hx hfailed
      exact (h.unreported inv ((hcommitted x).mpr hx)).1 (mem_outline_log.mpr ⟨_, hfailed, rfl⟩)
    · intro x y error hx hy
      exact (h.unreported inv ((hcommitted x).mpr hx)).2 y (mem_outline_log.mpr ⟨_, hy, rfl⟩)

/-- **When a committed check stays one.**  For every scheduler, every consistent store and every
interleaving of the tasks, whatever drivers and notifiers do: no committed check is turned into a
failed one if and only if every time a check's dispatch records the outcome of an attempt, the row
is still undelivered. -/
theorem commitsKept_iff (scheduler : Scheduler) {db : Database} (hc : Consistent db)
    {acts : List WorkerAction} {w : Worker}
    (hrun : scheduler.process.run (Worker.start db) acts = some w) :
    w.CommitsKept ↔
      scheduler.process.AllSteps (FindsRowUndelivered scheduler) (Worker.start db) acts := by
  have hstart : (Worker.start db).outline = Retrying.State.start := rfl
  have inv : ∀ w act w', (Consistent w.db ∧ Retrying.Inv w.outline) →
      scheduler.process.step w act = some w' → Consistent w'.db ∧ Retrying.Inv w'.outline := by
    rintro w act w' ⟨hc, inv⟩ h
    obtain ⟨bs, hbs, _⟩ := step_refines hc inv h
    exact ⟨consistent_step hc h, Process.run_stable (fun _ _ _ inv h => inv.step h) inv hbs⟩
  obtain ⟨bs, hbs, hspares⟩ := Process.run_refines (f := Worker.outline) inv
    (fun w act w' hI h => step_refines hI.1 hI.2 h) ⟨hc, hstart ▸ Retrying.inv_start⟩ hrun
  rw [hstart] at hbs hspares
  rw [commitsKept_iff_kept (Retrying.inv_run hbs), Retrying.kept_iff hbs, hspares]

/-- A job without a second attempt. -/
def onceAMinute (id : String) (notifications : NotificationPlan) : JobDefinition :=
  { id, notifications, schedule := some (.everyMinute .once) }

/-- Two jobs, of which one notifies by mail. -/
def twoJobs : Scheduler :=
  .create [onceAMinute "swim" .email, onceAMinute "sauna" .none] .email (some .email) 3 ["email"]

def someReadings : Readings := ⟨.epoch, fun _ => .epoch, ⟨0, by norm_num⟩⟩

/-- The driver of a job returns a snapshot of one available opportunity. -/
def returns (jobId : String) : WorkerAction :=
  .driver jobId (.ok (.onFirst .available)) someReadings

/-- `swim` is checked, its row is sent, and no alert is pending. -/
def oneCheck : List WorkerAction :=
  [.start "swim", returns "swim", .dispatch "swim" .list someReadings,
    .dispatch "swim" (.send .epoch) someReadings, .dispatch "swim" (.complete none) someReadings,
    .alert "swim" .list]

/-- `sauna` records its snapshot while `swim` is sending its row, and dispatches after that. -/
def interleavedChecks : List WorkerAction :=
  [.start "swim", .start "sauna", returns "swim", .dispatch "swim" .list someReadings,
    .dispatch "swim" (.send .epoch) someReadings, returns "sauna",
    .dispatch "swim" (.complete none) someReadings, .alert "swim" .list,
    .dispatch "sauna" .list someReadings, .alert "sauna" .list]

/-- **Two checks in turn** keep their commits. -/
theorem commitsKept_iff_interleaved :
    ∃ w, twoJobs.process.run (Worker.start .empty) interleavedChecks = some w ∧
      (⟨"swim", 0, 1⟩, .snapshotRecorded) ∈ w.log ∧ (⟨"sauna", 0, 1⟩, .snapshotRecorded) ∈ w.log ∧
        w.CommitsKept := by
  have hlog : (twoJobs.process.run (Worker.start .empty) interleavedChecks).map (fun w =>
      decide ((⟨"swim", 0, 1⟩, .snapshotRecorded) ∈ w.log ∧
        (⟨"sauna", 0, 1⟩, .snapshotRecorded) ∈ w.log)) = some true := by decide +kernel
  obtain ⟨w, hw, hmem⟩ := Option.map_eq_some_iff.mp hlog
  rw [decide_eq_true_eq] at hmem
  have hsteps : twoJobs.process.AllSteps (FindsRowUndelivered twoJobs) (Worker.start .empty)
      interleavedChecks := by decide +kernel
  exact ⟨w, hw, hmem.1, hmem.2, (commitsKept_iff twoJobs consistent_empty hw).mpr hsteps⟩

/-- `sauna` records its snapshot and lists the row of `swim` while `swim` is sending it. -/
def racingChecks : List WorkerAction :=
  [.start "swim", .start "sauna",
    returns "swim", .dispatch "swim" .list someReadings,
    .dispatch "swim" (.send .epoch) someReadings,
    returns "sauna", .dispatch "sauna" .list someReadings,
    .dispatch "sauna" (.send .epoch) someReadings,
    .dispatch "swim" (.complete none) someReadings, .alert "swim" .list,
    .dispatch "sauna" (.complete none) someReadings]

/-- **A committed check fails.**  `sauna` has recorded its snapshot, and its failure is reported
because the row it has sent was delivered by `swim`. -/
theorem commit_lost :
    ∃ w, twoJobs.process.run (Worker.start .empty) racingChecks = some w ∧ ¬ w.CommitsKept := by
  have hlog : (twoJobs.process.run (Worker.start .empty) racingChecks).map (fun w =>
      decide ((⟨"sauna", 0, 1⟩, .snapshotRecorded) ∈ w.log ∧ (⟨"sauna", 0, 1⟩,
        .failureReported "StorageError: pending notification 1 was not found") ∈ w.log))
      = some true := by decide +kernel
  obtain ⟨w, hw, hmem⟩ := Option.map_eq_some_iff.mp hlog
  rw [decide_eq_true_eq] at hmem
  exact ⟨w, hw, fun h => h.unreported _ _ _ hmem.1 hmem.2 rfl rfl⟩

end WebChecker
