import WebChecker.Config
import WebChecker.Library.Retrying
import WebChecker.Notifications.Operational
import WebChecker.Notifications.Service

/-!
# The worker

The scheduler runs one task per job; a task makes the attempts of one execution, and each attempt
is a call of the check service: run the driver, record the snapshot, dispatch what is pending.  The
tasks share one store, and whenever one of them is suspended, in a driver, in a send or in a retry
delay, the others go on.

* `Scheduler` — the configuration, and `Worker` the state of all tasks with the store and the log.
* `Scheduler.process` — the interleavings of the tasks.  A step takes one task up to a point where
  others may run; between two steps of a pass the code is suspended only in a send, so a run of the
  code is one of these runs.

The passes over the outbox are those of `notificationOutbox` and `alertOutbox`.  When a job is due
is left open: a task may be started whenever the job has none.
-/

namespace WebChecker

open Relational Results Runs Dispatch

/-! ## The configuration and the state -/

/-- The default of `limit` in both services. -/
def dispatchLimit : ℕ := 100

/-- The scheduler's jobs and the services behind it. -/
structure Scheduler where
  jobs : List ScheduledJob
  /-- The registry of the notification service. -/
  notifiers : NotifierRegistry
  /-- The registry of the operational alert service, if there is one. -/
  operationalAlerts : Option NotifierRegistry
  failureAlertAfter : ℤ := 3
  operationalChannels : List String := ["console"]

/-- The constructor: only enabled jobs with a schedule are kept. -/
def Scheduler.create (jobs : List JobDefinition) (notifiers : NotifierRegistry)
    (operationalAlerts : Option NotifierRegistry) (failureAlertAfter : ℤ)
    (operationalChannels : List String) : Scheduler :=
  ⟨jobs.filterMap JobDefinition.scheduled, notifiers, operationalAlerts, failureAlertAfter,
    operationalChannels⟩

/-- An exception as the scheduler reports it. -/
structure RaisedException where
  typeName : String
  text : String
deriving DecidableEq, Repr

/-- `f"{type(error).__name__}: {error}"`. -/
def RaisedException.formatted (error : RaisedException) : String :=
  s!"{error.typeName}: {error.text}"

/-- A storage error that leaves the store. -/
def StorageError.raised (error : StorageError) : RaisedException := ⟨"StorageError", error.message⟩

/-- An attempt of a job's execution.  Its party is the id of the job. -/
abbrev CheckAttempt : Type := Retrying.Attempt String

/-- What the log says about an attempt: the scheduler's events, the commit of the snapshot, and the
call of `check_failed` of the operational alert service. -/
inductive AttemptEvent where
  | checkStarted
  | snapshotRecorded
  | checkSucceeded
  | retryScheduled (delaySeconds : ℚ) (error : String)
  | checkFailed (error : String)
  | failureReported (error : String)
deriving DecidableEq

/-- Where the task of a job stands. -/
inductive JobTask where
  /-- There is no task, or it is done. -/
  | done
  /-- Suspended in the driver. -/
  | checking (job : ScheduledJob) (x : CheckAttempt)
  /-- The snapshot is recorded; in `dispatch_pending` of the notification service. -/
  | dispatching (job : ScheduledJob) (x : CheckAttempt)
      (pass : Pass PendingNotification Datetime StorageError)
  /-- Suspended in a retry delay, after a failed attempt. -/
  | sleeping (job : ScheduledJob) (x : CheckAttempt)
  /-- After the execution, in `dispatch_pending` of the operational alert service. -/
  | alerting (pass : Pass OperationalAlert Datetime StorageError)

/-- The store, the tasks by job id, the number of executions begun, and the log. -/
structure Worker where
  db : Database
  tasks : String → JobTask
  executions : String → ℕ
  log : List (CheckAttempt × AttemptEvent)

namespace Worker

/-- No task has been started. -/
def start (db : Database) : Worker := ⟨db, fun _ => .done, fun _ => 0, []⟩

def setTask (w : Worker) (jobId : String) (task : JobTask) : Worker :=
  { w with tasks := Function.update w.tasks jobId task }

def emit (w : Worker) (x : CheckAttempt) (event : AttemptEvent) : Worker :=
  { w with log := w.log ++ [(x, event)] }

end Worker

/-! ## What a task does between two suspensions -/

/-- What a step reads from its surroundings: the clock of `record_check_failure`, the clock of
`raise_delivery_backlog_alerts` for every job, and the random unit of a retry delay. -/
structure Readings where
  failedAt : Datetime
  createdAt : String → Datetime
  randomUnit : { u : ℚ // 0 ≤ u ∧ u < 1 }

namespace Scheduler

variable (scheduler : Scheduler)

/-- The head of the loop body. -/
def beginAttempt (w : Worker) (job : ScheduledJob) (x : CheckAttempt) : Worker :=
  (w.emit x .checkStarted).setTask x.party (.checking job x)

/-- `except Exception as error`. -/
def afterFailure (w : Worker) (job : ScheduledJob) (x : CheckAttempt) (readings : Readings)
    (error : RaisedException) : Worker :=
  if x.number = job.retry.maxAttempts then
    let w := w.emit x (.checkFailed error.formatted)
    match scheduler.operationalAlerts with
    | none => w.setTask x.party .done
    | some _ =>
      let w := w.emit x (.failureReported error.formatted)
      match recordCheckFailure w.db x.party error.formatted none readings.failedAt
          scheduler.failureAlertAfter scheduler.operationalChannels with
      | .error _ => w.setTask x.party .done
      | .ok (_, db) => { w with db }.setTask x.party (.alerting .idle)
  else
    let delay := job.retry.delayAfterFailure x.number readings.randomUnit
    (w.emit x (.retryScheduled delay error.formatted)).setTask x.party (.sleeping job x)

/-- After a check that has returned. -/
def afterSuccess (w : Worker) (x : CheckAttempt) (readings : Readings) : Worker :=
  let w := w.emit x .checkSucceeded
  match scheduler.operationalAlerts with
  | none => w.setTask x.party .done
  | some _ =>
    match raiseDeliveryBacklogAlerts w.db scheduler.failureAlertAfter
        scheduler.operationalChannels readings.createdAt with
    | .error _ => w.setTask x.party .done
    | .ok (_, db) => { w with db }.setTask x.party (.alerting .idle)

/-- `check`, once the driver has returned or raised, up to the dispatch. -/
def afterDriver (w : Worker) (job : ScheduledJob) (x : CheckAttempt) (readings : Readings) :
    Except RaisedException CheckResult → Worker
  | .error error => scheduler.afterFailure w job x readings error
  | .ok result =>
    match recordSuccess w.db job.id result job.notifications with
    | .error error => scheduler.afterFailure w job x readings error.raised
    | .ok (_, db) =>
      ({ w with db }.emit x .snapshotRecorded).setTask x.party (.dispatching job x .idle)

/-- `check`, after a step of its dispatch: an exception of the dispatch is one of the check. -/
def afterDispatch (w : Worker) (job : ScheduledJob) (x : CheckAttempt) (readings : Readings) :
    Pass PendingNotification Datetime StorageError → Worker
  | .running [] => scheduler.afterSuccess w x readings
  | .raised error => scheduler.afterFailure w job x readings error.raised
  | pass => w.setTask x.party (.dispatching job x pass)

/-- After a step of the dispatch of alerts; an exception ends the task. -/
def afterAlert (w : Worker) (jobId : String) :
    Pass OperationalAlert Datetime StorageError → Worker
  | .running [] => w.setTask jobId .done
  | .raised _ => w.setTask jobId .done
  | pass => w.setTask jobId (.alerting pass)

end Scheduler

/-! ## What an attempt ends with -/

namespace Scheduler

section Ending

variable (scheduler : Scheduler) (w : Worker) (job : ScheduledJob) (x : CheckAttempt)
  (readings : Readings)

/-- Everything a failed attempt can lead to. -/
inductive FailureEffect (error : RaisedException) : Worker → Prop
  | retried (hmore : x.number ≠ job.retry.maxAttempts) :
      FailureEffect error
        ((w.emit x (.retryScheduled (job.retry.delayAfterFailure x.number readings.randomUnit)
          error.formatted)).setTask x.party (.sleeping job x))
  | gaveUp (hlast : x.number = job.retry.maxAttempts) :
      FailureEffect error ((w.emit x (.checkFailed error.formatted)).setTask x.party .done)
  /-- The failure is reported, and recording it raises. -/
  | unrecorded (hlast : x.number = job.retry.maxAttempts) :
      FailureEffect error (((w.emit x (.checkFailed error.formatted)).emit x
        (.failureReported error.formatted)).setTask x.party .done)
  | reported {raised db} (hlast : x.number = job.retry.maxAttempts)
      (hrecord : recordCheckFailure w.db x.party error.formatted none readings.failedAt
        scheduler.failureAlertAfter scheduler.operationalChannels = .ok (raised, db)) :
      FailureEffect error
        ({ (w.emit x (.checkFailed error.formatted)).emit x (.failureReported error.formatted) with
          db := db }.setTask x.party (.alerting .idle))

/-- **Every failure has one of these effects.** -/
lemma afterFailure_effect (error : RaisedException) :
    scheduler.FailureEffect w job x readings error
      (scheduler.afterFailure w job x readings error) := by
  rw [afterFailure]
  by_cases hlast : x.number = job.retry.maxAttempts
  · rw [if_pos hlast]
    dsimp only
    split
    · exact .gaveUp hlast
    · split
      · exact .unrecorded hlast
      · next raised db hrecord => exact .reported hlast hrecord
  · rw [if_neg hlast]
    exact .retried hlast

/-- Everything a successful attempt can lead to. -/
inductive SuccessEffect : Worker → Prop
  | ended : SuccessEffect ((w.emit x .checkSucceeded).setTask x.party .done)
  | evaluated {raised db}
      (hraise : raiseDeliveryBacklogAlerts w.db scheduler.failureAlertAfter
        scheduler.operationalChannels readings.createdAt = .ok (raised, db)) :
      SuccessEffect ({ w.emit x .checkSucceeded with db := db }.setTask x.party (.alerting .idle))

/-- **Every success has one of these effects.** -/
lemma afterSuccess_effect :
    scheduler.SuccessEffect w x readings (scheduler.afterSuccess w x readings) := by
  rw [afterSuccess]
  split
  · exact .ended
  · split
    · exact .ended
    · next raised db hraise => exact .evaluated hraise

end Ending

end Scheduler

/-! ## The interleavings -/

/-- A step of the task of a job. -/
inductive WorkerAction where
  /-- `tick` starts the job. -/
  | start (jobId : String)
  /-- The driver returns or raises. -/
  | driver (jobId : String) (outcome : Except RaisedException CheckResult) (readings : Readings)
  | dispatch (jobId : String) (a : PassStep Datetime String) (readings : Readings)
  /-- The retry delay is over. -/
  | wake (jobId : String)
  | alert (jobId : String) (a : PassStep Datetime String)

namespace Scheduler

variable (scheduler : Scheduler)

/-- **The worker**: the tasks of all jobs, in any interleaving, with any outcome of drivers and
notifiers. -/
def process : Process Worker WorkerAction where
  step w
    | .start jobId =>
      -- a job that is listed twice shares its due time, so only the first of them is ever started
      match scheduler.jobs.find? (·.id == jobId), w.tasks jobId with
      | some job, .done =>
        let w' :=
          { w with executions := Function.update w.executions jobId (w.executions jobId + 1) }
        some (beginAttempt w' job ⟨jobId, w.executions jobId, 1⟩)
      | _, _ => none
    | .driver jobId outcome readings =>
      match w.tasks jobId with
      | .checking job x => some (scheduler.afterDriver w job x readings outcome)
      | _ => none
    | .dispatch jobId a readings =>
      match w.tasks jobId with
      | .dispatching job x pass =>
        ((notificationOutbox scheduler.notifiers dispatchLimit).step w.db pass a).map fun r =>
          scheduler.afterDispatch { w with db := r.1 } job x readings r.2
      | _ => none
    | .wake jobId =>
      match w.tasks jobId with
      | .sleeping job x => some (beginAttempt w job x.next)
      | _ => none
    | .alert jobId a =>
      match scheduler.operationalAlerts, w.tasks jobId with
      | some registry, .alerting pass =>
        ((alertOutbox registry dispatchLimit).step w.db pass a).map fun r =>
          afterAlert { w with db := r.1 } jobId r.2
      | _, _ => none

/-- Everything a step can do. -/
inductive Effect (w : Worker) : WorkerAction → Worker → Prop
  | started {jobId job} (hjob : scheduler.jobs.find? (·.id == jobId) = some job)
      (htask : w.tasks jobId = .done) :
      Effect w (.start jobId)
        (beginAttempt
          { w with executions := Function.update w.executions jobId (w.executions jobId + 1) }
          job ⟨jobId, w.executions jobId, 1⟩)
  | returned {jobId outcome readings job x} (htask : w.tasks jobId = .checking job x) :
      Effect w (.driver jobId outcome readings) (scheduler.afterDriver w job x readings outcome)
  | dispatched {jobId a readings job x pass db pass'}
      (htask : w.tasks jobId = .dispatching job x pass)
      (heffect : (notificationOutbox scheduler.notifiers dispatchLimit).Effect w.db pass a db
        pass') :
      Effect w (.dispatch jobId a readings)
        (scheduler.afterDispatch { w with db := db } job x readings pass')
  | woke {jobId job x} (htask : w.tasks jobId = .sleeping job x) :
      Effect w (.wake jobId) (beginAttempt w job x.next)
  | alerted {jobId a registry pass db pass'}
      (hregistry : scheduler.operationalAlerts = some registry)
      (htask : w.tasks jobId = .alerting pass)
      (heffect : (alertOutbox registry dispatchLimit).Effect w.db pass a db pass') :
      Effect w (.alert jobId a) (afterAlert { w with db := db } jobId pass')

variable {scheduler}

/-- **Every step has one of these effects.** -/
lemma effect_of_step {w w' : Worker} {act : WorkerAction}
    (h : scheduler.process.step w act = some w') : scheduler.Effect w act w' := by
  cases act with
  | start jobId =>
      simp only [process] at h
      split at h
      next job hjob htask => exact Option.some.inj h ▸ .started hjob htask
      next => simp at h
  | driver jobId outcome readings =>
      simp only [process] at h
      split at h
      next job x htask => exact Option.some.inj h ▸ .returned htask
      next => simp at h
  | dispatch jobId a readings =>
      simp only [process] at h
      split at h
      next job x pass htask =>
        obtain ⟨⟨db, pass'⟩, hstep, rfl⟩ := Option.map_eq_some_iff.mp h
        exact .dispatched htask (Outbox.effect_of_step hstep)
      next => simp at h
  | wake jobId =>
      simp only [process] at h
      split at h
      next job x htask => exact Option.some.inj h ▸ .woke htask
      next => simp at h
  | alert jobId a =>
      simp only [process] at h
      split at h
      next registry pass hregistry htask =>
        obtain ⟨⟨db, pass'⟩, hstep, rfl⟩ := Option.map_eq_some_iff.mp h
        exact .alerted hregistry htask (Outbox.effect_of_step hstep)
      next => simp at h

end Scheduler

end WebChecker
