import WebChecker.Cli
import WebChecker.Core.Executions
import WebChecker.Core.Transactions
import WebChecker.Storage.Status

/-!
# The worker over its store

Whatever happens to a worker process, its database is one that a run of store operations leads to,
all of them with the worker's own threshold and channels; and the log of the attempts says of every
job what the history of that run says (`Worker.Stored`).  So whatever holds of every run of the
store holds in every life of the worker.

`failureReports_lifecycle` is the first use: the counters and alerts in the database against the
log.
-/

namespace WebChecker

open Relational Results Runs Dispatch

/-- What the scheduler passes to the store. -/
def Scheduler.settings (scheduler : Scheduler) : WorkerSettings :=
  ⟨scheduler.operationalChannels, scheduler.failureAlertAfter⟩

/-- What an event means for the status of its job: a snapshot, or a failure with its error. -/
def AttemptEvent.report : AttemptEvent → Option (Option String)
  | snapshotRecorded => some none
  | failureReported error => some (some error)
  | _ => none

/-- What a log reports about a job. -/
def reports (jobId : String) (log : List (CheckAttempt × AttemptEvent)) : List (Option String) :=
  log.filterMap fun e => if e.1.party = jobId then e.2.report else none

/-- The database is that of a run of store operations that use the settings, and the history of the
run says of every job what the log reports. -/
def Worker.Stored (settings : WorkerSettings) (w : Worker) : Prop :=
  ∃ ops : List StoreOp, (∀ op ∈ ops, settings.Uses op) ∧ Store.exec Database.empty ops = w.db ∧
    ∀ jobId, (jobMarks jobId (Store.history Database.empty ops)).map JobMark.error
      = reports jobId w.log

/-! ## One step -/

section Steps

lemma reports_append (jobId : String) (log events : List (CheckAttempt × AttemptEvent)) :
    reports jobId (log ++ events) = reports jobId log ++ reports jobId events :=
  List.filterMap_append

/-- An event that reports nothing. -/
lemma reports_emit {event : AttemptEvent} (h : event.report = none) (w : Worker) (x : CheckAttempt)
    (jobId : String) : reports jobId (w.emit x event).log = reports jobId w.log := by
  rw [Worker.emit, reports_append]
  simp [reports, h]

variable {settings : WorkerSettings} {w : Worker}

lemma Worker.Stored.quiet (h : w.Stored settings) {w' : Worker} (hdb : w'.db = w.db)
    (hreports : ∀ jobId, reports jobId w'.log = reports jobId w.log) : w'.Stored settings := by
  obtain ⟨ops, huses, hexec, hmarks⟩ := h
  exact ⟨ops, huses, hexec.trans hdb.symm, fun j => (hmarks j).trans (hreports j).symm⟩

/-- **One operation of the store**, and what it adds to the log. -/
lemma Worker.Stored.apply (h : w.Stored settings) {w' : Worker} {op : StoreOp}
    {result : StoreResult} (happly : applyOp w.db op = (result, w'.db)) (hop : settings.Uses op)
    (hreports : ∀ jobId, reports jobId w'.log = reports jobId w.log ++
      (jobMark jobId ⟨w.db, op, result, w'.db⟩).toList.map JobMark.error) :
    w'.Stored settings := by
  obtain ⟨ops, huses, hexec, hmarks⟩ := h
  have happly : Store.apply w.db op = (result, w'.db) := happly
  have hevent : Store.event (Store.exec Database.empty ops) op = ⟨w.db, op, result, w'.db⟩ := by
    rw [hexec, Machine.event, happly]
  refine ⟨ops ++ [op], ?_, ?_, fun jobId => ?_⟩
  · intro o ho
    rcases List.mem_append.mp ho with ho | ho
    · exact huses o ho
    · exact List.mem_singleton.mp ho ▸ hop
  · rw [Machine.exec_snoc, hexec, happly]
  · rw [Machine.history_snoc, hevent, jobMarks_snoc, List.map_append, hmarks, hreports]

/-- An operation that means nothing for any job. -/
lemma Worker.Stored.unmarked (h : w.Stored settings) {w' : Worker} {op : StoreOp}
    {result : StoreResult} (happly : applyOp w.db op = (result, w'.db)) (hop : settings.Uses op)
    (hmark : ∀ jobId, jobMark jobId ⟨w.db, op, result, w'.db⟩ = none)
    (hreports : ∀ jobId, reports jobId w'.log = reports jobId w.log) : w'.Stored settings :=
  h.apply happly hop fun jobId => by simp [hmark jobId, hreports jobId]

/-- The outcome of a notification's send. -/
lemma Worker.Stored.recordAttempt (h : w.Stored settings) {w' : Worker} {n : PendingNotification}
    {time : Datetime} {error : Option String}
    (hrecord : WebChecker.recordAttempt w.db n time error = .ok w'.db) (hlog : w'.log = w.log) :
    w'.Stored settings := by
  refine h.unmarked (applyOp_attempt hrecord) ?_ (fun _ => ?_) fun _ => by rw [hlog]
  all_goals cases error <;> trivial

/-- The outcome of an alert's send. -/
lemma Worker.Stored.recordAlertAttempt (h : w.Stored settings) {w' : Worker} {n : OperationalAlert}
    {time : Datetime} {error : Option String}
    (hrecord : WebChecker.recordAlertAttempt w.db n time error = .ok w'.db)
    (hlog : w'.log = w.log) : w'.Stored settings := by
  refine h.unmarked (applyOp_alertAttempt hrecord) ?_ (fun _ => ?_) fun _ => by rw [hlog]
  all_goals cases error <;> trivial

variable {scheduler : Scheduler} (hrecords : RecordsEveryFailure scheduler.settings)
  (job : ScheduledJob) (x : CheckAttempt) (readings : Readings)

include hrecords in
/-- **A failed attempt** that is reported is recorded. -/
lemma Worker.Stored.afterFailure (h : w.Stored scheduler.settings) (error : RaisedException) :
    (scheduler.afterFailure w job x readings error).Stored scheduler.settings := by
  rw [Scheduler.afterFailure]
  by_cases hlast : x.number = job.retry.maxAttempts
  · rw [if_pos hlast]
    dsimp only
    cases scheduler.operationalAlerts with
    | none => exact h.quiet rfl (reports_emit rfl w x)
    | some registry =>
        obtain ⟨ops, huses, hexec, _⟩ := id h
        obtain ⟨raised, db', happly, _⟩ :=
          hrecords ops huses x.party error.formatted none readings.failedAt
        rw [hexec] at happly
        have hok : recordCheckFailure (w.emit x (.checkFailed error.formatted)).db x.party
            error.formatted none readings.failedAt scheduler.failureAlertAfter
            scheduler.operationalChannels = .ok (raised, db') :=
          recordCheckFailure_of_applyOp happly
        dsimp only [Worker.emit] at hok ⊢
        rw [hok]
        refine h.apply happly ⟨rfl, rfl⟩ fun jobId => ?_
        simp only [Worker.setTask, List.append_assoc, reports_append, List.append_cancel_left_eq]
        by_cases hparty : x.party = jobId <;>
          simp [reports, AttemptEvent.report, WorkerSettings.recordFailure, jobMark, JobMark.error,
            hparty]
  · rw [if_neg hlast]
    exact h.quiet rfl (reports_emit rfl w x)

/-- **A successful attempt.** -/
lemma Worker.Stored.afterSuccess (h : w.Stored scheduler.settings) :
    (scheduler.afterSuccess w x readings).Stored scheduler.settings := by
  have heffect := scheduler.afterSuccess_effect w x readings
  generalize scheduler.afterSuccess w x readings = w' at heffect ⊢
  cases heffect with
  | ended => exact h.quiet rfl (reports_emit rfl w x)
  | @evaluated raised db hraise =>
      have happly : applyOp w.db (.raiseDeliveryBacklogAlerts scheduler.failureAlertAfter
          scheduler.operationalChannels readings.createdAt) = (.raisedFor raised, db) := by
        rw [applyOp, hraise, settle]
      exact h.unmarked happly ⟨rfl, rfl⟩ (fun _ => rfl) (reports_emit rfl w x)

include hrecords in
lemma Worker.Stored.afterDriver (h : w.Stored scheduler.settings) (hparty : x.party = job.id)
    (outcome : Except RaisedException CheckResult) :
    (scheduler.afterDriver w job x readings outcome).Stored scheduler.settings := by
  cases outcome with
  | error e => exact h.afterFailure hrecords job x readings e
  | ok result =>
      rw [Scheduler.afterDriver]
      split
      · exact h.afterFailure hrecords job x readings _
      · next outcome db hrecord =>
        have happly : applyOp w.db (.recordSuccess job.id result job.notifications)
            = (.recorded outcome, db) := by
          rw [applyOp, hrecord, settle]
        refine h.apply happly trivial fun jobId => ?_
        simp only [Worker.setTask, Worker.emit, reports_append, List.append_cancel_left_eq]
        rw [← hparty]
        by_cases hid : x.party = jobId <;>
          simp [reports, AttemptEvent.report, jobMark, JobMark.error, hid]

include hrecords in
lemma Worker.Stored.afterDispatch (h : w.Stored scheduler.settings)
    (pass : Pass PendingNotification Datetime StorageError) :
    (scheduler.afterDispatch w job x readings pass).Stored scheduler.settings := by
  cases pass with
  | idle => exact h.quiet rfl fun _ => rfl
  | sending => exact h.quiet rfl fun _ => rfl
  | raised e => exact h.afterFailure hrecords job x readings e.raised
  | running todo =>
      cases todo with
      | nil => exact h.afterSuccess x readings
      | cons => exact h.quiet rfl fun _ => rfl

include hrecords in
/-- **Every step of the worker.** -/
lemma Worker.Stored.step (h : w.Stored scheduler.settings) (hown : scheduler.Owned w) {w' : Worker}
    {act : WorkerAction} (heffect : scheduler.Effect w act w') :
    w'.Stored scheduler.settings := by
  cases heffect with
  | started => exact h.quiet rfl (reports_emit rfl _ _)
  | woke => exact h.quiet rfl (reports_emit rfl _ _)
  | @returned jobId outcome readings job x htask =>
      obtain ⟨hjob, hparty, _⟩ := hown jobId job x (.started x.number) (by rw [htask]; rfl)
      have hid : job.id = jobId := by simpa using List.find?_some hjob
      exact h.afterDriver hrecords job x readings (hparty.trans hid.symm) outcome
  | @dispatched jobId a readings job x pass db pass' htask heffect =>
      have hdb : Stored scheduler.settings { w with db := db } := by
        rcases heffect.store with rfl | ⟨n, time, error, hrecord⟩
        · exact h
        · exact h.recordAttempt hrecord rfl
      exact hdb.afterDispatch hrecords job x readings pass'
  | @alerted jobId a registry pass db pass' hregistry htask heffect =>
      obtain ⟨task, htasks, hposition, hexecutions, hlog⟩ :=
        afterAlert_fields { w with db := db } jobId pass'
      have hdb := db_afterAlert { w with db := db } jobId pass'
      rcases heffect.store with rfl | ⟨n, time, error, hrecord⟩
      · exact h.quiet hdb fun _ => by rw [hlog]
      · exact h.recordAlertAttempt (hrecord.trans (congrArg _ hdb.symm)) hlog

end Steps

/-! ## Every life -/

/-- **The database of a worker is that of a run of the store**, and its log tells the story of that
run. -/
theorem Lifecycle.stored_run {scheduler : Scheduler}
    (hrecords : RecordsEveryFailure scheduler.settings) {acts : List LifecycleAction}
    {s : Lifecycle} (hrun : scheduler.lifecycle.run (.start .empty) acts = some s) :
    s.worker.Stored scheduler.settings := by
  have hstart : (Lifecycle.start .empty).worker.Stored scheduler.settings :=
    ⟨[], by simp, rfl, fun _ => rfl⟩
  refine (Process.run_stable (I := fun s => Lifecycle.Inv scheduler s ∧
    s.worker.Stored scheduler.settings) ?_ ⟨Lifecycle.inv_start scheduler .empty, hstart⟩ hrun).2
  rintro s act s' ⟨inv, h⟩ hstep
  refine ⟨inv.step hstep, ?_⟩
  cases Scheduler.lifecycleEffect_of_step hstep with
  | stepped hstage heffect => exact h.step hrecords inv.owned heffect
  | stopping => exact h
  | drained => exact h
  | timedOut => exact h.quiet rfl fun _ => rfl
  | died => exact h.quiet rfl fun _ => rfl
  | booted => exact h
  | @pruned observationsBefore notificationsBefore =>
      have happly : applyOp s.worker.db (.prune observationsBefore notificationsBefore)
          = (.pruned (WebChecker.prune s.worker.db observationsBefore notificationsBefore).1,
            (WebChecker.prune s.worker.db observationsBefore notificationsBefore).2) := rfl
      exact h.unmarked happly trivial (fun _ => rfl) fun _ => rfl
  | diedAfter hstage htask heffect =>
      rcases heffect.store with rfl | ⟨n, time, error, hrecord⟩
      · exact h.quiet rfl fun _ => rfl
      · exact h.recordAttempt hrecord rfl


/-! ## Failures in the log and in the database -/

/-- The failures of a job that were reported since its last snapshot. -/
def failuresReported (jobId : String) (log : List (CheckAttempt × AttemptEvent)) : List String :=
  (afterLast Option.isNone (reports jobId log)).reduceOption

/-- The marks since the last commit are the failures reported since. -/
lemma sinceCommit_reported {marks : List JobMark} {jobId : String}
    {log : List (CheckAttempt × AttemptEvent)} (h : marks.map JobMark.error = reports jobId log) :
    (sinceCommit marks).map JobMark.error = (failuresReported jobId log).map some := by
  have hmark : Option.isNone ∘ JobMark.error = JobMark.isCommitted := by
    funext mark
    cases mark <;> rfl
  have hall : ∀ report ∈ afterLast Option.isNone (reports jobId log), report.isSome = true := by
    intro report hreport
    simpa using eq_false_of_mem_afterLast hreport
  rw [sinceCommit, ← hmark, ← afterLast_map, h, failuresReported]
  generalize afterLast Option.isNone (reports jobId log) = since at hall
  induction since with
  | nil => rfl
  | cons report rest ih =>
      obtain ⟨error, rfl⟩ := Option.isSome_iff_exists.mp (hall report List.mem_cons_self)
      rw [List.reduceOption_cons_of_some, List.map_cons,
        ← ih fun r hr => hall r (List.mem_cons_of_mem _ hr)]

/-- Counter and last error of a job, by its status row. -/
lemma failureSide_statusRow (status : KeyTable String JobStatusRow) (jobId : String) :
    consecutiveFailures status jobId = (statusRow status jobId).consecutiveFailures ∧
      lastError status jobId = (statusRow status jobId).lastError := by
  rw [consecutiveFailures, lastError, statusRow]
  cases status.lookup jobId <;> exact ⟨rfl, rfl⟩

/-- Accepted channels without a repetition are admitted by the store. -/
lemma admitted_of_uses {settings : WorkerSettings} (hne : settings.operationalChannels ≠ [])
    (hnodup : settings.operationalChannels.Nodup) {ops : List StoreOp}
    (huses : ∀ op ∈ ops, settings.Uses op) : ∀ op ∈ ops, op.FailureAdmitted := by
  intro op hop
  have hop := huses op hop
  cases op with
  | recordCheckFailure => exact hop.2 ▸ ⟨hne, hnodup⟩
  | _ => trivial

/-- The flag of a job says whether it has reached the threshold. -/
lemma flagAtThreshold_run {settings : WorkerSettings} (hpositive : 1 ≤ settings.failureAlertAfter)
    {ops : List StoreOp} (huses : ∀ op ∈ ops, settings.Uses op) :
    FlagAtThreshold settings.failureAlertAfter (Store.exec Database.empty ops) := by
  refine effect_induction (P := fun _ db => FlagAtThreshold settings.failureAlertAfter db)
    consistent_empty (fun j => ?_) (fun h hop _ heffect => h.step hpositive hop heffect) huses
  simp only [failureAlertActive, consecutiveFailures, Database.empty]
  simp
  omega

/-- Alerts are raised on the channels of the settings. -/
lemma raisedSinceSuccess_uses {settings : WorkerSettings} {ops : List StoreOp}
    (huses : ∀ op ∈ ops, settings.Uses op) {jobId : String} {channels : List String}
    (h : channels ∈ raisedSinceSuccess jobId (Store.history Database.empty ops)) :
    channels = settings.operationalChannels := by
  obtain ⟨e, he, hraised⟩ := List.mem_filterMap.mp h
  have hmem : e ∈ Store.history Database.empty ops :=
    List.mem_reverse.mp ((List.takeWhile_sublist _).subset (List.mem_reverse.mp he))
  have hop := huses e.op (Store.op_mem_of_mem_history hmem)
  rw [raisedChannels] at hraised
  split at hraised
  · next heq hresult =>
    rw [heq] at hop
    simp only [Option.ite_none_right_eq_some, Option.some.injEq] at hraised
    exact hraised.2 ▸ hop.2
  · cases hraised

/-- An execution that fails, with its dispatch of alerts. -/
def failingExecution (jobId : String) : List LifecycleAction :=
  [.task (.start jobId), .task (.driver jobId (.error ⟨"TimeoutError", "timed out"⟩) someReadings),
    .task (.alert jobId .list)]

/-- `swim` fails three times, in two processes. -/
def failsThrice : List LifecycleAction :=
  .boot :: failingExecution "swim" ++ [.die fun _ => false, .boot] ++ failingExecution "swim" ++
    failingExecution "swim"

end WebChecker
