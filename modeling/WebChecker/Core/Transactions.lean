import WebChecker.Core.Lifecycle
import WebChecker.Storage.History

/-!
# The transactions of a step

A step of a worker commits a snapshot (`Worker.commit`) or runs some other operations of the store,
the outcome of a send and what follows it (`Scheduler.Transacted`).  `transacted_of_effect` says
this once for all steps.

`Scheduler.commits` are the snapshots that the driver's results became in the course of a life, and
`Lifecycle.Recorded` relates them to the history of the store.
-/

namespace WebChecker

open Relational Results Runs Dispatch

/-! ## Operations other than commits -/

/-- The operation that records the outcome of a notification's send. -/
def attemptOp (id : ℕ) (time : Datetime) : Option String → StoreOp
  | none => .markNotificationDelivered id time
  | some error => .recordNotificationFailure id time error

/-- The operation that records the outcome of an alert's send. -/
def alertAttemptOp (id : ℕ) (time : Datetime) : Option String → StoreOp
  | none => .markOperationalAlertDelivered id time
  | some error => .recordOperationalAlertFailure id time error

lemma applyOp_attempt {db db' : Database} {n : PendingNotification} {time : Datetime}
    {error : Option String} (h : recordAttempt db n time error = .ok db') :
    applyOp db (attemptOp n.id time error) = (.updated, db') := by
  cases error <;> rw [attemptOp, applyOp, ← recordAttempt, h, settleUpdate]

lemma applyOp_alertAttempt {db db' : Database} {alert : OperationalAlert} {time : Datetime}
    {error : Option String} (h : recordAlertAttempt db alert time error = .ok db') :
    applyOp db (alertAttemptOp alert.id time error) = (.updated, db') := by
  cases error <;> rw [alertAttemptOp, applyOp, ← recordAlertAttempt, h, settleUpdate]

namespace Scheduler

/-- An operation that reports to the operational alert service, with the worker's own settings. -/
def Reports (scheduler : Scheduler) : StoreOp → Prop
  | .recordCheckFailure _ _ _ _ alertAfter channels =>
    alertAfter = scheduler.failureAlertAfter ∧ channels = scheduler.operationalChannels
  | .raiseDeliveryBacklogAlerts alertAfter channels _ =>
    alertAfter = scheduler.failureAlertAfter ∧ channels = scheduler.operationalChannels
  | _ => False

/-- An operation on the outcome of a send. -/
def Attempts : StoreOp → Prop
  | .markNotificationDelivered _ _ => True
  | .recordNotificationFailure _ _ _ => True
  | .markOperationalAlertDelivered _ _ => True
  | .recordOperationalAlertFailure _ _ _ => True
  | _ => False

/-- The second database is the first after reports. -/
def Reported (scheduler : Scheduler) (db db' : Database) : Prop :=
  ∃ ops, (∀ op ∈ ops, scheduler.Reports op) ∧ Store.exec db ops = db'

/-- The second database is the first after operations on sends and reports. -/
def Transacted (scheduler : Scheduler) (db db' : Database) : Prop :=
  ∃ ops, (∀ op ∈ ops, Attempts op ∨ scheduler.Reports op) ∧ Store.exec db ops = db'

section Transacted

variable {scheduler : Scheduler} {db db' db'' : Database}

lemma Reported.refl (db : Database) : scheduler.Reported db db := ⟨[], by simp, rfl⟩

lemma Transacted.refl (db : Database) : scheduler.Transacted db db := ⟨[], by simp, rfl⟩

lemma Reported.transacted (h : scheduler.Reported db db') : scheduler.Transacted db db' := by
  obtain ⟨ops, hops, hexec⟩ := h
  exact ⟨ops, fun op hop => Or.inr (hops op hop), hexec⟩

lemma Transacted.trans (h : scheduler.Transacted db db') (h' : scheduler.Transacted db' db'') :
    scheduler.Transacted db db'' := by
  obtain ⟨ops, hops, rfl⟩ := h
  obtain ⟨ops', hops', rfl⟩ := h'
  exact ⟨ops ++ ops', fun op hop => (List.mem_append.mp hop).elim (hops op) (hops' op),
    Store.exec_append db ops ops'⟩

lemma Reported.of_apply {op : StoreOp} {result : StoreResult}
    (happly : applyOp db op = (result, db')) (hop : scheduler.Reports op) :
    scheduler.Reported db db' := by
  have happly : Store.apply db op = (result, db') := happly
  exact ⟨[op], by simpa using hop, by rw [Machine.exec_cons, happly, Machine.exec_nil]⟩

lemma Transacted.of_apply {op : StoreOp} {result : StoreResult}
    (happly : applyOp db op = (result, db')) (hop : Attempts op) :
    scheduler.Transacted db db' := by
  have happly : Store.apply db op = (result, db') := happly
  exact ⟨[op], by simpa using Or.inl hop, by rw [Machine.exec_cons, happly, Machine.exec_nil]⟩

/-- What is kept by reports. -/
lemma Reported.keeps {I : Database → Prop} (h : scheduler.Reported db db') (start : I db)
    (step : ∀ s op, I s → scheduler.Reports op → I (applyOp s op).2) : I db' := by
  obtain ⟨ops, hops, rfl⟩ := h
  exact Store.history_induction (P := fun _ s => I s) start (fun _ s op => step s op) hops

/-- What is kept by the operations of a step is kept by the step. -/
lemma Transacted.keeps {I : Database → Prop} (h : scheduler.Transacted db db') (start : I db)
    (step : ∀ s op, I s → Attempts op ∨ scheduler.Reports op → I (applyOp s op).2) : I db' := by
  obtain ⟨ops, hops, rfl⟩ := h
  exact Store.history_induction (P := fun _ s => I s) start (fun _ s op => step s op) hops

end Transacted

/-! ## The operations of a step -/

section Steps

variable (scheduler : Scheduler) (w : Worker) (job : ScheduledJob) (x : CheckAttempt)
  (readings : Readings)

lemma reported_afterFailure (error : RaisedException) :
    scheduler.Reported w.db (scheduler.afterFailure w job x readings error).db := by
  have heffect := scheduler.afterFailure_effect w job x readings error
  generalize scheduler.afterFailure w job x readings error = w' at heffect ⊢
  cases heffect with
  | @reported raised db hlast hrecord =>
      have happly : applyOp w.db (.recordCheckFailure x.party error.formatted none readings.failedAt
          scheduler.failureAlertAfter scheduler.operationalChannels) = (.raised raised, db) := by
        rw [applyOp, hrecord, settle]
      exact .of_apply happly ⟨rfl, rfl⟩
  | _ => exact .refl _

lemma reported_afterSuccess :
    scheduler.Reported w.db (scheduler.afterSuccess w x readings).db := by
  have heffect := scheduler.afterSuccess_effect w x readings
  generalize scheduler.afterSuccess w x readings = w' at heffect ⊢
  cases heffect with
  | ended => exact .refl _
  | @evaluated raised db hraise =>
      have happly : applyOp w.db (.raiseDeliveryBacklogAlerts scheduler.failureAlertAfter
          scheduler.operationalChannels readings.createdAt) = (.raisedFor raised, db) := by
        rw [applyOp, hraise, settle]
      exact .of_apply happly ⟨rfl, rfl⟩

lemma reported_afterDispatch (pass : Pass PendingNotification Datetime StorageError) :
    scheduler.Reported w.db (scheduler.afterDispatch w job x readings pass).db := by
  cases pass with
  | idle => exact .refl _
  | sending => exact .refl _
  | raised e => exact reported_afterFailure scheduler w job x readings e.raised
  | running todo =>
      cases todo with
      | nil => exact reported_afterSuccess scheduler w x readings
      | cons => exact .refl _

variable {scheduler}

lemma transacted_recordAttempt {db db' : Database} {n : PendingNotification} {time : Datetime}
    {error : Option String} (h : recordAttempt db n time error = .ok db') :
    scheduler.Transacted db db' :=
  .of_apply (applyOp_attempt h) (by cases error <;> trivial)

lemma transacted_recordAlertAttempt {db db' : Database} {alert : OperationalAlert}
    {time : Datetime} {error : Option String}
    (h : recordAlertAttempt db alert time error = .ok db') : scheduler.Transacted db db' :=
  .of_apply (applyOp_alertAttempt h) (by cases error <;> trivial)

/-- A step of a pass over the notification outbox. -/
lemma transacted_pass {registry : NotifierRegistry} {db db' : Database}
    {pass pass' : Pass PendingNotification Datetime StorageError} {a : PassStep Datetime String}
    (h : (notificationOutbox registry dispatchLimit).Effect db pass a db' pass') :
    scheduler.Transacted db db' := by
  rcases h.store with rfl | ⟨n, time, error, hrecord⟩
  · exact .refl _
  · exact transacted_recordAttempt hrecord

end Steps

end Scheduler

/-! ## Commits -/

/-- The job and the snapshot that a step commits. -/
def Worker.commit (w : Worker) : WorkerAction → Option (ScheduledJob × CheckResult)
  | .driver jobId (.ok result) _ =>
    match w.tasks jobId with
    | .checking job _ =>
      match recordSuccess w.db job.id result job.notifications with
      | .ok _ => some (job, result)
      | .error _ => none
    | _ => none
  | _ => none

/-- A step commits the snapshot of `commit`, or nothing. -/
inductive Scheduler.Commits (scheduler : Scheduler) (w : Worker) (act : WorkerAction)
    (db' : Database) : Prop
  | committed {job result outcome} (hcommit : w.commit act = some (job, result))
      (hrecord : recordSuccess w.db job.id result job.notifications = .ok (outcome, db'))
  | other (hcommit : w.commit act = none) (htransacted : scheduler.Transacted w.db db')

/-- **Every step of the worker** commits a snapshot, or runs other operations only. -/
lemma Scheduler.commits_of_effect {scheduler : Scheduler} {w w' : Worker} {act : WorkerAction}
    (h : scheduler.Effect w act w') : scheduler.Commits w act w'.db := by
  cases h with
  | started => exact .other rfl (.refl _)
  | woke => exact .other rfl (.refl _)
  | @returned jobId outcome readings job x htask =>
      cases outcome with
      | error e =>
          exact .other rfl (reported_afterFailure scheduler w job x readings e).transacted
      | ok result =>
          rw [afterDriver]
          cases hrecord : recordSuccess w.db job.id result job.notifications with
          | error e =>
              have hreported := reported_afterFailure scheduler w job x readings e.raised
              exact .other (by simp [Worker.commit, htask, hrecord]) hreported.transacted
          | ok out =>
              exact .committed (by simp [Worker.commit, htask, hrecord]) hrecord
  | @dispatched jobId a readings job x pass db pass' htask heffect =>
      refine .other rfl ((transacted_pass heffect).trans ?_)
      exact (reported_afterDispatch scheduler { w with db := db } job x readings pass').transacted
  | @alerted jobId a registry pass db pass' hregistry htask heffect =>
      refine .other rfl ?_
      rw [db_afterAlert]
      rcases heffect.store with rfl | ⟨n, time, error, hrecord⟩
      · exact .refl _
      · exact transacted_recordAlertAttempt hrecord

/-- The job and the snapshot that a step of a life commits. -/
def Lifecycle.commit (s : Lifecycle) : LifecycleAction → Option (ScheduledJob × CheckResult)
  | .task a => s.worker.commit a
  | _ => none

/-- The snapshots recorded for a job in the course of a life, with the plan of the job. -/
def Scheduler.commits (scheduler : Scheduler) (jobId : String) (s : Lifecycle)
    (acts : List LifecycleAction) : List (CheckResult × NotificationPlan) :=
  (scheduler.lifecycle.collect Lifecycle.commit s acts).filterMap fun c =>
    if c.1.id = jobId then some (c.2, c.1.notifications) else none

/-- The database is that of a run of the store, and the snapshots committed in that run are those
given. -/
def Database.Holds (db : Database) (commits : String → List (CheckResult × NotificationPlan)) :
    Prop :=
  ∃ ops, Store.exec Database.empty ops = db ∧
    ∀ jobId, committed jobId (Store.history Database.empty ops) = commits jobId

section Holds

variable {db db' : Database} {commits : String → List (CheckResult × NotificationPlan)}

/-- An operation that commits nothing. -/
lemma Database.Holds.apply (h : db.Holds commits) {op : StoreOp}
    (hop : ∀ jobId result plan, op ≠ .recordSuccess jobId result plan) :
    (applyOp db op).2.Holds commits := by
  obtain ⟨ops, rfl, hcommits⟩ := h
  refine ⟨ops ++ [op], Store.exec_snoc _ ops op, fun jobId => ?_⟩
  rw [Machine.history_snoc, committed, List.filterMap_append, ← committed, hcommits]
  have hnone : committedBy jobId (Store.event (Store.exec Database.empty ops) op) = none := by
    cases op with
    | recordSuccess j result plan => exact absurd rfl (hop j result plan)
    | _ => rfl
  simp [hnone]

/-- A commit. -/
lemma Database.Holds.commit (h : db.Holds commits) {jobId : String} {result : CheckResult}
    {plan : NotificationPlan} {outcome : RecordOutcome}
    (hrecord : recordSuccess db jobId result plan = .ok (outcome, db')) :
    db'.Holds fun j => commits j ++ if jobId = j then [(result, plan)] else [] := by
  obtain ⟨ops, rfl, hcommits⟩ := h
  have happly : Store.apply (Store.exec Database.empty ops) (.recordSuccess jobId result plan)
      = (.recorded outcome, db') := by
    have happly : applyOp (Store.exec Database.empty ops) (.recordSuccess jobId result plan)
        = (.recorded outcome, db') := by
      rw [applyOp, hrecord, settle]
    exact happly
  refine ⟨ops ++ [.recordSuccess jobId result plan], ?_, fun j => ?_⟩
  · rw [Machine.exec_snoc, happly]
  · rw [Machine.history_snoc, committed, List.filterMap_append, ← committed, hcommits,
      Machine.event, happly]
    by_cases hj : jobId = j <;> simp [committedBy, hj]

end Holds

/-- One step of a life. -/
lemma Database.Holds.step {scheduler : Scheduler} {s s' : Lifecycle} {act : LifecycleAction}
    {commits : String → List (CheckResult × NotificationPlan)} (h : s.worker.db.Holds commits)
    (heffect : scheduler.LifecycleEffect s act s') :
    s'.worker.db.Holds fun jobId => commits jobId ++ ((s.commit act).toList.filterMap fun c =>
      if c.1.id = jobId then some (c.2, c.1.notifications) else none) := by
  have hquiet : s.commit act = none → s'.worker.db.Holds commits →
      s'.worker.db.Holds fun jobId => commits jobId ++ ((s.commit act).toList.filterMap fun c =>
        if c.1.id = jobId then some (c.2, c.1.notifications) else none) := by
    intro hnone h'
    simpa [hnone] using h'
  have hother : ∀ {db}, scheduler.Transacted s.worker.db db → db.Holds commits :=
    fun htransacted => htransacted.keeps (I := fun db => db.Holds commits) h fun db op hdb hop => by
      refine hdb.apply ?_
      rintro jobId result plan rfl
      exact hop.elim id id
  cases heffect with
  | @stepped a w hstage heffect =>
      cases Scheduler.commits_of_effect heffect with
      | other hcommit htransacted => exact hquiet hcommit (hother htransacted)
      | @committed job result outcome hcommit hrecord =>
          have hcommit : s.commit (.task a) = some (job, result) := hcommit
          rw [hcommit]
          obtain ⟨ops, hexec, hops⟩ := h.commit hrecord
          refine ⟨ops, hexec, fun jobId => (hops jobId).trans ?_⟩
          by_cases hid : job.id = jobId <;> simp [hid]
  | diedAfter hstage htask heffect =>
      exact hquiet rfl (hother (Scheduler.transacted_pass heffect))
  | @pruned observationsBefore notificationsBefore =>
      have hprune : ∀ jobId result plan, StoreOp.prune observationsBefore notificationsBefore
          ≠ .recordSuccess jobId result plan := by simp
      exact hquiet rfl (h.apply hprune)
  | _ => exact hquiet rfl h

/-- **The snapshots recorded in a life are those committed in its database.** -/
theorem Lifecycle.holds_run {scheduler : Scheduler} {acts : List LifecycleAction} {s : Lifecycle}
    (hrun : scheduler.lifecycle.run (.start .empty) acts = some s) :
    s.worker.db.Holds fun jobId => scheduler.commits jobId (.start .empty) acts := by
  refine (Process.run_induction
    (P := fun acts s => scheduler.lifecycle.run (.start .empty) acts = some s ∧
      s.worker.db.Holds fun jobId => scheduler.commits jobId (.start .empty) acts)
    ⟨rfl, [], rfl, fun _ => rfl⟩ ?_ hrun).2
  rintro acts s act s' ⟨hrun, h⟩ hstep
  refine ⟨Process.run_append hrun (by simp [Process.run, hstep]), ?_⟩
  simp only [Scheduler.commits, Process.collect_snoc _ hrun, List.filterMap_append]
  exact h.step (Scheduler.lifecycleEffect_of_step hstep)

end WebChecker
