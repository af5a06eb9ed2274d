import WebChecker.Library.Runs
import WebChecker.Storage.Schema

/-!
# The store's operations

Each operation of `SQLiteObservationStore` as a function of the database: the sequence of
statements it runs inside its transaction, and the error it raises when one of them fails.  A
failed operation rolls back, so it is an `Except` whose error carries no database; `StoreOp` and
`Store` put the operations behind one `apply`, in which an error leaves the database as it was.
-/

namespace WebChecker

open Relational

/-- Raised when persistent state cannot be read or written safely. -/
structure StorageError where
  message : String
deriving DecidableEq, Repr

/-- `raise StorageError(…) from error`. -/
def raiseAs {α : Type} (context : String) : Except PyError α → Except StorageError α
  | .ok a => .ok a
  | .error e => .error ⟨s!"{context}: {e.message}"⟩

/-! ## Reading a snapshot -/

/-- `datetime.fromisoformat` on a column. -/
def parseTime (s : String) : Except PyError Datetime :=
  match fromisoformat s with
  | some d => .ok d
  | none => .error (.valueError s!"Invalid isoformat string: {pyRepr s}")

/-- `datetime.fromisoformat` on a nullable column. -/
def parseOptionalTime : Option String → Except PyError (Option Datetime)
  | none => .ok none
  | some s => (parseTime s).map some

/-- The latest run of a job: `WHERE job_id = ? ORDER BY id DESC LIMIT 1`. -/
def latestRun (db : Database) (jobId : String) : Option CheckRun :=
  (db.checkRuns.rows.filter fun r => r.jobId == jobId).getLast?

/-- The observations of a run: `WHERE run_id = ? ORDER BY position`. -/
def observationsOf (db : Database) (runId : ℕ) : List Observation :=
  (db.observations.filter fun o => o.runId == runId).insertionSort fun a b =>
    a.position ≤ b.position

def decodeObservation (o : Observation) : Except PyError Opportunity := do
  let startsAt ← parseOptionalTime o.startsAt
  Opportunity.create o.opportunityId o.title o.availability startsAt o.bookingUrl
    (loadsAttributes o.attributesJson)

/-- `_get_latest`. -/
def latestSnapshot (db : Database) (jobId : String) : Except PyError (Option CheckResult) :=
  match latestRun db jobId with
  | none => .ok none
  | some run => do
    let opportunities ← (observationsOf db run.id).mapM decodeObservation
    let checkedAt ← parseTime run.checkedAt
    let result ← CheckResult.create checkedAt opportunities
    return some result

/-- `get_latest`. -/
def getLatest (db : Database) (jobId : String) : Except StorageError (Option CheckResult) :=
  raiseAs s!"could not read latest check for job {pyRepr jobId}" (latestSnapshot db jobId)

/-! ## Recording a success -/

/-- Provider-independent result of recording a snapshot. -/
structure RecordOutcome where
  baselineCreated : Bool
  transitions : List OpportunityTransition

def checkRunRow (jobId : String) (checkedAt : Datetime) (id : ℕ) : CheckRun :=
  ⟨id, jobId, checkedAt.isoformat⟩

@[simp] lemma rowId_checkRunRow (jobId : String) (checkedAt : Datetime) (id : ℕ) :
    rowId (checkRunRow jobId checkedAt id) = id := rfl

lemma rowId_successRun (jobId : String) (result : CheckResult) (id : ℕ) :
    rowId (checkRunRow jobId result.checkedAt id) = id := rowId_checkRunRow jobId _ id

def encodeObservation (runId position : ℕ) (o : Opportunity) : Except PyError Observation := do
  let attributesJson ← dumpsAttributes o.attributes
  return ⟨runId, position, o.id, o.title, o.availability, o.startsAt.map Datetime.isoformat,
    o.bookingUrl, attributesJson⟩

def transitionRow (runId : ℕ) (t : OpportunityTransition) (id : ℕ) : TransitionRow :=
  ⟨id, runId, t.opportunityId, t.type, t.previous.map Opportunity.availability,
    t.current.map Opportunity.availability⟩

@[simp] lemma rowId_newTransition (runId : ℕ) (t : OpportunityTransition) (id : ℕ) :
    rowId (transitionRow runId t id) = id := rfl

def outboxRow (jobId : String) (checkedAt : Datetime) (transitionId : ℕ)
    (t : OpportunityTransition) (channel : String) (id : ℕ) : OutboxRow where
  id := id
  transitionId := transitionId
  channel := channel
  jobId := jobId
  transitionType := t.type
  opportunityId := t.opportunityId
  opportunityTitle := t.opportunity.title
  currentAvailability := t.current.map Opportunity.availability
  bookingUrl := t.opportunity.bookingUrl
  checkedAt := checkedAt.isoformat

@[simp] lemma rowId_newOutbox (jobId : String) (checkedAt : Datetime) (transitionId : ℕ)
    (t : OpportunityTransition) (channel : String) (id : ℕ) :
    rowId (outboxRow jobId checkedAt transitionId t channel id) = id := rfl

/-- The alert key of a job's failure episode. -/
def checkFailureKey (jobId : String) : String := "check-failure:" ++ jobId

/-- The alert key of a job's delivery backlog. -/
def deliveryBacklogKey (jobId : String) : String := "delivery-backlog:" ++ jobId

/-- The upsert of `job_status` after a success. -/
def statusAfterSuccess (status : KeyTable String JobStatusRow) (jobId : String)
    (checkedAt : Datetime) : KeyTable String JobStatusRow :=
  status.upsert jobId { jobId, lastSuccessAt := some checkedAt.isoformat }
    (fun s => { s with lastSuccessAt := some checkedAt.isoformat, consecutiveFailures := 0,
                       lastError := none, failureAlertActive := false })
    (key_jobStatusRow _) (fun _ => key_jobStatusRow _)

/-- The loop over `enumerate(result.opportunities)`. -/
def insertObservations (db : Database) (runId : ℕ) :
    ℕ → List Opportunity → Except PyError Database
  | _, [] => .ok db
  | position, o :: os => do
    let row ← encodeObservation runId position o
    let db ← insertObservation db row
    insertObservations db runId (position + 1) os

/-- The loop over the plan's channels. -/
def insertChannels (db : Database) (jobId : String) (checkedAt : Datetime) (transitionId : ℕ)
    (t : OpportunityTransition) : List String → Except PyError Database
  | [] => .ok db
  | channel :: channels => do
    let db ← insertOutbox db (outboxRow jobId checkedAt transitionId t channel)
      (rowId_newOutbox jobId checkedAt transitionId t channel)
    insertChannels db jobId checkedAt transitionId t channels

/-- The loop over the transitions. -/
def insertTransitions (db : Database) (runId : ℕ) (jobId : String) (checkedAt : Datetime)
    (plan : NotificationPlan) : List OpportunityTransition → Except PyError Database
  | [] => .ok db
  | t :: ts => do
    let transitionId := db.transitions.nextId
    let db ← insertTransition db (transitionRow runId t) (rowId_newTransition runId t)
    let db ← if t.type ∈ plan.on then
        insertChannels db jobId checkedAt transitionId t plan.channels
      else .ok db
    insertTransitions db runId jobId checkedAt plan ts

/-- The statements of `record_success`. -/
def recordSuccessBody (db : Database) (jobId : String) (result : CheckResult)
    (plan : NotificationPlan) : Except PyError (RecordOutcome × Database) := do
  let previous ← latestSnapshot db jobId
  let transitions := transitionsSince previous result
  let runId := db.checkRuns.nextId
  let db := { db with
    checkRuns := db.checkRuns.insert (checkRunRow jobId result.checkedAt)
      (rowId_successRun jobId result)
    jobStatus := statusAfterSuccess db.jobStatus jobId result.checkedAt
    alerts := deleteAlerts db.alerts (checkFailureKey jobId) }
  let db ← insertObservations db runId 0 result.opportunities
  let db ← insertTransitions db runId jobId result.checkedAt plan transitions
  return (⟨previous.isNone, transitions⟩, db)

/-- `record_success`. -/
def recordSuccess (db : Database) (jobId : String) (result : CheckResult)
    (plan : NotificationPlan) : Except StorageError (RecordOutcome × Database) :=
  raiseAs s!"could not record successful check for job {pyRepr jobId}"
    (recordSuccessBody db jobId result plan)

/-! ## Retention -/

/-- What one retention pass deleted. -/
structure RetentionResult where
  checkRunsDeleted : ℕ
  completedNotificationsDeleted : ℕ
deriving DecidableEq, Repr

/-- `SELECT MAX(id) FROM check_runs GROUP BY job_id`. -/
def latestRunIds (db : Database) : List ℕ :=
  (db.checkRuns.rows.map CheckRun.jobId).filterMap fun j => (latestRun db j).map CheckRun.id

/-- `EXISTS` an undelivered outbox row of a transition of the run. -/
def holdsPending (db : Database) (run : CheckRun) : Bool :=
  db.transitions.rows.any fun t =>
    t.runId == run.id && db.outbox.rows.any fun n => n.transitionId == t.id && n.pending

/-- `delivered_at IS NOT NULL AND delivered_at < ?`. -/
def completedBefore (before : Datetime) (n : OutboxRow) : Bool :=
  n.deliveredAt.any fun d => d < before.isoformat

/-- The `WHERE` clause of the deletion of runs. -/
def expiredRun (db : Database) (before : Datetime) (run : CheckRun) : Bool :=
  decide (run.checkedAt < before.isoformat) && run.id ∉ latestRunIds db && !holdsPending db run

/-- `prune`. -/
def prune (db : Database) (observationsBefore notificationsBefore : Datetime) :
    RetentionResult × Database :=
  let completed := db.outbox.rows.countP (completedBefore notificationsBefore)
  let db := { db with outbox := db.outbox.deleteWhere (completedBefore notificationsBefore) }
  let runs := db.checkRuns.rows.countP (expiredRun db observationsBefore)
  (⟨runs, completed⟩, deleteRuns db (expiredRun db observationsBefore))

/-! ## Operational alerts -/

def alertRow (alertKey : String) (jobId : String) (title detail : String) (createdAt : Datetime)
    (channel : String) (id : ℕ) : AlertRow where
  id := id
  alertKey := alertKey
  channel := channel
  jobId := some jobId
  title := title
  detail := detail
  createdAt := createdAt.isoformat

@[simp] lemma rowId_newAlert (alertKey jobId title detail : String) (createdAt : Datetime)
    (channel : String) (id : ℕ) :
    rowId (alertRow alertKey jobId title detail createdAt channel id) = id := rfl

/-- `_enqueue_operational_alert`. -/
def enqueueOperationalAlert (alertKey jobId title detail : String) (createdAt : Datetime) :
    List String → RowTable AlertRow → Except PyError (RowTable AlertRow)
  | [], alerts => .ok alerts
  | channel :: channels, alerts => do
    let alerts ← insertAlert alerts (alertRow alertKey jobId title detail createdAt channel)
      (rowId_newAlert alertKey jobId title detail createdAt channel)
    enqueueOperationalAlert alertKey jobId title detail createdAt channels alerts

/-- The upsert of `job_status` after a failure. -/
def statusAfterFailure (status : KeyTable String JobStatusRow) (jobId error : String)
    (occurredAt : Datetime) : KeyTable String JobStatusRow :=
  status.upsert jobId
    { jobId, lastFailureAt := some occurredAt.isoformat, consecutiveFailures := 1,
      lastError := some (sliceTo 2000 error) }
    (fun s => { s with lastFailureAt := some occurredAt.isoformat,
                       consecutiveFailures := s.consecutiveFailures + 1,
                       lastError := some (sliceTo 2000 error) })
    (key_jobStatusRow _) (fun _ => key_jobStatusRow _)

/-- `UPDATE job_status SET failure_alert_active = 1 WHERE job_id = ?`. -/
def setFailureAlert (status : KeyTable String JobStatusRow) (jobId : String) :
    KeyTable String JobStatusRow :=
  status.update (fun s => if s.jobId = jobId then { s with failureAlertActive := true } else s)
    (by intro s; split <;> rfl)

/-- The statements of `record_check_failure`. -/
def recordCheckFailureBody (db : Database) (jobId error : String) (occurredAt : Datetime)
    (alertAfter : ℤ) (channels : List String) : Except PyError (Bool × Database) := do
  let status := statusAfterFailure db.jobStatus jobId error occurredAt
  match status.lookup jobId with
  | none => .error (.typeError "'NoneType' object is not subscriptable")
  | some row =>
    if alertAfter ≤ row.consecutiveFailures ∧ ¬ row.failureAlertActive then
      let alerts ← enqueueOperationalAlert (checkFailureKey jobId) jobId
        ("Repeated check failures: " ++ jobId)
        (toString row.consecutiveFailures ++ " consecutive scheduled checks failed. Last error: " ++
          sliceTo 1000 error)
        occurredAt channels db.alerts
      return (true, { db with jobStatus := setFailureAlert status jobId, alerts := alerts })
    else return (false, { db with jobStatus := status })

/-- `record_check_failure`; `now` is the clock's reading, used when no time is given. -/
def recordCheckFailure (db : Database) (jobId error : String) (failedAt : Option Datetime)
    (now : Datetime) (alertAfter : ℤ) (channels : List String) :
    Except StorageError (Bool × Database) :=
  raiseAs s!"could not record check failure for {pyRepr jobId}"
    (recordCheckFailureBody db jobId error (failedAt.getD now) alertAfter channels)

/-- One row of the backlog query: a job, its flag, and `COUNT` and `MAX` over its undelivered
outbox rows. -/
structure BacklogRow where
  jobId : String
  deliveryAlertActive : Bool
  count : ℕ
  maxAttempts : Option ℕ
deriving DecidableEq, Repr

/-- The undelivered outbox rows of a job. -/
def pendingOf (outbox : RowTable OutboxRow) (jobId : String) : List OutboxRow :=
  outbox.rows.filter fun n => n.jobId == jobId && n.pending

/-- The `LEFT JOIN … GROUP BY` of a job: without undelivered rows the maximum is `NULL`. -/
def backlogRow (outbox : RowTable OutboxRow) (s : JobStatusRow) : BacklogRow :=
  let pending := pendingOf outbox s.jobId
  ⟨s.jobId, s.deliveryAlertActive, pending.length, (pending.map OutboxRow.attempts).max?⟩

/-- The backlog query, grouped by job. -/
def backlogRows (db : Database) : List BacklogRow :=
  (db.jobStatus.rows.insertionSort fun a b => a.jobId ≤ b.jobId).map (backlogRow db.outbox)

/-- `count > 0 and max_attempts >= alert_after`. -/
def BacklogRow.active (alertAfter : ℤ) (row : BacklogRow) : Bool :=
  decide (0 < row.count) && row.maxAttempts.any fun m : ℕ => decide (alertAfter ≤ m)

/-- `UPDATE job_status SET delivery_alert_active = ? WHERE job_id = ?`. -/
def setDeliveryAlert (status : KeyTable String JobStatusRow) (jobId : String) (active : Bool) :
    KeyTable String JobStatusRow :=
  status.update (fun s => if s.jobId = jobId then { s with deliveryAlertActive := active } else s)
    (by intro s; split <;> rfl)

/-- What the evaluation does to the alerts of one job. -/
def evaluateBacklog (alertAfter : ℤ) (channels : List String) (now : String → Datetime)
    (row : BacklogRow) (alerts : RowTable AlertRow) : Except PyError (RowTable AlertRow) :=
  let active := row.active alertAfter
  if active ∧ ¬ row.deliveryAlertActive then
    enqueueOperationalAlert (deliveryBacklogKey row.jobId) row.jobId
      ("Notification delivery backlog: " ++ row.jobId)
      (toString row.count ++ " deliveries remain pending; the oldest has failed " ++
        toString (row.maxAttempts.getD 0) ++ " times. Check worker logs.")
      (now row.jobId) channels alerts
  else if ¬ active ∧ row.deliveryAlertActive then
    .ok (deleteAlerts alerts (deliveryBacklogKey row.jobId))
  else .ok alerts

/-- The loop over the backlog query's rows, on the two tables it writes.  `now` is the clock's
reading when a job's alert is enqueued. -/
def evaluateBacklogs (alertAfter : ℤ) (channels : List String) (now : String → Datetime) :
    List BacklogRow → KeyTable String JobStatusRow → RowTable AlertRow →
      Except PyError (List String × KeyTable String JobStatusRow × RowTable AlertRow)
  | [], status, alerts => .ok ([], status, alerts)
  | row :: rows, status, alerts => do
    let alerts ← evaluateBacklog alertAfter channels now row alerts
    let status := setDeliveryAlert status row.jobId (row.active alertAfter)
    let (raised, status, alerts) ← evaluateBacklogs alertAfter channels now rows status alerts
    return (if row.active alertAfter ∧ ¬ row.deliveryAlertActive then row.jobId :: raised
      else raised, status, alerts)

/-- `raise_delivery_backlog_alerts`. -/
def raiseDeliveryBacklogAlerts (db : Database) (alertAfter : ℤ) (channels : List String)
    (now : String → Datetime) : Except StorageError (List String × Database) :=
  raiseAs "could not evaluate delivery backlog" do
    let (raised, jobStatus, alerts) ←
      evaluateBacklogs alertAfter channels now (backlogRows db) db.jobStatus db.alerts
    return (raised, { db with jobStatus, alerts })

/-! ## Pending items and their outcomes -/

def decodeNotification (r : OutboxRow) : Except PyError PendingNotification := do
  let checkedAt ← parseTime r.checkedAt
  return ⟨r.id, r.channel, r.jobId, r.transitionType, r.opportunityId, r.opportunityTitle,
    r.currentAvailability, r.bookingUrl, checkedAt, r.attempts⟩

/-- `list_pending_notifications`: the oldest `limit` undelivered rows. -/
def listPendingNotifications (db : Database) (limit : ℕ) :
    Except StorageError (List PendingNotification) :=
  raiseAs "could not read pending notifications"
    (((db.outbox.rows.filter OutboxRow.pending).take limit).mapM decodeNotification)

def decodeAlert (r : AlertRow) : Except PyError OperationalAlert := do
  let createdAt ← parseTime r.createdAt
  return ⟨r.id, r.channel, r.alertKey, r.jobId, r.title, r.detail, createdAt, r.attempts⟩

/-- `list_pending_operational_alerts`. -/
def listPendingOperationalAlerts (db : Database) (limit : ℕ) :
    Except StorageError (List OperationalAlert) :=
  raiseAs "could not read operational alerts"
    (((db.alerts.rows.filter AlertRow.pending).take limit).mapM decodeAlert)

/-- `WHERE id = ? AND delivered_at IS NULL`. -/
def isPendingId (id : ℕ) (r : OutboxRow) : Bool := r.id == id && r.pending

/-- `_update_notification`: exactly one row must match. -/
def updateNotification (db : Database) (id : ℕ) (f : OutboxRow → OutboxRow)
    (h : ∀ r, rowId (f r) = rowId r) : Except StorageError Database :=
  if db.outbox.rows.countP (isPendingId id) = 1 then
    .ok { db with outbox := db.outbox.updateWhere (isPendingId id) f h }
  else .error ⟨s!"pending notification {id} was not found"⟩

def deliveredRow (time : Datetime) (r : OutboxRow) : OutboxRow :=
  { r with deliveredAt := some time.isoformat, lastAttemptAt := some time.isoformat,
           attempts := r.attempts + 1, lastError := none }

@[simp] lemma rowId_deliveredRow (time : Datetime) (r : OutboxRow) :
    rowId (deliveredRow time r) = rowId r := rfl

def failedRow (time : Datetime) (error : String) (r : OutboxRow) : OutboxRow :=
  { r with lastAttemptAt := some time.isoformat, attempts := r.attempts + 1,
           lastError := some (sliceTo 2000 error) }

@[simp] lemma rowId_failedRow (time : Datetime) (error : String) (r : OutboxRow) :
    rowId (failedRow time error r) = rowId r := rfl

/-- `mark_notification_delivered`. -/
def markNotificationDelivered (db : Database) (id : ℕ) (deliveredAt : Datetime) :
    Except StorageError Database :=
  updateNotification db id (deliveredRow deliveredAt) (rowId_deliveredRow deliveredAt)

/-- `record_notification_failure`. -/
def recordNotificationFailure (db : Database) (id : ℕ) (attemptedAt : Datetime) (error : String) :
    Except StorageError Database :=
  updateNotification db id (failedRow attemptedAt error) (rowId_failedRow attemptedAt error)

def isPendingAlertId (id : ℕ) (r : AlertRow) : Bool := r.id == id && r.pending

/-- The update of an alert: delivered if there is no error, failed otherwise. -/
def attemptedAlert (attemptedAt : Datetime) (error : Option String) (r : AlertRow) : AlertRow :=
  match error with
  | none => { r with deliveredAt := some attemptedAt.isoformat, attempts := r.attempts + 1,
                     lastError := none }
  | some e => { r with attempts := r.attempts + 1, lastError := some (sliceTo 2000 e) }

lemma rowId_attemptedAlert (attemptedAt : Datetime) (error : Option String) (r : AlertRow) :
    rowId (attemptedAlert attemptedAt error r) = rowId r := by
  cases error <;> rfl

/-- `_update_operational_alert`: exactly one row must match. -/
def updateOperationalAlert (db : Database) (id : ℕ) (attemptedAt : Datetime)
    (error : Option String) : Except StorageError Database :=
  if db.alerts.rows.countP (isPendingAlertId id) = 1 then
    let alerts := db.alerts.updateWhere (isPendingAlertId id) (attemptedAlert attemptedAt error)
      (rowId_attemptedAlert attemptedAt error)
    .ok { db with alerts }
  else .error ⟨s!"pending operational alert {id} was not found"⟩

/-- `mark_operational_alert_delivered`. -/
def markOperationalAlertDelivered (db : Database) (id : ℕ) (deliveredAt : Datetime) :
    Except StorageError Database := updateOperationalAlert db id deliveredAt none

/-- `record_operational_alert_failure`. -/
def recordOperationalAlertFailure (db : Database) (id : ℕ) (attemptedAt : Datetime)
    (error : String) : Except StorageError Database :=
  updateOperationalAlert db id attemptedAt (some error)

/-! ## One operation after another -/

/-- The operations that write. -/
inductive StoreOp where
  | recordSuccess (jobId : String) (result : CheckResult) (plan : NotificationPlan)
  | recordCheckFailure (jobId error : String) (failedAt : Option Datetime) (now : Datetime)
      (alertAfter : ℤ) (channels : List String)
  | raiseDeliveryBacklogAlerts (alertAfter : ℤ) (channels : List String) (now : String → Datetime)
  | markNotificationDelivered (id : ℕ) (deliveredAt : Datetime)
  | recordNotificationFailure (id : ℕ) (attemptedAt : Datetime) (error : String)
  | markOperationalAlertDelivered (id : ℕ) (deliveredAt : Datetime)
  | recordOperationalAlertFailure (id : ℕ) (attemptedAt : Datetime) (error : String)
  | prune (observationsBefore notificationsBefore : Datetime)

/-- What an operation returned or raised. -/
inductive StoreResult where
  | recorded (outcome : RecordOutcome)
  | raised (alert : Bool)
  | raisedFor (jobIds : List String)
  | updated
  | pruned (result : RetentionResult)
  | failed (error : StorageError)

/-- Commit a successful operation; roll back a failed one. -/
def settle {α : Type} (db : Database) (wrap : α → StoreResult) :
    Except StorageError (α × Database) → StoreResult × Database
  | .ok (a, db') => (wrap a, db')
  | .error e => (.failed e, db)

/-- The same for an operation that returns nothing. -/
def settleUpdate (db : Database) : Except StorageError Database → StoreResult × Database
  | .ok db' => (.updated, db')
  | .error e => (.failed e, db)

/-- One operation, as its own transaction. -/
def applyOp (db : Database) : StoreOp → StoreResult × Database
  | .recordSuccess jobId result plan =>
    settle db .recorded (recordSuccess db jobId result plan)
  | .recordCheckFailure jobId error failedAt now alertAfter channels =>
    settle db .raised (recordCheckFailure db jobId error failedAt now alertAfter channels)
  | .raiseDeliveryBacklogAlerts alertAfter channels now =>
    settle db .raisedFor (raiseDeliveryBacklogAlerts db alertAfter channels now)
  | .markNotificationDelivered id time => settleUpdate db (markNotificationDelivered db id time)
  | .recordNotificationFailure id time error =>
    settleUpdate db (recordNotificationFailure db id time error)
  | .markOperationalAlertDelivered id time =>
    settleUpdate db (markOperationalAlertDelivered db id time)
  | .recordOperationalAlertFailure id time error =>
    settleUpdate db (recordOperationalAlertFailure db id time error)
  | .prune observationsBefore notificationsBefore =>
    let (result, db') := prune db observationsBefore notificationsBefore
    (.pruned result, db')

/-- The store as a machine.  Its runs are the serial orders of the transactions that any number
of processes commit. -/
def Store : Runs.Machine Database StoreOp StoreResult := ⟨applyOp⟩

/-- A database that operations on a fresh one lead to. -/
def Reachable (db : Database) : Prop := Store.Reachable Database.empty db

end WebChecker
