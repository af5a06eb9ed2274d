import WebChecker.Storage.Recording

/-!
# What one operation can do

`OpEffect` lists, once, everything an operation can do to a consistent database, with its result:
it fails and changes nothing, or it is one of the seven successful outcomes.  Every invariant of
the store is derived from this list (`applyOp_effect`) and not from the operations' bodies.

The first invariant is `Consistent` itself: no operation leaves a dangling reference, prune
included, because its deletions cascade.
-/

namespace WebChecker

open Relational Results

/-! ## Enqueuing alerts -/

/-- **Enqueuing alerts** succeeds exactly if the channels are distinct and none of them holds an
alert of this key already; it then appends one row per channel. -/
lemma enqueueOperationalAlert_eq_ok {alertKey jobId title detail : String} {createdAt : Datetime}
    {channels : List String} :
    ∀ {alerts alerts' : RowTable AlertRow},
      enqueueOperationalAlert alertKey jobId title detail createdAt channels alerts = .ok alerts' ↔
        channels.Nodup ∧ (∀ a ∈ alerts.rows, a.alertKey = alertKey → a.channel ∉ channels) ∧
          alerts' = alerts.insertAll channels (alertRow alertKey jobId title detail createdAt)
            (rowId_newAlert alertKey jobId title detail createdAt) := by
  induction channels with
  | nil =>
      intro alerts alerts'
      simp [enqueueOperationalAlert, eq_comm]
  | cons channel channels ih =>
      intro alerts alerts'
      rw [enqueueOperationalAlert, insertAlert]
      by_cases hdup : ∃ x ∈ alerts.rows, x.alertKey = alertKey ∧ x.channel = channel
      · rw [if_pos (by exact hdup), error_bind]
        obtain ⟨x, hx, hk, hch⟩ := hdup
        constructor
        · intro h
          simp at h
        · rintro ⟨_, hfree, _⟩
          exact absurd (hch ▸ List.mem_cons_self) (hfree x hx hk)
      · rw [if_neg (by exact hdup), ok_bind, ih, List.nodup_cons]
        simp only [RowTable.rows_insert, List.mem_append, List.mem_cons, List.not_mem_nil, or_false,
          not_or]
        constructor
        · rintro ⟨hnd, hfree, rfl⟩
          refine ⟨⟨fun hc => hfree _ (Or.inr rfl) rfl hc, hnd⟩, fun a ha hk => ⟨?_, ?_⟩, rfl⟩
          · intro hch
            exact hdup ⟨a, ha, hk, hch⟩
          · exact hfree a (Or.inl ha) hk
        · rintro ⟨⟨hc, hnd⟩, hfree, rfl⟩
          refine ⟨hnd, ?_, rfl⟩
          rintro a (ha | rfl) hk
          · exact (hfree a ha hk).2
          · exact hc

/-- The status row a job has after a failure. -/
def failedStatus (status : KeyTable String JobStatusRow) (jobId error : String)
    (occurredAt : Datetime) : JobStatusRow :=
  ((status.lookup jobId).map fun s =>
    { s with lastFailureAt := some occurredAt.isoformat,
             consecutiveFailures := s.consecutiveFailures + 1,
             lastError := some (sliceTo 2000 error) }).getD
    { jobId, lastFailureAt := some occurredAt.isoformat, consecutiveFailures := 1,
      lastError := some (sliceTo 2000 error) }

lemma lookup_statusAfterFailure (status : KeyTable String JobStatusRow) (jobId error : String)
    (occurredAt : Datetime) :
    (statusAfterFailure status jobId error occurredAt).lookup jobId
      = some (failedStatus status jobId error occurredAt) :=
  KeyTable.lookup_upsert_self status

/-- `row["consecutive_failures"] >= alert_after and not row["failure_alert_active"]`. -/
def raisesAlert (alertAfter : ℤ) (s : JobStatusRow) : Prop :=
  alertAfter ≤ s.consecutiveFailures ∧ ¬ s.failureAlertActive

instance (alertAfter : ℤ) (s : JobStatusRow) : Decidable (raisesAlert alertAfter s) :=
  inferInstanceAs (Decidable (_ ∧ _))

/-- The alerts a raised failure leaves. -/
def raisedAlerts (alerts : RowTable AlertRow) (jobId error : String) (occurredAt : Datetime)
    (channels : List String) (s : JobStatusRow) : RowTable AlertRow :=
  alerts.insertAll channels
    (alertRow (checkFailureKey jobId) jobId ("Repeated check failures: " ++ jobId)
      (toString s.consecutiveFailures ++ " consecutive scheduled checks failed. Last error: " ++
        sliceTo 1000 error) occurredAt)
    (rowId_newAlert _ _ _ _ _)

/-- **What recording a failure does**: it counts the failure, and if that raises an alert it
enqueues one row per channel and sets the flag. -/
lemma recordCheckFailure_eq_ok {db db' : Database} {jobId error : String}
    {failedAt : Option Datetime} {now : Datetime} {alertAfter : ℤ} {channels : List String}
    {raised : Bool} :
    recordCheckFailure db jobId error failedAt now alertAfter channels = .ok (raised, db') ↔
      let occurredAt := failedAt.getD now
      let status := statusAfterFailure db.jobStatus jobId error occurredAt
      let row := failedStatus db.jobStatus jobId error occurredAt
      (raised = true ∧ raisesAlert alertAfter row ∧ channels.Nodup ∧
        (∀ a ∈ db.alerts.rows, a.alertKey = checkFailureKey jobId → a.channel ∉ channels) ∧
        db' = { db with
                jobStatus := setFailureAlert status jobId
                alerts := raisedAlerts db.alerts jobId error occurredAt channels row }) ∨
      (raised = false ∧ ¬ raisesAlert alertAfter row ∧ db' = { db with jobStatus := status }) := by
  rw [recordCheckFailure, raiseAs_eq_ok, recordCheckFailureBody]
  dsimp only
  rw [lookup_statusAfterFailure]
  dsimp only
  by_cases hr : raisesAlert alertAfter
      (failedStatus db.jobStatus jobId error (failedAt.getD now))
  · rw [if_pos (by exact hr)]
    simp only [bind_eq_ok, pure_eq_ok, Except.ok.injEq, Prod.mk.injEq,
      enqueueOperationalAlert_eq_ok, hr, not_true_eq_false, false_and, and_false, or_false,
      true_and]
    constructor
    · rintro ⟨alerts, ⟨hnd, hfree, rfl⟩, rfl, rfl⟩
      exact ⟨rfl, hnd, hfree, rfl⟩
    · rintro ⟨rfl, hnd, hfree, rfl⟩
      exact ⟨_, ⟨hnd, hfree, rfl⟩, rfl, rfl⟩
  · rw [if_neg (by exact hr)]
    simp only [pure_eq_ok, Except.ok.injEq, Prod.mk.injEq, hr, false_and, and_false, false_or,
      not_false_eq_true, true_and]
    constructor
    · rintro ⟨rfl, rfl⟩
      exact ⟨rfl, rfl⟩
    · rintro ⟨rfl, rfl⟩
      exact ⟨rfl, rfl⟩

/-! ## Evaluating backlogs -/

/-- The alerts an evaluation leaves for one job, where it does not fail. -/
def evaluatedAlerts (alertAfter : ℤ) (channels : List String) (now : String → Datetime)
    (row : BacklogRow) (alerts : RowTable AlertRow) : RowTable AlertRow :=
  if row.active alertAfter ∧ ¬ row.deliveryAlertActive then
    alerts.insertAll channels
      (alertRow (deliveryBacklogKey row.jobId) row.jobId
        ("Notification delivery backlog: " ++ row.jobId)
        (toString row.count ++ " deliveries remain pending; the oldest has failed " ++
          toString (row.maxAttempts.getD 0) ++ " times. Check worker logs.") (now row.jobId))
      (rowId_newAlert _ _ _ _ _)
  else if ¬ row.active alertAfter ∧ row.deliveryAlertActive then
    deleteAlerts alerts (deliveryBacklogKey row.jobId)
  else alerts

/-- **What evaluating one job's backlog does**: it fails only if it has to enqueue alerts on a
repeated channel, or on one that holds an alert of this key. -/
lemma evaluateBacklog_eq_ok {alertAfter : ℤ} {channels : List String} {now : String → Datetime}
    {row : BacklogRow} {alerts alerts' : RowTable AlertRow} :
    evaluateBacklog alertAfter channels now row alerts = .ok alerts' ↔
      (row.active alertAfter ∧ ¬ row.deliveryAlertActive → channels.Nodup ∧
        ∀ a ∈ alerts.rows, a.alertKey = deliveryBacklogKey row.jobId → a.channel ∉ channels) ∧
      alerts' = evaluatedAlerts alertAfter channels now row alerts := by
  rw [evaluateBacklog, evaluatedAlerts]
  by_cases hraise : row.active alertAfter ∧ ¬ row.deliveryAlertActive
  · rw [if_pos hraise, if_pos hraise, enqueueOperationalAlert_eq_ok, ← and_assoc]
    exact and_congr_left fun _ => ⟨fun h _ => h, fun h => h hraise⟩
  · rw [if_neg hraise, if_neg hraise, and_iff_right fun h => absurd h hraise]
    split_ifs <;> rw [Except.ok.injEq, eq_comm]

/-- Every alert an evaluation leaves was there or has just been created. -/
lemma mem_evaluatedAlerts {alertAfter : ℤ} {channels : List String} {now : String → Datetime}
    {row : BacklogRow} {alerts : RowTable AlertRow} {a : AlertRow}
    (ha : a ∈ (evaluatedAlerts alertAfter channels now row alerts).rows) :
    a ∈ alerts.rows ∨ (Readable a.createdAt ∧ a.pending = true) := by
  rw [evaluatedAlerts] at ha
  split_ifs at ha
  · rw [RowTable.rows_insertAll] at ha
    rcases List.mem_append.mp ha with ha | ha
    · exact Or.inl ha
    · obtain ⟨⟨c, i⟩, _, rfl⟩ := List.mem_map.mp ha
      exact Or.inr ⟨readable_isoformat _, rfl⟩
  · exact Or.inl (RowTable.mem_deleteWhere.mp ha).1
  · exact Or.inl ha

/-- The jobs an evaluation raises an alert for, in the order of the rows. -/
def raisedJobs (alertAfter : ℤ) (rows : List BacklogRow) : List String :=
  (rows.filter fun r => r.active alertAfter && !r.deliveryAlertActive).map BacklogRow.jobId

/-- The status table after an evaluation. -/
def evaluatedStatus (alertAfter : ℤ) (rows : List BacklogRow)
    (status : KeyTable String JobStatusRow) : KeyTable String JobStatusRow :=
  rows.foldl (fun s r => setDeliveryAlert s r.jobId (r.active alertAfter)) status

lemma evaluatedStatus_cons (alertAfter : ℤ) (row : BacklogRow) (rows : List BacklogRow)
    (status : KeyTable String JobStatusRow) :
    evaluatedStatus alertAfter (row :: rows) status =
      evaluatedStatus alertAfter rows
        (setDeliveryAlert status row.jobId (row.active alertAfter)) := rfl

/-- The alerts after an evaluation. -/
def allEvaluatedAlerts (alertAfter : ℤ) (channels : List String) (now : String → Datetime)
    (rows : List BacklogRow) (alerts : RowTable AlertRow) : RowTable AlertRow :=
  rows.foldl (fun a r => evaluatedAlerts alertAfter channels now r a) alerts

lemma allEvaluatedAlerts_cons (alertAfter : ℤ) (channels : List String) (now : String → Datetime)
    (row : BacklogRow) (rows : List BacklogRow) (alerts : RowTable AlertRow) :
    allEvaluatedAlerts alertAfter channels now (row :: rows) alerts =
      allEvaluatedAlerts alertAfter channels now rows
        (evaluatedAlerts alertAfter channels now row alerts) := rfl

/-- **What a successful evaluation leaves.** -/
lemma evaluateBacklogs_eq_ok {alertAfter : ℤ} {channels : List String} {now : String → Datetime} :
    ∀ {rows : List BacklogRow} {status : KeyTable String JobStatusRow}
      {alerts : RowTable AlertRow} {out},
      evaluateBacklogs alertAfter channels now rows status alerts = .ok out →
        out = (raisedJobs alertAfter rows, evaluatedStatus alertAfter rows status,
          allEvaluatedAlerts alertAfter channels now rows alerts)
  | [], _, _, _, h => (Except.ok.inj h).symm
  | row :: rows, status, alerts, out, h => by
      simp only [evaluateBacklogs, bind_eq_ok, pure_eq_ok, Except.ok.injEq] at h
      obtain ⟨alerts₁, h₁, ⟨raised, status₂, alerts₂⟩, h₂, rfl⟩ := h
      obtain rfl := (evaluateBacklog_eq_ok.mp h₁).2
      have ih := evaluateBacklogs_eq_ok h₂
      simp only [Prod.mk.injEq] at ih
      obtain ⟨rfl, rfl, rfl⟩ := ih
      simp only [raisedJobs, evaluatedStatus, allEvaluatedAlerts, List.foldl_cons,
        List.filter_cons]
      by_cases hr : row.active alertAfter ∧ ¬ row.deliveryAlertActive
      · rw [if_pos hr, if_pos (by simpa using hr), List.map_cons]
      · rw [if_neg hr, if_neg (by simpa using hr)]

lemma mem_allEvaluatedAlerts {alertAfter : ℤ} {channels : List String} {now : String → Datetime}
    {rows : List BacklogRow} {alerts : RowTable AlertRow} {a : AlertRow}
    (ha : a ∈ (allEvaluatedAlerts alertAfter channels now rows alerts).rows) :
    a ∈ alerts.rows ∨ (Readable a.createdAt ∧ a.pending = true) := by
  induction rows generalizing alerts with
  | nil => exact Or.inl ha
  | cons row rows ih =>
      rcases ih ha with h | h
      · exact mem_evaluatedAlerts h
      · exact Or.inr h

/-! ## The effects -/

/-- Everything an operation can do to a database, with the result it returns. -/
inductive OpEffect (db : Database) : StoreOp → StoreResult → Database → Prop
  /-- The operation raised; its transaction was rolled back. -/
  | failed {op error} : OpEffect db op (.failed error) db
  | recorded {jobId result plan previous rows}
      (hprevious : latestSnapshot db jobId = .ok previous)
      (hrows : encodeObservations db.checkRuns.nextId 0 result.opportunities = .ok rows) :
      OpEffect db (.recordSuccess jobId result plan)
        (.recorded ⟨previous.isNone, transitionsSince previous result⟩)
        (recorded db jobId result plan (transitionsSince previous result) rows)
  | alerted {jobId error failedAt now alertAfter channels}
      (hraises : raisesAlert alertAfter
        (failedStatus db.jobStatus jobId error (Option.getD failedAt now)))
      (hnodup : channels.Nodup)
      (hfree : ∀ a ∈ db.alerts.rows, a.alertKey = checkFailureKey jobId → a.channel ∉ channels) :
      OpEffect db (.recordCheckFailure jobId error failedAt now alertAfter channels) (.raised true)
        { db with
          jobStatus := setFailureAlert
            (statusAfterFailure db.jobStatus jobId error (Option.getD failedAt now)) jobId
          alerts := raisedAlerts db.alerts jobId error (Option.getD failedAt now) channels
            (failedStatus db.jobStatus jobId error (Option.getD failedAt now)) }
  | counted {jobId error failedAt now alertAfter channels}
      (hquiet : ¬ raisesAlert alertAfter
        (failedStatus db.jobStatus jobId error (Option.getD failedAt now))) :
      OpEffect db (.recordCheckFailure jobId error failedAt now alertAfter channels)
        (.raised false)
        { db with
          jobStatus := statusAfterFailure db.jobStatus jobId error (Option.getD failedAt now) }
  | evaluated {alertAfter channels now} :
      OpEffect db (.raiseDeliveryBacklogAlerts alertAfter channels now)
        (.raisedFor (raisedJobs alertAfter (backlogRows db)))
        { db with
          jobStatus := evaluatedStatus alertAfter (backlogRows db) db.jobStatus
          alerts := allEvaluatedAlerts alertAfter channels now (backlogRows db) db.alerts }
  | delivered {id time} (hpending : ∃ n ∈ db.outbox.rows, isPendingId id n) :
      OpEffect db (.markNotificationDelivered id time) .updated
        { db with outbox := db.outbox.updateWhere (isPendingId id) (deliveredRow time)
                              (rowId_deliveredRow time) }
  | attempted {id time error} (hpending : ∃ n ∈ db.outbox.rows, isPendingId id n) :
      OpEffect db (.recordNotificationFailure id time error) .updated
        { db with outbox := db.outbox.updateWhere (isPendingId id) (failedRow time error)
                              (rowId_failedRow time error) }
  | alertDelivered {id time} (hpending : ∃ a ∈ db.alerts.rows, isPendingAlertId id a) :
      OpEffect db (.markOperationalAlertDelivered id time) .updated
        { db with alerts := db.alerts.updateWhere (isPendingAlertId id) (attemptedAlert time none)
                              (rowId_attemptedAlert time none) }
  | alertAttempted {id time error} (hpending : ∃ a ∈ db.alerts.rows, isPendingAlertId id a) :
      OpEffect db (.recordOperationalAlertFailure id time error) .updated
        { db with alerts := db.alerts.updateWhere (isPendingAlertId id)
                              (attemptedAlert time (some error))
                              (rowId_attemptedAlert time (some error)) }
  | pruned {observationsBefore notificationsBefore} :
      OpEffect db (.prune observationsBefore notificationsBefore)
        (.pruned (prune db observationsBefore notificationsBefore).1)
        (prune db observationsBefore notificationsBefore).2

lemma exists_of_countP_eq_one {α : Type} {l : List α} {p : α → Bool} (h : l.countP p = 1) :
    ∃ x ∈ l, p x := List.countP_pos_iff.mp (by omega)

/-- **Every operation has one of these effects.** -/
theorem applyOp_effect {db : Database} (hc : Consistent db) (op : StoreOp) :
    OpEffect db op (applyOp db op).1 (applyOp db op).2 := by
  cases op with
  | recordSuccess jobId result plan =>
      rw [applyOp]
      cases h : recordSuccess db jobId result plan with
      | error e => exact .failed
      | ok out =>
          obtain ⟨outcome, db'⟩ := out
          obtain ⟨previous, rows, hprev, hrows, rfl, rfl⟩ := (recordSuccess_eq_ok hc).mp h
          exact .recorded hprev hrows
  | recordCheckFailure jobId error failedAt now alertAfter channels =>
      rw [applyOp]
      cases h : recordCheckFailure db jobId error failedAt now alertAfter channels with
      | error e => exact .failed
      | ok out =>
          obtain ⟨raised, db'⟩ := out
          rcases recordCheckFailure_eq_ok.mp h with ⟨rfl, hr, hnd, hfree, rfl⟩ | ⟨rfl, hq, rfl⟩
          · exact .alerted hr hnd hfree
          · exact .counted hq
  | raiseDeliveryBacklogAlerts alertAfter channels now =>
      rw [applyOp]
      cases h : raiseDeliveryBacklogAlerts db alertAfter channels now with
      | error e => exact .failed
      | ok out =>
          rw [raiseDeliveryBacklogAlerts, raiseAs_eq_ok] at h
          simp only [bind_eq_ok, pure_eq_ok, Except.ok.injEq] at h
          obtain ⟨⟨raised, status, alerts⟩, hev, rfl⟩ := h
          obtain ⟨rfl, rfl, rfl⟩ := by simpa using evaluateBacklogs_eq_ok hev
          exact .evaluated
  | markNotificationDelivered id time =>
      rw [applyOp, markNotificationDelivered, updateNotification]
      split_ifs with h
      · exact .delivered (exists_of_countP_eq_one h)
      · exact .failed
  | recordNotificationFailure id time error =>
      rw [applyOp, recordNotificationFailure, updateNotification]
      split_ifs with h
      · exact .attempted (exists_of_countP_eq_one h)
      · exact .failed
  | markOperationalAlertDelivered id time =>
      rw [applyOp, markOperationalAlertDelivered, updateOperationalAlert]
      split_ifs with h
      · exact .alertDelivered (exists_of_countP_eq_one h)
      · exact .failed
  | recordOperationalAlertFailure id time error =>
      rw [applyOp, recordOperationalAlertFailure, updateOperationalAlert]
      split_ifs with h
      · exact .alertAttempted (exists_of_countP_eq_one h)
      · exact .failed
  | prune observationsBefore notificationsBefore => exact .pruned

end WebChecker
