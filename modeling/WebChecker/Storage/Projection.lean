import WebChecker.Storage.Parts

/-!
# What an operation does to a part

The operations of a job and the global ones, seen through its part.  A failure and a call on a row
read nothing else (`part_failed`, `part_updateNotification`).  A retention pass decides by the
job's own rows what has expired (`part_prune`): whether a run is the latest one, and whether
it holds an undelivered row, is a matter of one job.  An evaluation of the delivery backlogs
visits the jobs one after another, and a job's alerts change at its own row only
(`part_evaluated`).

The evaluation is one transaction, though, and so fails for all jobs or for none
(`evaluation_fails`).
-/

namespace WebChecker

open Relational Results Runs

/-! ## Failures -/

/-- A part after a recorded failure, with new ids from `n` on. -/
def JobPart.failed (p : JobPart) (raised : Bool) (n : ℕ) (jobId error : String)
    (occurredAt : Datetime) (channels : List String) (row : JobStatusRow) : JobPart :=
  if raised then
    { p with
      status := some { row with failureAlertActive := true }
      alerts := p.alerts ++ (channels.zipIdx n).map fun q =>
        alertRow (checkFailureKey jobId) jobId ("Repeated check failures: " ++ jobId)
          (toString row.consecutiveFailures ++
            " consecutive scheduled checks failed. Last error: " ++ sliceTo 1000 error) occurredAt
          q.1 q.2 }
  else { p with status := some row }

section Failures

variable {db db' : Database} {jobId error : String} {failedAt : Option Datetime} {now : Datetime}
  {alertAfter : ℤ} {channels : List String} {raised : Bool}

/-- **A recorded failure**, seen in the part of its job. -/
lemma part_failed
    (h : recordCheckFailure db jobId error failedAt now alertAfter channels = .ok (raised, db')) :
    db'.part jobId = (db.part jobId).failed raised db.alerts.nextId jobId error
      (failedAt.getD now) channels (failedStatus db.jobStatus jobId error (failedAt.getD now)) := by
  rcases recordCheckFailure_eq_ok.mp h with ⟨rfl, _, _, _, rfl⟩ | ⟨rfl, _, rfl⟩
  · refine JobPart.ext rfl rfl rfl rfl ?_ ?_
    · exact lookup_alerted_self db.jobStatus jobId error (failedAt.getD now)
    · refine (alerts_enqueued _ _ _ _ _ _ _ _).trans ?_
      rw [if_pos rfl]
      rfl
  · exact JobPart.ext rfl rfl rfl rfl
      (lookup_statusAfterFailure db.jobStatus jobId error (failedAt.getD now)) rfl

/-- What `record_check_failure` asks of the alerts that are there. -/
lemma free_iff {alerts : RowTable AlertRow} {alertKey : String} :
    (∀ a ∈ alerts.rows, a.alertKey = alertKey → a.channel ∉ channels) ↔
      ∀ c ∈ alertChannels alerts alertKey, c ∉ channels := by
  simp only [alertChannels, List.forall_mem_map, List.mem_filter, beq_iff_eq, and_imp]

/-- The channels of a key of a job show in the part. -/
lemma alertChannels_part (hs : Separated db) {alertKey : String}
    (hkey : alertKey = checkFailureKey jobId ∨ alertKey = deliveryBacklogKey jobId) :
    alertChannels db.alerts alertKey
      = ((db.part jobId).alerts.filter fun a => a.alertKey == alertKey).map AlertRow.channel := by
  rw [alertChannels, Database.part, jobAlerts, List.filter_filter]
  refine congrArg _ (List.filter_congr fun a ha => ?_)
  by_cases hk : a.alertKey = alertKey
  · subst hk
    simp [hs.alerts_owned.jobId_of_key ha hkey]
  · simp [hk]

/-- Enqueuing fails for one reason. -/
lemma enqueueOperationalAlert_eq_error {alertKey jobId title detail : String}
    {createdAt : Datetime} {channels : List String} {alerts : RowTable AlertRow} {e : PyError}
    (h : enqueueOperationalAlert alertKey jobId title detail createdAt channels alerts = .error e) :
    e = .sqlite ("UNIQUE constraint failed: operational_alert_outbox.alert_key, " ++
      "operational_alert_outbox.channel") := by
  induction channels generalizing alerts with
  | nil => cases h
  | cons channel channels ih =>
      rw [enqueueOperationalAlert, insertAlert] at h
      split_ifs at h
      · exact (Except.error.inj h).symm
      · exact ih h

/-- So does recording a failure: two failed calls for a job raise the same error. -/
lemma recordCheckFailure_eq_error {other : Database} {e e' : StorageError}
    (h : recordCheckFailure db jobId error failedAt now alertAfter channels = .error e)
    (h' : recordCheckFailure other jobId error failedAt now alertAfter channels = .error e') :
    e' = e := by
  have hone : ∀ {db : Database} {e : StorageError},
      recordCheckFailure db jobId error failedAt now alertAfter channels = .error e →
        e = ⟨s!"could not record check failure for {pyRepr jobId}: " ++
          ("UNIQUE constraint failed: operational_alert_outbox.alert_key, " ++
            "operational_alert_outbox.channel")⟩ := by
    intro db e h
    rw [recordCheckFailure, recordCheckFailureBody] at h
    simp only [lookup_statusAfterFailure] at h
    split_ifs at h
    · cases hq : enqueueOperationalAlert (checkFailureKey jobId) jobId
        ("Repeated check failures: " ++ jobId)
        (toString (failedStatus db.jobStatus jobId error (failedAt.getD now)).consecutiveFailures ++
          " consecutive scheduled checks failed. Last error: " ++ sliceTo 1000 error)
        (failedAt.getD now) channels db.alerts with
      | ok alerts =>
          rw [hq] at h
          cases h
      | error x =>
          rw [hq, enqueueOperationalAlert_eq_error hq] at h
          exact (Except.error.inj h).symm
    · cases h
  rw [hone h, hone h']

end Failures

/-! ## Calls on rows -/

section Rows

variable {db : Database} {jobId : String} {id : ℕ}

/-- Whether a call on an outbox row of a job finds it shows in the part. -/
lemma outbox_found_iff (hid : id ∈ (db.part jobId).outboxIds) :
    db.outbox.rows.countP (isPendingId id) = 1 ↔
      ∃ n ∈ (db.part jobId).outbox, isPendingId id n = true :=
  RowTable.countP_rowId_eq_one_iff hid

lemma alert_found_iff (hid : id ∈ (db.part jobId).alertIds) :
    db.alerts.rows.countP (isPendingAlertId id) = 1 ↔
      ∃ a ∈ (db.part jobId).alerts, isPendingAlertId id a = true :=
  RowTable.countP_rowId_eq_one_iff hid

/-- A part after a call on one of its outbox rows. -/
def JobPart.notificationUpdated (p : JobPart) (id : ℕ) (g : OutboxRow → OutboxRow) : JobPart :=
  { p with outbox := p.outbox.map fun n => if isPendingId id n then g n else n }

/-- A part after a call on one of its alerts. -/
def JobPart.alertUpdated (p : JobPart) (id : ℕ) (time : Datetime) (error : Option String) :
    JobPart :=
  { p with alerts := p.alerts.map fun a =>
      if isPendingAlertId id a then attemptedAlert time error a else a }

/-- **A call on an outbox row**, seen in the part. -/
lemma part_updateNotification {g : OutboxRow → OutboxRow} (hg : ∀ n, rowId (g n) = rowId n)
    (hjob : ∀ n, (g n).jobId = n.jobId) (hid : id ∈ (db.part jobId).outboxIds) :
    (∃ n ∈ (db.part jobId).outbox, isPendingId id n = true) ∧
        (∃ db', updateNotification db id g hg = .ok db' ∧
          db'.part jobId = (db.part jobId).notificationUpdated id g) ∨
      (¬ ∃ n ∈ (db.part jobId).outbox, isPendingId id n = true) ∧
        updateNotification db id g hg
          = .error ⟨s!"pending notification {id} was not found"⟩ := by
  rw [← outbox_found_iff hid, updateNotification]
  split_ifs with hfound
  · refine Or.inl ⟨hfound, _, rfl, JobPart.ext rfl rfl rfl ?_ rfl rfl⟩
    exact outbox_update db jobId id hg hjob
  · exact Or.inr ⟨hfound, rfl⟩

/-- **A call on an alert**, seen in the part. -/
lemma part_updateOperationalAlert (time : Datetime) (error : Option String)
    (hid : id ∈ (db.part jobId).alertIds) :
    (∃ a ∈ (db.part jobId).alerts, isPendingAlertId id a = true) ∧
        (∃ db', updateOperationalAlert db id time error = .ok db' ∧
          db'.part jobId = (db.part jobId).alertUpdated id time error) ∨
      (¬ ∃ a ∈ (db.part jobId).alerts, isPendingAlertId id a = true) ∧
        updateOperationalAlert db id time error
          = .error ⟨s!"pending operational alert {id} was not found"⟩ := by
  rw [← alert_found_iff hid, updateOperationalAlert]
  split_ifs with hfound
  · refine Or.inl ⟨hfound, _, rfl, JobPart.ext rfl rfl rfl rfl rfl ?_⟩
    exact alerts_update db jobId id time error
  · exact Or.inr ⟨hfound, rfl⟩

end Rows

/-! ## Retention passes -/

/-- A transition of the run has an undelivered row. -/
def JobPart.holdsPending (p : JobPart) (run : CheckRun) : Bool :=
  p.transitions.any fun t =>
    t.runId == run.id && p.outbox.any fun n => n.transitionId == t.id && n.pending

/-- The run is early enough, not the latest one, and holds no undelivered row. -/
def JobPart.expiredRun (p : JobPart) (before : Datetime) (run : CheckRun) : Bool :=
  decide (run.checkedAt < before.isoformat) &&
    decide (p.runs.getLast?.map CheckRun.id ≠ some run.id) && !p.holdsPending run

def JobPart.expiredRunIds (p : JobPart) (before : Datetime) : List ℕ :=
  (p.runs.filter (p.expiredRun before)).map CheckRun.id

def JobPart.expiredTransitionIds (p : JobPart) (before : Datetime) : List ℕ :=
  (p.transitions.filter fun t => t.runId ∈ p.expiredRunIds before).map TransitionRow.id

/-- A part after a retention pass. -/
def JobPart.pruned (p : JobPart) (observationsBefore notificationsBefore : Datetime) :
    JobPart where
  runs := p.runs.filter fun r => !p.expiredRun observationsBefore r
  observations := p.observations.filter fun o => o.runId ∉ p.expiredRunIds observationsBefore
  transitions := p.transitions.filter fun t => t.runId ∉ p.expiredRunIds observationsBefore
  outbox := p.outbox.filter fun n => !(completedBefore notificationsBefore n ||
    decide (n.transitionId ∈ p.expiredTransitionIds observationsBefore))
  status := p.status
  alerts := p.alerts

section Retention

variable {db : Database} {jobId : String}

lemma mem_part_transitions {t : TransitionRow} :
    t ∈ (db.part jobId).transitions ↔ t ∈ db.transitions.rows ∧ ofJob db jobId t.runId = true := by
  simp [Database.part]

lemma mem_part_outbox {n : OutboxRow} :
    n ∈ (db.part jobId).outbox ↔ n ∈ db.outbox.rows ∧ n.jobId = jobId := by
  simp [Database.part]

/-- The rows below a transition of a job are rows of the job. -/
lemma Separated.jobId_of_transition (hs : Separated db) {n : OutboxRow} (hn : n ∈ db.outbox.rows)
    (ht : n.transitionId ∈ (db.part jobId).transitionIds) : n.jobId = jobId :=
  transitionIds_unique (hs.outbox_owned n hn) ht

lemma ofJob_of_mem {run : CheckRun} (hrun : run ∈ jobRuns db jobId) :
    ofJob db jobId run.id = true := by
  rw [mem_jobRuns] at hrun
  exact ofJob_iff.mpr ⟨run, hrun.1, hrun.2, rfl⟩

/-- Whether a run holds an undelivered row shows in the part. -/
lemma holdsPending_part (hs : Separated db) {run : CheckRun} (hrun : run ∈ jobRuns db jobId) :
    holdsPending db run = (db.part jobId).holdsPending run := by
  rw [Bool.eq_iff_iff, holdsPending, JobPart.holdsPending]
  simp only [List.any_eq_true, Bool.and_eq_true, beq_iff_eq]
  constructor
  · rintro ⟨t, ht, hid, n, hn, hnt, hp⟩
    have htpart : t ∈ (db.part jobId).transitions :=
      mem_part_transitions.mpr ⟨ht, hid ▸ ofJob_of_mem hrun⟩
    have hjob : n.jobId = jobId :=
      hs.jobId_of_transition hn (hnt ▸ List.mem_map_of_mem htpart)
    exact ⟨t, htpart, hid, n, mem_part_outbox.mpr ⟨hn, hjob⟩, hnt, hp⟩
  · rintro ⟨t, ht, hid, n, hn, hnt, hp⟩
    exact ⟨t, (mem_part_transitions.mp ht).1, hid, n, (mem_part_outbox.mp hn).1, hnt, hp⟩

/-- Whether a run is the latest of its job shows in the part. -/
lemma mem_latestRunIds {run : CheckRun} (hrun : run ∈ jobRuns db jobId) :
    run.id ∈ latestRunIds db ↔ (db.part jobId).runs.getLast?.map CheckRun.id = some run.id := by
  rw [mem_jobRuns] at hrun
  rw [latestRunIds, List.mem_filterMap]
  constructor
  · rintro ⟨j, _, hj⟩
    obtain ⟨r, hr, hid⟩ := Option.map_eq_some_iff.mp hj
    obtain ⟨hmem, hjob⟩ := latestRun_eq_some hr
    obtain rfl : r = run := RowTable.eq_of_rowId_eq hmem hrun.1 hid
    obtain rfl : j = jobId := hjob.symm.trans hrun.2
    exact hj
  · intro hlast
    exact ⟨jobId, List.mem_map.mpr ⟨run, hrun⟩, hlast⟩

lemma expiredRun_part (hs : Separated db) (before : Datetime) {run : CheckRun}
    (hrun : run ∈ jobRuns db jobId) :
    expiredRun db before run = (db.part jobId).expiredRun before run := by
  rw [expiredRun, JobPart.expiredRun, holdsPending_part hs hrun]
  simp only [mem_latestRunIds hrun, ne_eq]

lemma mem_expiredRunIds_part (hs : Separated db) (before : Datetime) {runId : ℕ}
    (hof : ofJob db jobId runId = true) :
    runId ∈ expiredRunIds db before ↔ runId ∈ (db.part jobId).expiredRunIds before := by
  obtain ⟨run, hmem, hjob, rfl⟩ := ofJob_iff.mp hof
  have hrun : run ∈ jobRuns db jobId := mem_jobRuns.mpr ⟨hmem, hjob⟩
  simp only [expiredRunIds, JobPart.expiredRunIds, List.mem_map, List.mem_filter]
  constructor
  · rintro ⟨r, ⟨hr, hexp⟩, hid⟩
    obtain rfl : r = run := RowTable.eq_of_rowId_eq hr hmem hid
    exact ⟨r, ⟨hrun, expiredRun_part hs before hrun ▸ hexp⟩, rfl⟩
  · rintro ⟨r, ⟨hr, hexp⟩, hid⟩
    exact ⟨r, ⟨(mem_jobRuns.mp hr).1, (expiredRun_part hs before hr).trans hexp⟩, hid⟩

lemma mem_expiredTransitionIds_part (hs : Separated db) (before : Datetime) {id : ℕ}
    (hid : id ∈ (db.part jobId).transitionIds) :
    id ∈ expiredTransitionIds db before ↔ id ∈ (db.part jobId).expiredTransitionIds before := by
  obtain ⟨t, ht, hof, rfl⟩ := mem_transitionIds.mp hid
  simp only [expiredTransitionIds, JobPart.expiredTransitionIds, List.mem_map, List.mem_filter,
    decide_eq_true_eq, mem_part_transitions]
  constructor
  · rintro ⟨t', ⟨ht', hexp⟩, hid'⟩
    obtain rfl : t' = t := RowTable.eq_of_rowId_eq ht' ht hid'
    exact ⟨t', ⟨⟨ht, hof⟩, (mem_expiredRunIds_part hs before hof).mp hexp⟩, rfl⟩
  · rintro ⟨t', ⟨⟨ht', hof'⟩, hexp⟩, hid'⟩
    exact ⟨t', ⟨ht', (mem_expiredRunIds_part hs before hof').mpr hexp⟩, hid'⟩

/-- Two selections in either order, where the second may look at what the first has left. -/
lemma filter_filter_congr {α : Type} {l : List α} {p q p' q' : α → Bool}
    (hp : ∀ a ∈ l, (q' a && p' a) = (p a && q a)) :
    (l.filter p').filter q' = (l.filter q).filter p := by
  rw [List.filter_filter, List.filter_filter]
  exact List.filter_congr hp

/-- **A retention pass**, seen in a part. -/
lemma part_prune (hs : Separated db) (observationsBefore notificationsBefore : Datetime)
    (jobId : String) :
    (prune db observationsBefore notificationsBefore).2.part jobId
      = (db.part jobId).pruned observationsBefore notificationsBefore := by
  have hexpired : ∀ runId, (ofJob (prune db observationsBefore notificationsBefore).2 jobId runId &&
      decide (runId ∉ expiredRunIds db observationsBefore))
        = (decide (runId ∉ (db.part jobId).expiredRunIds observationsBefore) &&
          ofJob db jobId runId) := by
    intro runId
    rw [ofJob_prune]
    cases hof : ofJob db jobId runId with
    | false => simp
    | true => simp [mem_expiredRunIds_part hs observationsBefore hof]
  rw [prune_snd] at hexpired ⊢
  refine JobPart.ext ?_ ?_ ?_ ?_ rfl rfl
  · refine filter_filter_congr fun r hr => ?_
    by_cases hjob : r.jobId = jobId
    · rw [expiredRun_part hs observationsBefore (mem_jobRuns.mpr ⟨hr, hjob⟩), Bool.and_comm]
    · rw [beq_false_of_ne hjob, Bool.false_and, Bool.and_false]
  · exact filter_filter_congr fun o _ => hexpired o.runId
  · refine filter_filter_congr fun t _ => ?_
    rw [← hexpired, decide_not]
  · refine filter_filter_congr fun n hn => ?_
    by_cases hjob : n.jobId = jobId
    · subst hjob
      simp [mem_expiredTransitionIds_part hs observationsBefore (hs.outbox_owned n hn)]
    · rw [beq_false_of_ne hjob, Bool.false_and, Bool.and_false]

end Retention

/-! ## Evaluations -/

/-- An evaluation enqueues alerts for the job. -/
def RaisesBacklog (db : Database) (alertAfter : ℤ) (jobId : String) : Prop :=
  ∃ s ∈ db.jobStatus.rows, s.jobId = jobId ∧ s.deliveryAlertActive = false ∧
    BacklogActive db.outbox alertAfter jobId

/-- An evaluation deletes the alerts of the job. -/
def ClearsBacklog (db : Database) (alertAfter : ℤ) (jobId : String) : Prop :=
  ∃ s ∈ db.jobStatus.rows, s.jobId = jobId ∧ s.deliveryAlertActive = true ∧
    ¬ BacklogActive db.outbox alertAfter jobId

/-- The database after an evaluation that has not failed. -/
def evaluatedDatabase (db : Database) (alertAfter : ℤ) (channels : List String)
    (now : String → Datetime) : Database :=
  { db with
    jobStatus := evaluatedStatus alertAfter (backlogRows db) db.jobStatus
    alerts := allEvaluatedAlerts alertAfter channels now (backlogRows db) db.alerts }

/-- The backlog query's row for the job. -/
def JobPart.backlogRow (p : JobPart) (s : JobStatusRow) : BacklogRow :=
  let pending := p.outbox.filter OutboxRow.pending
  ⟨s.jobId, s.deliveryAlertActive, pending.length, (pending.map OutboxRow.attempts).max?⟩

/-- The alerts of a job after the evaluation of its row, with new ids from `n` on. -/
def JobPart.evaluatedAlerts (p : JobPart) (alertAfter : ℤ) (channels : List String)
    (now : String → Datetime) (n : ℕ) (row : BacklogRow) : List AlertRow :=
  if row.active alertAfter ∧ ¬ row.deliveryAlertActive then
    p.alerts ++ (channels.zipIdx n).map fun q =>
      alertRow (deliveryBacklogKey row.jobId) row.jobId
        ("Notification delivery backlog: " ++ row.jobId)
        (toString row.count ++ " deliveries remain pending; the oldest has failed " ++
          toString (row.maxAttempts.getD 0) ++ " times. Check worker logs.") (now row.jobId)
        q.1 q.2
  else if ¬ row.active alertAfter ∧ row.deliveryAlertActive then
    p.alerts.filter fun a => a.alertKey ≠ deliveryBacklogKey row.jobId
  else p.alerts

/-- A part after an evaluation.  Without a status row the job is not evaluated. -/
def JobPart.evaluated (p : JobPart) (alertAfter : ℤ) (channels : List String)
    (now : String → Datetime) (n : ℕ) : JobPart :=
  match p.status with
  | none => p
  | some s =>
    { p with
      status := some { s with deliveryAlertActive := (p.backlogRow s).active alertAfter }
      alerts := p.evaluatedAlerts alertAfter channels now n (p.backlogRow s) }

/-- The same two of a part. -/
def JobPart.raises (p : JobPart) (alertAfter : ℤ) : Prop :=
  ∃ s, p.status = some s ∧ s.deliveryAlertActive = false ∧
    (p.backlogRow s).active alertAfter = true

def JobPart.clears (p : JobPart) (alertAfter : ℤ) : Prop :=
  ∃ s, p.status = some s ∧ s.deliveryAlertActive = true ∧
    (p.backlogRow s).active alertAfter = false

section Evaluation

variable {db : Database} {jobId : String} {alertAfter : ℤ} {channels : List String}
  {now : String → Datetime}

lemma backlogRow_part (db : Database) (s : JobStatusRow) :
    backlogRow db.outbox s = (db.part s.jobId).backlogRow s := by
  have hpending : pendingOf db.outbox s.jobId
      = (db.part s.jobId).outbox.filter OutboxRow.pending := by
    rw [Database.part, List.filter_filter, pendingOf]
    exact List.filter_congr fun n _ => Bool.and_comm _ _
  rw [backlogRow, hpending, JobPart.backlogRow]

/-- The status row of a job, by its key and in the part. -/
lemma exists_status_iff {P : JobStatusRow → Prop} :
    (∃ s ∈ db.jobStatus.rows, s.jobId = jobId ∧ P s) ↔
      ∃ s, (db.part jobId).status = some s ∧ P s := by
  have hlookup : ∀ s, (db.part jobId).status = some s ↔ s ∈ db.jobStatus.rows ∧ s.jobId = jobId :=
    fun _ => KeyTable.lookup_eq_some
  simp only [hlookup, and_assoc]

lemma raisesBacklog_iff :
    RaisesBacklog db alertAfter jobId ↔ (db.part jobId).raises alertAfter := by
  rw [RaisesBacklog, exists_status_iff, JobPart.raises]
  refine exists_congr fun s => and_congr_right fun hs => and_congr_right fun _ => ?_
  obtain rfl : s.jobId = jobId := jobId_of_lookup hs
  rw [← backlogRow_part, backlogRow_active]

lemma clearsBacklog_iff :
    ClearsBacklog db alertAfter jobId ↔ (db.part jobId).clears alertAfter := by
  rw [ClearsBacklog, exists_status_iff, JobPart.clears]
  refine exists_congr fun s => and_congr_right fun hs => and_congr_right fun _ => ?_
  obtain rfl : s.jobId = jobId := jobId_of_lookup hs
  rw [← backlogRow_part, ← Bool.not_eq_true, backlogRow_active]

lemma not_raises_of_clears {p : JobPart} (h : p.clears alertAfter) : ¬ p.raises alertAfter := by
  rintro ⟨s, hs, hoff, _⟩
  obtain ⟨s', hs', hon, _⟩ := h
  obtain rfl : s = s' := Option.some.inj (hs.symm.trans hs')
  simp [hoff] at hon

/-- **A job whose flag is right** is left alone by an evaluation. -/
lemma evaluated_eq_self {p : JobPart} (hraises : ¬ p.raises alertAfter)
    (hclears : ¬ p.clears alertAfter) (channels : List String) (now : String → Datetime) (n : ℕ) :
    p.evaluated alertAfter channels now n = p := by
  rw [JobPart.evaluated]
  cases hs : p.status with
  | none => rfl
  | some s =>
      have hsame : (p.backlogRow s).active alertAfter = s.deliveryAlertActive := by
        cases hactive : (p.backlogRow s).active alertAfter <;> cases hflag : s.deliveryAlertActive
        · rfl
        · exact absurd ⟨s, hs, hflag, hactive⟩ hclears
        · exact absurd ⟨s, hs, hflag, hactive⟩ hraises
        · rfl
      have hflag : (p.backlogRow s).deliveryAlertActive = s.deliveryAlertActive := rfl
      refine JobPart.ext rfl rfl rfl rfl ?_ ?_
      · simp only [hsame, hs]
      · simp only [JobPart.evaluatedAlerts, hsame, hflag]
        simp

/-- An evaluation that clears a job's backlog shows in its status row. -/
lemma status_of_clears {p : JobPart} (h : p.clears alertAfter) (channels : List String)
    (now : String → Datetime) (n : ℕ) :
    (p.evaluated alertAfter channels now n).status ≠ p.status := by
  obtain ⟨s, hs, hon, hinactive⟩ := h
  rw [JobPart.evaluated, hs]
  dsimp only
  rw [hinactive]
  intro heq
  have hflag := congrArg JobStatusRow.deliveryAlertActive (Option.some.inj heq)
  simp [hon] at hflag

/-- Evaluating another job leaves the alerts of a job alone. -/
lemma jobAlerts_evaluated_of_ne {alerts : RowTable AlertRow} (h : AlertsOwned alerts)
    {row : BacklogRow} (hne : row.jobId ≠ jobId) :
    jobAlerts (evaluatedAlerts alertAfter channels now row alerts) jobId
      = jobAlerts alerts jobId := by
  rw [evaluatedAlerts]
  split_ifs
  · rw [alerts_enqueued, if_neg hne, List.append_nil]
  · exact alerts_delete_of_ne h hne (Or.inr rfl)
  · rfl

lemma jobAlerts_allEvaluated_of_ne {rows : List BacklogRow} {alerts : RowTable AlertRow}
    (h : AlertsOwned alerts) (hne : ∀ row ∈ rows, row.jobId ≠ jobId) :
    jobAlerts (allEvaluatedAlerts alertAfter channels now rows alerts) jobId
      = jobAlerts alerts jobId := by
  induction rows generalizing alerts with
  | nil => rfl
  | cons row rows ih =>
      rw [allEvaluatedAlerts_cons,
        ih (h.evaluated alertAfter channels now row) fun r hr => hne r (List.mem_cons_of_mem _ hr),
        jobAlerts_evaluated_of_ne h (hne row List.mem_cons_self)]

/-- **The alerts of an evaluated job change at its own row**, from what they were before the
evaluation. -/
lemma jobAlerts_allEvaluated (alertAfter : ℤ) (channels : List String) (now : String → Datetime)
    {rows : List BacklogRow} {alerts : RowTable AlertRow} (h : AlertsOwned alerts)
    (hnodup : (rows.map BacklogRow.jobId).Nodup) {row : BacklogRow} (hrow : row ∈ rows) :
    ∃ before : RowTable AlertRow, jobAlerts before row.jobId = jobAlerts alerts row.jobId ∧
      jobAlerts (allEvaluatedAlerts alertAfter channels now rows alerts) row.jobId
        = jobAlerts (evaluatedAlerts alertAfter channels now row before) row.jobId := by
  induction rows generalizing alerts with
  | nil => simp at hrow
  | cons r rows ih =>
      rw [List.map_cons, List.nodup_cons] at hnodup
      rw [allEvaluatedAlerts_cons]
      have howned := h.evaluated alertAfter channels now r
      rcases List.mem_cons.mp hrow with rfl | hrow
      · refine ⟨alerts, rfl, jobAlerts_allEvaluated_of_ne howned fun r' hr' hjob => ?_⟩
        exact hnodup.1 (List.mem_map.mpr ⟨r', hr', hjob⟩)
      · have hne : r.jobId ≠ row.jobId := fun hjob =>
          hnodup.1 (hjob ▸ List.mem_map_of_mem hrow)
        obtain ⟨before, hbefore, hafter⟩ := ih howned hnodup.2 hrow
        exact ⟨before, hbefore.trans (jobAlerts_evaluated_of_ne h hne), hafter⟩

/-- The evaluation of the job's own row, seen in the part. -/
lemma jobAlerts_evaluated {alerts : RowTable AlertRow} {row : BacklogRow} {p : JobPart}
    (hp : jobAlerts alerts row.jobId = p.alerts) :
    jobAlerts (evaluatedAlerts alertAfter channels now row alerts) row.jobId
      = p.evaluatedAlerts alertAfter channels now alerts.nextId row := by
  rw [evaluatedAlerts, JobPart.evaluatedAlerts]
  split_ifs
  · rw [alerts_enqueued, if_pos rfl, hp]
  · rw [alerts_delete, hp]
  · exact hp

/-- The ids of a job's alerts are below the next one. -/
lemma lt_nextId_of_jobAlerts {alerts : RowTable AlertRow} :
    ∀ a ∈ jobAlerts alerts jobId, a.id < alerts.nextId := fun _ ha =>
  RowTable.rowId_lt_nextId (List.mem_filter.mp ha).1

/-- **An evaluation**, seen in a part. -/
lemma part_evaluated (hs : Separated db) (alertAfter : ℤ) (channels : List String)
    (now : String → Datetime) (jobId : String) :
    ∃ n, (∀ i ∈ (db.part jobId).alertIds, i < n) ∧
      (evaluatedDatabase db alertAfter channels now).part jobId
        = (db.part jobId).evaluated alertAfter channels now n := by
  have hstatus := lookup_evaluatedStatus_job db alertAfter jobId
  have howned := hs.alerts_owned
  cases hlookup : db.jobStatus.lookup jobId with
  | none =>
      have hnone : (db.part jobId).status = none := hlookup
      rw [hlookup, Option.map_none] at hstatus
      refine ⟨db.alerts.nextId, List.forall_mem_map.mpr lt_nextId_of_jobAlerts, ?_⟩
      rw [JobPart.evaluated, hnone]
      refine JobPart.ext rfl rfl rfl rfl (hstatus.trans hnone.symm) ?_
      refine jobAlerts_allEvaluated_of_ne howned fun row hrow hjob => ?_
      obtain ⟨s, hmem, rfl⟩ := mem_backlogRows.mp hrow
      exact KeyTable.lookup_eq_none.mp hlookup s hmem hjob
  | some s =>
      obtain ⟨hmem, rfl⟩ := KeyTable.lookup_eq_some.mp hlookup
      simp only [key_jobStatusRow] at hlookup hstatus ⊢
      have hsome : (db.part s.jobId).status = some s := hlookup
      have hrow : backlogRow db.outbox s ∈ backlogRows db := mem_backlogRows.mpr ⟨s, hmem, rfl⟩
      obtain ⟨before, hbefore, hafter⟩ :=
        jobAlerts_allEvaluated alertAfter channels now howned (nodup_backlogRows db) hrow
      rw [backlogRow_jobId] at hbefore hafter
      have hids : ∀ a ∈ (db.part s.jobId).alerts, a.id < before.nextId := by
        intro a ha
        rw [Database.part, ← hbefore] at ha
        exact lt_nextId_of_jobAlerts a ha
      refine ⟨before.nextId, List.forall_mem_map.mpr hids, ?_⟩
      rw [JobPart.evaluated, hsome]
      refine JobPart.ext rfl rfl rfl rfl ?_ ?_
      · rw [hlookup, Option.map_some, backlogRow_part] at hstatus
        exact hstatus
      · refine hafter.trans ?_
        dsimp only
        rw [← backlogRow_part]
        exact jobAlerts_evaluated hbefore

/-- What makes an evaluation fail: it enqueues alerts, and the channels repeat a name. -/
lemma nodup_of_evaluateBacklogs {rows : List BacklogRow} {status : KeyTable String JobStatusRow}
    {alerts : RowTable AlertRow} {out}
    (h : evaluateBacklogs alertAfter channels now rows status alerts = .ok out) :
    ∀ row ∈ rows, row.active alertAfter ∧ ¬ row.deliveryAlertActive → channels.Nodup := by
  induction rows generalizing status alerts out with
  | nil => simp
  | cons row rows ih =>
      simp only [evaluateBacklogs, bind_eq_ok] at h
      obtain ⟨alerts', hfirst, out', hrest, _⟩ := h
      rw [List.forall_mem_cons]
      exact ⟨fun hraise => ((evaluateBacklog_eq_ok.mp hfirst).1 hraise).1, ih hrest⟩

lemma exists_evaluateBacklogs {rows : List BacklogRow} {status : KeyTable String JobStatusRow}
    {alerts : RowTable AlertRow}
    (h : ∀ row ∈ rows, ¬ (row.active alertAfter ∧ ¬ row.deliveryAlertActive)) :
    ∃ out, evaluateBacklogs alertAfter channels now rows status alerts = .ok out := by
  induction rows generalizing status alerts with
  | nil => exact ⟨_, rfl⟩
  | cons row rows ih =>
      have hfirst : evaluateBacklog alertAfter channels now row alerts = .ok _ :=
        evaluateBacklog_eq_ok.mpr ⟨fun hraise => absurd hraise (h row List.mem_cons_self), rfl⟩
      rw [evaluateBacklogs, hfirst]
      simp only [ok_bind]
      obtain ⟨out, hout⟩ := ih fun r hr => h r (List.mem_cons_of_mem _ hr)
      rw [hout]
      exact ⟨_, rfl⟩

/-- The rows of the query that make an evaluation enqueue alerts. -/
lemma raising_row_iff {s : JobStatusRow} (hs : s ∈ db.jobStatus.rows) :
    ((backlogRow db.outbox s).active alertAfter ∧ ¬ (backlogRow db.outbox s).deliveryAlertActive) ↔
      RaisesBacklog db alertAfter s.jobId := by
  rw [backlogRow_active, backlogRow_deliveryAlertActive, Bool.not_eq_true]
  constructor
  · rintro ⟨hactive, hoff⟩
    exact ⟨s, hs, rfl, hoff, hactive⟩
  · rintro ⟨s', hs', hjob, hoff, hactive⟩
    rw [KeyTable.eq_of_key_eq hs' hs hjob] at hoff
    exact ⟨hactive, hoff⟩

/-- **An evaluation succeeds** on distinct channels, or if no job is to get alerts. -/
lemma evaluation_succeeds (hs : Separated db)
    (h : channels.Nodup ∨ ∀ jobId, ¬ RaisesBacklog db alertAfter jobId) :
    (applyOp db (.raiseDeliveryBacklogAlerts alertAfter channels now)).2
      = evaluatedDatabase db alertAfter channels now := by
  have hok : ∃ out, evaluateBacklogs alertAfter channels now (backlogRows db) db.jobStatus
      db.alerts = .ok out := by
    rcases h with hnodup | hquiet
    · refine ⟨_, evaluateBacklogs_ok hnodup (nodup_backlogRows db) fun row hrow hoff => ?_⟩
      obtain ⟨s, hmem, rfl⟩ := mem_backlogRows.mp hrow
      have hlookup : db.jobStatus.lookup s.jobId = some s := KeyTable.lookup_eq_some.mpr ⟨hmem, rfl⟩
      refine hs.quiet s.jobId ?_
      rw [deliveryAlertActive, hlookup]
      exact hoff
    · refine exists_evaluateBacklogs fun row hrow hraise => ?_
      obtain ⟨s, hmem, rfl⟩ := mem_backlogRows.mp hrow
      exact hquiet s.jobId ((raising_row_iff hmem).mp hraise)
  obtain ⟨out, hout⟩ := hok
  rw [applyOp, raiseDeliveryBacklogAlerts, hout, evaluateBacklogs_eq_ok hout]
  rfl

/-- **An evaluation fails** if some job is to get alerts and the channels repeat a name. -/
lemma evaluation_fails (hnodup : ¬ channels.Nodup) (h : RaisesBacklog db alertAfter jobId) :
    (applyOp db (.raiseDeliveryBacklogAlerts alertAfter channels now)).2 = db := by
  rw [applyOp, raiseDeliveryBacklogAlerts]
  cases hout : evaluateBacklogs alertAfter channels now (backlogRows db) db.jobStatus
      db.alerts with
  | error e => rfl
  | ok out =>
      obtain ⟨s, hmem, rfl, hoff, hactive⟩ := h
      have hrow : backlogRow db.outbox s ∈ backlogRows db := mem_backlogRows.mpr ⟨s, hmem, rfl⟩
      refine absurd (nodup_of_evaluateBacklogs hout _ hrow ?_) hnodup
      exact (raising_row_iff hmem).mpr ⟨s, hmem, rfl, hoff, hactive⟩

end Evaluation

end WebChecker
