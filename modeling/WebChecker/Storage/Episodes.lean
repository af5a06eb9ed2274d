import WebChecker.Storage.Alerts

/-!
# Alert episodes

An *episode* of a job is the part of a history after its last recorded success.  The store keeps
three witnesses of it in two tables: a counter and a flag in `job_status`, and the alert rows of
the job's key.  `FailureEpisode` says what each of them has to do with the history, and the step
lemma is one case per effect; the run lemma is the induction over histories.

`BacklogEpisode` is the same for delivery backlogs, where the history enters through the last
evaluation only.  Both hold for every run whose calls use a non-empty tuple of distinct channels.
-/

namespace WebChecker

open Relational Results Runs

/-- One applied store operation. -/
abbrev StoreEvent := Event Database StoreOp StoreResult

/-- A non-empty tuple of pairwise distinct channels. -/
def AlertChannels (channels : List String) : Prop := channels ≠ [] ∧ channels.Nodup

/-- The alert of a failure goes to distinct channels. -/
def StoreOp.FailureAdmitted : StoreOp → Prop
  | .recordCheckFailure _ _ _ _ _ channels => AlertChannels channels
  | _ => True

/-- The alerts of an evaluation go to distinct channels. -/
def StoreOp.BacklogAdmitted : StoreOp → Prop
  | .raiseDeliveryBacklogAlerts _ channels _ => AlertChannels channels
  | _ => True

/-! ## Reading a history -/

/-- The event is a recorded success of the job. -/
def isSuccessOf (jobId : String) (e : StoreEvent) : Bool :=
  match e.op, e.result with
  | .recordSuccess j _ _, .recorded _ => j == jobId
  | _, _ => false

/-- The event is a recorded failure of the job. -/
def isFailureOf (jobId : String) (e : StoreEvent) : Bool :=
  match e.op, e.result with
  | .recordCheckFailure j _ _ _ _ _, .raised _ => j == jobId
  | _, _ => false

/-- The channels of a `record_check_failure` of the job that returned `True`. -/
def raisedChannels (jobId : String) (e : StoreEvent) : Option (List String) :=
  match e.op, e.result with
  | .recordCheckFailure j _ _ _ _ channels, .raised true =>
    if j = jobId then some channels else none
  | _, _ => none

/-- What happened since the job's last recorded success. -/
def episode (jobId : String) (history : List StoreEvent) : List StoreEvent :=
  afterLast (isSuccessOf jobId) history

/-- The job's failures since its last recorded success. -/
def failuresSinceSuccess (jobId : String) (history : List StoreEvent) : ℕ :=
  (episode jobId history).countP (isFailureOf jobId)

/-- The calls that returned `True` for the job since its last recorded success, as the channels
they were made with. -/
def raisedSinceSuccess (jobId : String) (history : List StoreEvent) : List (List String) :=
  (episode jobId history).filterMap (raisedChannels jobId)

section Reading

variable {jobId : String} {history : List StoreEvent} {e : StoreEvent}

lemma episode_success (history : List StoreEvent) (h : isSuccessOf jobId e = true) :
    failuresSinceSuccess jobId (history ++ [e]) = 0 ∧
      raisedSinceSuccess jobId (history ++ [e]) = [] := by
  simp [failuresSinceSuccess, raisedSinceSuccess, episode, afterLast_snoc_of_pos h]

lemma failuresSinceSuccess_snoc (h : isSuccessOf jobId e = false) :
    failuresSinceSuccess jobId (history ++ [e])
      = failuresSinceSuccess jobId history + if isFailureOf jobId e then 1 else 0 := by
  rw [failuresSinceSuccess, episode, afterLast_snoc_of_neg h, List.countP_append,
    List.countP_singleton, failuresSinceSuccess, episode]

lemma raisedSinceSuccess_snoc (h : isSuccessOf jobId e = false) :
    raisedSinceSuccess jobId (history ++ [e])
      = raisedSinceSuccess jobId history ++ (raisedChannels jobId e).toList := by
  rw [raisedSinceSuccess, episode, afterLast_snoc_of_neg h, List.filterMap_append,
    raisedSinceSuccess, episode]
  cases hr : raisedChannels jobId e <;> simp [hr]

end Reading

/-! ## Failure episodes -/

/-- Counter, flag and alert rows of a job against the history. -/
structure FailureEpisode (history : List StoreEvent) (db : Database) (jobId : String) : Prop where
  count : consecutiveFailures db.jobStatus jobId = failuresSinceSuccess jobId history
  raised : raisedSinceSuccess jobId history
    = if failureAlertActive db.jobStatus jobId then
        [alertChannels db.alerts (checkFailureKey jobId)] else []
  rows : alertChannels db.alerts (checkFailureKey jobId) = [] ↔
    failureAlertActive db.jobStatus jobId = false

/-- An event that is neither a success nor a failure of the job, and leaves its counter, flag and
alert rows alone, continues the episode. -/
lemma FailureEpisode.quiet {history : List StoreEvent} {db : Database} {jobId : String}
    (inv : FailureEpisode history db jobId) {e : StoreEvent}
    (hsuccess : isSuccessOf jobId e = false) (hfailure : isFailureOf jobId e = false)
    (hraised : raisedChannels jobId e = none)
    (hcount : consecutiveFailures e.after.jobStatus jobId = consecutiveFailures db.jobStatus jobId)
    (hflag : failureAlertActive e.after.jobStatus jobId = failureAlertActive db.jobStatus jobId)
    (hrows : alertChannels e.after.alerts (checkFailureKey jobId)
      = alertChannels db.alerts (checkFailureKey jobId)) :
    FailureEpisode (history ++ [e]) e.after jobId := by
  constructor
  · rw [hcount, failuresSinceSuccess_snoc hsuccess, hfailure, inv.count]
    rfl
  · rw [hflag, hrows, raisedSinceSuccess_snoc hsuccess, hraised, Option.toList_none,
      List.append_nil, inv.raised]
  · rw [hrows, hflag, inv.rows]

/-- The evaluation of backlogs leaves the failure side of every status row alone. -/
lemma failureSide_evaluated (db : Database) (alertAfter : ℤ) (jobId : String) :
    consecutiveFailures (evaluatedStatus alertAfter (backlogRows db) db.jobStatus) jobId
        = consecutiveFailures db.jobStatus jobId ∧
      failureAlertActive (evaluatedStatus alertAfter (backlogRows db) db.jobStatus) jobId
        = failureAlertActive db.jobStatus jobId := by
  rw [consecutiveFailures, failureAlertActive, lookup_evaluatedStatus_job, consecutiveFailures,
    failureAlertActive]
  cases db.jobStatus.lookup jobId <;> exact ⟨rfl, rfl⟩

/-- Raising the alert of a job that has none. -/
lemma FailureEpisode.alerted {history : List StoreEvent} {db : Database} {jobId : String}
    (inv : FailureEpisode history db jobId) {error : String} {failedAt : Option Datetime}
    {now : Datetime} {alertAfter : ℤ} {channels : List String} (hchannels : channels ≠ [])
    (hraises : raisesAlert alertAfter
      (failedStatus db.jobStatus jobId error (failedAt.getD now))) :
    let db' := { db with
      jobStatus := setFailureAlert
        (statusAfterFailure db.jobStatus jobId error (failedAt.getD now)) jobId
      alerts := raisedAlerts db.alerts jobId error (failedAt.getD now) channels
        (failedStatus db.jobStatus jobId error (failedAt.getD now)) }
    FailureEpisode
      (history ++ [⟨db, .recordCheckFailure jobId error failedAt now alertAfter channels,
        .raised true, db'⟩]) db' jobId := by
  intro db'
  obtain ⟨hcount, hflag, _⟩ := failedStatus_fields db.jobStatus jobId error (failedAt.getD now)
  have hoff : failureAlertActive db.jobStatus jobId = false := by
    have hnot := hraises.2
    rw [hflag] at hnot
    exact Bool.not_eq_true _ ▸ hnot
  have hlookup := lookup_alerted_self db.jobStatus jobId error (failedAt.getD now)
  have hrows : alertChannels db'.alerts (checkFailureKey jobId) = channels := by
    dsimp only [db']
    rw [raisedAlerts, alertChannels_insertAll, if_pos rfl, inv.rows.mpr hoff, List.nil_append]
  have hactive : failureAlertActive db'.jobStatus jobId = true := by
    rw [failureAlertActive, hlookup]
    rfl
  constructor
  · rw [consecutiveFailures, hlookup, failuresSinceSuccess_snoc rfl, ← inv.count]
    simpa [isFailureOf] using hcount
  · rw [raisedSinceSuccess_snoc rfl, inv.raised, hoff, hactive, hrows]
    simp [raisedChannels]
  · rw [hrows, hactive]
    simp [hchannels]

/-- Counting a failure that raises nothing. -/
lemma FailureEpisode.counted {history : List StoreEvent} {db : Database} {jobId : String}
    (inv : FailureEpisode history db jobId) {error : String} {failedAt : Option Datetime}
    {now : Datetime} {alertAfter : ℤ} {channels : List String} :
    let db' := { db with
      jobStatus := statusAfterFailure db.jobStatus jobId error (failedAt.getD now) }
    FailureEpisode
      (history ++ [⟨db, .recordCheckFailure jobId error failedAt now alertAfter channels,
        .raised false, db'⟩]) db' jobId := by
  intro db'
  obtain ⟨hcount, hflag, _⟩ := failedStatus_fields db.jobStatus jobId error (failedAt.getD now)
  have hlookup := lookup_statusAfterFailure db.jobStatus jobId error (failedAt.getD now)
  have hflag' : failureAlertActive db'.jobStatus jobId = failureAlertActive db.jobStatus jobId := by
    rw [failureAlertActive, hlookup]
    exact hflag
  constructor
  · rw [consecutiveFailures, hlookup, failuresSinceSuccess_snoc rfl, ← inv.count]
    simpa [isFailureOf] using hcount
  · rw [raisedSinceSuccess_snoc rfl, inv.raised, hflag']
    simp [raisedChannels, db']
  · rw [hflag', ← inv.rows]

/-- A success ends the episode. -/
lemma FailureEpisode.success {history : List StoreEvent} {db : Database} {jobId : String}
    {result : CheckResult} {plan : NotificationPlan} {outcome : RecordOutcome}
    {ts : List OpportunityTransition} {rows : List Observation} :
    let db' := recorded db jobId result plan ts rows
    FailureEpisode (history ++ [⟨db, .recordSuccess jobId result plan, .recorded outcome, db'⟩])
      db' jobId := by
  intro db'
  have hsuccess : isSuccessOf jobId
      (⟨db, .recordSuccess jobId result plan, .recorded outcome, db'⟩ : StoreEvent) = true := by
    simp [isSuccessOf]
  obtain ⟨hfailures, hraised⟩ := episode_success history hsuccess
  obtain ⟨s, hs, hcount, hoff, _⟩ :=
    lookup_statusAfterSuccess_self db.jobStatus jobId result.checkedAt
  have hflag : failureAlertActive db'.jobStatus jobId = false := by
    rw [failureAlertActive, show db'.jobStatus.lookup jobId = some s from hs]
    exact hoff
  have hrows : alertChannels db'.alerts (checkFailureKey jobId) = [] :=
    alertChannels_deleteAlerts_self db.alerts (checkFailureKey jobId)
  constructor
  · rw [consecutiveFailures, show db'.jobStatus.lookup jobId = some s from hs, hfailures]
    exact hcount
  · rw [hraised, hflag]
    rfl
  · rw [hrows, hflag, eq_self, eq_self]

/-- **One operation continues every job's failure episode.** -/
lemma FailureEpisode.step {history : List StoreEvent} {db db' : Database} {jobId : String}
    (inv : FailureEpisode history db jobId) {op : StoreOp} {result : StoreResult}
    (hop : op.FailureAdmitted) (h : OpEffect db op result db') :
    FailureEpisode (history ++ [⟨db, op, result, db'⟩]) db' jobId := by
  cases h with
  | failed =>
      exact inv.quiet (by cases op <;> rfl) (by cases op <;> rfl) (by cases op <;> rfl) rfl rfl rfl
  | @recorded j result plan previous rows =>
      by_cases hj : jobId = j
      · exact hj ▸ FailureEpisode.success
      · have hlookup := lookup_statusAfterSuccess_of_ne db.jobStatus result.checkedAt hj
        refine inv.quiet ?_ rfl rfl ?_ ?_ ?_
        · simpa [isSuccessOf] using Ne.symm hj
        · rw [consecutiveFailures, recorded, hlookup, consecutiveFailures]
        · rw [failureAlertActive, recorded, hlookup, failureAlertActive]
        · exact alertChannels_deleteAlerts_of_ne _ fun hk => hj (checkFailureKey_inj.mp hk).symm
  | @alerted j error failedAt now alertAfter channels hraises =>
      by_cases hj : jobId = j
      · subst hj
        exact inv.alerted hop.1 hraises
      · have hlookup := lookup_alerted_of_ne db.jobStatus error (failedAt.getD now) hj
        refine inv.quiet rfl ?_ ?_ ?_ ?_ ?_
        · simpa [isFailureOf] using Ne.symm hj
        · simpa [raisedChannels] using Ne.symm hj
        · rw [consecutiveFailures, hlookup, consecutiveFailures]
        · rw [failureAlertActive, hlookup, failureAlertActive]
        · have hkey : checkFailureKey j ≠ checkFailureKey jobId :=
            fun hk => hj (checkFailureKey_inj.mp hk).symm
          dsimp only
          rw [raisedAlerts, alertChannels_insertAll, if_neg hkey, List.append_nil]
  | @counted j error failedAt now alertAfter channels _ =>
      by_cases hj : jobId = j
      · subst hj
        exact inv.counted
      · have hlookup := lookup_statusAfterFailure_of_ne db.jobStatus error (failedAt.getD now) hj
        refine inv.quiet rfl ?_ rfl ?_ ?_ rfl
        · simpa [isFailureOf] using Ne.symm hj
        · rw [consecutiveFailures, hlookup, consecutiveFailures]
        · rw [failureAlertActive, hlookup, failureAlertActive]
  | evaluated =>
      refine inv.quiet rfl rfl rfl (failureSide_evaluated db _ jobId).1
        (failureSide_evaluated db _ jobId).2 ?_
      exact alertChannels_allEvaluated_of_ne fun row _ hk =>
        checkFailureKey_ne_deliveryBacklogKey jobId row.jobId hk.symm
  | delivered => exact inv.quiet rfl rfl rfl rfl rfl rfl
  | attempted => exact inv.quiet rfl rfl rfl rfl rfl rfl
  | alertDelivered =>
      exact inv.quiet rfl rfl rfl rfl rfl (alertChannels_attempted _ _ _ _ _)
  | alertAttempted =>
      exact inv.quiet rfl rfl rfl rfl rfl (alertChannels_attempted _ _ _ _ _)
  | pruned =>
      refine inv.quiet rfl rfl rfl ?_ ?_ ?_ <;> dsimp only <;> rw [prune_snd]

lemma failureEpisode_run {ops : List StoreOp} (hops : ∀ op ∈ ops, op.FailureAdmitted)
    (jobId : String) :
    FailureEpisode (Store.history Database.empty ops) (Store.exec Database.empty ops) jobId := by
  refine effect_induction (P := fun h db => FailureEpisode h db jobId) consistent_empty ?_ ?_ hops
  · exact ⟨rfl, rfl, by simp [alertChannels, failureAlertActive, Database.empty]⟩
  · exact fun inv hop _ heffect => inv.step hop heffect

/-- **One check-failure alert per failure streak.**  After any run, for every job: the counter is
the number of failures since the last success; the flag and the alert rows are there exactly if a
call has returned `True` since then, one row per channel of that call; and the next
`record_check_failure` succeeds, and returns `True` exactly if the streak has reached its
threshold and no call has returned `True` in it yet. -/
theorem checkFailure_episode {ops : List StoreOp} (hops : ∀ op ∈ ops, op.FailureAdmitted)
    (jobId : String) :
    let history := Store.history Database.empty ops
    let db := Store.exec Database.empty ops
    consecutiveFailures db.jobStatus jobId = failuresSinceSuccess jobId history ∧
      (failureAlertActive db.jobStatus jobId = true ↔ raisedSinceSuccess jobId history ≠ []) ∧
      (alertChannels db.alerts (checkFailureKey jobId) ≠ [] ↔
        raisedSinceSuccess jobId history ≠ []) ∧
      (∀ channels ∈ raisedSinceSuccess jobId history,
        alertChannels db.alerts (checkFailureKey jobId) = channels) ∧
      ∀ error failedAt now alertAfter channels,
        AlertChannels channels →
        (applyOp db (.recordCheckFailure jobId error failedAt now alertAfter channels)).1
          = .raised (decide (alertAfter ≤ (failuresSinceSuccess jobId history + 1 : ℕ)) &&
              decide (raisedSinceSuccess jobId history = [])) := by
  intro history db
  have inv : FailureEpisode history db jobId := failureEpisode_run hops jobId
  have hflag : failureAlertActive db.jobStatus jobId = true ↔
      raisedSinceSuccess jobId history ≠ [] := by
    rw [inv.raised]
    split <;> simp_all
  have hrows : alertChannels db.alerts (checkFailureKey jobId) ≠ [] ↔
      raisedSinceSuccess jobId history ≠ [] := by
    rw [← hflag, Ne, inv.rows, Bool.not_eq_false]
  refine ⟨inv.count, hflag, hrows, ?_, ?_⟩
  · intro channels hch
    rw [inv.raised] at hch
    split at hch
    · exact (List.mem_singleton.mp hch).symm
    · exact absurd hch List.not_mem_nil
  · intro error failedAt now alertAfter channels hadm
    obtain ⟨hcount, hactive, _⟩ :=
      failedStatus_fields db.jobStatus jobId error (failedAt.getD now)
    have hraises : raisesAlert alertAfter
        (failedStatus db.jobStatus jobId error (failedAt.getD now)) ↔
          alertAfter ≤ (failuresSinceSuccess jobId history + 1 : ℕ) ∧
            raisedSinceSuccess jobId history = [] := by
      rw [raisesAlert, hcount, hactive, hflag, not_not, inv.count]
    -- the rows of an earlier episode are gone, so the insertion is free to go
    have hok : ∀ raised db', recordCheckFailure db jobId error failedAt now alertAfter channels
        = .ok (raised, db') →
          (applyOp db (.recordCheckFailure jobId error failedAt now alertAfter channels)).1
            = .raised raised := by
      intro raised db' h
      rw [applyOp, h]
      rfl
    by_cases hr : raisesAlert alertAfter
        (failedStatus db.jobStatus jobId error (failedAt.getD now))
    · obtain ⟨hreached, hnone⟩ := hraises.mp hr
      have hfree := alertChannels_eq_nil.mp (not_ne_iff.mp (hrows.not.mpr (not_not.mpr hnone)))
      rw [hok true _ (recordCheckFailure_eq_ok.mpr
        (Or.inl ⟨rfl, hr, hadm.2, fun a ha hk => absurd hk (hfree a ha), rfl⟩))]
      rw [decide_eq_true hreached, decide_eq_true hnone, Bool.and_self]
    · rw [hok false _ (recordCheckFailure_eq_ok.mpr (Or.inr ⟨rfl, hr, rfl⟩))]
      rw [hraises, not_and] at hr
      by_cases hreached : alertAfter ≤ (failuresSinceSuccess jobId history + 1 : ℕ)
      · rw [decide_eq_false (hr hreached), Bool.and_false]
      · rw [decide_eq_false hreached, Bool.false_and]

/-- Two failures, the second of which reaches the threshold. -/
theorem checkFailure_episode_two :
    let history := Store.history Database.empty
      [.recordCheckFailure "job" "timeout" none .epoch 2 ["email"],
        .recordCheckFailure "job" "timeout" none .epoch 2 ["email"]]
    raisedSinceSuccess "job" history = [["email"]] ∧
      consecutiveFailures (Store.exec Database.empty
        [.recordCheckFailure "job" "timeout" none .epoch 2 ["email"],
          .recordCheckFailure "job" "timeout" none .epoch 2 ["email"]]).jobStatus "job"
        = failuresSinceSuccess "job" history :=
  ⟨by decide, (checkFailure_episode (by simp [StoreOp.FailureAdmitted, AlertChannels]) "job").1⟩

/-! ## Backlog episodes -/

/-- The event is an evaluation of the delivery backlogs. -/
def isEvaluation (e : StoreEvent) : Bool :=
  match e.op, e.result with
  | .raiseDeliveryBacklogAlerts _ _ _, .raisedFor _ => true
  | _, _ => false

/-- What an evaluation found for a job. -/
def foundActive (jobId : String) (e : StoreEvent) : Bool :=
  match e.op with
  | .raiseDeliveryBacklogAlerts alertAfter _ _ =>
    decide (BacklogActive e.before.outbox alertAfter jobId)
  | _ => false

/-- The job's backlog was active at the last evaluation; it was not if there has been none. -/
def activeAtLastEvaluation (jobId : String) (history : List StoreEvent) : Bool :=
  (lastSome isEvaluation history).any (foundActive jobId)

lemma activeAtLastEvaluation_snoc {jobId : String} {history : List StoreEvent} {e : StoreEvent}
    (h : isEvaluation e = false) :
    activeAtLastEvaluation jobId (history ++ [e]) = activeAtLastEvaluation jobId history := by
  rw [activeAtLastEvaluation, lastSome_snoc_of_neg h, activeAtLastEvaluation]

/-- Flags and alert rows of all jobs against the history, and an evaluated owner for every outbox
row. -/
structure BacklogEpisode (history : List StoreEvent) (db : Database) : Prop where
  owner : ∀ n ∈ db.outbox.rows, (db.jobStatus.lookup n.jobId).isSome
  flag : ∀ jobId, deliveryAlertActive db.jobStatus jobId = activeAtLastEvaluation jobId history
  rows : ∀ jobId, alertChannels db.alerts (deliveryBacklogKey jobId) = [] ↔
    deliveryAlertActive db.jobStatus jobId = false

/-- An event that evaluates nothing and leaves flags and alert rows alone. -/
lemma BacklogEpisode.quiet {history : List StoreEvent} {db : Database}
    (inv : BacklogEpisode history db) {e : StoreEvent} (heval : isEvaluation e = false)
    (howner : ∀ n ∈ e.after.outbox.rows, (e.after.jobStatus.lookup n.jobId).isSome)
    (hflag : ∀ jobId, deliveryAlertActive e.after.jobStatus jobId
      = deliveryAlertActive db.jobStatus jobId)
    (hrows : ∀ jobId, alertChannels e.after.alerts (deliveryBacklogKey jobId)
      = alertChannels db.alerts (deliveryBacklogKey jobId)) :
    BacklogEpisode (history ++ [e]) e.after where
  owner := howner
  flag jobId := by rw [hflag, activeAtLastEvaluation_snoc heval, inv.flag]
  rows jobId := by rw [hrows, hflag, inv.rows]

/-- What recording a success or a failure does to a job's side of the backlog: nothing, and the
job has a status row. -/
lemma backlogSide_success (status : KeyTable String JobStatusRow) (jobId other : String)
    (checkedAt : Datetime) :
    deliveryAlertActive (statusAfterSuccess status other checkedAt) jobId
        = deliveryAlertActive status jobId ∧
      ((status.lookup jobId).isSome ∨ jobId = other →
        ((statusAfterSuccess status other checkedAt).lookup jobId).isSome) := by
  by_cases hj : jobId = other
  · subst hj
    obtain ⟨s, hs, _, _, hflag⟩ := lookup_statusAfterSuccess_self status jobId checkedAt
    rw [deliveryAlertActive, hs]
    exact ⟨hflag, fun _ => rfl⟩
  · rw [deliveryAlertActive, lookup_statusAfterSuccess_of_ne status checkedAt hj]
    exact ⟨rfl, fun h => h.resolve_right hj⟩

lemma backlogSide_failure (status : KeyTable String JobStatusRow) (jobId other error : String)
    (occurredAt : Datetime) :
    deliveryAlertActive (statusAfterFailure status other error occurredAt) jobId
        = deliveryAlertActive status jobId ∧
      ((status.lookup jobId).isSome →
        ((statusAfterFailure status other error occurredAt).lookup jobId).isSome) := by
  by_cases hj : jobId = other
  · subst hj
    rw [deliveryAlertActive, lookup_statusAfterFailure]
    exact ⟨(failedStatus_fields status jobId error occurredAt).2.2, fun _ => rfl⟩
  · rw [deliveryAlertActive, lookup_statusAfterFailure_of_ne status error occurredAt hj]
    exact ⟨rfl, id⟩

lemma backlogSide_setFailureAlert (status : KeyTable String JobStatusRow) (jobId other : String) :
    deliveryAlertActive (setFailureAlert status other) jobId = deliveryAlertActive status jobId ∧
      ((setFailureAlert status other).lookup jobId).isSome = (status.lookup jobId).isSome := by
  rw [deliveryAlertActive, lookup_setFailureAlert, deliveryAlertActive]
  cases status.lookup jobId with
  | none => exact ⟨rfl, rfl⟩
  | some s =>
      refine ⟨?_, rfl⟩
      simp only [Option.map_some, Option.elim_some]
      split <;> rfl

/-- **The evaluation of one job**, given that its flag and its alert rows agree: the flag becomes
what the evaluation found, and the two still agree. -/
lemma backlogSide_evaluated {history : List StoreEvent} {db : Database}
    (inv : BacklogEpisode history db) (alertAfter : ℤ) {channels : List String}
    (hchannels : channels ≠ []) (now : String → Datetime) (jobId : String) :
    let status := evaluatedStatus alertAfter (backlogRows db) db.jobStatus
    deliveryAlertActive status jobId = decide (BacklogActive db.outbox alertAfter jobId) ∧
      (alertChannels (allEvaluatedAlerts alertAfter channels now (backlogRows db) db.alerts)
          (deliveryBacklogKey jobId) = [] ↔ deliveryAlertActive status jobId = false) ∧
      ((db.jobStatus.lookup jobId).isSome → (status.lookup jobId).isSome) := by
  intro status
  have hlookup : status.lookup jobId = _ := lookup_evaluatedStatus_job db alertAfter jobId
  have hrows := inv.rows jobId
  rw [deliveryAlertActive] at hrows
  rw [deliveryAlertActive, hlookup, alertChannels_evaluated_job]
  cases hs : db.jobStatus.lookup jobId with
  | none =>
      -- without a status row the job owns no outbox row, so its backlog is not active
      have hinactive : ¬ BacklogActive db.outbox alertAfter jobId := by
        rintro ⟨n, hn, rfl, _⟩
        simpa [hs] using inv.owner n hn
      rw [hs] at hrows
      exact ⟨(decide_eq_false hinactive).symm, hrows, fun hsome => absurd hsome (by simp)⟩
  | some s =>
      obtain rfl : s.jobId = jobId := jobId_of_lookup hs
      rw [hs] at hrows
      simp only [Option.map_some, Option.elim_some] at hrows ⊢
      refine ⟨?_, ?_, fun _ => rfl⟩
      · rw [Bool.eq_iff_iff, backlogRow_active, decide_eq_true_eq]
      · -- raised, cleared, or left as it was
        cases hact : (backlogRow db.outbox s).active alertAfter <;>
          cases hdel : s.deliveryAlertActive <;>
          simp [hdel, hrows, hchannels]

/-- **One operation continues every job's backlog episode.** -/
lemma BacklogEpisode.step {history : List StoreEvent} {db db' : Database}
    (inv : BacklogEpisode history db) {op : StoreOp} {result : StoreResult}
    (hop : op.BacklogAdmitted) (h : OpEffect db op result db') :
    BacklogEpisode (history ++ [⟨db, op, result, db'⟩]) db' := by
  cases h with
  | failed =>
      exact inv.quiet (by cases op <;> rfl) inv.owner (fun _ => rfl) (fun _ => rfl)
  | @recorded j result plan previous rows =>
      refine inv.quiet rfl ?_ (fun jobId => (backlogSide_success _ _ _ _).1) fun jobId => ?_
      · intro n hn
        refine (backlogSide_success _ _ _ _).2 ?_
        exact (mem_outbox_recorded hn).imp (inv.owner n) fun ⟨_, _, _, hjob⟩ => hjob
      · exact alertChannels_deleteAlerts_of_ne _ fun hk =>
          checkFailureKey_ne_deliveryBacklogKey _ _ hk
  | @alerted j error failedAt now alertAfter channels =>
      refine inv.quiet rfl ?_ (fun jobId => ?_) fun jobId => ?_
      · intro n hn
        dsimp only
        rw [(backlogSide_setFailureAlert _ _ _).2]
        exact (backlogSide_failure _ _ _ _ _).2 (inv.owner n hn)
      · dsimp only
        rw [(backlogSide_setFailureAlert _ _ _).1, (backlogSide_failure _ _ _ _ _).1]
      · dsimp only
        rw [raisedAlerts, alertChannels_insertAll,
          if_neg (checkFailureKey_ne_deliveryBacklogKey _ _), List.append_nil]
  | counted =>
      exact inv.quiet rfl (fun n hn => (backlogSide_failure _ _ _ _ _).2 (inv.owner n hn))
        (fun jobId => (backlogSide_failure _ _ _ _ _).1) fun _ => rfl
  | @evaluated alertAfter channels now =>
      have hside := backlogSide_evaluated inv alertAfter hop.1 now
      constructor
      · exact fun n hn => (hside n.jobId).2.2 (inv.owner n hn)
      · intro jobId
        rw [(hside jobId).1, activeAtLastEvaluation, lastSome_snoc_of_pos rfl]
        rfl
      · exact fun jobId => (hside jobId).2.1
  | delivered =>
      refine inv.quiet rfl (RowTable.forall_mem_updateWhere (h := rowId_deliveredRow _)
        fun n hn => ?_) (fun _ => rfl) fun _ => rfl
      dsimp only
      split_ifs <;> exact inv.owner n hn
  | attempted =>
      refine inv.quiet rfl (RowTable.forall_mem_updateWhere (h := rowId_failedRow _ _)
        fun n hn => ?_) (fun _ => rfl) fun _ => rfl
      dsimp only
      split_ifs <;> exact inv.owner n hn
  | alertDelivered =>
      exact inv.quiet rfl inv.owner (fun _ => rfl) fun _ => alertChannels_attempted _ _ _ _ _
  | alertAttempted =>
      exact inv.quiet rfl inv.owner (fun _ => rfl) fun _ => alertChannels_attempted _ _ _ _ _
  | pruned =>
      refine inv.quiet rfl ?_ ?_ ?_ <;> dsimp only <;> rw [prune_snd]
      · exact fun n hn => inv.owner n (RowTable.mem_deleteWhere.mp hn).1
      · exact fun _ => rfl
      · exact fun _ => rfl

lemma backlogEpisode_run {ops : List StoreOp} (hops : ∀ op ∈ ops, op.BacklogAdmitted) :
    BacklogEpisode (Store.history Database.empty ops) (Store.exec Database.empty ops) := by
  refine effect_induction (P := BacklogEpisode) consistent_empty ?_ ?_ hops
  · refine ⟨?_, fun _ => rfl, fun _ => ?_⟩
    · simp [Database.empty]
    · simp [alertChannels, deliveryAlertActive, Database.empty]
  · exact fun inv hop _ heffect => inv.step hop heffect

/-- The jobs an evaluation raises an alert for. -/
lemma mem_raisedJobs {history : List StoreEvent} {db : Database} (inv : BacklogEpisode history db)
    {alertAfter : ℤ} {jobId : String} :
    jobId ∈ raisedJobs alertAfter (backlogRows db) ↔
      BacklogActive db.outbox alertAfter jobId ∧ activeAtLastEvaluation jobId history = false := by
  have hflag : ∀ s ∈ db.jobStatus.rows,
      s.deliveryAlertActive = activeAtLastEvaluation s.jobId history := by
    intro s hs
    rw [← inv.flag, deliveryAlertActive,
      show db.jobStatus.lookup s.jobId = some s from KeyTable.lookup_eq_some.mpr ⟨hs, rfl⟩]
    rfl
  simp only [raisedJobs, List.mem_map, List.mem_filter, Bool.and_eq_true, Bool.not_eq_true',
    mem_backlogRows]
  constructor
  · rintro ⟨_, ⟨⟨s, hs, rfl⟩, hact, hoff⟩, rfl⟩
    exact ⟨backlogRow_active.mp hact, (hflag s hs).symm.trans hoff⟩
  · rintro ⟨hact, hoff⟩
    obtain ⟨n, hn, rfl, _⟩ := id hact
    obtain ⟨s, hlookup⟩ := Option.isSome_iff_exists.mp (inv.owner n hn)
    obtain ⟨hs, hj⟩ := KeyTable.lookup_eq_some.mp hlookup
    rw [key_jobStatusRow] at hj
    refine ⟨_, ⟨⟨s, hs, rfl⟩, backlogRow_active.mpr (hj ▸ hact), ?_⟩, hj⟩
    exact (hflag s hs).trans (hj ▸ hoff)

/-- **One backlog alert per backlog episode.**  After any run: each flag is what the job's last
evaluation found; a job's alert rows are there exactly if its flag is set; every owner of an
outbox row is among the evaluated jobs; and the next evaluation succeeds and returns exactly the
jobs whose backlog is active now and was not at the last evaluation. -/
theorem deliveryBacklog_episode {ops : List StoreOp} (hops : ∀ op ∈ ops, op.BacklogAdmitted) :
    let history := Store.history Database.empty ops
    let db := Store.exec Database.empty ops
    (∀ jobId, deliveryAlertActive db.jobStatus jobId = activeAtLastEvaluation jobId history) ∧
      (∀ jobId, alertChannels db.alerts (deliveryBacklogKey jobId) ≠ [] ↔
        deliveryAlertActive db.jobStatus jobId = true) ∧
      (∀ n ∈ db.outbox.rows, ∃ s ∈ db.jobStatus.rows,
        s.jobId = n.jobId ∧ backlogRow db.outbox s ∈ backlogRows db) ∧
      ∀ alertAfter channels now,
        AlertChannels channels →
        ∃ jobs, (applyOp db (.raiseDeliveryBacklogAlerts alertAfter channels now)).1
            = .raisedFor jobs ∧ jobs.Nodup ∧
          ∀ jobId, jobId ∈ jobs ↔ BacklogActive db.outbox alertAfter jobId ∧
            activeAtLastEvaluation jobId history = false := by
  intro history db
  have inv : BacklogEpisode history db := backlogEpisode_run hops
  refine ⟨inv.flag, fun jobId => ?_, fun n hn => ?_, fun alertAfter channels now hadm => ?_⟩
  · rw [Ne, inv.rows, Bool.not_eq_false]
  · obtain ⟨s, hs⟩ := Option.isSome_iff_exists.mp (inv.owner n hn)
    obtain ⟨hmem, hj⟩ := KeyTable.lookup_eq_some.mp hs
    exact ⟨s, hmem, hj, mem_backlogRows.mpr ⟨s, hmem, rfl⟩⟩
  · have hfree : ∀ row ∈ backlogRows db, row.deliveryAlertActive = false →
        alertChannels db.alerts (deliveryBacklogKey row.jobId) = [] := by
      intro row hrow hoff
      obtain ⟨s, hs, rfl⟩ := mem_backlogRows.mp hrow
      rw [backlogRow_jobId, inv.rows, deliveryAlertActive,
        show db.jobStatus.lookup s.jobId = some s from KeyTable.lookup_eq_some.mpr ⟨hs, rfl⟩]
      exact hoff
    refine ⟨raisedJobs alertAfter (backlogRows db), ?_, ?_, fun jobId => mem_raisedJobs inv⟩
    · rw [applyOp, raiseDeliveryBacklogAlerts,
        evaluateBacklogs_ok hadm.2 (nodup_backlogRows db) hfree]
      rfl
    · exact (nodup_backlogRows db).sublist (List.filter_sublist.map _)

/-- A delivery fails, is settled, and another one of the same job fails, with an evaluation after
each.  A failure of the check repeats a channel, which its own alerts do not allow. -/
def twoBacklogs : List StoreOp := [
  .recordSuccess "job" (.onFirst .unavailable) .email,
  .recordSuccess "job" (.onSecond .available) .email,
  .recordNotificationFailure 1 .epoch "timeout",
  .raiseDeliveryBacklogAlerts 1 ["console", "email"] fun _ => .epoch,
  .recordCheckFailure "job" "timeout" none .epoch 1 ["email", "email"],
  .markNotificationDelivered 1 .epoch,
  .raiseDeliveryBacklogAlerts 1 ["email"] fun _ => .epoch,
  .recordSuccess "job" (.onFirst .unavailable) .email,
  .recordSuccess "job" (.onSecond .available) .email,
  .recordNotificationFailure 2 .epoch "timeout"]

/-- The jobs that an evaluation has returned. -/
def StoreResult.alertedJobs : StoreResult → Option (List String)
  | .raisedFor jobs => some jobs
  | _ => none

/-- **The second backlog raises a second alert**, after the first one was cleared. -/
theorem deliveryBacklog_episode_two :
    let history := Store.history Database.empty twoBacklogs
    let db := Store.exec Database.empty twoBacklogs
    history.filterMap (fun e => e.result.alertedJobs) = [["job"], []] ∧
      deliveryAlertActive db.jobStatus "job" = false ∧
      alertChannels db.alerts (deliveryBacklogKey "job") = [] ∧
      ∃ jobs, (applyOp db (.raiseDeliveryBacklogAlerts 1 ["email"] fun _ => .epoch)).1
          = .raisedFor jobs ∧ "job" ∈ jobs := by
  intro history db
  have hops : ∀ op ∈ twoBacklogs, op.BacklogAdmitted := by
    simp [twoBacklogs, StoreOp.BacklogAdmitted, AlertChannels]
  obtain ⟨hflag, hrows, -, hnext⟩ := deliveryBacklog_episode hops
  have hcleared : activeAtLastEvaluation "job" history = false := by decide +kernel
  have hactive : BacklogActive db.outbox 1 "job" := by decide +kernel
  have hoff : deliveryAlertActive db.jobStatus "job" = false := (hflag "job").trans hcleared
  obtain ⟨jobs, hjobs, -, hraised⟩ := hnext 1 ["email"] (fun _ => .epoch) (by simp [AlertChannels])
  refine ⟨by decide +kernel, hoff, ?_, jobs, hjobs, (hraised "job").mpr ⟨hactive, hcleared⟩⟩
  by_contra hne
  rw [(hrows "job").mp hne] at hoff
  simp at hoff

end WebChecker
