import Mathlib.Data.List.Dedup
import WebChecker.Notifications.Registry
import WebChecker.Storage.Episodes

/-!
# What the worker accepts as operational channels

`_run_worker` reads the channels of operational alerts from the environment.  What it accepts is a
precondition of a statement that runs much later: when a job reaches the failure threshold, one
alert row per channel is inserted under one key, and the key and the channel are unique together.
A name that occurs twice passes the checks at startup, violates that constraint at the threshold,
and the rollback takes the counter along: the failure is not recorded at all.

`failureRecording_iff` says that this is the only way in which recording a failure can go wrong.
-/

namespace WebChecker

open Relational Results

/-! ## Reading the environment -/

/-- The settings `_run_worker` reads: the text of `WEB_CHECKER_OPERATIONAL_CHANNELS`, if it is
set, and what `int` makes of `WEB_CHECKER_FAILURE_ALERT_AFTER`, which is `3` if that is unset and
`none` if `int` raises. -/
structure WorkerEnvironment where
  operationalChannels : Option String
  failureAlertAfter : Option ℤ
deriving DecidableEq, Repr

/-- What `_run_worker` raises. -/
inductive WorkerError where
  | configurationError (message : String)
  | unknownNotifierError (message : String)
deriving DecidableEq, Repr

/-- What `_run_worker` passes to the scheduler. -/
structure WorkerSettings where
  operationalChannels : List String
  failureAlertAfter : ℤ
deriving DecidableEq, Repr

/-- The names in a comma-separated list, trimmed, without the blank ones. -/
def channelNames (text : String) : List String :=
  ((split ',' text).map strip).filter fun item => item ≠ ""

/-- `"console,email"` if there is an adapter for email. -/
def defaultOperationalChannels (registry : NotifierRegistry) : String :=
  if "email" ∈ registry.names then "console,email" else "console"

/-- The loop that looks every channel up. -/
def lookUpAll (registry : NotifierRegistry) : List String → Except WorkerError Unit
  | [] => .ok ()
  | channel :: channels =>
    match registry.get channel with
    | some message => .error (.unknownNotifierError message)
    | none => lookUpAll registry channels

/-- The part of `_run_worker` that reads its settings. -/
def workerSettings (registry : NotifierRegistry) (environment : WorkerEnvironment) :
    Except WorkerError WorkerSettings :=
  let channels := channelNames
    (environment.operationalChannels.getD (defaultOperationalChannels registry))
  if channels = [] then
    .error (.configurationError "WEB_CHECKER_OPERATIONAL_CHANNELS must not be empty")
  else
    match environment.failureAlertAfter with
    | none => .error (.configurationError "WEB_CHECKER_FAILURE_ALERT_AFTER must be an integer")
    | some failureAlertAfter =>
      if failureAlertAfter < 1 then
        .error (.configurationError "WEB_CHECKER_FAILURE_ALERT_AFTER must be at least 1")
      else (lookUpAll registry channels).map fun _ => ⟨channels, failureAlertAfter⟩

lemma lookUpAll_eq_ok {registry : NotifierRegistry} {channels : List String} :
    lookUpAll registry channels = .ok () ↔ ∀ c ∈ channels, c ∈ registry.channels := by
  induction channels with
  | nil => simp [lookUpAll]
  | cons channel channels ih =>
      rw [lookUpAll, List.forall_mem_cons]
      cases hget : registry.get channel with
      | none => simp [NotifierRegistry.get_eq_none.mp hget, ih]
      | some message =>
          have hnot : channel ∉ registry.channels := fun h => by
            simp [NotifierRegistry.get_eq_none.mpr h] at hget
          simp [hnot]

/-- **What the worker accepts**: at least one channel, a positive threshold, and only registered
channels. -/
lemma workerSettings_eq_ok {registry : NotifierRegistry} {environment : WorkerEnvironment}
    {settings : WorkerSettings} (h : workerSettings registry environment = .ok settings) :
    settings.operationalChannels = channelNames
        (environment.operationalChannels.getD (defaultOperationalChannels registry)) ∧
      settings.operationalChannels ≠ [] ∧ 1 ≤ settings.failureAlertAfter ∧
      ∀ c ∈ settings.operationalChannels, c ∈ registry.channels := by
  rw [workerSettings] at h
  split_ifs at h with hempty
  split at h
  · simp at h
  · split_ifs at h with hpositive
    obtain ⟨_, hlookup, rfl⟩ := map_eq_ok.mp h
    exact ⟨rfl, hempty, not_lt.mp hpositive, lookUpAll_eq_ok.mp hlookup⟩

/-! ## Runs of the worker -/

namespace WorkerSettings

/-- The call that records a terminal failure of a job. -/
def recordFailure (settings : WorkerSettings) (jobId error : String) (failedAt : Option Datetime)
    (now : Datetime) : StoreOp :=
  .recordCheckFailure jobId error failedAt now settings.failureAlertAfter
    settings.operationalChannels

/-- The worker makes every call that takes a threshold and channels with its own. -/
def Uses (settings : WorkerSettings) : StoreOp → Prop
  | .recordCheckFailure _ _ _ _ alertAfter channels =>
    alertAfter = settings.failureAlertAfter ∧ channels = settings.operationalChannels
  | .raiseDeliveryBacklogAlerts alertAfter channels _ =>
    alertAfter = settings.failureAlertAfter ∧ channels = settings.operationalChannels
  | _ => True

end WorkerSettings

/-- A job's last error, by its status row. -/
def lastError (status : KeyTable String JobStatusRow) (jobId : String) : Option String :=
  (status.lookup jobId).bind JobStatusRow.lastError

/-- The failure is recorded: the call commits, the counter grows by one, the last error is this
one, and exactly at the threshold one alert per distinct channel is enqueued. -/
def FailureRecorded (settings : WorkerSettings) (db : Database) (jobId error : String)
    (failedAt : Option Datetime) (now : Datetime) : Prop :=
  ∃ raised db', applyOp db (settings.recordFailure jobId error failedAt now)
      = (.raised raised, db') ∧
    consecutiveFailures db'.jobStatus jobId = consecutiveFailures db.jobStatus jobId + 1 ∧
    lastError db'.jobStatus jobId = some (sliceTo 2000 error) ∧
    (raised = true ↔ consecutiveFailures db'.jobStatus jobId = settings.failureAlertAfter) ∧
    (raised = true → alertChannels db.alerts (checkFailureKey jobId) = [] ∧
      (alertChannels db'.alerts (checkFailureKey jobId)).Perm settings.operationalChannels.dedup)

/-- Every failure of any job is recorded, whatever the worker has done before. -/
def RecordsEveryFailure (settings : WorkerSettings) : Prop :=
  ∀ ops : List StoreOp, (∀ op ∈ ops, settings.Uses op) → ∀ jobId error failedAt now,
    FailureRecorded settings (Store.exec .empty ops) jobId error failedAt now

/-! ## Distinct channels -/

/-- The flag of every job says that the job has reached the threshold. -/
def FlagAtThreshold (alertAfter : ℤ) (db : Database) : Prop :=
  ∀ jobId, failureAlertActive db.jobStatus jobId = true ↔
    alertAfter ≤ consecutiveFailures db.jobStatus jobId

/-- A job that an operation does not touch keeps flag and counter. -/
lemma FlagAtThreshold.of_lookup_eq {alertAfter : ℤ} {db : Database}
    (h : FlagAtThreshold alertAfter db) {status : KeyTable String JobStatusRow} {jobId : String}
    (hlookup : status.lookup jobId = db.jobStatus.lookup jobId) :
    failureAlertActive status jobId = true ↔ alertAfter ≤ consecutiveFailures status jobId := by
  rw [failureAlertActive, consecutiveFailures, hlookup]
  exact h jobId

/-- The failure side of a job after a failure that raised an alert. -/
lemma failureSide_alerted (status : KeyTable String JobStatusRow) (jobId error : String)
    (occurredAt : Datetime) :
    let status' := setFailureAlert (statusAfterFailure status jobId error occurredAt) jobId
    consecutiveFailures status' jobId = consecutiveFailures status jobId + 1 ∧
      failureAlertActive status' jobId = true ∧
      lastError status' jobId = some (sliceTo 2000 error) := by
  intro status'
  have hlookup := lookup_alerted_self status jobId error occurredAt
  refine ⟨?_, ?_, ?_⟩
  · rw [consecutiveFailures, hlookup]
    exact (failedStatus_fields status jobId error occurredAt).1
  · rw [failureAlertActive, hlookup]
    rfl
  · rw [lastError, hlookup, failedStatus]
    cases status.lookup jobId <;> rfl

/-- The failure side of a job after a failure that is only counted. -/
lemma failureSide_counted (status : KeyTable String JobStatusRow) (jobId error : String)
    (occurredAt : Datetime) :
    let status' := statusAfterFailure status jobId error occurredAt
    consecutiveFailures status' jobId = consecutiveFailures status jobId + 1 ∧
      failureAlertActive status' jobId = failureAlertActive status jobId ∧
      lastError status' jobId = some (sliceTo 2000 error) := by
  intro status'
  have hlookup := lookup_statusAfterFailure status jobId error occurredAt
  obtain ⟨hcount, hflag, _⟩ := failedStatus_fields status jobId error occurredAt
  refine ⟨?_, ?_, ?_⟩
  · rw [consecutiveFailures, hlookup]
    exact hcount
  · rw [failureAlertActive, hlookup]
    exact hflag
  · rw [lastError, hlookup, failedStatus]
    cases status.lookup jobId <;> rfl

/-- **One operation of the worker keeps flags and counters in step.** -/
lemma FlagAtThreshold.step {settings : WorkerSettings} {db db' : Database}
    (hpositive : 1 ≤ settings.failureAlertAfter)
    (h : FlagAtThreshold settings.failureAlertAfter db) {op : StoreOp} {result : StoreResult}
    (hop : settings.Uses op) (heffect : OpEffect db op result db') :
    FlagAtThreshold settings.failureAlertAfter db' := by
  intro jobId
  cases heffect with
  | failed => exact h jobId
  | @recorded j result plan =>
      by_cases hj : jobId = j
      · subst hj
        obtain ⟨s, hs, hcount, hoff, _⟩ :=
          lookup_statusAfterSuccess_self db.jobStatus jobId result.checkedAt
        rw [failureAlertActive, consecutiveFailures, recorded, hs]
        simp only [Option.elim_some, hcount, hoff]
        simp
        omega
      · exact h.of_lookup_eq (lookup_statusAfterSuccess_of_ne db.jobStatus result.checkedAt hj)
  | @alerted j error failedAt now alertAfter channels hraises =>
      by_cases hj : jobId = j
      · subst hj
        obtain ⟨hcount, hflag, _⟩ := failureSide_alerted db.jobStatus jobId error
          (failedAt.getD now)
        have hreached := hraises.1
        rw [(failedStatus_fields db.jobStatus jobId error (failedAt.getD now)).1, hop.1] at hreached
        simp only [hcount, hflag, true_iff]
        exact hreached
      · exact h.of_lookup_eq (lookup_alerted_of_ne db.jobStatus error _ hj)
  | @counted j error failedAt now alertAfter channels hquiet =>
      by_cases hj : jobId = j
      · subst hj
        obtain ⟨hcount, hflag, _⟩ := failureSide_counted db.jobStatus jobId error
          (failedAt.getD now)
        obtain ⟨hcount', hflag', _⟩ :=
          failedStatus_fields db.jobStatus jobId error (failedAt.getD now)
        have hold := h jobId
        rw [raisesAlert, hcount', hflag', hop.1] at hquiet
        simp only [hcount, hflag]
        push_cast at hquiet ⊢
        constructor
        · intro hon
          have := hold.mp hon
          omega
        · intro hreached
          by_contra hoff
          exact hquiet ⟨hreached, hoff⟩
      · exact h.of_lookup_eq (lookup_statusAfterFailure_of_ne db.jobStatus error _ hj)
  | evaluated =>
      obtain ⟨hcount, hflag⟩ := failureSide_evaluated db _ jobId
      rw [hcount, hflag]
      exact h jobId
  | delivered => exact h jobId
  | attempted => exact h jobId
  | alertDelivered => exact h jobId
  | alertAttempted => exact h jobId
  | pruned =>
      rw [prune_snd]
      exact h jobId

/-- A failure that raises no alert is counted, whatever the channels are. -/
lemma applyOp_recordFailure_counted {settings : WorkerSettings} {db : Database}
    {jobId error : String} {failedAt : Option Datetime} {now : Datetime}
    (hquiet : ¬ raisesAlert settings.failureAlertAfter
      (failedStatus db.jobStatus jobId error (failedAt.getD now))) :
    applyOp db (settings.recordFailure jobId error failedAt now)
      = (.raised false, { db with
          jobStatus := statusAfterFailure db.jobStatus jobId error (failedAt.getD now) }) := by
  have hok : recordCheckFailure db jobId error failedAt now settings.failureAlertAfter
      settings.operationalChannels = .ok (false, _) :=
    recordCheckFailure_eq_ok.mpr (Or.inr ⟨rfl, hquiet, rfl⟩)
  rw [WorkerSettings.recordFailure, applyOp, hok]
  rfl

/-- **With distinct channels every failure is recorded.** -/
lemma recordsEveryFailure_of_nodup {settings : WorkerSettings}
    (hpositive : 1 ≤ settings.failureAlertAfter) (hne : settings.operationalChannels ≠ [])
    (hnodup : settings.operationalChannels.Nodup) : RecordsEveryFailure settings := by
  intro ops hops jobId error failedAt now
  have hadmitted : ∀ op ∈ ops, op.FailureAdmitted := by
    intro op hop
    have huses := hops op hop
    cases op with
    | recordCheckFailure => exact huses.2 ▸ ⟨hne, hnodup⟩
    | _ => trivial
  have start : FlagAtThreshold settings.failureAlertAfter Database.empty := by
    intro j
    simp [failureAlertActive, consecutiveFailures, Database.empty]
    omega
  have hflag : FlagAtThreshold settings.failureAlertAfter (Store.exec .empty ops) :=
    effect_induction (P := fun _ db => FlagAtThreshold settings.failureAlertAfter db)
      consistent_empty start (fun h hop _ heffect => h.step hpositive hop heffect) hops
  have episode := failureEpisode_run hadmitted jobId
  set db := Store.exec .empty ops
  set occurredAt := failedAt.getD now with hoccurred
  obtain ⟨hcount, hactive, _⟩ := failedStatus_fields db.jobStatus jobId error occurredAt
  by_cases hraises : raisesAlert settings.failureAlertAfter
      (failedStatus db.jobStatus jobId error occurredAt)
  · have hfree : alertChannels db.alerts (checkFailureKey jobId) = [] := by
      rw [episode.rows, ← hactive]
      simpa using hraises.2
    have hok := recordCheckFailure_eq_ok.mpr (Or.inl ⟨rfl, hraises, hnodup,
      fun a ha hk => absurd hk (alertChannels_eq_nil.mp hfree a ha), rfl⟩)
    obtain ⟨hcount', _, hlast⟩ := failureSide_alerted db.jobStatus jobId error occurredAt
    have hbelow : ¬ settings.failureAlertAfter ≤ consecutiveFailures db.jobStatus jobId := by
      rw [← hflag jobId, ← hactive]
      exact hraises.2
    have hreached := hraises.1
    rw [hcount] at hreached
    refine ⟨true, _, by rw [WorkerSettings.recordFailure, applyOp, hok]; rfl, hcount', hlast, ?_,
      fun _ => ⟨hfree, ?_⟩⟩
    · simp only [true_iff]
      rw [hcount']
      push_cast at hreached ⊢
      omega
    · rw [raisedAlerts, alertChannels_insertAll, if_pos rfl, hfree, List.nil_append,
        hnodup.dedup]
  · obtain ⟨hcount', hsame, hlast⟩ := failureSide_counted db.jobStatus jobId error occurredAt
    refine ⟨false, _, applyOp_recordFailure_counted hraises, hcount', hlast, ?_,
      fun h => absurd h Bool.false_ne_true⟩
    rw [raisesAlert, hcount, hactive, hflag jobId] at hraises
    simp only [Bool.false_eq_true, false_iff]
    rw [hcount']
    push_cast at hraises ⊢
    omega

/-! ## Repeated channels -/

/-- A call that is recorded is one that succeeded. -/
lemma recordCheckFailure_of_applyOp {settings : WorkerSettings} {db db' : Database}
    {jobId error : String} {failedAt : Option Datetime} {now : Datetime} {raised : Bool}
    (h : applyOp db (settings.recordFailure jobId error failedAt now) = (.raised raised, db')) :
    recordCheckFailure db jobId error failedAt now settings.failureAlertAfter
      settings.operationalChannels = .ok (raised, db') := by
  rw [WorkerSettings.recordFailure, applyOp] at h
  cases hout : recordCheckFailure db jobId error failedAt now settings.failureAlertAfter
      settings.operationalChannels with
  | error e => simp [hout, settle] at h
  | ok out =>
      rw [hout] at h
      simp only [settle, Prod.mk.injEq, StoreResult.raised.injEq] at h
      rw [← h.1, ← h.2]

/-- A number of failures of one job. -/
def failures (settings : WorkerSettings) (n : ℕ) : List StoreOp :=
  List.replicate n (settings.recordFailure "job" "timeout" none .epoch)

/-- Below the threshold failures are only counted. -/
lemma failures_below {settings : WorkerSettings} {n : ℕ}
    (h : (n : ℤ) < settings.failureAlertAfter) :
    let db := Store.exec .empty (failures settings n)
    consecutiveFailures db.jobStatus "job" = n ∧ failureAlertActive db.jobStatus "job" = false := by
  induction n with
  | zero => exact ⟨rfl, rfl⟩
  | succ n ih =>
      push_cast at h
      obtain ⟨ihcount, ihflag⟩ := ih (by omega)
      simp only [failures, List.replicate_succ', Runs.Machine.exec_snoc]
      rw [failures] at ihcount ihflag
      set db := Store.exec .empty (List.replicate n (settings.recordFailure "job" "timeout" none
        .epoch))
      obtain ⟨hcount, _, _⟩ := failedStatus_fields db.jobStatus "job" "timeout" .epoch
      have hquiet : ¬ raisesAlert settings.failureAlertAfter
          (failedStatus db.jobStatus "job" "timeout" (Option.getD none .epoch)) := by
        rintro ⟨hreached, _⟩
        rw [Option.getD_none, hcount, ihcount] at hreached
        push_cast at hreached
        omega
      obtain ⟨hcount', hflag', _⟩ := failureSide_counted db.jobStatus "job" "timeout" .epoch
      have happly : Store.apply db (settings.recordFailure "job" "timeout" none .epoch)
          = (.raised false, { db with
              jobStatus := statusAfterFailure db.jobStatus "job" "timeout" .epoch }) :=
        applyOp_recordFailure_counted hquiet
      rw [happly]
      exact ⟨hcount'.trans (by rw [ihcount]), hflag'.trans ihflag⟩

/-- **With a repeated channel the failure that reaches the threshold is not recorded.** -/
lemma not_recorded_of_repeated {settings : WorkerSettings}
    (hpositive : 1 ≤ settings.failureAlertAfter)
    (hrepeated : ¬ settings.operationalChannels.Nodup) :
    ¬ FailureRecorded settings
      (Store.exec .empty (failures settings (settings.failureAlertAfter.toNat - 1)))
      "job" "timeout" none .epoch := by
  have hbelow : ((settings.failureAlertAfter.toNat - 1 : ℕ) : ℤ) < settings.failureAlertAfter := by
    omega
  obtain ⟨hcount, hflag⟩ := failures_below hbelow
  set db := Store.exec .empty (failures settings (settings.failureAlertAfter.toNat - 1))
  rintro ⟨raised, db', happly, _⟩
  obtain ⟨hcount', hflag', _⟩ := failedStatus_fields db.jobStatus "job" "timeout" .epoch
  rcases recordCheckFailure_eq_ok.mp (recordCheckFailure_of_applyOp happly) with
    ⟨_, _, hnodup, _⟩ | ⟨_, hquiet, _⟩
  · exact hrepeated hnodup
  · refine hquiet ⟨?_, ?_⟩
    · rw [Option.getD_none, hcount', hcount]
      omega
    · rw [Option.getD_none, hflag', hflag]
      exact Bool.false_ne_true

/-! ## Accepted configurations -/

/-- **Recording failures works for an accepted configuration exactly if no channel is repeated**:
every call then commits, whatever the worker has done before, and otherwise the call that reaches
the threshold does not. -/
theorem failureRecording_iff {registry : NotifierRegistry} {environment : WorkerEnvironment}
    {settings : WorkerSettings} (h : workerSettings registry environment = .ok settings) :
    RecordsEveryFailure settings ↔
      (channelNames (environment.operationalChannels.getD
        (defaultOperationalChannels registry))).Nodup := by
  obtain ⟨hchannels, hne, hpositive, _⟩ := workerSettings_eq_ok h
  rw [← hchannels]
  constructor
  · intro hall
    by_contra hrepeated
    refine not_recorded_of_repeated hpositive hrepeated (hall _ (fun op hop => ?_) _ _ _ _)
    rw [List.eq_of_mem_replicate hop]
    exact ⟨rfl, rfl⟩
  · exact recordsEveryFailure_of_nodup hpositive hne

/-- A registry with adapters for the console and for email. -/
def consoleAndEmail : NotifierRegistry :=
  ⟨["console", "email"], by decide, by decide, by decide⟩

/-- The default configuration with an adapter for email. -/
theorem failureRecording_default :
    RecordsEveryFailure ⟨["console", "email"], 3⟩ :=
  (@failureRecording_iff consoleAndEmail ⟨none, some 3⟩ _ (by decide)).mpr (by decide)

/-- **A repeated channel is accepted, and the first failure is lost.** -/
theorem repeatedChannel_loses_failure :
    workerSettings consoleAndEmail ⟨some "console, console", some 1⟩
        = .ok ⟨["console", "console"], 1⟩ ∧
      ¬ RecordsEveryFailure ⟨["console", "console"], 1⟩ ∧
      ∃ error, (applyOp .empty (.recordCheckFailure "job" "timeout" none .epoch 1
        ["console", "console"])).1 = .failed error := by
  refine ⟨by decide, fun hall => ?_, ?_⟩
  · exact not_recorded_of_repeated (by decide) (by decide)
      (hall _ (by simp [failures, WorkerSettings.recordFailure, WorkerSettings.Uses]) _ _ _ _)
  · exact ⟨_, rfl⟩

end WebChecker
