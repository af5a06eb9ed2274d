import WebChecker.Storage.History
import WebChecker.Storage.Chronology

/-!
# What the store reports about its jobs

`list_job_statuses` reads a job's status row, its outbox rows and the observations of its latest
run.  `JobMark` is what a history says about a job: its commits and its recorded failures.
`StatusOf` relates a status row to them, and `JobStatus.Reports` says what the whole report means;
`listJobStatuses_history` is the theorem that it always does.
-/

namespace WebChecker

open Relational Results Runs

/-! ## The report -/

/-- The status of one job. -/
structure JobStatus where
  jobId : String
  lastSuccessAt : Option Datetime
  lastFailureAt : Option Datetime
  consecutiveFailures : ℕ
  lastError : Option String
  /-- The dictionary from the texts of availabilities to their counts. -/
  availability : List (Availability × ℕ)
  pendingDeliveries : ℕ
  failedDeliveries : ℕ

/-- `run_id = (SELECT MAX(id) FROM check_runs WHERE job_id = ?)`. -/
def ofLatestRun (db : Database) (jobId : String) (o : Observation) : Bool :=
  (latestRun db jobId).any fun run => run.id == o.runId

/-- `GROUP BY o.availability`, with the count of every group. -/
def availabilityCounts (observations : List Observation) : List (Availability × ℕ) :=
  [Availability.available, .unavailable, .unknown].filterMap fun a =>
    let count := observations.countP fun o => o.availability = a
    if count = 0 then none else some (a, count)

/-- `datetime.fromisoformat(column) if column else None`. -/
def parseStatusTime (column : Option String) : Except PyError (Option Datetime) :=
  parseOptionalTime (column.filter fun text => text ≠ "")

/-- An undelivered row of the job, and one that has been attempted. -/
def pendingFor (jobId : String) (n : OutboxRow) : Bool := n.jobId == jobId && n.pending

def failedFor (jobId : String) (n : OutboxRow) : Bool := pendingFor jobId n && 0 < n.attempts

/-- The body of the loop over the rows. -/
def jobStatusOf (db : Database) (row : JobStatusRow) : Except PyError JobStatus := do
  let lastSuccessAt ← parseStatusTime row.lastSuccessAt
  let lastFailureAt ← parseStatusTime row.lastFailureAt
  return {
    jobId := row.jobId
    lastSuccessAt
    lastFailureAt
    consecutiveFailures := row.consecutiveFailures
    lastError := row.lastError
    availability := availabilityCounts (db.observations.filter (ofLatestRun db row.jobId))
    pendingDeliveries := db.outbox.rows.countP (pendingFor row.jobId)
    failedDeliveries := db.outbox.rows.countP (failedFor row.jobId) }

/-- `FROM job_status s ORDER BY s.job_id`. -/
def statusRows (db : Database) : List JobStatusRow :=
  db.jobStatus.rows.insertionSort fun a b => a.jobId ≤ b.jobId

/-- `list_job_statuses`. -/
def listJobStatuses (db : Database) : Except StorageError (List JobStatus) :=
  raiseAs "could not read job status" ((statusRows db).mapM (jobStatusOf db))

/-! ## What a history says about a job -/

/-- A commit of a job, or a failure of it that was recorded. -/
inductive JobMark where
  | committed (result : CheckResult)
  | failed (occurredAt : Datetime) (error : String)

namespace JobMark

def isCommitted : JobMark → Bool
  | committed _ => true
  | failed _ _ => false

def isFailed (mark : JobMark) : Bool := !mark.isCommitted

def time : JobMark → Datetime
  | committed result => result.checkedAt
  | failed occurredAt _ => occurredAt

/-- The error of a failure. -/
def error : JobMark → Option String
  | committed _ => none
  | failed _ error => some error

end JobMark

/-- What an event means for a job. -/
def jobMark (jobId : String) (e : StoreEvent) : Option JobMark :=
  match e.op, e.result with
  | .recordSuccess j result _, .recorded _ => if j = jobId then some (.committed result) else none
  | .recordCheckFailure j error failedAt now _ _, .raised _ =>
    if j = jobId then some (.failed (failedAt.getD now) error) else none
  | _, _ => none

def jobMarks (jobId : String) (history : List StoreEvent) : List JobMark :=
  history.filterMap (jobMark jobId)

/-- What has been recorded since the last commit: failures only. -/
def sinceCommit (marks : List JobMark) : List JobMark := afterLast JobMark.isCommitted marks

lemma jobMarks_snoc (jobId : String) (history : List StoreEvent) (e : StoreEvent) :
    jobMarks jobId (history ++ [e]) = jobMarks jobId history ++ (jobMark jobId e).toList := by
  rw [jobMarks, List.filterMap_append, jobMarks]
  cases h : jobMark jobId e <;> simp [h]

/-- The mark of a commit. -/
lemma jobMark_recorded (before after : Database) (jobId : String) (result : CheckResult)
    (plan : NotificationPlan) (outcome : RecordOutcome) :
    jobMark jobId ⟨before, .recordSuccess jobId result plan, .recorded outcome, after⟩
      = some (.committed result) :=
  if_pos rfl

/-- The mark of a recorded failure, whether it raises an alert or not. -/
lemma jobMark_raised (before after : Database) (jobId error : String) (failedAt : Option Datetime)
    (now : Datetime) (alertAfter : ℤ) (channels : List String) (alert : Bool) :
    jobMark jobId ⟨before, .recordCheckFailure jobId error failedAt now alertAfter channels,
      .raised alert, after⟩ = some (.failed (failedAt.getD now) error) :=
  if_pos rfl

/-! ## Status rows -/

/-- A status row says of a job what its marks say. -/
structure StatusOf (marks : List JobMark) (s : JobStatusRow) : Prop where
  lastSuccessAt : s.lastSuccessAt
    = (lastSome JobMark.isCommitted marks).map fun m => m.time.isoformat
  lastFailureAt : s.lastFailureAt = (lastSome JobMark.isFailed marks).map fun m => m.time.isoformat
  consecutiveFailures : s.consecutiveFailures = (sinceCommit marks).length
  lastError : s.lastError = ((sinceCommit marks).getLast?.bind JobMark.error).map (sliceTo 2000)

/-- The row of a job, or the one it would begin with. -/
def statusRow (status : KeyTable String JobStatusRow) (jobId : String) : JobStatusRow :=
  (status.lookup jobId).getD { jobId }

section Rows

variable {marks : List JobMark} {s : JobStatusRow}

lemma StatusOf.commits (h : StatusOf marks s) (result : CheckResult) (flag : Bool) :
    StatusOf (marks ++ [.committed result])
      { s with lastSuccessAt := some result.checkedAt.isoformat, consecutiveFailures := 0,
               lastError := none, failureAlertActive := flag } := by
  have hcommitted : JobMark.isCommitted (.committed result) = true := rfl
  have hfailed : JobMark.isFailed (.committed result) = false := rfl
  constructor
  · simp [lastSome_snoc_of_pos hcommitted, JobMark.time]
  · simpa [lastSome_snoc_of_neg hfailed] using h.lastFailureAt
  · simp [sinceCommit, afterLast_snoc_of_pos hcommitted]
  · simp [sinceCommit, afterLast_snoc_of_pos hcommitted]

lemma StatusOf.fails (h : StatusOf marks s) (occurredAt : Datetime) (error : String) :
    StatusOf (marks ++ [.failed occurredAt error])
      { s with lastFailureAt := some occurredAt.isoformat,
               consecutiveFailures := s.consecutiveFailures + 1,
               lastError := some (sliceTo 2000 error) } := by
  have hcommitted : JobMark.isCommitted (.failed occurredAt error) = false := rfl
  have hfailed : JobMark.isFailed (.failed occurredAt error) = true := rfl
  constructor
  · simpa [lastSome_snoc_of_neg hcommitted] using h.lastSuccessAt
  · simp [lastSome_snoc_of_pos hfailed, JobMark.time]
  · simp [sinceCommit, afterLast_snoc_of_neg hcommitted, h.consecutiveFailures]
  · simp [sinceCommit, afterLast_snoc_of_neg hcommitted, JobMark.error]

/-- The flags of a row say nothing about the marks. -/
lemma StatusOf.flags (h : StatusOf marks s) (failureAlertActive deliveryAlertActive : Bool) :
    StatusOf marks { s with failureAlertActive, deliveryAlertActive } :=
  ⟨h.lastSuccessAt, h.lastFailureAt, h.consecutiveFailures, h.lastError⟩

end Rows

/-- Every job's status row against its marks; a job has a row as soon as it has a mark. -/
def StatusHistory (history : List StoreEvent) (db : Database) : Prop :=
  ∀ jobId, StatusOf (jobMarks jobId history) (statusRow db.jobStatus jobId) ∧
    ((db.jobStatus.lookup jobId).isSome = true ↔ jobMarks jobId history ≠ [])

section History

variable {history : List StoreEvent} {db db' : Database}

/-- An event that means nothing for a job, and leaves its row alone up to the flags. -/
lemma StatusHistory.quiet_job {jobId : String} {e : StoreEvent}
    (h : StatusOf (jobMarks jobId history) (statusRow db.jobStatus jobId) ∧
      ((db.jobStatus.lookup jobId).isSome = true ↔ jobMarks jobId history ≠ []))
    (hmark : jobMark jobId e = none)
    (hlookup : ∃ failure delivery : JobStatusRow → Bool, db'.jobStatus.lookup jobId
      = (db.jobStatus.lookup jobId).map fun s =>
          { s with failureAlertActive := failure s, deliveryAlertActive := delivery s }) :
    StatusOf (jobMarks jobId (history ++ [e])) (statusRow db'.jobStatus jobId) ∧
      ((db'.jobStatus.lookup jobId).isSome = true ↔ jobMarks jobId (history ++ [e]) ≠ []) := by
  obtain ⟨hstatus, hsome⟩ := h
  obtain ⟨failure, delivery, hlookup⟩ := hlookup
  rw [jobMarks_snoc, hmark, Option.toList_none, List.append_nil]
  refine ⟨?_, by rw [hlookup, Option.isSome_map, hsome]⟩
  rw [statusRow] at hstatus ⊢
  rw [hlookup]
  cases hrow : db.jobStatus.lookup jobId with
  | none => simpa [hrow] using hstatus
  | some s =>
      rw [hrow, Option.getD_some] at hstatus
      exact hstatus.flags _ _

/-- The row after a commit. -/
lemma lookup_succeeded (status : KeyTable String JobStatusRow) (jobId : String)
    (checkedAt : Datetime) :
    (statusAfterSuccess status jobId checkedAt).lookup jobId
      = some { statusRow status jobId with
          lastSuccessAt := some checkedAt.isoformat, consecutiveFailures := 0, lastError := none,
          failureAlertActive := false } := by
  rw [statusAfterSuccess, KeyTable.lookup_upsert_self, statusRow]
  cases status.lookup jobId <;> rfl

/-- The row after a failure. -/
lemma failedStatus_eq (status : KeyTable String JobStatusRow) (jobId error : String)
    (occurredAt : Datetime) :
    failedStatus status jobId error occurredAt
      = { statusRow status jobId with
          lastFailureAt := some occurredAt.isoformat,
          consecutiveFailures := (statusRow status jobId).consecutiveFailures + 1,
          lastError := some (sliceTo 2000 error) } := by
  rw [failedStatus, statusRow]
  cases status.lookup jobId <;> rfl

/-- **One operation keeps the status rows and the history together.** -/
lemma StatusHistory.step (inv : StatusHistory history db) {op : StoreOp} {result : StoreResult}
    (h : OpEffect db op result db') : StatusHistory (history ++ [⟨db, op, result, db'⟩]) db' := by
  have hsame : ∀ {status : KeyTable String JobStatusRow} {jobId : String},
      status.lookup jobId = db.jobStatus.lookup jobId →
      ∃ failure delivery : JobStatusRow → Bool, status.lookup jobId
        = (db.jobStatus.lookup jobId).map fun s =>
            { s with failureAlertActive := failure s, deliveryAlertActive := delivery s } := by
    intro status jobId hlookup
    refine ⟨JobStatusRow.failureAlertActive, JobStatusRow.deliveryAlertActive, ?_⟩
    rw [hlookup]
    cases db.jobStatus.lookup jobId <;> rfl
  intro jobId
  cases h with
  | failed => exact quiet_job (inv jobId) (by cases op <;> rfl) (hsame rfl)
  | @recorded j result plan previous rows =>
      by_cases hj : j = jobId
      · subst hj
        obtain ⟨hstatus, -⟩ := inv j
        have hlookup := lookup_succeeded db.jobStatus j result.checkedAt
        rw [jobMarks_snoc, jobMark_recorded, Option.toList_some]
        refine ⟨?_, by simp [recorded, hlookup]⟩
        rw [statusRow, recorded, hlookup, Option.getD_some]
        exact hstatus.commits result false
      · refine quiet_job (inv jobId) (by simp [jobMark, hj]) (hsame ?_)
        exact lookup_statusAfterSuccess_of_ne db.jobStatus result.checkedAt (Ne.symm hj)
  | @alerted j error failedAt now alertAfter channels hraises =>
      by_cases hj : j = jobId
      · subst hj
        obtain ⟨hstatus, -⟩ := inv j
        have hlookup := lookup_alerted_self db.jobStatus j error (failedAt.getD now)
        rw [failedStatus_eq] at hlookup
        rw [jobMarks_snoc, jobMark_raised, Option.toList_some]
        refine ⟨?_, by simp [hlookup]⟩
        rw [statusRow, hlookup, Option.getD_some]
        exact (hstatus.fails (failedAt.getD now) error).flags true _
      · refine quiet_job (inv jobId) (by simp [jobMark, hj]) (hsame ?_)
        exact lookup_alerted_of_ne db.jobStatus error (failedAt.getD now) (Ne.symm hj)
  | @counted j error failedAt now alertAfter channels hquiet =>
      by_cases hj : j = jobId
      · subst hj
        obtain ⟨hstatus, -⟩ := inv j
        have hlookup := lookup_statusAfterFailure db.jobStatus j error (failedAt.getD now)
        rw [failedStatus_eq] at hlookup
        rw [jobMarks_snoc, jobMark_raised, Option.toList_some]
        refine ⟨?_, by simp [hlookup]⟩
        rw [statusRow, hlookup, Option.getD_some]
        exact hstatus.fails (failedAt.getD now) error
      · refine quiet_job (inv jobId) (by simp [jobMark, hj]) (hsame ?_)
        exact lookup_statusAfterFailure_of_ne db.jobStatus error (failedAt.getD now) (Ne.symm hj)
  | @evaluated alertAfter channels now =>
      exact quiet_job (inv jobId) rfl ⟨JobStatusRow.failureAlertActive,
        fun s => (backlogRow db.outbox s).active alertAfter,
        lookup_evaluatedStatus_job db alertAfter jobId⟩
  | delivered => exact quiet_job (inv jobId) rfl (hsame rfl)
  | attempted => exact quiet_job (inv jobId) rfl (hsame rfl)
  | alertDelivered => exact quiet_job (inv jobId) rfl (hsame rfl)
  | alertAttempted => exact quiet_job (inv jobId) rfl (hsame rfl)
  | pruned => exact quiet_job (inv jobId) rfl (hsame (by rw [prune_snd]))

lemma statusHistory_run (ops : List StoreOp) :
    StatusHistory (Store.history .empty ops) (Store.exec .empty ops) := by
  refine effect_induction_all (P := StatusHistory) consistent_empty ?_ ?_ ops
  · intro jobId
    refine ⟨⟨rfl, rfl, rfl, rfl⟩, ?_⟩
    simp [jobMarks, Database.empty]
  · exact fun inv _ heffect => inv.step heffect

end History

/-! ## The report against the history -/

/-- A report says of its job what the history says. -/
structure JobStatus.Reports (history : List StoreEvent) (db : Database) (s : JobStatus) :
    Prop where
  lastSuccessAt : s.lastSuccessAt
    = (lastSome JobMark.isCommitted (jobMarks s.jobId history)).map fun m => m.time.detached
  lastFailureAt : s.lastFailureAt
    = (lastSome JobMark.isFailed (jobMarks s.jobId history)).map fun m => m.time.detached
  consecutiveFailures : s.consecutiveFailures = (sinceCommit (jobMarks s.jobId history)).length
  lastError : s.lastError
    = ((sinceCommit (jobMarks s.jobId history)).getLast?.bind JobMark.error).map (sliceTo 2000)
  /-- The counts of the last snapshot, for the availabilities that occur in it. -/
  availability : s.availability = (snapshots s.jobId history).getLast?.elim [] fun result =>
    [Availability.available, .unavailable, .unknown].filterMap fun a =>
      let count := result.opportunities.countP fun o => o.availability = a
      if count = 0 then none else some (a, count)
  pendingDeliveries : s.pendingDeliveries
    = (pendingRows db).countP fun n => n.jobId = s.jobId
  failedDeliveries : s.failedDeliveries
    = (pendingRows db).countP fun n => n.jobId = s.jobId ∧ 0 < n.attempts

/-- A column that holds a written time, or none. -/
lemma parseStatusTime_isoformat (time : Option Datetime) :
    parseStatusTime (time.map Datetime.isoformat) = .ok (time.map Datetime.detached) := by
  cases time with
  | none => rfl
  | some d =>
      have hread := fromisoformat_isoformat d
      have hne : d.isoformat ≠ "" := by
        intro hempty
        rw [hempty] at hread
        cases hread
      simp [parseStatusTime, parseOptionalTime, parseTime, Option.filter, hne, hread]

/-- Counts by availability see only the availabilities. -/
lemma countP_decoded {observations : List Observation} {opportunities : List Opportunity}
    (h : observations.mapM decodeObservation = .ok opportunities) (a : Availability) :
    observations.countP (fun o => o.availability = a)
      = opportunities.countP fun o => o.availability = a := by
  have hmap : opportunities.map Opportunity.availability
      = observations.map Observation.availability := by
    refine map_of_mapM_eq_ok h fun o o' ho => ?_
    simp only [decodeObservation, bind_eq_ok] at ho
    obtain ⟨startsAt, _, hcreate⟩ := ho
    exact (Opportunity.create_fields hcreate).2.2.1
  have hcount := congrArg (List.countP fun b => decide (b = a)) hmap
  rw [List.countP_map, List.countP_map] at hcount
  exact hcount.symm

/-- **The observations of the latest run** are counted as the last snapshot of the history. -/
lemma countP_ofLatestRun {history : List StoreEvent} {db : Database}
    (h : LatestCommitted history db) (jobId : String) (a : Availability) :
    (db.observations.filter (ofLatestRun db jobId)).countP (fun o => o.availability = a)
      = (snapshots jobId history).getLast?.elim 0 fun result =>
          result.opportunities.countP fun o => o.availability = a := by
  obtain ⟨stored, hstored, hrel⟩ := h jobId
  cases hrun : latestRun db jobId with
  | none =>
      rw [latestSnapshot, hrun, Except.ok.injEq] at hstored
      rw [← hstored] at hrel
      have hnone : (snapshots jobId history).getLast? = none := by
        cases hlast : (snapshots jobId history).getLast? with
        | none => rfl
        | some result =>
            rw [hlast] at hrel
            cases hrel
      have hempty : db.observations.filter (ofLatestRun db jobId) = [] :=
        List.filter_eq_nil_iff.mpr fun o _ => by simp [ofLatestRun, hrun]
      rw [hnone, hempty]
      rfl
  | some run =>
      rw [latestSnapshot, hrun] at hstored
      simp only [bind_eq_ok, pure_eq_ok, Except.ok.injEq] at hstored
      obtain ⟨opportunities, hdecoded, checkedAt, _, result, hcreate, rfl⟩ := hstored
      rcases rel_cases hrel with ⟨_, hnone⟩ | ⟨last, stored, hlast, hsome, hsame⟩
      · cases hnone
      · cases hsome
        have hfilter : db.observations.filter (ofLatestRun db jobId)
            = db.observations.filter fun o => o.runId == run.id := by
          refine List.filter_congr fun o _ => ?_
          rw [ofLatestRun, hrun, Option.any_some, Bool.eq_iff_iff, beq_iff_eq, beq_iff_eq]
          exact eq_comm
        have hperm : (observationsOf db run.id).countP (fun o => o.availability = a)
            = (db.observations.filter fun o => o.runId == run.id).countP
                (fun o => o.availability = a) :=
          (List.perm_insertionSort _ _).countP_eq _
        have hopportunities : result.opportunities = opportunities := by
          rw [CheckResult.create] at hcreate
          split_ifs at hcreate
          rw [← Except.ok.inj hcreate]
        have hstoredAs : result.opportunities.map Opportunity.availability
            = last.opportunities.map Opportunity.availability :=
          map_eq_of_forall₂ hsame.opportunities fun _ _ ho => ho.availability_eq
        have hcount := congrArg (List.countP fun b => decide (b = a)) hstoredAs
        rw [List.countP_map, List.countP_map] at hcount
        rw [hfilter, ← hperm, countP_decoded hdecoded, ← hopportunities, hlast]
        exact hcount

/-- **A status row makes a report.** -/
lemma jobStatusOf_reports {history : List StoreEvent} {db : Database}
    (hlatest : LatestCommitted history db) {row : JobStatusRow}
    (h : StatusOf (jobMarks row.jobId history) row) :
    ∃ s, jobStatusOf db row = .ok s ∧ s.jobId = row.jobId ∧ s.Reports history db := by
  have hcolumn : ∀ mark : Option JobMark,
      parseStatusTime (mark.map fun m => m.time.isoformat)
        = .ok (mark.map fun m => m.time.detached) := by
    intro mark
    have hparse := parseStatusTime_isoformat (mark.map JobMark.time)
    rwa [Option.map_map, Option.map_map] at hparse
  have hok : jobStatusOf db row = .ok {
      jobId := row.jobId
      lastSuccessAt :=
        (lastSome JobMark.isCommitted (jobMarks row.jobId history)).map fun m => m.time.detached
      lastFailureAt :=
        (lastSome JobMark.isFailed (jobMarks row.jobId history)).map fun m => m.time.detached
      consecutiveFailures := row.consecutiveFailures
      lastError := row.lastError
      availability := availabilityCounts (db.observations.filter (ofLatestRun db row.jobId))
      pendingDeliveries := db.outbox.rows.countP (pendingFor row.jobId)
      failedDeliveries := db.outbox.rows.countP (failedFor row.jobId) } := by
    rw [jobStatusOf, h.lastSuccessAt, hcolumn, ok_bind, h.lastFailureAt, hcolumn, ok_bind]
    rfl
  refine ⟨_, hok, rfl, ⟨rfl, rfl, h.consecutiveFailures, h.lastError, ?_, ?_, ?_⟩⟩
  · dsimp only [availabilityCounts]
    simp only [countP_ofLatestRun hlatest]
    cases (snapshots row.jobId history).getLast? with
    | none => rfl
    | some result => rfl
  · dsimp only
    rw [pendingRows, List.countP_filter]
    exact List.countP_congr fun n _ => by simp [pendingFor]
  · dsimp only
    rw [pendingRows, List.countP_filter]
    refine List.countP_congr fun n _ => ?_
    simp [failedFor, pendingFor]
    tauto

/-- **The report of the store is the story of its jobs.**  After every run of store operations, of
any jobs and in any order, with retention passes in between: reading the report succeeds; it has
one entry for every job that has ever committed a snapshot or had a failure recorded, in increasing
order of ids; and each entry says when the job last did either, how many failures there are since
the last commit and what the last of them was, what the last snapshot holds, and what of the
job's notifications is undelivered. -/
theorem listJobStatuses_history (ops : List StoreOp) :
    let history := Store.history Database.empty ops
    let db := Store.exec Database.empty ops
    ∃ statuses, listJobStatuses db = .ok statuses ∧
      (statuses.map JobStatus.jobId).Pairwise (· < ·) ∧
      (∀ jobId, jobId ∈ statuses.map JobStatus.jobId ↔ jobMarks jobId history ≠ []) ∧
      ∀ s ∈ statuses, s.Reports history db := by
  intro history db
  have hstatus : StatusHistory history db := statusHistory_run ops
  have hlatest : LatestCommitted history db := latestCommitted_run ops
  have hrow : ∀ row ∈ db.jobStatus.rows, StatusOf (jobMarks row.jobId history) row := by
    intro row hmem
    have hlookup : db.jobStatus.lookup row.jobId = some row :=
      KeyTable.lookup_eq_some.mpr ⟨hmem, rfl⟩
    have hof := (hstatus row.jobId).1
    rwa [statusRow, hlookup, Option.getD_some] at hof
  have hperm : (statusRows db).Perm db.jobStatus.rows := List.perm_insertionSort _ _
  obtain ⟨statuses, hstatuses⟩ : ∃ statuses, (statusRows db).mapM (jobStatusOf db) = .ok statuses :=
    exists_mapM_eq_ok fun row hmem =>
      (jobStatusOf_reports hlatest (hrow row (hperm.mem_iff.mp hmem))).imp fun _ h => h.1
  have hids : statuses.map JobStatus.jobId = (statusRows db).map JobStatusRow.jobId := by
    refine map_of_mapM_eq_ok hstatuses fun row s hs => ?_
    simp only [jobStatusOf, bind_eq_ok, pure_eq_ok, Except.ok.injEq] at hs
    obtain ⟨_, _, _, _, rfl⟩ := hs
    rfl
  refine ⟨statuses, by rw [listJobStatuses, hstatuses]; rfl, ?_, fun jobId => ?_, fun s hs => ?_⟩
  · have hsorted : ((statusRows db).map JobStatusRow.jobId).Pairwise (· ≤ ·) :=
      List.pairwise_map.mpr (List.pairwise_insertionSort
        (fun a b : JobStatusRow => a.jobId ≤ b.jobId) db.jobStatus.rows)
    have hnodup : ((statusRows db).map JobStatusRow.jobId).Nodup :=
      (hperm.map _).nodup_iff.mpr db.jobStatus.nodup
    rw [hids]
    exact (hsorted.and hnodup).imp fun h => lt_of_le_of_ne h.1 h.2
  · rw [hids, (hperm.map _).mem_iff, ← (hstatus jobId).2, Option.isSome_iff_exists, List.mem_map]
    constructor
    · rintro ⟨row, hmem, rfl⟩
      exact ⟨row, KeyTable.lookup_eq_some.mpr ⟨hmem, rfl⟩⟩
    · rintro ⟨row, hlookup⟩
      exact ⟨row, KeyTable.lookup_eq_some.mp hlookup⟩
  · obtain ⟨row, hmem, hs⟩ := mem_of_mapM_eq_ok hstatuses s hs
    obtain ⟨s', hs', _, hreports⟩ := jobStatusOf_reports hlatest (hrow row (hperm.mem_iff.mp hmem))
    cases hs.symm.trans hs'
    exact hreports

end WebChecker
