import Mathlib.Data.List.Dedup
import WebChecker.Storage.Recording

/-!
# Opening a database file

`_initialize` brings a file to schema version 3, statement by statement.  The statements of an
`executescript` commit one by one; only the backfill of `job_status` runs in a transaction of its
own, after the version has been set.

A process that dies on the way leaves the file after some number of steps (`fileAfter`), and the
next one opens that file.  `openStore_after_crash` says exactly when that succeeds and completes
the upgrade: not if the process died inside a script, because the first `CREATE TABLE` of the
script is then there already and the version still asks for the whole script; and not if it died
between the version and the commit of the backfill, unless there was nothing to backfill.
-/

namespace WebChecker

open Relational Results

/-! ## Files -/

inductive TableName where
  | checkRuns
  | opportunityObservations
  | transitions
  | notificationOutbox
  | jobStatus
  | operationalAlertOutbox
deriving DecidableEq, Repr

def TableName.text : TableName → String
  | checkRuns => "check_runs"
  | opportunityObservations => "opportunity_observations"
  | transitions => "transitions"
  | notificationOutbox => "notification_outbox"
  | jobStatus => "job_status"
  | operationalAlertOutbox => "operational_alert_outbox"

/-- A database file of any version: the tables that have been created, with their rows. -/
structure DatabaseFile where
  userVersion : ℕ
  checkRuns : Option (RowTable CheckRun)
  observations : Option (List Observation)
  transitions : Option (RowTable TransitionRow)
  outbox : Option (RowTable OutboxRow)
  jobStatus : Option (KeyTable String JobStatusRow)
  alerts : Option (RowTable AlertRow)
  indexes : List String

namespace DatabaseFile

/-- The table has been created. -/
def has (f : DatabaseFile) : TableName → Bool
  | .checkRuns => f.checkRuns.isSome
  | .opportunityObservations => f.observations.isSome
  | .transitions => f.transitions.isSome
  | .notificationOutbox => f.outbox.isSome
  | .jobStatus => f.jobStatus.isSome
  | .operationalAlertOutbox => f.alerts.isSome

/-- The file with an empty table added. -/
def create (f : DatabaseFile) : TableName → DatabaseFile
  | .checkRuns => { f with checkRuns := some .empty }
  | .opportunityObservations => { f with observations := some [] }
  | .transitions => { f with transitions := some .empty }
  | .notificationOutbox => { f with outbox := some .empty }
  | .jobStatus => { f with jobStatus := some .empty }
  | .operationalAlertOutbox => { f with alerts := some .empty }

end DatabaseFile

/-! ## Statements -/

/-- A statement of the schema scripts. -/
inductive Statement where
  | createTable (t : TableName)
  | createIndex (name : String) (t : TableName)
  | setUserVersion (version : ℕ)
deriving DecidableEq, Repr

def executeStatement (s : Statement) (f : DatabaseFile) : Except PyError DatabaseFile :=
  match s with
  | .createTable t =>
    if f.has t then .error (.sqlite s!"table {t.text} already exists") else .ok (f.create t)
  | .createIndex name t =>
    if name ∈ f.indexes then .error (.sqlite s!"index {name} already exists")
    else if f.has t then .ok { f with indexes := f.indexes ++ [name] }
    else .error (.sqlite s!"no such table: main.{t.text}")
  | .setUserVersion version => .ok { f with userVersion := version }

def schemaVersion : ℕ := 3

/-- The script for an empty file. -/
def createScript : List Statement :=
  [.createTable .checkRuns, .createIndex "check_runs_job_latest" .checkRuns,
    .createTable .opportunityObservations, .createTable .transitions,
    .createTable .notificationOutbox,
    .createIndex "notification_outbox_pending" .notificationOutbox,
    .createTable .jobStatus, .createTable .operationalAlertOutbox,
    .createIndex "operational_alert_pending" .operationalAlertOutbox, .setUserVersion 3]

/-- The script from version 1 to version 2. -/
def outboxScript : List Statement :=
  [.createTable .notificationOutbox,
    .createIndex "notification_outbox_pending" .notificationOutbox, .setUserVersion 2]

/-- The script from version 2 to version 3. -/
def healthScript : List Statement :=
  [.createTable .jobStatus, .createTable .operationalAlertOutbox,
    .createIndex "operational_alert_pending" .operationalAlertOutbox, .setUserVersion 3]

/-- `MAX` of a text column; `NULL` of no rows. -/
def maxText : List String → Option String
  | [] => none
  | s :: ss => some (ss.foldl (fun a b => if a < b then b else a) s)

/-- `SELECT job_id, MAX(checked_at) FROM check_runs GROUP BY job_id`, as rows of `job_status`. -/
def backfillRows (runs : RowTable CheckRun) : List JobStatusRow :=
  ((runs.rows.map CheckRun.jobId).dedup.insertionSort (· ≤ ·)).map fun jobId =>
    { jobId, lastSuccessAt :=
        maxText ((runs.rows.filter fun r => r.jobId == jobId).map CheckRun.checkedAt) }

/-- `INSERT INTO job_status`, row by row. -/
def insertStatuses : List JobStatusRow → KeyTable String JobStatusRow →
    Except PyError (KeyTable String JobStatusRow)
  | [], status => .ok status
  | row :: rows, status =>
    if h : status.lookup (key row) = none then insertStatuses rows (status.insertNew row h)
    else .error (.sqlite "UNIQUE constraint failed: job_status.job_id")

/-- The backfill of `job_status`. -/
def backfill (f : DatabaseFile) : Except PyError DatabaseFile :=
  match f.checkRuns, f.jobStatus with
  | some runs, some status => do
    let jobStatus ← insertStatuses (backfillRows runs) status
    return { f with jobStatus := some jobStatus }
  | none, _ => .error (.sqlite "no such table: check_runs")
  | some _, none => .error (.sqlite "no such table: job_status")

/-! ## Opening -/

/-- What `_initialize` does, step by step. -/
inductive Step where
  /-- A statement of a script, which commits by itself. -/
  | execute (s : Statement)
  /-- The `INSERT`, which opens a transaction. -/
  | insertBackfill
  | commit
deriving DecidableEq, Repr

/-- An open connection: the file, and the transaction it has begun. -/
structure Connection where
  committed : DatabaseFile
  uncommitted : Option DatabaseFile := none

def runStep (c : Connection) : Step → Except PyError Connection
  | .execute s => (executeStatement s c.committed).map fun f => { committed := f }
  | .insertBackfill => (backfill c.committed).map fun f => { c with uncommitted := some f }
  | .commit => .ok { committed := c.uncommitted.getD c.committed }

def runSteps : List Step → Connection → Except PyError Connection
  | [], c => .ok c
  | s :: ss, c => do
    let c ← runStep c s
    runSteps ss c

/-- The backfill, if there are check runs at all. -/
def backfillSteps (f : DatabaseFile) : List Step :=
  if f.has .checkRuns then [.insertBackfill, .commit] else []

/-- The steps a file asks for by its version. -/
def steps (f : DatabaseFile) : List Step :=
  if f.userVersion = 0 then createScript.map .execute
  else if f.userVersion = 1 then
    outboxScript.map .execute ++ (healthScript.map .execute ++ backfillSteps f)
  else if f.userVersion = 2 then healthScript.map .execute ++ backfillSteps f
  else []

/-- `SQLiteObservationStore(path)`: the file after `_initialize`. -/
def openStore (path : String) (f : DatabaseFile) : Except StorageError DatabaseFile :=
  if schemaVersion < f.userVersion then
    .error ⟨s!"database schema version {f.userVersion} is newer than supported " ++
      s!"version {schemaVersion}"⟩
  else raiseAs s!"could not initialize database {path}" do
    let c ← runSteps (steps f) { committed := f }
    return c.committed

/-- The file a process leaves that dies after `k` steps: what it had not committed is lost. -/
def fileAfter (k : ℕ) (f : DatabaseFile) : Option DatabaseFile :=
  match runSteps ((steps f).take k) { committed := f } with
  | .ok c => some c.committed
  | .error _ => none

/-! ## Upgrades -/

/-- A file that `sqlite3.connect` has just created. -/
def freshFile : DatabaseFile := ⟨0, none, none, none, none, none, none, []⟩

def versionOne (runs : RowTable CheckRun) (observations : List Observation)
    (transitions : RowTable TransitionRow) (indexes : List String) : DatabaseFile :=
  ⟨1, some runs, some observations, some transitions, none, none, none, indexes⟩

def versionTwo (runs : RowTable CheckRun) (observations : List Observation)
    (transitions : RowTable TransitionRow) (outbox : RowTable OutboxRow) (indexes : List String) :
    DatabaseFile :=
  ⟨2, some runs, some observations, some transitions, some outbox, none, none, indexes⟩

/-- The files an upgrade can start from, with arbitrary rows.  The names of the indexes that the
scripts will create are free. -/
inductive Upgradable : DatabaseFile → Prop
  | fresh : Upgradable freshFile
  | one (runs observations transitions indexes)
      (hpending : "notification_outbox_pending" ∉ indexes)
      (halerts : "operational_alert_pending" ∉ indexes) :
      Upgradable (versionOne runs observations transitions indexes)
  | two (runs observations transitions outbox indexes)
      (halerts : "operational_alert_pending" ∉ indexes) :
      Upgradable (versionTwo runs observations transitions outbox indexes)

/-- The file is at version 3, with all tables, and every job that has a check run has a status
row with a last success. -/
structure Complete (f : DatabaseFile) : Prop where
  version : f.userVersion = schemaVersion
  tables : ∀ t, f.has t = true
  health : ∀ runs ∈ f.checkRuns, ∀ run ∈ runs.rows, ∃ status ∈ f.jobStatus,
    ∃ s ∈ status.rows, s.jobId = run.jobId ∧ s.lastSuccessAt.isSome

/-- The rows stored before the upgrade are there after it. -/
structure KeepsRows (before after : DatabaseFile) : Prop where
  checkRuns : ∀ runs ∈ before.checkRuns, after.checkRuns = some runs
  observations : ∀ os ∈ before.observations, after.observations = some os
  transitions : ∀ ts ∈ before.transitions, after.transitions = some ts
  outbox : ∀ ns ∈ before.outbox, after.outbox = some ns

/-- Opening what a process that died after `k` steps has left completes the upgrade. -/
def Recovers (path : String) (f : DatabaseFile) (k : ℕ) : Prop :=
  ∃ left ∈ fileAfter k f, ∃ f', openStore path left = .ok f' ∧ Complete f' ∧ KeepsRows f f'

/-- There is no check run to backfill. -/
def NoRuns (f : DatabaseFile) : Prop := ∀ runs ∈ f.checkRuns, runs.rows = []

/-- **When a process may die**: before the first step, after the last, or right after a version
was set; after version 3 was set and before the backfill is committed only if there is nothing to
backfill. -/
def Restartable (f : DatabaseFile) : ℕ → Prop
  | 0 => True
  | k + 1 =>
    match (steps f)[k]? with
    | some (.execute (.setUserVersion version)) => version = schemaVersion → NoRuns f
    | some (.execute _) => False
    | some .insertBackfill => NoRuns f
    | some .commit => True
    | none => True

/-! ## Half a script -/

/-- A file that asks for a table it has cannot be opened. -/
lemma openStore_stuck {f : DatabaseFile} {t : TableName} {rest : List Step}
    (hsteps : steps f = .execute (.createTable t) :: rest) (hhas : f.has t = true)
    (path : String) (f' : DatabaseFile) : openStore path f ≠ .ok f' := by
  intro h
  rw [openStore] at h
  split at h
  · simp at h
  · simp [hsteps, runSteps, runStep, executeStatement, hhas] at h

/-- A file whose steps all succeed is opened. -/
lemma openStore_ok {f : DatabaseFile} {c : Connection} (path : String)
    (hversion : f.userVersion ≤ schemaVersion)
    (hrun : runSteps (steps f) { committed := f } = .ok c) :
    openStore path f = .ok c.committed := by
  rw [openStore, if_neg (Nat.not_lt.mpr hversion), hrun]
  rfl

/-- The backfill of an empty table. -/
lemma insertStatuses_ok {rows : List JobStatusRow} :
    ∀ {status : KeyTable String JobStatusRow}, (rows.map JobStatusRow.jobId).Nodup →
      (∀ row ∈ rows, status.lookup row.jobId = none) →
      ∃ status', insertStatuses rows status = .ok status' ∧ ∀ row ∈ rows, row ∈ status'.rows := by
  have hkept : ∀ {rows : List JobStatusRow} {status status' : KeyTable String JobStatusRow},
      insertStatuses rows status = .ok status' → ∀ s ∈ status.rows, s ∈ status'.rows := by
    intro rows
    induction rows with
    | nil =>
        intro status status' h s hs
        exact Except.ok.inj h ▸ hs
    | cons row rows ih =>
        intro status status' h s hs
        rw [insertStatuses] at h
        split at h
        · exact ih h s (List.mem_append_left _ hs)
        · simp at h
  induction rows with
  | nil => exact fun _ _ => ⟨_, rfl, by simp⟩
  | cons row rows ih =>
      intro status hnodup hfree
      rw [List.map_cons, List.nodup_cons] at hnodup
      have hrow : status.lookup (key row) = none := hfree row List.mem_cons_self
      obtain ⟨status', hstatus', hmem⟩ : ∃ status',
          insertStatuses rows (status.insertNew row hrow) = .ok status' ∧
            ∀ r ∈ rows, r ∈ status'.rows := by
        refine ih hnodup.2 fun r hr => KeyTable.lookup_eq_none.mpr fun x hx => ?_
        rcases List.mem_append.mp hx with hx | hx
        · exact KeyTable.lookup_eq_none.mp (hfree r (List.mem_cons_of_mem _ hr)) x hx
        · rw [List.mem_singleton.mp hx]
          exact fun hid => hnodup.1 (List.mem_map.mpr ⟨r, hr, hid.symm⟩)
      refine ⟨status', by rw [insertStatuses, dif_pos hrow, hstatus'], fun r hr => ?_⟩
      rcases List.mem_cons.mp hr with rfl | hr
      · exact hkept hstatus' r (List.mem_append_right _ (List.mem_singleton_self r))
      · exact hmem r hr

/-- **The backfill of an empty `job_status`** succeeds and covers every job that has a run. -/
lemma backfill_ok (runs : RowTable CheckRun) :
    ∃ status, insertStatuses (backfillRows runs) .empty = .ok status ∧
      ∀ run ∈ runs.rows, ∃ s ∈ status.rows, s.jobId = run.jobId ∧ s.lastSuccessAt.isSome := by
  have hjobs : (backfillRows runs).map JobStatusRow.jobId
      = (runs.rows.map CheckRun.jobId).dedup.insertionSort (· ≤ ·) := by
    rw [backfillRows, List.map_map]
    exact List.map_id _
  have hnodup : ((backfillRows runs).map JobStatusRow.jobId).Nodup := by
    rw [hjobs]
    exact (List.perm_insertionSort _ _).nodup_iff.mpr (List.nodup_dedup _)
  obtain ⟨status, hstatus, hmem⟩ := insertStatuses_ok hnodup fun _ _ => KeyTable.lookup_empty _
  refine ⟨status, hstatus,
    fun run hrun => ⟨_, hmem _ (List.mem_map.mpr ⟨run.jobId, ?_, rfl⟩), rfl, ?_⟩⟩
  · rw [List.mem_insertionSort, List.mem_dedup]
    exact List.mem_map_of_mem hrun
  · have hmem : run ∈ runs.rows.filter fun r => r.jobId == run.jobId :=
      List.mem_filter.mpr ⟨hrun, by simp⟩
    dsimp only
    cases hruns : runs.rows.filter fun r => r.jobId == run.jobId with
    | nil => rw [hruns] at hmem; exact absurd hmem List.not_mem_nil
    | cons r rs => rfl

/-! ## From version 2 -/

section VersionTwo

variable (path : String) (runs : RowTable CheckRun) (observations : List Observation)
  (transitions : RowTable TransitionRow) (outbox : RowTable OutboxRow) (indexes : List String)

/-- The file of version 3 it becomes, with the status rows of the backfill. -/
def versionThree (status : KeyTable String JobStatusRow) : DatabaseFile :=
  ⟨3, some runs, some observations, some transitions, some outbox, some status,
    some .empty, indexes ++ ["operational_alert_pending"]⟩

lemma openStore_versionThree (status : KeyTable String JobStatusRow) :
    openStore path (versionThree runs observations transitions outbox indexes status)
      = .ok (versionThree runs observations transitions outbox indexes status) := rfl

lemma complete_versionThree {status : KeyTable String JobStatusRow} :
    Complete (versionThree runs observations transitions outbox indexes status) ↔
      ∀ run ∈ runs.rows, ∃ s ∈ status.rows, s.jobId = run.jobId ∧ s.lastSuccessAt.isSome := by
  constructor
  · intro h run hrun
    obtain ⟨status', hstatus', hs⟩ := h.health runs rfl run hrun
    obtain rfl : status = status' := Option.some.inj hstatus'
    exact hs
  · intro h
    refine ⟨rfl, fun t => by cases t <;> rfl, ?_⟩
    rintro _ ⟨⟩ run hrun
    exact ⟨status, rfl, h run hrun⟩

variable {indexes} (halerts : "operational_alert_pending" ∉ indexes)

include halerts

/-- The whole script, and then the steps that remain. -/
lemma runSteps_healthScript (ss : List Step) :
    runSteps (healthScript.map .execute ++ ss)
        { committed := versionTwo runs observations transitions outbox indexes }
      = runSteps ss
        { committed := versionThree runs observations transitions outbox indexes .empty } := by
  simp [healthScript, runSteps, runStep, executeStatement, DatabaseFile.has, DatabaseFile.create,
    versionTwo, versionThree, halerts]

/-- The upgrade without a crash. -/
lemma openStore_versionTwo :
    ∃ status, openStore path (versionTwo runs observations transitions outbox indexes)
        = .ok (versionThree runs observations transitions outbox indexes status) ∧
      (∀ k, 6 ≤ k → fileAfter k (versionTwo runs observations transitions outbox indexes)
        = some (versionThree runs observations transitions outbox indexes status)) ∧
      ∀ run ∈ runs.rows, ∃ s ∈ status.rows, s.jobId = run.jobId ∧ s.lastSuccessAt.isSome := by
  obtain ⟨status, hstatus, hcovers⟩ := backfill_ok runs
  have hsteps : steps (versionTwo runs observations transitions outbox indexes)
      = healthScript.map .execute ++ [.insertBackfill, .commit] := rfl
  have hrest : runSteps [.insertBackfill, .commit]
      { committed := versionThree runs observations transitions outbox indexes .empty }
        = .ok
          { committed := versionThree runs observations transitions outbox indexes status } := by
    simp [runSteps, runStep, backfill, versionThree, hstatus]
  refine ⟨status, ?_, fun k hk => ?_, hcovers⟩
  · have hrun : runSteps (steps (versionTwo runs observations transitions outbox indexes))
        { committed := versionTwo runs observations transitions outbox indexes }
          = .ok
            { committed := versionThree runs observations transitions outbox indexes status } := by
      rw [hsteps, runSteps_healthScript runs observations transitions outbox halerts, hrest]
    exact openStore_ok path (show 2 ≤ 3 by omega) hrun
  · have hall : (steps (versionTwo runs observations transitions outbox indexes)).length ≤ k := hk
    rw [fileAfter, List.take_of_length_le hall, hsteps,
      runSteps_healthScript runs observations transitions outbox halerts, hrest]

/-- After the version has been set and before the backfill is committed, `job_status` is empty. -/
lemma fileAfter_unfilled {k : ℕ} (hk : k = 4 ∨ k = 5) :
    fileAfter k (versionTwo runs observations transitions outbox indexes)
      = some (versionThree runs observations transitions outbox indexes .empty) := by
  obtain ⟨status, hstatus, _⟩ := backfill_ok runs
  rcases hk with rfl | rfl
  · have htake : (steps (versionTwo runs observations transitions outbox indexes)).take 4
        = healthScript.map .execute ++ [] := rfl
    rw [fileAfter, htake, runSteps_healthScript runs observations transitions outbox halerts]
    rfl
  · have htake : (steps (versionTwo runs observations transitions outbox indexes)).take 5
        = healthScript.map .execute ++ [.insertBackfill] := rfl
    rw [fileAfter, htake, runSteps_healthScript runs observations transitions outbox halerts]
    simp [runSteps, runStep, backfill, versionThree, hstatus]

/-- Inside the script, `job_status` is there and the version still asks for it. -/
lemma fileAfter_half {k : ℕ} (hk : 1 ≤ k ∧ k ≤ 3) {left : DatabaseFile}
    (hleft : fileAfter k (versionTwo runs observations transitions outbox indexes) = some left) :
    left.has .jobStatus = true ∧
      ∃ rest, steps left = .execute (.createTable .jobStatus) :: rest := by
  obtain rfl | rfl | rfl : k = 1 ∨ k = 2 ∨ k = 3 := by omega
  all_goals
    simp [fileAfter, steps, healthScript, versionTwo, runSteps, runStep, executeStatement,
      DatabaseFile.has, DatabaseFile.create, halerts] at hleft
    subst hleft
    exact ⟨rfl, _, rfl⟩

/-- **From version 2**, in terms of completeness alone. -/
lemma versionTwo_incomplete {k : ℕ}
    (hnot : ¬ Restartable (versionTwo runs observations transitions outbox indexes) k)
    {left f' : DatabaseFile}
    (hleft : fileAfter k (versionTwo runs observations transitions outbox indexes) = some left)
    (hopen : openStore path left = .ok f') : ¬ Complete f' := by
  have hunfilled : ∀ k, k = 4 ∨ k = 5 →
      ¬ NoRuns (versionTwo runs observations transitions outbox indexes) →
      fileAfter k (versionTwo runs observations transitions outbox indexes) = some left →
      ¬ Complete f' := by
    intro k hk hruns hleft hcomplete
    rw [fileAfter_unfilled runs observations transitions outbox halerts hk,
      Option.some.injEq] at hleft
    rw [← hleft, openStore_versionThree, Except.ok.injEq] at hopen
    rw [← hopen, complete_versionThree] at hcomplete
    refine hruns fun runs' hruns' => ?_
    obtain rfl : runs = runs' := Option.some.inj hruns'
    refine List.eq_nil_iff_forall_not_mem.mpr fun run hrun => ?_
    obtain ⟨s, hs, _⟩ := hcomplete run hrun
    exact absurd hs List.not_mem_nil
  have hhalf : ∀ k, 1 ≤ k ∧ k ≤ 3 →
      fileAfter k (versionTwo runs observations transitions outbox indexes) = some left →
      ¬ Complete f' := by
    intro k hk hleft _
    obtain ⟨hhas, rest, hsteps⟩ :=
      fileAfter_half runs observations transitions outbox halerts hk hleft
    exact openStore_stuck hsteps hhas path f' hopen
  match k, hnot with
  | 0, hnot => exact absurd trivial hnot
  | 1, _ => exact hhalf 1 (by omega) hleft
  | 2, _ => exact hhalf 2 (by omega) hleft
  | 3, _ => exact hhalf 3 (by omega) hleft
  | 4, hnot => exact hunfilled 4 (Or.inl rfl) (fun h => hnot fun _ => h) hleft
  | 5, hnot => exact hunfilled 5 (Or.inr rfl) hnot hleft
  | k + 6, hnot => exact absurd (by cases k <;> trivial) hnot

lemma versionTwo_recovers {k : ℕ}
    (h : Restartable (versionTwo runs observations transitions outbox indexes) k) :
    ∃ left ∈ fileAfter k (versionTwo runs observations transitions outbox indexes),
      ∃ status, openStore path left
          = .ok (versionThree runs observations transitions outbox indexes status) ∧
        Complete (versionThree runs observations transitions outbox indexes status) := by
  obtain ⟨status, hopen, hafter, hcovers⟩ :=
    openStore_versionTwo path runs observations transitions outbox halerts
  have hcomplete := (complete_versionThree runs observations transitions outbox indexes).mpr hcovers
  have hunfilled : ∀ k, k = 4 ∨ k = 5 →
      NoRuns (versionTwo runs observations transitions outbox indexes) →
      ∃ left ∈ fileAfter k (versionTwo runs observations transitions outbox indexes),
        ∃ status, openStore path left
            = .ok (versionThree runs observations transitions outbox indexes status) ∧
          Complete (versionThree runs observations transitions outbox indexes status) := by
    intro k hk hruns
    refine ⟨_, fileAfter_unfilled runs observations transitions outbox halerts hk, .empty, rfl, ?_⟩
    rw [complete_versionThree, hruns runs rfl]
    simp
  match k, h with
  | 0, _ => exact ⟨_, rfl, status, hopen, hcomplete⟩
  | 1, h => exact h.elim
  | 2, h => exact h.elim
  | 3, h => exact h.elim
  | 4, h => exact hunfilled 4 (Or.inl rfl) (h rfl)
  | 5, h => exact hunfilled 5 (Or.inr rfl) h
  | k + 6, _ => exact ⟨_, hafter (k + 6) (by omega), status, rfl, hcomplete⟩

end VersionTwo

/-! ## From version 1 and from an empty file -/

section VersionOne

variable (path : String) (runs : RowTable CheckRun) (observations : List Observation)
  (transitions : RowTable TransitionRow) {indexes : List String}

/-- The file of version 2 it becomes. -/
def withOutbox (indexes : List String) : DatabaseFile :=
  versionTwo runs observations transitions .empty (indexes ++ ["notification_outbox_pending"])

lemma steps_versionOne :
    steps (versionOne runs observations transitions indexes)
      = outboxScript.map .execute ++ steps (withOutbox runs observations transitions indexes) :=
  rfl

variable (hpending : "notification_outbox_pending" ∉ indexes)

include hpending

lemma runSteps_outboxScript (ss : List Step) :
    runSteps (outboxScript.map .execute ++ ss)
        { committed := versionOne runs observations transitions indexes }
      = runSteps ss { committed := withOutbox runs observations transitions indexes } := by
  simp [outboxScript, runSteps, runStep, executeStatement, DatabaseFile.has, DatabaseFile.create,
    versionOne, versionTwo, withOutbox, hpending]

/-- Once the outbox script is over, the rest is the upgrade from version 2. -/
lemma fileAfter_versionOne (j : ℕ) :
    fileAfter (j + 3) (versionOne runs observations transitions indexes)
      = fileAfter j (withOutbox runs observations transitions indexes) := by
  have htake : (steps (versionOne runs observations transitions indexes)).take (j + 3)
      = outboxScript.map .execute
        ++ (steps (withOutbox runs observations transitions indexes)).take j := by
    rw [steps_versionOne, List.take_append]
    simp [outboxScript]
  rw [fileAfter, htake, runSteps_outboxScript runs observations transitions hpending]
  rfl

/-- Opening a file of version 1 is opening the file of version 2 it becomes. -/
lemma openStore_versionOne :
    openStore path (versionOne runs observations transitions indexes)
      = openStore path (withOutbox runs observations transitions indexes) := by
  have hone : ¬ schemaVersion < (versionOne runs observations transitions indexes).userVersion :=
    show ¬ 3 < 1 by omega
  have htwo : ¬ schemaVersion < (withOutbox runs observations transitions indexes).userVersion :=
    show ¬ 3 < 2 by omega
  rw [openStore, openStore, if_neg hone, if_neg htwo, steps_versionOne,
    runSteps_outboxScript runs observations transitions hpending]

omit hpending in
lemma restartable_versionOne (j : ℕ) :
    Restartable (versionOne runs observations transitions indexes) (j + 3)
      ↔ Restartable (withOutbox runs observations transitions indexes) j := by
  cases j with
  | zero => simp [Restartable, steps, versionOne, outboxScript, schemaVersion]
  | succ j =>
      have hstep : (steps (versionOne runs observations transitions indexes))[j + 3]?
          = (steps (withOutbox runs observations transitions indexes))[j]? := by
        rw [steps_versionOne, List.getElem?_append_right (by simp [outboxScript])]
        simp [outboxScript]
      simp only [Restartable, hstep]
      rfl

/-- Inside the outbox script, the table is there and the version still asks for it. -/
lemma fileAfter_versionOne_half {k : ℕ} (hk : k = 1 ∨ k = 2) {left : DatabaseFile}
    (hleft : fileAfter k (versionOne runs observations transitions indexes) = some left) :
    left.has .notificationOutbox = true ∧
      ∃ rest, steps left = .execute (.createTable .notificationOutbox) :: rest := by
  rcases hk with rfl | rfl
  all_goals
    simp [fileAfter, steps, outboxScript, versionOne, runSteps, runStep, executeStatement,
      DatabaseFile.has, DatabaseFile.create, hpending] at hleft
    subst hleft
    exact ⟨rfl, _, rfl⟩

end VersionOne

/-- The empty file of version 3. -/
def createdFile : DatabaseFile :=
  ⟨3, some .empty, some [], some .empty, some .empty, some .empty, some .empty,
    ["check_runs_job_latest", "notification_outbox_pending", "operational_alert_pending"]⟩

lemma runSteps_fresh :
    runSteps (steps freshFile) { committed := freshFile } = .ok { committed := createdFile } := by
  simp [steps, freshFile, createdFile, createScript, runSteps, runStep, executeStatement,
    DatabaseFile.has, DatabaseFile.create]

lemma complete_createdFile : Complete createdFile :=
  ⟨rfl, fun t => by cases t <;> rfl, by simp [createdFile, RowTable.empty]⟩

/-- Inside the script for an empty file, `check_runs` is there and the version is still 0. -/
lemma fileAfter_fresh_half {k : ℕ} (hk : 1 ≤ k ∧ k ≤ 9) {left : DatabaseFile}
    (hleft : fileAfter k freshFile = some left) :
    left.has .checkRuns = true ∧
      ∃ rest, steps left = .execute (.createTable .checkRuns) :: rest := by
  obtain rfl | rfl | rfl | rfl | rfl | rfl | rfl | rfl | rfl : k = 1 ∨ k = 2 ∨ k = 3 ∨ k = 4 ∨
      k = 5 ∨ k = 6 ∨ k = 7 ∨ k = 8 ∨ k = 9 := by omega
  all_goals
    simp [fileAfter, steps, freshFile, createScript, runSteps, runStep, executeStatement,
      DatabaseFile.has, DatabaseFile.create] at hleft
    subst hleft
    exact ⟨rfl, _, rfl⟩

/-! ## Dying and starting again -/

/-- What a stuck file recovers to: nothing. -/
lemma not_recovers_of_stuck {path : String} {f : DatabaseFile} {k : ℕ} {t : TableName}
    (hstuck : ∀ left, fileAfter k f = some left →
      left.has t = true ∧ ∃ rest, steps left = .execute (.createTable t) :: rest) :
    ¬ Recovers path f k := by
  rintro ⟨left, hleft, f', hopen, _⟩
  obtain ⟨hhas, rest, hsteps⟩ := hstuck left hleft
  exact openStore_stuck hsteps hhas path f' hopen

lemma recovers_fresh (path : String) (k : ℕ) :
    Recovers path freshFile k ↔ Restartable freshFile k := by
  have hkeeps : KeepsRows freshFile createdFile := by constructor <;> simp [freshFile]
  have hhalf : ∀ k, 1 ≤ k ∧ k ≤ 9 → ¬ Recovers path freshFile k := fun k hk =>
    not_recovers_of_stuck fun _ hleft => fileAfter_fresh_half hk hleft
  obtain rfl | hk | hk : k = 0 ∨ (1 ≤ k ∧ k ≤ 9) ∨ 10 ≤ k := by omega
  · refine iff_of_true ⟨freshFile, rfl, createdFile, ?_, complete_createdFile, hkeeps⟩ trivial
    exact openStore_ok path (Nat.zero_le 3) runSteps_fresh
  · refine iff_of_false (hhalf k hk) ?_
    obtain rfl | rfl | rfl | rfl | rfl | rfl | rfl | rfl | rfl : k = 1 ∨ k = 2 ∨ k = 3 ∨ k = 4 ∨
        k = 5 ∨ k = 6 ∨ k = 7 ∨ k = 8 ∨ k = 9 := by omega
    all_goals exact fun h => h
  · have hafter : fileAfter k freshFile = some createdFile := by
      rw [fileAfter, List.take_of_length_le hk, runSteps_fresh]
    refine iff_of_true ⟨createdFile, hafter, createdFile, rfl, complete_createdFile, hkeeps⟩ ?_
    match k with
    | 10 => exact fun _ => by simp [NoRuns, freshFile]
    | k + 11 => trivial

lemma recovers_versionTwo (path : String) (runs : RowTable CheckRun)
    (observations : List Observation) (transitions : RowTable TransitionRow)
    (outbox : RowTable OutboxRow) {indexes : List String}
    (halerts : "operational_alert_pending" ∉ indexes) (k : ℕ) :
    Recovers path (versionTwo runs observations transitions outbox indexes) k
      ↔ Restartable (versionTwo runs observations transitions outbox indexes) k := by
  constructor
  · rintro ⟨left, hleft, f', hopen, hcomplete, _⟩
    by_contra hnot
    exact versionTwo_incomplete path runs observations transitions outbox halerts hnot hleft
      hopen hcomplete
  · intro hk
    obtain ⟨left, hleft, status, hopen, hcomplete⟩ :=
      versionTwo_recovers path runs observations transitions outbox halerts hk
    refine ⟨left, hleft, _, hopen, hcomplete, ?_⟩
    constructor <;> simp [versionTwo, versionThree]

lemma recovers_versionOne (path : String) (runs : RowTable CheckRun)
    (observations : List Observation) (transitions : RowTable TransitionRow)
    {indexes : List String} (hpending : "notification_outbox_pending" ∉ indexes)
    (halerts : "operational_alert_pending" ∉ indexes) (k : ℕ) :
    Recovers path (versionOne runs observations transitions indexes) k
      ↔ Restartable (versionOne runs observations transitions indexes) k := by
  have halerts' : "operational_alert_pending" ∉ indexes ++ ["notification_outbox_pending"] := by
    simpa using halerts
  have hhalf : ∀ k, k = 1 ∨ k = 2 →
      ¬ Recovers path (versionOne runs observations transitions indexes) k := fun k hk =>
    not_recovers_of_stuck fun _ hleft =>
      fileAfter_versionOne_half runs observations transitions hpending hk hleft
  have hkeeps : ∀ status, KeepsRows (versionOne runs observations transitions indexes)
      (versionThree runs observations transitions .empty
        (indexes ++ ["notification_outbox_pending"]) status) := by
    intro status
    constructor <;> simp [versionOne, versionThree]
  match k with
  | 0 =>
      obtain ⟨status, hopen, _, hcovers⟩ :=
        openStore_versionTwo path runs observations transitions .empty halerts'
      refine iff_of_true ⟨_, rfl, _, ?_, ?_, hkeeps status⟩ trivial
      · rw [openStore_versionOne path runs observations transitions hpending, withOutbox, hopen]
      · exact (complete_versionThree runs observations transitions .empty _).mpr hcovers
  | 1 => exact iff_of_false (hhalf 1 (Or.inl rfl)) fun h => h
  | 2 => exact iff_of_false (hhalf 2 (Or.inr rfl)) fun h => h
  | j + 3 =>
      rw [restartable_versionOne, withOutbox]
      constructor
      · rintro ⟨left, hleft, f', hopen, hcomplete, _⟩
        rw [fileAfter_versionOne runs observations transitions hpending j] at hleft
        by_contra hnot
        exact versionTwo_incomplete path runs observations transitions .empty halerts' hnot hleft
          hopen hcomplete
      · intro hj
        obtain ⟨left, hleft, status, hopen, hcomplete⟩ :=
          versionTwo_recovers path runs observations transitions .empty halerts' hj
        rw [← withOutbox, ← fileAfter_versionOne runs observations transitions hpending j] at hleft
        exact ⟨left, hleft, _, hopen, hcomplete, hkeeps status⟩

/-- **Where a process that dies leaves a file that can be opened.**  For every file an upgrade can
start from, whatever its rows: the next process completes the upgrade, with every stored row and
a status row for every job that has a check run, if and only if the first died at a restartable
step. -/
theorem openStore_after_crash {f : DatabaseFile} (h : Upgradable f) (path : String) (k : ℕ) :
    Recovers path f k ↔ Restartable f k := by
  cases h with
  | fresh => exact recovers_fresh path k
  | one runs observations transitions indexes hpending halerts =>
      exact recovers_versionOne path runs observations transitions hpending halerts k
  | two runs observations transitions outbox indexes halerts =>
      exact recovers_versionTwo path runs observations transitions outbox halerts k

/-- One check run of job `swim`, before the upgrade to version 3. -/
def oneRun : RowTable CheckRun :=
  RowTable.empty.insert (fun id => ⟨id, "swim", "2026-07-01T10:00:00+00:00"⟩) fun _ => rfl

/-- The opportunity of that run. -/
def oneObservation : Observation :=
  ⟨1, 0, "tour", "Tour", .available, none, none, []⟩

/-- **A file of version 1 with a check run.**  A process that dies right after
`PRAGMA user_version = 2` leaves a file whose upgrade the next one completes; one that dies a
statement earlier, or a statement later, does not. -/
theorem openStore_after_crash_interrupted :
    let f := versionOne oneRun [oneObservation] .empty []
    Recovers "jobs.sqlite" f 3 ∧ ¬ Recovers "jobs.sqlite" f 2 ∧ ¬ Recovers "jobs.sqlite" f 4 := by
  intro f
  have hf : Upgradable f := .one oneRun [oneObservation] .empty [] (by simp) (by simp)
  refine ⟨(openStore_after_crash hf "jobs.sqlite" 3).mpr ?_,
    fun h => (openStore_after_crash hf "jobs.sqlite" 2).mp h,
    fun h => (openStore_after_crash hf "jobs.sqlite" 4).mp h⟩
  -- version 2 does not ask for a backfill
  intro hversion
  exact absurd hversion (by decide)

/-- **Two ways to lose the upgrade.**  A process dies after the first statement on a fresh file:
`check_runs` is there and the version is still 0.  A process dies after `PRAGMA user_version = 3`
on a file of version 2 with a check run: the version is 3 and the backfill is never made. -/
theorem openStore_not_restartable :
    ¬ Recovers "jobs.sqlite" freshFile 1 ∧
      ¬ Recovers "jobs.sqlite" (versionTwo oneRun [] .empty .empty []) 4 := by
  constructor
  · exact fun h => (recovers_fresh "jobs.sqlite" 1).mp h
  · intro h
    have hruns : NoRuns (versionTwo oneRun [] .empty .empty []) :=
      (recovers_versionTwo "jobs.sqlite" oneRun [] .empty .empty (List.not_mem_nil) 4).mp h rfl
    have hnil : oneRun.rows = [] := hruns oneRun rfl
    simp [oneRun, RowTable.insert] at hnil

end WebChecker
