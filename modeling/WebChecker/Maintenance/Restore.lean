import WebChecker.Library.Sqlite
import WebChecker.Library.Stateful
import WebChecker.Python.Datetime
import WebChecker.Storage.Migration

/-!
# Validating a restored file

`validate_restore` opens a file that somebody has put in place, checks its integrity, and then
makes a store of it and asks for its status.  Here the file is any file: not a database at all, or
a database with any version, any tables and any rows.

Making a store runs the schema scripts, which is why the check is not a reader.  The integrity is
that of the file which the URI `file:<path>?mode=ro` names, and the path is in it as it is: where
it has a reserved character this is another file (`untouched_plain` is the other case).
`validateRestore_iff` says for which files the check is a reader: only those where the scripts are
not reached, or fail at their first statement.
-/

namespace WebChecker

open Sqlite Stateful

/-! ## The scripts on any file -/

/-- The columns of the tables that the scripts create. -/
def TableName.columns : TableName → List String
  | checkRuns => ["id", "job_id", "checked_at"]
  | opportunityObservations => ["run_id", "position", "opportunity_id", "title", "availability",
      "starts_at", "booking_url", "attributes_json"]
  | transitions => ["id", "run_id", "opportunity_id", "transition_type", "previous_availability",
      "current_availability"]
  | notificationOutbox => ["id", "transition_id", "channel", "job_id", "transition_type",
      "opportunity_id", "opportunity_title", "current_availability", "booking_url", "checked_at",
      "attempts", "last_attempt_at", "last_error", "delivered_at"]
  | jobStatus => ["job_id", "last_success_at", "last_failure_at", "consecutive_failures",
      "last_error", "failure_alert_active", "delivery_alert_active"]
  | operationalAlertOutbox => ["id", "alert_key", "channel", "job_id", "title", "detail",
      "created_at", "attempts", "last_error", "delivered_at"]

/-- The exceptions of `validate_restore`. -/
inductive RestoreFailure where
  | storageError (message : String)
  | typeError (message : String)
deriving DecidableEq, Repr

/-- A program on a database file. -/
abbrev FileProgram := EStateM RestoreFailure File

/-- A statement, as `_initialize` reports its failure. -/
def initializing (path : String) (statement : File → Except String File) : FileProgram Unit :=
  fun f =>
    match statement f with
    | .ok f' => .ok () f'
    | .error m => .error (.storageError s!"could not initialize database {path}: {m}") f

/-- A statement of the schema scripts, on any file. -/
def Statement.onFile : Statement → File → Except String File
  | .createTable t, f => f.createTable t.text t.columns
  | .createIndex name t, f => f.createIndex name t.text
  | .setUserVersion version, f => .ok { f with userVersion := version }

/-- `executescript`: the statements commit one by one. -/
def executeScript (path : String) (script : List Statement) : FileProgram Unit :=
  script.forM fun s => initializing path s.onFile

/-- `SELECT job_id, MAX(checked_at) FROM check_runs GROUP BY job_id`. -/
def latestRuns (jobIds checkedAt : List Value) : List (Value × Value) :=
  let jobs := (jobIds.pwFilter fun a b => a.same b = false).insertionSort
    fun a b => b.lt a = false
  jobs.map fun job =>
    (job, maximum (((jobIds.zip checkedAt).filter fun run => run.1.same job).map Prod.snd))

/-- `INSERT INTO job_status`: the key is unique except for nulls. -/
def insertLatest : List (Value × Value) → List (List Value) → Except String (List (List Value))
  | [], rows => .ok rows
  | (job, latest) :: runs, rows =>
    if job.asText ≠ .null ∧ rows.any (fun row => row.headD .null = job.asText) = true then
      .error "UNIQUE constraint failed: job_status.job_id"
    else
      insertLatest runs (rows ++ [[job.asText, latest.asText, .null, .integer 0, .null, .integer 0,
        .integer 0]])

/-- The backfill of `job_status`, as one statement. -/
def backfillFile (f : File) : Except String File :=
  match f.table? "check_runs", f.table? "job_status" with
  | some runs, some status =>
    match runs.column? "job_id", runs.column? "checked_at" with
    | some jobIds, some checkedAt =>
      (insertLatest (latestRuns jobIds checkedAt) status.rows).map fun rows =>
        f.setRows "job_status" rows
    | none, _ => .error "no such column: job_id"
    | some _, none => .error "no such column: checked_at"
  | none, _ => .error "no such table: check_runs"
  | some _, none => .error "no such table: job_status"

/-- The backfill is made if there is a table of exactly that name. -/
def backfillIfRuns (path : String) : FileProgram Unit := do
  let f ← get
  if f.tables.any (fun t => t.name = "check_runs") then initializing path backfillFile
  else pure ()

/-- The upgrade from version 2. -/
def upgradeHealth (path : String) : FileProgram Unit := do
  executeScript path healthScript
  backfillIfRuns path

/-- `_initialize`. -/
def initializeFile (path : String) : FileProgram Unit := do
  let f ← get
  let version := f.userVersion
  if version > schemaVersion then
    throw (.storageError (s!"database schema version {version} is newer than supported " ++
      s!"version {schemaVersion}"))
  else if version = 0 then executeScript path createScript
  else if version = 1 then do
    executeScript path outboxScript
    upgradeHealth path
  else if version = 2 then upgradeHealth path
  else pure ()

/-! ## The status of any file -/

/-- The oldest observation of the status query.  Its two counts cannot fail. -/
def oldestValue (f : File) : Except String Value :=
  match f.table? "check_runs", f.table? "notification_outbox" with
  | some runs, some outbox =>
    match runs.column? "checked_at" with
    | some checkedAt =>
      -- the inner query also sees the columns of the outer one
      if (outbox.column? "delivered_at").isSome ∨ (runs.column? "delivered_at").isSome then
        .ok (minimum checkedAt)
      else .error "no such column: delivered_at"
    | none => .error "no such column: checked_at"
  | none, _ => .error "no such table: check_runs"
  | some _, none => .error "no such table: notification_outbox"

/-- `status`. -/
def fileStatus (f : File) : Except RestoreFailure (Option Datetime) :=
  match oldestValue f with
  | .error m => .error (.storageError s!"could not inspect database status: {m}")
  | .ok .null => .ok none
  | .ok (.text s) =>
    match fromisoformat s with
    | some oldest => .ok (some oldest)
    | none => .error (.storageError ("could not inspect database status: " ++
        "Invalid isoformat string: " ++ pyRepr s))
  | .ok _ => .error (.typeError "fromisoformat: argument must be str")

/-! ## The check -/

/-- What a file name stands for. -/
inductive FileContent where
  /-- There is no file, and one can be made. -/
  | absent
  /-- A directory, or a name in a directory that is not there. -/
  | unopenable
  /-- A file on which every statement fails, with the message. -/
  | unreadable (message : String)
  /-- A database whose tables can be read and written, with what `PRAGMA integrity_check` says of
  it. -/
  | database (integrity : String) (f : File)
deriving DecidableEq

abbrev Files := FileName → FileContent

/-- A file of no bytes, which opens as a database without tables. -/
def emptyFile : FileContent := .database "ok" ⟨0, [], []⟩

/-- How a connection opens its file. -/
inductive Access where
  | existing
  | create
  | memory
deriving DecidableEq

/-- `file:{path.resolve()}?mode=ro`, after the scheme.  A resolved path is absolute. -/
def restoreUri (path : String) : List Char := path.toList ++ "?mode=ro".toList

/-- `PRAGMA integrity_check` over a connection to the URI, with the files that this leaves. -/
def checkIntegrity (access : Option (List Char) → Except String Access) (uri : List Char)
    (files : Files) : Except String String × Files :=
  let (name, query) := parseUri uri
  match access query with
  | .error m => (.error m, files)
  | .ok .memory => (.ok "ok", files)
  | .ok mode =>
    match files name with
    | .absent =>
      if mode = .create then (.ok "ok", Function.update files name emptyFile)
      else (.error "unable to open database file", files)
    | .unopenable => (.error "unable to open database file", files)
    | .unreadable m => (.error m, files)
    | .database integrity _ => (.ok integrity, files)

/-- Making a store of the file and asking for its status. -/
def storeStatus (path : String) : FileProgram Unit := do
  initializeFile path
  let f ← get
  match fileStatus f with
  | .ok _ => pure ()
  | .error e => throw e

/-- `SQLiteObservationStore(path).status()`, with the file that it leaves.  A file that is not there
is created. -/
def storeOf (path : String) : FileContent → Except RestoreFailure Unit × FileContent
  | .absent =>
    (outcome (storeStatus path) ⟨0, [], []⟩, .database "ok" (after (storeStatus path) ⟨0, [], []⟩))
  | .unopenable =>
    (.error (.storageError s!"could not open database {path}: unable to open database file"),
      .unopenable)
  | .unreadable m =>
    (.error (.storageError s!"could not initialize database {path}: {m}"), .unreadable m)
  | .database integrity f =>
    (outcome (storeStatus path) f, .database integrity (after (storeStatus path) f))

section Check

-- what the library makes of the parameters of a query
variable (access : Option (List Char) → Except String Access) (path : String)

/-- `validate_restore`, with the files that it leaves. -/
def validateRestore (files : Files) : Except RestoreFailure Unit × Files :=
  match checkIntegrity access (restoreUri path) files with
  | (.error m, files) =>
    (.error (.storageError ("could not validate restored database: " ++ m)), files)
  | (.ok integrity, files) =>
    if integrity = "ok" then
      let name := fileName path.toList
      ((storeOf path (files name)).1, Function.update files name (storeOf path (files name)).2)
    else (.error (.storageError "restored database failed integrity check"), files)

end Check

/-! ## What the scripts leave -/

variable (path : String) {f : File}

lemma initializing_ok {statement : File → Except String File} {f' : File}
    (h : statement f = .ok f') :
    outcome (initializing path statement) f = .ok () ∧
      after (initializing path statement) f = f' := by
  unfold outcome after initializing EStateM.run
  dsimp only
  rw [h]
  exact ⟨rfl, rfl⟩

lemma initializing_error {statement : File → Except String File} {m : String}
    (h : statement f = .error m) :
    outcome (initializing path statement) f
        = .error (.storageError s!"could not initialize database {path}: {m}") ∧
      after (initializing path statement) f = f := by
  unfold outcome after initializing EStateM.run
  dsimp only
  rw [h]
  exact ⟨rfl, rfl⟩

/-- The names that are taken stay so. -/
abbrev KeepsNames {α : Type} (x : FileProgram α) : Prop :=
  ∀ name, Keeps (fun f => f.taken name = true) x

lemma keepsNames_initializing {statement : File → Except String File}
    (h : ∀ f f' name, statement f = .ok f' → f.taken name = true → f'.taken name = true) :
    KeepsNames (initializing path statement) := by
  intro name f htaken
  cases hstatement : statement f with
  | error m => rw [(initializing_error path hstatement).2]; exact htaken
  | ok f' => rw [(initializing_ok path hstatement).2]; exact h f f' name hstatement htaken

lemma keepsNames_executeScript (script : List Statement) :
    KeepsNames (executeScript path script) := by
  intro name
  refine Keeps.forM fun s _ => keepsNames_initializing path (fun f f' name h htaken => ?_) name
  cases s with
  | createTable t => exact File.taken_createTable h htaken
  | createIndex index t => exact File.taken_createIndex h htaken
  | setUserVersion version =>
      rw [← Except.ok.inj h]
      exact htaken

lemma keepsNames_backfillIfRuns : KeepsNames (backfillIfRuns path) := by
  intro name
  refine Keeps.get.bind fun f => ?_
  split_ifs
  · refine keepsNames_initializing path (fun f f' name h htaken => ?_) name
    unfold backfillFile at h
    split at h
    · split at h
      · obtain ⟨rows, _, rfl⟩ := Results.map_eq_ok.mp h
        exact File.taken_setRows htaken
      · simp at h
      · simp at h
    · simp at h
    · simp at h
  · exact Keeps.pure ()

lemma keepsNames_upgradeHealth : KeepsNames (upgradeHealth path) := fun name =>
  (keepsNames_executeScript path healthScript name).bind fun _ =>
    keepsNames_backfillIfRuns path name

/-- The table that the scripts for a version create first. -/
def firstTable (version : ℤ) : Option TableName :=
  if version = 0 then some .checkRuns
  else if version = 1 then some .notificationOutbox
  else if version = 2 then some .jobStatus
  else none

lemma version_of_firstTable {version : ℤ} (h : firstTable version = none) :
    version ≠ 0 ∧ version ≠ 1 ∧ version ≠ 2 := by
  unfold firstTable at h
  split_ifs at h with hzero hone htwo
  exact ⟨hzero, hone, htwo⟩

/-- **The scripts begin with a table**, and what comes after it keeps the names. -/
lemma initializeFile_first {t : TableName} (h : firstTable f.userVersion = some t) :
    ∃ rest : FileProgram Unit, KeepsNames rest ∧
      (initializeFile path).run f =
        (initializing path (Statement.createTable t).onFile >>= fun _ => rest).run f := by
  unfold firstTable at h
  split_ifs at h with hzero hone htwo
  · obtain rfl := Option.some.inj h
    refine ⟨executeScript path createScript.tail, keepsNames_executeScript path _, ?_⟩
    rw [initializeFile, EStateM.run_bind, EStateM.run_get]
    dsimp only
    rw [if_neg (by rw [hzero]; decide), if_pos hzero]
    rfl
  · obtain rfl := Option.some.inj h
    refine ⟨executeScript path outboxScript.tail >>= fun _ => upgradeHealth path,
      fun name => (keepsNames_executeScript path _ name).bind fun _ =>
        keepsNames_upgradeHealth path name, ?_⟩
    rw [initializeFile, EStateM.run_bind, EStateM.run_get]
    dsimp only
    rw [if_neg (by rw [hone]; decide), if_neg hzero, if_pos hone, ← bind_assoc]
    rfl
  · obtain rfl := Option.some.inj h
    refine ⟨executeScript path healthScript.tail >>= fun _ => backfillIfRuns path,
      fun name => (keepsNames_executeScript path _ name).bind fun _ =>
        keepsNames_backfillIfRuns path name, ?_⟩
    rw [initializeFile, EStateM.run_bind, EStateM.run_get]
    dsimp only
    rw [if_neg (by rw [htwo]; decide), if_neg hzero, if_neg hone, if_pos htwo, upgradeHealth,
      ← bind_assoc]
    rfl

/-! ## Which files are only read -/

/-- The file already has the schema of a checker. -/
def HoldsSchema : FileContent → Prop
  | .database _ f => 1 ≤ f.userVersion ∧ f.userVersion ≤ schemaVersion ∧
      (f.table? "check_runs").isSome = true
  | _ => False

/-- **The files of which a store can be made without a change**, and that are not taken for a
checker's unless they are: those whose scripts fail at once, and those that need no script, where a
version below zero must not have a status. -/
def Settled : FileContent → Prop
  | .absent => False
  | .unopenable => True
  | .unreadable _ => True
  | .database _ f =>
    match firstTable f.userVersion with
    | some t => f.taken t.text = true
    | none => f.userVersion < 0 → ∀ oldest, fileStatus f ≠ .ok oldest

/-- A database without damage. -/
def Intact : FileContent → Prop
  | .database integrity _ => integrity = "ok"
  | _ => False

/-- What a URI opens passes the integrity check: a database in memory, a file that is made, or one
that is intact. -/
def Passes (access : Option (List Char) → Except String Access) (uri : List Char)
    (files : Files) : Prop :=
  match access (parseUri uri).2 with
  | .error _ => False
  | .ok .memory => True
  | .ok .create => files (parseUri uri).1 = .absent ∨ Intact (files (parseUri uri).1)
  | .ok .existing => Intact (files (parseUri uri).1)

/-- The file is left as it is unless what the URI opens does not pass. -/
def Untouched (access : Option (List Char) → Except String Access) (path : String)
    (files : Files) : Prop :=
  Passes access (restoreUri path) files → Settled (files (fileName path.toList))

/-- Asking for the status changes nothing. -/
lemma after_storeStatus : after (storeStatus path) f = after (initializeFile path) f := by
  unfold storeStatus
  cases h : outcome (initializeFile path) f with
  | error e => exact (bind_of_error h).2
  | ok u =>
      rw [(bind_of_ok h).2, (bind_of_ok rfl).2]
      split <;> rfl

lemma initializeFile_blocked {t : TableName} (h : firstTable f.userVersion = some t)
    (htaken : f.taken t.text = true) :
    (∃ m, outcome (initializeFile path) f = .error (.storageError m)) ∧
      after (initializeFile path) f = f := by
  obtain ⟨rest, _, hrun⟩ := initializeFile_first path h
  obtain ⟨m, hm⟩ := File.createTable_of_taken htaken t.columns
  have hstatement : (Statement.createTable t).onFile f = .error m := hm
  obtain ⟨hfails, hsame⟩ := initializing_error path hstatement
  obtain ⟨hout, hafter⟩ := observed_eq hrun
  rw [hout, hafter, (bind_of_error hfails).1, (bind_of_error hfails).2]
  exact ⟨⟨_, rfl⟩, hsame⟩

lemma initializeFile_creates {t : TableName} (h : firstTable f.userVersion = some t)
    (hfree : f.taken t.text = false) :
    (after (initializeFile path) f).taken t.text = true := by
  obtain ⟨rest, hkeeps, hrun⟩ := initializeFile_first path h
  obtain ⟨f', hf', htaken⟩ := File.createTable_of_free hfree t.columns
  have hstatement : (Statement.createTable t).onFile f = .ok f' := hf'
  obtain ⟨hok, hafter⟩ := initializing_ok path hstatement
  rw [(observed_eq hrun).2, (bind_of_ok hok).2, hafter]
  exact hkeeps t.text f' htaken

/-- A version that needs no script. -/
lemma initializeFile_idle (h : firstTable f.userVersion = none) :
    after (initializeFile path) f = f ∧
      (f.userVersion ≤ schemaVersion → outcome (initializeFile path) f = .ok ()) ∧
      (schemaVersion < f.userVersion →
        ∃ m, outcome (initializeFile path) f = .error (.storageError m)) := by
  unfold firstTable at h
  split_ifs at h with hzero hone htwo
  by_cases hnewer : f.userVersion > schemaVersion
  · have hthrow : ∃ m, (initializeFile path).run f =
        (throw (.storageError m) : FileProgram Unit).run f := by
      rw [initializeFile, EStateM.run_bind, EStateM.run_get]
      dsimp only
      rw [if_pos hnewer]
      exact ⟨_, rfl⟩
    obtain ⟨m, hthrow⟩ := hthrow
    exact ⟨(observed_eq hthrow).2, fun hle => absurd hle hnewer.not_ge,
      fun _ => ⟨m, (observed_eq hthrow).1⟩⟩
  · have hpure : (initializeFile path).run f = (pure () : FileProgram Unit).run f := by
      rw [initializeFile, EStateM.run_bind, EStateM.run_get]
      dsimp only
      rw [if_neg hnewer, if_neg hzero, if_neg hone, if_neg htwo]
    exact ⟨(observed_eq hpure).2, fun _ => (observed_eq hpure).1, fun h => absurd h hnewer⟩

/-- With no script to run, the answer is that of the status. -/
lemma outcome_storeStatus_idle (h : outcome (initializeFile path) f = .ok ())
    (hsame : after (initializeFile path) f = f) :
    outcome (storeStatus path) f = .ok () ↔ ∃ oldest, fileStatus f = .ok oldest := by
  unfold storeStatus
  rw [(bind_of_ok h).1, hsame, (bind_of_ok rfl).1]
  have hget : after (get : FileProgram File) f = f := rfl
  rw [hget]
  cases hstatus : fileStatus f with
  | ok oldest => exact iff_of_true rfl ⟨oldest, rfl⟩
  | error e =>
      refine iff_of_false (fun h => ?_) (by simp)
      simp [outcome] at h

/-- A file with a status has the table of the check runs. -/
lemma checkRuns_of_fileStatus {oldest : Option Datetime} (h : fileStatus f = .ok oldest) :
    (f.table? "check_runs").isSome = true := by
  unfold fileStatus oldestValue at h
  cases hruns : f.table? "check_runs" with
  | none => simp [hruns] at h
  | some runs => rfl

/-- **A version with a script**: the file is left as it is if the first table is there already,
which makes the script fail. -/
lemma storeStatus_pending {integrity : String} {t : TableName}
    (hfirst : firstTable f.userVersion = some t) :
    ((outcome (storeStatus path) f = .ok () → HoldsSchema (.database integrity f)) ∧
      after (initializeFile path) f = f) ↔ f.taken t.text = true := by
  constructor
  · rintro ⟨-, hsame⟩
    cases htaken : f.taken t.text with
    | true => rfl
    | false =>
        have hcreated := initializeFile_creates path hfirst htaken
        rw [hsame, htaken] at hcreated
        simp at hcreated
  · intro htaken
    obtain ⟨⟨m, hm⟩, hsame⟩ := initializeFile_blocked path hfirst htaken
    refine ⟨fun hreturns => ?_, hsame⟩
    rw [storeStatus, (bind_of_error hm).1] at hreturns
    simp at hreturns

/-- **A version without a script** accepts a file that is not a checker's only if the version is
negative and there is a status. -/
lemma storeStatus_idle {integrity : String} (hfirst : firstTable f.userVersion = none) :
    (outcome (storeStatus path) f = .ok () → HoldsSchema (.database integrity f)) ↔
      (f.userVersion < 0 → ∀ oldest, fileStatus f ≠ .ok oldest) := by
  obtain ⟨hsame, hidle, hnewer⟩ := initializeFile_idle path hfirst
  rcases le_or_gt f.userVersion schemaVersion with hle | hgt
  · rw [outcome_storeStatus_idle path (hidle hle) hsame]
    constructor
    · intro hschema hneg oldest holdest
      have hpos := (hschema ⟨oldest, holdest⟩).1
      omega
    · rintro hneg ⟨oldest, holdest⟩
      have hnot : ¬ f.userVersion < 0 := fun h => hneg h oldest holdest
      have hversion := version_of_firstTable hfirst
      exact ⟨by omega, hle, checkRuns_of_fileStatus holdest⟩
  · obtain ⟨m, hm⟩ := hnewer hgt
    have hpos : ¬ f.userVersion < 0 := by omega
    refine iff_of_true (fun hreturns => ?_) fun h => absurd h hpos
    rw [storeStatus, (bind_of_error hm).1] at hreturns
    simp at hreturns

/-- **Making a store** changes nothing, and accepts only files of a checker, exactly for the settled
ones. -/
lemma storeOf_iff (c : FileContent) :
    (((storeOf path c).1 = .ok () → HoldsSchema c) ∧ (storeOf path c).2 = c) ↔ Settled c := by
  cases c with
  | absent => simp [storeOf, Settled]
  | unopenable => simp [storeOf, Settled]
  | unreadable m => simp [storeOf, Settled]
  | database integrity f =>
      simp only [storeOf, after_storeStatus, FileContent.database.injEq, true_and]
      rw [Settled]
      cases hfirst : firstTable f.userVersion with
      | some t => exact storeStatus_pending path hfirst
      | none =>
          dsimp only
          rw [and_iff_left (initializeFile_idle path hfirst).1]
          exact storeStatus_idle path hfirst

/-! ## The whole check -/

section Check

variable {access : Option (List Char) → Except String Access} {path : String} {files : Files}

/-- **The integrity check says ok** if what the URI opens passes. -/
lemma checkIntegrity_eq_ok (uri : List Char) :
    (checkIntegrity access uri files).1 = .ok "ok" ↔ Passes access uri files := by
  rw [checkIntegrity, Passes]
  generalize parseUri uri = parts
  obtain ⟨name, query⟩ := parts
  dsimp only
  cases access query with
  | error m => simp
  | ok mode =>
      cases mode <;> cases files name <;> simp [Intact]

/-- **A path without reserved characters** names the file that is checked. -/
lemma untouched_plain (haccess : access (some "mode=ro".toList) = .ok .existing)
    (hplain : ∀ c ∈ path.toList, reserved c = false) :
    let file := files (fileName path.toList)
    Untouched access path files ↔ (Intact file → Settled file) := by
  have hparse : parseUri (restoreUri path) = (fileName path.toList, some "mode=ro".toList) :=
    parseUri_plain hplain (by decide)
  rw [Untouched, Passes, hparse]
  dsimp only
  rw [haccess]

/-- **Another file is checked** where the path has a reserved character. -/
example : (parseUri (restoreUri "/restore/#1.db")).1 = fileName "/restore/".toList ∧
    (parseUri (restoreUri "/restore/100%41.db")).1 = fileName "/restore/100A.db".toList := by
  decide

/-- The integrity check makes a file where there is none, and nothing else. -/
lemma checkIntegrity_files (access : Option (List Char) → Except String Access) (uri : List Char)
    (files : Files) :
    (checkIntegrity access uri files).2 = files ∨
      (checkIntegrity access uri files).1 = .ok "ok" ∧ ∃ name, files name = .absent ∧
        (checkIntegrity access uri files).2 = Function.update files name emptyFile := by
  rw [checkIntegrity]
  generalize parseUri uri = parts
  obtain ⟨name, query⟩ := parts
  dsimp only
  cases access query with
  | error m => exact Or.inl rfl
  | ok mode =>
      cases hname : files name with
      | absent =>
          cases mode with
          | existing => exact Or.inl rfl
          | create => exact Or.inr ⟨rfl, name, hname, rfl⟩
          | memory => exact Or.inl rfl
      | unopenable => cases mode <;> exact Or.inl rfl
      | unreadable m => cases mode <;> exact Or.inl rfl
      | database integrity f => cases mode <;> exact Or.inl rfl

/-- A file that is there is as it was when the store is made of it. -/
lemma checkIntegrity_there {name : FileName} (h : files name ≠ .absent) (uri : List Char) :
    (checkIntegrity access uri files).2 name = files name := by
  rcases checkIntegrity_files access uri files with hsame | ⟨-, other, hother, hmade⟩
  · rw [hsame]
  · have hne : name ≠ other := fun heq => h (heq ▸ hother)
    rw [hmade, Function.update_of_ne hne]

/-- A file that is not there is made, by the check of its integrity or by the store. -/
lemma storeOf_ne_absent (path : String) (c : FileContent) :
    (storeOf path c).2 ≠ .absent := by
  cases c <;> simp [storeOf]

end Check

/-- **`validate_restore` accepts only files of a checker, and leaves the file as it is**, exactly
for the untouched ones.  For a path without reserved characters these are the files that are damaged
or settled (`untouched_plain`). -/
theorem validateRestore_iff (access : Option (List Char) → Except String Access) (path : String)
    (files : Files) :
    let name := fileName path.toList
    (((validateRestore access path files).1 = .ok () → HoldsSchema (files name)) ∧
      (validateRestore access path files).2 name = files name) ↔ Untouched access path files := by
  intro name
  rw [Untouched, ← checkIntegrity_eq_ok, validateRestore]
  have hthere (h : files name ≠ .absent) :
      (checkIntegrity access (restoreUri path) files).2 name = files name :=
    checkIntegrity_there h (restoreUri path)
  have hfiles := checkIntegrity_files access (restoreUri path) files
  generalize checkIntegrity access (restoreUri path) files = checked at *
  obtain ⟨result, files'⟩ := checked
  dsimp only at hthere hfiles ⊢
  by_cases hok : result = .ok "ok"
  · have hupdate (c : FileContent) : Function.update files' name c name = c :=
      Function.update_self ..
    rw [hok, forall_prop_of_true rfl]
    simp only [if_true, name, hupdate]
    cases hcontent : files name with
    | absent =>
        -- the file is made, if not by the integrity check then by the store
        refine iff_of_false (fun h => ?_) fun h => h
        exact storeOf_ne_absent path (files' name) h.2
    | _ =>
        have hsame : files' name = files name := hthere (by rw [hcontent]; simp)
        rw [← hcontent, hsame]
        exact storeOf_iff path (files name)
  · have hunmade : files' = files := hfiles.resolve_right fun h => hok h.1
    rw [hunmade]
    refine iff_of_true ?_ fun h => absurd h hok
    cases result with
    | error m => simp
    | ok integrity =>
        have hbad : integrity ≠ "ok" := fun h => hok (congrArg _ h)
        simp [hbad]

/-- What the two queries of interest ask for. -/
def documentedAccess : Option (List Char) → Except String Access
  | none => .ok .create
  | some query => if query = "mode=ro".toList then .ok .existing else .ok .create

/-- A file system with one file. -/
def oneFile (path : String) (c : FileContent) : Files :=
  fun name => if name = fileName path.toList then c else .absent

/-- **An empty file does not stay empty**: the check makes it a checker's database. -/
theorem emptyFile_changed :
    let files := oneFile "/restore/restored.db" emptyFile
    let name := fileName "/restore/restored.db".toList
    ¬ (((validateRestore documentedAccess "/restore/restored.db" files).1 = .ok () →
        HoldsSchema (files name)) ∧
      (validateRestore documentedAccess "/restore/restored.db" files).2 name = files name) := by
  intro files name h
  have hfile : files name = emptyFile := if_pos rfl
  have hcheck : checkIntegrity documentedAccess (restoreUri "/restore/restored.db") files =
      (.ok "ok", files) := by
    have hplain : ∀ c ∈ "/restore/restored.db".toList, reserved c = false := by
      have hall : ("/restore/restored.db".toList.all fun c => !reserved c) = true := by decide
      simpa only [List.all_eq_true, Bool.not_eq_true'] using hall
    have hparse : parseUri (restoreUri "/restore/restored.db") =
        (fileName "/restore/restored.db".toList, some "mode=ro".toList) :=
      parseUri_plain hplain (by decide)
    have haccess : documentedAccess (some "mode=ro".toList) = .ok .existing := rfl
    rw [checkIntegrity, hparse]
    dsimp only
    rw [haccess]
    dsimp only
    rw [hfile]
    rfl
  have hupdate (c : FileContent) : Function.update files name c name = c :=
    Function.update_self ..
  rw [validateRestore, hcheck] at h
  simp only [if_true, name, hupdate, hfile] at h
  -- the first table of the script is free
  have hsettled : (⟨0, [], []⟩ : File).taken TableName.checkRuns.text = true :=
    (storeOf_iff "/restore/restored.db" emptyFile).mp h
  exact absurd hsettled (by decide +kernel)

end WebChecker
