import WebChecker.Maintenance.Rotation
import WebChecker.Python.Calendar
import WebChecker.Storage.Chronology

/-!
# The maintenance process

`_run_maintenance` makes a backup and deletes what has expired, again and again, while other
processes use the database.  A cycle that fails is reported and the next one is made, but two
failures are no `StorageError`: an error of the operating system that `create_backup` does not
catch, and a number of days that leads out of the calendar.  The output is taken to be writable, and
a transaction that has failed to be rolled back without another error.

* `BacksUp` — the condition on the clock, on the copies and on the operations on files under which a
  cycle makes its backup, in terms of the backups that were ever there.
* `maintenance_run` — the process goes on until a cycle meets one of the two (`EndsWith`), and up to
  there the database has been through the operations of the others and one deletion in each cycle
  that made its backup.
-/

namespace WebChecker

open Runs

/-- The options of the command. -/
structure MaintenanceArguments where
  observationDays : ℤ
  notificationDays : ℤ
  retainBackups : ℤ
  intervalSeconds : ℤ
  once : Bool

inductive MaintenanceFailure where
  | storage (e : StorageError)
  | overflow
  /-- An `OSError`. -/
  | os (message : String)

/-- It is not caught. -/
def MaintenanceFailure.Fatal : MaintenanceFailure → Prop
  | storage _ => False
  | _ => True

@[simp] lemma not_fatal_storage (e : StorageError) : ¬ (MaintenanceFailure.storage e).Fatal := id

/-- What a backup raises is passed on. -/
def BackupFailure.toMaintenance : BackupFailure → MaintenanceFailure
  | storage e => .storage e
  | os m => .os m

/-- What a cycle meets: what other processes have done to the database, the clock and the copy, the
clock again for the thresholds, what others do before the status is read, and the errors of the
operating system and of the database engine. -/
structure MaintenanceCycle where
  others : List StoreOp
  opening : Option StorageError
  date : Date
  time : Time
  copy : Copy
  errors : FileErrors
  today : Date
  now : Time
  pruning : Option StorageError
  meanwhile : List StoreOp
  reading : Option StorageError
  databaseBytes : ℕ

structure MaintenanceState where
  directory : Directory FileBody
  database : Database

/-! ## A cycle -/

namespace MaintenanceCycle

variable (cycle : MaintenanceCycle)

/-- `create_backup`, as it is called. -/
def call (arguments : MaintenanceArguments) : BackupCall :=
  ⟨arguments.retainBackups.toNat, cycle.date, cycle.time, cycle.copy, cycle.errors⟩

/-- `now - timedelta(days=days)`, or an `OverflowError`. -/
def daysBefore (days : ℤ) : Option Datetime :=
  (cycle.today.addDays (-days)).map fun date => ⟨date, cycle.now, some (.fixed .utc)⟩

/-- Both thresholds. -/
def thresholds (arguments : MaintenanceArguments) : Option (Datetime × Datetime) := do
  let observationsBefore ← cycle.daysBefore arguments.observationDays
  let notificationsBefore ← cycle.daysBefore arguments.notificationDays
  some (observationsBefore, notificationsBefore)

end MaintenanceCycle

/-- The line of a cycle that is completed. -/
def completedLine (backup : BackupStatus) (result : RetentionResult) (status : StorageStatus) :
    String :=
  let oldest := (status.oldestObservation.map Datetime.isoformat).getD "none"
  s!"maintenance event=completed backup={backup.path} backup_bytes={backup.bytes} " ++
    s!"database_bytes={status.databaseBytes} check_runs={status.checkRuns} " ++
    s!"oldest_observation={oldest} pending_notifications={status.pendingNotifications} " ++
    s!"deleted_runs={result.checkRunsDeleted} " ++
    s!"deleted_notifications={result.completedNotificationsDeleted}"

def failedLine (e : StorageError) : String := s!"maintenance event=failed error={e.message}"

/-- `_perform_maintenance`. -/
def performMaintenance (arguments : MaintenanceArguments) (cycle : MaintenanceCycle)
    (s : MaintenanceState) : Except MaintenanceFailure String × MaintenanceState :=
  match cycle.opening with
  | some e => (.error (.storage e), s)
  | none =>
    let (backup, directory) := (cycle.call arguments).run s.directory
    let s := { s with directory }
    match backup with
    | .error failure => (.error failure.toMaintenance, s)
    | .ok backup =>
      match cycle.thresholds arguments with
      | none => (.error .overflow, s)
      | some (observationsBefore, notificationsBefore) =>
        match cycle.pruning with
        | some e => (.error (.storage e), s)
        | none =>
          let (result, database) := prune s.database observationsBefore notificationsBefore
          let s := { s with database := Store.exec database cycle.meanwhile }
          match cycle.reading with
          | some e => (.error (.storage e), s)
          | none =>
            match status cycle.databaseBytes s.database with
            | .error e => (.error (.storage e), s)
            | .ok status => (.ok (completedLine backup result status), s)

/-! ## The loop -/

/-- How far the process has come. -/
inductive MaintenanceEnd where
  | running
  | returned
  | raised (failure : MaintenanceFailure)

structure MaintenanceRun where
  output : List String
  ending : MaintenanceEnd
  state : MaintenanceState

/-- `time.sleep` takes the number of seconds; any other number is an `OverflowError`. -/
def MaintenanceArguments.Sleeps (arguments : MaintenanceArguments) : Prop :=
  arguments.intervalSeconds * 1000000000 < 2 ^ 63

instance (arguments : MaintenanceArguments) : Decidable arguments.Sleeps :=
  inferInstanceAs (Decidable (_ < _))

/-- The `while` loop, over the cycles that it gets to. -/
def maintenanceLoop (arguments : MaintenanceArguments) :
    List MaintenanceCycle → MaintenanceState → MaintenanceRun
  | [], s => ⟨[], .running, s⟩
  | cycle :: cycles, s =>
    let (result, s) := performMaintenance arguments cycle
      { s with database := Store.exec s.database cycle.others }
    let next (line : String) : MaintenanceRun :=
      if arguments.Sleeps then
        let run := maintenanceLoop arguments cycles s
        { run with output := line :: run.output }
      else ⟨[line], .raised .overflow, s⟩
    match result with
    | .error .overflow => ⟨[], .raised .overflow, s⟩
    | .error (.os m) => ⟨[], .raised (.os m), s⟩
    | .error (.storage e) =>
      if arguments.once then ⟨[], .raised (.storage e), s⟩ else next (failedLine e)
    | .ok line => if arguments.once then ⟨[line], .returned, s⟩ else next line

/-- The options pass the checks of `_run_maintenance`. -/
structure MaintenanceArguments.Accepted (arguments : MaintenanceArguments) : Prop where
  observationDays : 1 ≤ arguments.observationDays
  notificationDays : 1 ≤ arguments.notificationDays
  intervalSeconds : 1 ≤ arguments.intervalSeconds

/-- `_run_maintenance`. -/
def runMaintenance (arguments : MaintenanceArguments) (cycles : List MaintenanceCycle)
    (s : MaintenanceState) : MaintenanceRun :=
  if arguments.observationDays < 1 ∨ arguments.notificationDays < 1 then
    ⟨[], .raised (.storage ⟨"retention days must be at least 1"⟩), s⟩
  else if arguments.intervalSeconds < 1 then
    ⟨[], .raised (.storage ⟨"maintenance interval must be at least 1 second"⟩), s⟩
  else maintenanceLoop arguments cycles s

/-! ## What the cycles amount to -/

section Amounts

variable (arguments : MaintenanceArguments) (d : Directory FileBody)

/-- The calls of `create_backup`. -/
def backupCalls (cycles : List MaintenanceCycle) : List BackupCall :=
  (cycles.filter fun cycle => cycle.opening.isNone).map fun cycle => cycle.call arguments

/-- A cycle that comes after some others makes its backup: nothing fails that it gets to, and its
own backup is one of the latest, of all that were ever there. -/
def BacksUp (before : List MaintenanceCycle) (cycle : MaintenanceCycle) : Prop :=
  let call := cycle.call arguments
  let calls := backupCalls arguments before
  cycle.opening = none ∧
    call.Returns (insert call.name (backups (afterCalls d calls)))
      (insert call.name (everMade d calls))

instance (before : List MaintenanceCycle) (cycle : MaintenanceCycle) :
    Decidable (BacksUp arguments d before cycle) := inferInstanceAs (Decidable (_ ∧ _))

/-- The deletion of a cycle, with what others do before the status is read. -/
def deletion (before : List MaintenanceCycle) (cycle : MaintenanceCycle) : List StoreOp :=
  match cycle.thresholds arguments with
  | some (observationsBefore, notificationsBefore) =>
    if BacksUp arguments d before cycle ∧ cycle.pruning = none then
      .prune observationsBefore notificationsBefore :: cycle.meanwhile
    else []
  | none => []

/-- The operations on the database. -/
def maintenanceOps (before : List MaintenanceCycle) : List MaintenanceCycle → List StoreOp
  | [] => []
  | cycle :: cycles =>
    cycle.others ++ deletion arguments d before cycle ++ maintenanceOps (before ++ [cycle]) cycles

/-- What ends the process in a cycle: the cycle makes its backup and finds no threshold in the
calendar, or an error of the operating system escapes from `create_backup`. -/
def EndsWith (before : List MaintenanceCycle) (cycle : MaintenanceCycle) :
    MaintenanceFailure → Prop
  | .storage _ => False
  | .overflow => BacksUp arguments d before cycle ∧ cycle.thresholds arguments = none
  | .os m => cycle.opening = none ∧ (cycle.call arguments).escape = some m

/-- All cycles have been made, after some others that left the database `db`. -/
structure MadeAll (before : List MaintenanceCycle) (db : Database) (cycles : List MaintenanceCycle)
    (run : MaintenanceRun) : Prop where
  running : run.ending = .running
  lines : run.output.length = cycles.length
  directory : run.state.directory = afterCalls d (backupCalls arguments (before ++ cycles))
  database : run.state.database = Store.exec db (maintenanceOps arguments d before cycles)

/-- The cycles up to one have been made, and that one has ended the process at its backup. -/
structure StoppedAt (before : List MaintenanceCycle) (db : Database)
    (done : List MaintenanceCycle) (cycle : MaintenanceCycle) (failure : MaintenanceFailure)
    (run : MaintenanceRun) : Prop where
  ending : run.ending = .raised failure
  lines : run.output.length = done.length
  directory :
    run.state.directory = afterCalls d (backupCalls arguments (before ++ done ++ [cycle]))
  database :
    run.state.database =
      Store.exec db (maintenanceOps arguments d before done ++ cycle.others)

end Amounts

/-! ## One cycle -/

section Cycle

variable (arguments : MaintenanceArguments) (d : Directory FileBody)
  (before : List MaintenanceCycle)

lemma backupCalls_snoc (cycle : MaintenanceCycle) :
    backupCalls arguments (before ++ [cycle]) = backupCalls arguments before ++
      if cycle.opening.isNone then [cycle.call arguments] else [] := by
  rw [backupCalls, backupCalls, List.filter_append, List.map_append]
  cases hopening : cycle.opening.isNone <;> simp [hopening]

variable {arguments d before} in
lemma retain_of_mem_backupCalls {call : BackupCall} (h : call ∈ backupCalls arguments before) :
    call.retain = arguments.retainBackups.toNat := by
  obtain ⟨cycle, _, rfl⟩ := List.mem_map.mp h
  rfl

/-- **The backup of a cycle is made** under the condition of `BacksUp`. -/
lemma backsUp_iff (cycle : MaintenanceCycle) (hopening : cycle.opening = none) :
    ((cycle.call arguments).run (afterCalls d (backupCalls arguments before))).1.isOk = true ↔
      BacksUp arguments d before cycle := by
  rw [BacksUp, and_iff_right hopening]
  exact isOk_run_iff (fun call => retain_of_mem_backupCalls) d rfl

variable {arguments d before} in
lemma deletion_of_not {cycle : MaintenanceCycle} (h : ¬ BacksUp arguments d before cycle) :
    deletion arguments d before cycle = [] := by
  rw [deletion]
  split
  · rw [if_neg fun hboth => h hboth.1]
  · rfl

/-- **What a cycle does**, after some others: the backup that it makes or fails to make, and the
deletion.  What it raises is a `StorageError` or what `EndsWith` says. -/
lemma performMaintenance_spec (cycle : MaintenanceCycle) (db : Database) :
    let performed :=
      performMaintenance arguments cycle ⟨afterCalls d (backupCalls arguments before), db⟩
    performed.2 = ⟨afterCalls d (backupCalls arguments (before ++ [cycle])),
        Store.exec db (deletion arguments d before cycle)⟩ ∧
      ∀ failure, EndsWith arguments d before cycle failure ↔
        performed.1 = .error failure ∧ failure.Fatal := by
  cases hopening : cycle.opening with
  | some e =>
      have hnot : ¬ BacksUp arguments d before cycle := by
        rintro ⟨hopened, -⟩
        rw [hopening] at hopened
        simp at hopened
      rw [performMaintenance, hopening, backupCalls_snoc, hopening, deletion_of_not hnot]
      refine ⟨by simp, fun failure => ?_⟩
      cases failure <;> simp [EndsWith, MaintenanceFailure.Fatal, hnot, hopening]
  | none =>
      have hmade := backsUp_iff arguments d before cycle hopening
      have hescape :=
        run_escape (cycle.call arguments) (afterCalls d (backupCalls arguments before))
      rw [performMaintenance, hopening, backupCalls_snoc, hopening, Option.isNone_none, if_pos rfl,
        afterCalls_snoc]
      dsimp only
      generalize (cycle.call arguments).run (afterCalls d (backupCalls arguments before)) = result
        at hmade hescape
      obtain ⟨backup, directory⟩ := result
      cases backup with
      | error raised =>
          have hnot : ¬ BacksUp arguments d before cycle := by
            rw [← hmade]
            simp
          rw [deletion_of_not hnot]
          refine ⟨rfl, fun failure => ?_⟩
          cases failure <;> cases raised <;>
            simp [EndsWith, MaintenanceFailure.Fatal, BackupFailure.toMaintenance, hnot, hopening,
              ← hescape]
      | ok backup =>
          have hback : BacksUp arguments d before cycle := hmade.mp rfl
          have hends (failure : MaintenanceFailure) :
              EndsWith arguments d before cycle failure ↔
                cycle.thresholds arguments = none ∧ failure = .overflow := by
            cases failure <;> simp [EndsWith, hback, hopening, ← hescape]
          simp only [hends]
          cases hthresholds : cycle.thresholds arguments with
          | none =>
              rw [deletion, hthresholds]
              refine ⟨rfl, fun failure => ?_⟩
              cases failure <;> simp [MaintenanceFailure.Fatal]
          | some thresholds =>
              obtain ⟨observationsBefore, notificationsBefore⟩ := thresholds
              rw [deletion, hthresholds]
              cases hpruning : cycle.pruning with
              | some e => simp
              | none =>
                  dsimp only
                  rw [if_pos ⟨hback, rfl⟩]
                  cases hreading : cycle.reading with
                  | some e => exact ⟨rfl, by simp⟩
                  | none =>
                      dsimp only
                      split
                      · exact ⟨rfl, by simp⟩
                      · exact ⟨rfl, by simp⟩

end Cycle

/-! ## Any number of cycles -/

section Loop

variable {arguments : MaintenanceArguments} {d : Directory FileBody}
  {before : List MaintenanceCycle} {db : Database}

/-- The first cycle has been made and the process goes on. -/
lemma MadeAll.cons {cycle : MaintenanceCycle} {cycles : List MaintenanceCycle}
    {run : MaintenanceRun} (line : String)
    (h : MadeAll arguments d (before ++ [cycle])
      (Store.exec db (cycle.others ++ deletion arguments d before cycle)) cycles run) :
    MadeAll arguments d before db (cycle :: cycles) { run with output := line :: run.output } where
  running := h.running
  lines := by rw [List.length_cons, h.lines, List.length_cons]
  directory := by
    rw [h.directory, List.append_assoc]
    rfl
  database := by
    rw [h.database, maintenanceOps, ← Machine.exec_append]

lemma StoppedAt.cons {cycle other : MaintenanceCycle} {done : List MaintenanceCycle}
    {failure : MaintenanceFailure} {run : MaintenanceRun} (line : String)
    (h : StoppedAt arguments d (before ++ [cycle])
      (Store.exec db (cycle.others ++ deletion arguments d before cycle)) done other failure run) :
    StoppedAt arguments d before db (cycle :: done) other failure
      { run with output := line :: run.output } where
  ending := h.ending
  lines := by rw [List.length_cons, h.lines, List.length_cons]
  directory := by
    rw [h.directory]
    simp
  database := by
    rw [h.database, maintenanceOps, ← Machine.exec_append]
    simp

/-- What is not caught ends the process; after anything else it sleeps and goes on. -/
lemma maintenanceLoop_cons (honce : arguments.once = false) (hsleeps : arguments.Sleeps)
    (cycle : MaintenanceCycle) (cycles : List MaintenanceCycle) (s : MaintenanceState) :
    let performed := performMaintenance arguments cycle
      { s with database := Store.exec s.database cycle.others }
    (∃ failure, (performed.1 = .error failure ∧ failure.Fatal) ∧
        maintenanceLoop arguments (cycle :: cycles) s = ⟨[], .raised failure, performed.2⟩) ∨
      ((∀ failure, ¬ (performed.1 = .error failure ∧ failure.Fatal)) ∧
        ∃ line, maintenanceLoop arguments (cycle :: cycles) s =
          { maintenanceLoop arguments cycles performed.2 with
            output := line :: (maintenanceLoop arguments cycles performed.2).output }) := by
  rw [maintenanceLoop]
  generalize performMaintenance arguments cycle
    { s with database := Store.exec s.database cycle.others } = performed
  obtain ⟨result, s'⟩ := performed
  simp only [honce, if_pos hsleeps, Bool.false_eq_true, if_false]
  cases result with
  | ok line => exact Or.inr ⟨by simp, line, rfl⟩
  | error failure =>
      cases failure with
      | overflow => exact Or.inl ⟨.overflow, ⟨rfl, trivial⟩, rfl⟩
      | os m => exact Or.inl ⟨.os m, ⟨rfl, trivial⟩, rfl⟩
      | storage e =>
          refine Or.inr ⟨?_, failedLine e, rfl⟩
          rintro failure ⟨h, hfatal⟩
          rw [← Except.error.inj h] at hfatal
          exact hfatal

/-- A cycle that ends the process has deleted nothing. -/
lemma deletion_of_endsWith {cycle : MaintenanceCycle} {failure : MaintenanceFailure}
    (h : EndsWith arguments d before cycle failure) : deletion arguments d before cycle = [] := by
  cases failure with
  | storage e => exact h.elim
  | overflow => rw [deletion, h.2]
  | os m =>
      refine deletion_of_not fun hback => ?_
      have hreturns := (backsUp_iff arguments d before cycle h.1).mpr hback
      rw [(run_escape _ _ m).mpr h.2] at hreturns
      simp at hreturns

variable (d before db) in
/-- **The loop**, after some cycles. -/
lemma maintenanceLoop_spec (honce : arguments.once = false) (hsleeps : arguments.Sleeps)
    (cycles : List MaintenanceCycle) {run : MaintenanceRun}
    (hrun : run = maintenanceLoop arguments cycles
      ⟨afterCalls d (backupCalls arguments before), db⟩) :
    ((∀ done cycle rest failure, cycles = done ++ cycle :: rest →
        ¬ EndsWith arguments d (before ++ done) cycle failure) ∧
          MadeAll arguments d before db cycles run) ∨
      ∃ done cycle rest failure, cycles = done ++ cycle :: rest ∧
        EndsWith arguments d (before ++ done) cycle failure ∧
          StoppedAt arguments d before db done cycle failure run := by
  induction cycles generalizing before db run with
  | nil =>
      rw [hrun]
      refine Or.inl ⟨fun done cycle rest failure h => by simp at h, rfl, rfl, ?_, rfl⟩
      rw [List.append_nil]
      rfl
  | cons cycle cycles ih =>
      obtain ⟨hstate, hends⟩ :=
        performMaintenance_spec arguments d before cycle (Store.exec db cycle.others)
      rcases maintenanceLoop_cons honce hsleeps cycle cycles
          ⟨afterCalls d (backupCalls arguments before), db⟩ with
        ⟨failure, hraised, hloop⟩ | ⟨hgoes, line, hloop⟩
      · have hfirst : EndsWith arguments d before cycle failure := (hends failure).mpr hraised
        rw [hloop, hstate, deletion_of_endsWith hfirst] at hrun
        rw [hrun]
        refine Or.inr ⟨[], cycle, cycles, failure, rfl, ?_, rfl, rfl, ?_, rfl⟩
        · rw [List.append_nil]
          exact hfirst
        · rw [List.append_nil]
      · have hfirst (failure : MaintenanceFailure) : ¬ EndsWith arguments d before cycle failure :=
          fun h => hgoes failure ((hends failure).mp h)
        rw [hloop, hstate, ← Machine.exec_append] at hrun
        rw [hrun]
        rcases ih _ _ rfl with
          ⟨hnone, hall⟩ | ⟨done, other, rest, failure, hsplit, hother, hstopped⟩
        · refine Or.inl ⟨fun done other rest failure hsplit => ?_, hall.cons line⟩
          cases done with
          | nil =>
              obtain ⟨rfl, rfl⟩ := List.cons.inj hsplit
              rw [List.append_nil]
              exact hfirst failure
          | cons head done =>
              obtain ⟨rfl, hrest⟩ := List.cons.inj hsplit
              rw [List.append_cons]
              exact hnone done other rest failure hrest
        · refine Or.inr ⟨cycle :: done, other, rest, failure, congrArg (cycle :: ·) hsplit, ?_,
            hstopped.cons line⟩
          rw [List.append_cons]
          exact hother

end Loop

/-- Options that are accepted: the checks have no upper bound for the number of days. -/
def manyDays : MaintenanceArguments := ⟨800000, 30, 14, 86400, false⟩

/-- A cycle on the first of July in which nothing fails. -/
def julyCycle : MaintenanceCycle where
  others := []
  opening := none
  date := julyFirst
  time := tenOClock
  copy := .ok (4096, "ok")
  errors := .none
  today := julyFirst
  now := tenOClock
  pruning := none
  meanwhile := []
  reading := none
  databaseBytes := 4096

/-- A cycle before it whose copy fails. -/
def failingCycle : MaintenanceCycle :=
  { julyCycle with copy := .error ⟨"database is locked", none⟩ }

/-- A backup directory that cannot be made ends it as well. -/
example : EndsWith manyDays aheadDirectory [failingCycle]
    { julyCycle with errors := { FileErrors.none with mkdir := some "Permission denied" } }
    (.os "Permission denied") := ⟨rfl, rfl⟩

/-! ## Clocks -/

section Clocks

variable {arguments : MaintenanceArguments} {d : Directory FileBody}
  {before : List MaintenanceCycle} {cycle : MaintenanceCycle}

/-- **While the clock does not go back**, a cycle makes its backup if it can open the database, its
copy is good and no operation on files fails. -/
lemma backsUp_of_advancing (hretain : 1 ≤ arguments.retainBackups) (herrors : cycle.errors = .none)
    (hfound : ∀ name ∈ backups d, name ≤ (cycle.call arguments).name)
    (hclock : ∀ other ∈ before,
      stampSecond other.date other.time ≤ stampSecond cycle.date cycle.time) :
    BacksUp arguments d before cycle ↔
      cycle.opening = none ∧ (cycle.call arguments).copied = true := by
  have hpositive : 1 ≤ arguments.retainBackups.toNat := by omega
  have hretain' : 1 ≤ (cycle.call arguments).retain := hpositive
  have hnone : (cycle.call arguments).errors = .none := herrors
  have hinstalls : (cycle.call arguments).installs = (cycle.call arguments).copied := by
    rw [BackupCall.installs, hnone, decide_eq_true hretain']
    simp [FileErrors.none]
  have hlatest : (cycle.call arguments).name ∈ latest (cycle.call arguments).retain
      (insert (cycle.call arguments).name (everMade d (backupCalls arguments before))) := by
    rw [mem_latest, and_iff_right (Finset.mem_insert_self _ _)]
    have hempty : later (insert (cycle.call arguments).name
        (everMade d (backupCalls arguments before))) (cycle.call arguments).name = ∅ := by
      rw [later, Finset.filter_eq_empty_iff]
      intro name hname
      rw [Finset.mem_insert, everMade, Finset.mem_union, List.mem_toFinset, List.mem_map] at hname
      rcases hname with rfl | hname | ⟨call, hcall, rfl⟩
      · exact lt_irrefl _
      · exact (hfound name hname).not_gt
      · obtain ⟨other, hother, rfl⟩ := List.mem_map.mp (List.mem_of_mem_filter hcall)
        exact fun hlt =>
          (backupName_lt.mp hlt).not_ge (hclock other (List.mem_of_mem_filter hother))
    rw [hempty, Finset.card_empty]
    exact hretain'
  rw [BacksUp, BackupCall.Returns, BackupCall.Measures, BackupCall.Rotates, hinstalls, hnone]
  constructor
  · exact fun h => ⟨h.1, h.2.1.1.1⟩
  · exact fun h => ⟨h.1, ⟨⟨h.2, rfl, fun _ _ _ => rfl⟩, rfl, hlatest⟩, rfl, rfl⟩

/-- **While the clock is behind** as many backups as are retained, no cycle makes its backup, and so
none deletes anything. -/
lemma deletion_of_behind (hahead : arguments.retainBackups.toNat ≤
      (later (backups d) (cycle.call arguments).name).card) :
    deletion arguments d before cycle = [] := by
  refine deletion_of_not fun hback => ?_
  obtain ⟨-, ⟨-, -, hlatest⟩, -⟩ := hback
  have hsub : backups d ⊆ insert (cycle.call arguments).name
      (everMade d (backupCalls arguments before)) :=
    Finset.subset_union_left.trans (Finset.subset_insert _ _)
  have hle := Finset.card_le_card (later_subset_later hsub (cycle.call arguments).name)
  have hlt : _ < arguments.retainBackups.toNat := (mem_latest.mp hlatest).2
  omega

end Clocks

end WebChecker
