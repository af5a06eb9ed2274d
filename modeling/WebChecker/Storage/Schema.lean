import WebChecker.Library.RowTable
import WebChecker.Notifications.Models

/-!
# The database

The six tables of schema version 3, their rows, and the SQL statements of the store with the
constraints they can violate.  Columns that hold times hold `isoformat` text, as the code stores
and compares them; a column that holds an enumeration's text holds the enumeration.

A statement that can fail returns an `Except`: an `INSERT` checks its `UNIQUE` and `PRIMARY KEY`
constraints and its foreign key.  `NOT NULL` is the difference between a type and its `Option`.
-/

namespace WebChecker

open Relational

/-! ## Rows -/

structure CheckRun where
  id : ℕ
  jobId : String
  checkedAt : String
deriving DecidableEq, Repr

structure Observation where
  runId : ℕ
  position : ℕ
  opportunityId : String
  title : String
  availability : Availability
  startsAt : Option String
  bookingUrl : Option String
  attributesJson : List (String × Json)
deriving Repr

structure TransitionRow where
  id : ℕ
  runId : ℕ
  opportunityId : String
  transitionType : TransitionType
  previousAvailability : Option Availability
  currentAvailability : Option Availability
deriving DecidableEq, Repr

structure OutboxRow where
  id : ℕ
  transitionId : ℕ
  channel : String
  jobId : String
  transitionType : TransitionType
  opportunityId : String
  opportunityTitle : String
  currentAvailability : Option Availability
  bookingUrl : Option String
  checkedAt : String
  attempts : ℕ := 0
  lastAttemptAt : Option String := none
  lastError : Option String := none
  deliveredAt : Option String := none
deriving DecidableEq, Repr

structure JobStatusRow where
  jobId : String
  lastSuccessAt : Option String := none
  lastFailureAt : Option String := none
  consecutiveFailures : ℕ := 0
  lastError : Option String := none
  failureAlertActive : Bool := false
  deliveryAlertActive : Bool := false
deriving DecidableEq, Repr

structure AlertRow where
  id : ℕ
  alertKey : String
  channel : String
  jobId : Option String
  title : String
  detail : String
  createdAt : String
  attempts : ℕ := 0
  lastError : Option String := none
  deliveredAt : Option String := none
deriving DecidableEq, Repr

instance : HasRowId CheckRun := ⟨CheckRun.id⟩
instance : HasRowId TransitionRow := ⟨TransitionRow.id⟩
instance : HasRowId OutboxRow := ⟨OutboxRow.id⟩
instance : HasRowId AlertRow := ⟨AlertRow.id⟩
instance : HasKey String JobStatusRow := ⟨JobStatusRow.jobId⟩

@[simp] lemma rowId_checkRun (r : CheckRun) : rowId r = r.id := rfl
@[simp] lemma rowId_transitionRow (r : TransitionRow) : rowId r = r.id := rfl
@[simp] lemma rowId_outboxRow (r : OutboxRow) : rowId r = r.id := rfl
@[simp] lemma rowId_alertRow (r : AlertRow) : rowId r = r.id := rfl
@[simp] lemma key_jobStatusRow (r : JobStatusRow) : key r = r.jobId := rfl

/-- An outbox row that still has to be delivered. -/
def OutboxRow.pending (r : OutboxRow) : Bool := r.deliveredAt.isNone

/-- An operational alert that still has to be delivered. -/
def AlertRow.pending (r : AlertRow) : Bool := r.deliveredAt.isNone

/-- The tables. -/
structure Database where
  checkRuns : RowTable CheckRun
  observations : List Observation
  transitions : RowTable TransitionRow
  outbox : RowTable OutboxRow
  jobStatus : KeyTable String JobStatusRow
  alerts : RowTable AlertRow

/-- A freshly initialized database. -/
def Database.empty : Database :=
  ⟨RowTable.empty, [], RowTable.empty, RowTable.empty, KeyTable.empty, RowTable.empty⟩

/-! ## Statements -/

/-- `INSERT INTO opportunity_observations`. -/
def insertObservation (db : Database) (o : Observation) : Except PyError Database :=
  if ∃ x ∈ db.observations, x.runId = o.runId ∧ x.opportunityId = o.opportunityId then
    .error (.sqlite ("UNIQUE constraint failed: opportunity_observations.run_id, " ++
      "opportunity_observations.opportunity_id"))
  else if ∃ x ∈ db.observations, x.runId = o.runId ∧ x.position = o.position then
    .error (.sqlite ("UNIQUE constraint failed: opportunity_observations.run_id, " ++
      "opportunity_observations.position"))
  else if o.runId ∉ db.checkRuns.ids then .error (.sqlite "FOREIGN KEY constraint failed")
  else .ok { db with observations := db.observations ++ [o] }

/-- `INSERT INTO transitions`; the row is built from the id it is given. -/
def insertTransition (db : Database) (mk : ℕ → TransitionRow) (h : ∀ n, rowId (mk n) = n) :
    Except PyError Database :=
  if (mk db.transitions.nextId).runId ∉ db.checkRuns.ids then
    .error (.sqlite "FOREIGN KEY constraint failed")
  else .ok { db with transitions := db.transitions.insert mk h }

/-- `INSERT INTO notification_outbox`. -/
def insertOutbox (db : Database) (mk : ℕ → OutboxRow) (h : ∀ n, rowId (mk n) = n) :
    Except PyError Database :=
  let row := mk db.outbox.nextId
  if ∃ x ∈ db.outbox.rows, x.transitionId = row.transitionId ∧ x.channel = row.channel then
    .error (.sqlite ("UNIQUE constraint failed: notification_outbox.transition_id, " ++
      "notification_outbox.channel"))
  else if row.transitionId ∉ db.transitions.ids then
    .error (.sqlite "FOREIGN KEY constraint failed")
  else .ok { db with outbox := db.outbox.insert mk h }

/-- `INSERT INTO operational_alert_outbox`. -/
def insertAlert (alerts : RowTable AlertRow) (mk : ℕ → AlertRow) (h : ∀ n, rowId (mk n) = n) :
    Except PyError (RowTable AlertRow) :=
  let row := mk alerts.nextId
  if ∃ x ∈ alerts.rows, x.alertKey = row.alertKey ∧ x.channel = row.channel then
    .error (.sqlite ("UNIQUE constraint failed: operational_alert_outbox.alert_key, " ++
      "operational_alert_outbox.channel"))
  else .ok (alerts.insert mk h)

/-- `DELETE FROM operational_alert_outbox WHERE alert_key = ?`. -/
def deleteAlerts (alerts : RowTable AlertRow) (alertKey : String) : RowTable AlertRow :=
  alerts.deleteWhere fun a => a.alertKey == alertKey

/-- `DELETE FROM check_runs`, with its `ON DELETE CASCADE` into observations, transitions and
from there into the outbox. -/
def deleteRuns (db : Database) (p : CheckRun → Bool) : Database :=
  let deletedRuns := (db.checkRuns.rows.filter p).map CheckRun.id
  let ofDeletedRun : TransitionRow → Bool := fun t => t.runId ∈ deletedRuns
  let deletedTransitions := (db.transitions.rows.filter ofDeletedRun).map TransitionRow.id
  { db with
    checkRuns := db.checkRuns.deleteWhere p
    observations := db.observations.filter fun o => o.runId ∉ deletedRuns
    transitions := db.transitions.deleteWhere ofDeletedRun
    outbox := db.outbox.deleteWhere fun n => n.transitionId ∈ deletedTransitions }

end WebChecker
