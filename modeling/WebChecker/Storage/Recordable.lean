import WebChecker.Storage.History

/-!
# Every valid snapshot can be recorded

A constraint that a commit violated would hold for the next one as well, so the job would never
record a snapshot again.  No commit does: in a consistent database the keys of the new rows are
free (`recordSuccessBody_eq`), the snapshot read back is the stored form of one that was committed
(`latestCommitted_run`), and what is left to fail is the writing of the attributes.

A retention pass may free ids that later rows take again.  That is covered as well, because its
cascade leaves no row behind that refers to a freed id.
-/

namespace WebChecker

open Relational Results

/-- The attributes of every opportunity can be written. -/
def Serialisable (result : CheckResult) : Prop :=
  ∀ o ∈ result.opportunities, ∃ json, dumpsAttributes o.attributes = .ok json

/-- The rows of a snapshot can be built exactly if its attributes can be written. -/
lemma exists_encodeObservations (runId : ℕ) {os : List Opportunity} (position : ℕ) :
    (∃ rows, encodeObservations runId position os = .ok rows) ↔
      ∀ o ∈ os, ∃ json, dumpsAttributes o.attributes = .ok json := by
  induction os generalizing position with
  | nil => simp [encodeObservations]
  | cons o os ih =>
      have hrow : (∃ row, encodeObservation runId position o = .ok row) ↔
          ∃ json, dumpsAttributes o.attributes = .ok json := by
        simp [encodeObservation_eq_ok]
      rw [List.forall_mem_cons, ← hrow, ← ih (position + 1)]
      simp only [encodeObservations_cons_eq_ok]
      constructor
      · rintro ⟨_, row, hrow, rows, hrows, _⟩
        exact ⟨⟨row, hrow⟩, rows, hrows⟩
      · rintro ⟨⟨row, hrow⟩, rows, hrows⟩
        exact ⟨_, row, hrow, rows, hrows, rfl⟩

/-- In a database that operations lead to, the latest snapshot of every job can be decoded. -/
lemma Reachable.latestSnapshot_ok {db : Database} (h : Reachable db) (jobId : String) :
    ∃ previous, latestSnapshot db jobId = .ok previous := by
  obtain ⟨ops, rfl⟩ := h
  obtain ⟨stored, hstored, _⟩ := latestCommitted_run ops jobId
  exact ⟨stored, hstored⟩

/-- Recording a snapshot that can be written returns, whatever has led to the database. -/
lemma Reachable.recordSuccess_ok {db : Database} (h : Reachable db) (jobId : String)
    {result : CheckResult} (hjson : Serialisable result) (plan : NotificationPlan) :
    ∃ previous rows, latestSnapshot db jobId = .ok previous ∧
      encodeObservations db.checkRuns.nextId 0 result.opportunities = .ok rows ∧
      recordSuccess db jobId result plan = .ok (⟨previous.isNone, transitionsSince previous result⟩,
        recorded db jobId result plan (transitionsSince previous result) rows) := by
  obtain ⟨previous, hprevious⟩ := h.latestSnapshot_ok jobId
  obtain ⟨rows, hrows⟩ := (exists_encodeObservations db.checkRuns.nextId 0).mpr hjson
  exact ⟨previous, rows, hprevious, hrows,
    (recordSuccess_eq_ok h.consistent).mpr ⟨previous, rows, hprevious, hrows, rfl, rfl⟩⟩

/-- **Every valid snapshot can be recorded.**  Whatever operations have led to the database, the
latest snapshot of the job can be decoded, and recording a snapshot whose attributes can be
written commits, for every job and plan.  Afterwards the latest run of the job is the new one, it
has an id that no run had, and reading the job's latest snapshot gives the recorded one in stored
form. -/
theorem recordSuccess_commits {db : Database} (h : Reachable db) (jobId : String)
    {result : CheckResult} (hjson : Serialisable result) (plan : NotificationPlan) :
    ∃ previous outcome db', latestSnapshot db jobId = .ok previous ∧
      recordSuccess db jobId result plan = .ok (outcome, db') ∧
      applyOp db (.recordSuccess jobId result plan) = (.recorded outcome, db') ∧
      latestRun db' jobId = some (checkRunRow jobId result.checkedAt db.checkRuns.nextId) ∧
      db.checkRuns.nextId ∉ db.checkRuns.ids ∧
      ∃ stored, SnapshotStoredAs result stored ∧ getLatest db' jobId = .ok (some stored) := by
  have hc : Consistent db := h.consistent
  obtain ⟨previous, rows, hprevious, hrows, hrecord⟩ := h.recordSuccess_ok jobId hjson plan
  obtain ⟨stored, hstored, hlatest⟩ := latestSnapshot_recorded_self hc jobId result plan
    (transitionsSince previous result) hrows
  refine ⟨previous, _, _, hprevious, hrecord, ?_, latestRun_recorded_self .., ?_, stored, hstored,
    ?_⟩
  · rw [applyOp, hrecord]
    rfl
  · exact db.checkRuns.nextId_notMem_ids
  · rw [getLatest, hlatest]
    rfl

/-- The attributes of a tour: a mapping whose keys are numbers of three types. -/
def tourAttributes : Attributes :=
  [("prices", .dict [(.int 2, .str "two"), (.float (.finite (3 / 2) "1.5"), .str "half"),
    (.bool true, .none)])]

/-- A commit after a retention pass that freed the id its first transition takes. -/
theorem recordSuccess_commits_reusedId :
    let day (d : ℕ) (h : 1 ≤ d ∧ d ≤ 31) : Datetime :=
      { Datetime.epoch with date := ⟨1970, 1, d, by decide, by decide, h⟩ }
    let db := Store.exec .empty [
      .recordSuccess "job" (.single 1 .unavailable [] (by decide)) .email,
      .recordSuccess "job" (.single 2 .unavailable [] (by decide)) .email,
      .prune (day 3 (by decide)) (day 3 (by decide))]
    let result := CheckResult.single 4 .available tourAttributes (by decide)
    db.checkRuns.ids = [2] ∧ db.transitions.nextId = 1 ∧
      ∃ previous outcome db', latestSnapshot db "job" = .ok previous ∧
        recordSuccess db "job" result .email = .ok (outcome, db') ∧
        applyOp db (.recordSuccess "job" result .email) = (.recorded outcome, db') ∧
        latestRun db' "job" = some (checkRunRow "job" result.checkedAt db.checkRuns.nextId) ∧
        db.checkRuns.nextId ∉ db.checkRuns.ids ∧
        ∃ stored, SnapshotStoredAs result stored ∧ getLatest db' "job" = .ok (some stored) := by
  intro day db result
  have hreach : Reachable db := ⟨_, rfl⟩
  have hjson : Serialisable result := by
    intro o ho
    rw [List.mem_singleton.mp ho]
    exact exists_ok (by decide +kernel)
  exact ⟨by decide +kernel, by decide +kernel, recordSuccess_commits hreach "job" hjson .email⟩

end WebChecker
