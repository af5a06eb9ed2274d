import WebChecker.Storage.Snapshots
import WebChecker.Storage.Episodes

/-!
# The part of the store that belongs to a job

All jobs share six tables.  `Database.part` is what a job has in them, and `Separated` is why the
parts do not overlap: every outbox row hangs below a run of its own job, every alert carries a key
of its own job, and a job whose backlog flag is off has no alert about its backlog.

Every operation keeps the parts apart (`separated_apply`), and the operations of other jobs leave a
part alone (`OpEffect.part_of_other`).  What the job's own operations and the global ones do to it
is the subject of the next module.
-/

namespace WebChecker

open Relational Results Runs

/-! ## Parts -/

/-- The rows of a job, in the order of the tables. -/
@[ext] structure JobPart where
  runs : List CheckRun
  observations : List Observation
  transitions : List TransitionRow
  outbox : List OutboxRow
  status : Option JobStatusRow
  alerts : List AlertRow

def JobPart.runIds (p : JobPart) : List ℕ := p.runs.map CheckRun.id

def JobPart.transitionIds (p : JobPart) : List ℕ := p.transitions.map TransitionRow.id

def JobPart.outboxIds (p : JobPart) : List ℕ := p.outbox.map OutboxRow.id

def JobPart.alertIds (p : JobPart) : List ℕ := p.alerts.map AlertRow.id

/-- The runs of a job. -/
def jobRuns (db : Database) (jobId : String) : List CheckRun :=
  db.checkRuns.rows.filter fun r => r.jobId == jobId

/-- The run is one of the job. -/
def ofJob (db : Database) (jobId : String) (runId : ℕ) : Bool :=
  decide (runId ∈ (jobRuns db jobId).map CheckRun.id)

/-- The alerts of a job. -/
def jobAlerts (alerts : RowTable AlertRow) (jobId : String) : List AlertRow :=
  alerts.rows.filter fun a => a.jobId == some jobId

/-- What belongs to a job. -/
def Database.part (db : Database) (jobId : String) : JobPart where
  runs := jobRuns db jobId
  observations := db.observations.filter fun o => ofJob db jobId o.runId
  transitions := db.transitions.rows.filter fun t => ofJob db jobId t.runId
  outbox := db.outbox.rows.filter fun n => n.jobId == jobId
  status := db.jobStatus.lookup jobId
  alerts := jobAlerts db.alerts jobId

lemma mem_jobRuns {db : Database} {jobId : String} {r : CheckRun} :
    r ∈ jobRuns db jobId ↔ r ∈ db.checkRuns.rows ∧ r.jobId = jobId := by
  simp [jobRuns]

lemma ofJob_iff {db : Database} {jobId : String} {runId : ℕ} :
    ofJob db jobId runId = true ↔ ∃ r ∈ db.checkRuns.rows, r.jobId = jobId ∧ r.id = runId := by
  simp [ofJob, mem_jobRuns, and_assoc]

/-- A run is of one job. -/
lemma ofJob_unique {db : Database} {a b : String} {runId : ℕ} (ha : ofJob db a runId = true)
    (hb : ofJob db b runId = true) : a = b := by
  obtain ⟨r, hr, rfl, hid⟩ := ofJob_iff.mp ha
  obtain ⟨r', hr', rfl, hid'⟩ := ofJob_iff.mp hb
  rw [RowTable.eq_of_rowId_eq hr hr' (hid.trans hid'.symm)]

/-! ## Separation -/

/-- Every alert carries the job and one of the keys of the job. -/
def AlertsOwned (alerts : RowTable AlertRow) : Prop :=
  ∀ a ∈ alerts.rows, ∃ jobId, a.jobId = some jobId ∧
    (a.alertKey = checkFailureKey jobId ∨ a.alertKey = deliveryBacklogKey jobId)

/-- **Why parts do not overlap.** -/
structure Separated (db : Database) : Prop where
  consistent : Consistent db
  outbox_owned : ∀ n ∈ db.outbox.rows, n.transitionId ∈ (db.part n.jobId).transitionIds
  alerts_owned : AlertsOwned db.alerts
  quiet : ∀ jobId, deliveryAlertActive db.jobStatus jobId = false →
    alertChannels db.alerts (deliveryBacklogKey jobId) = []

lemma mem_transitionIds {db : Database} {jobId : String} {id : ℕ} :
    id ∈ (db.part jobId).transitionIds ↔
      ∃ t ∈ db.transitions.rows, ofJob db jobId t.runId = true ∧ t.id = id := by
  simp [JobPart.transitionIds, Database.part, and_assoc]

/-- A transition is of one job. -/
lemma transitionIds_unique {db : Database} {a b : String} {id : ℕ}
    (ha : id ∈ (db.part a).transitionIds) (hb : id ∈ (db.part b).transitionIds) : a = b := by
  obtain ⟨t, ht, hta, hid⟩ := mem_transitionIds.mp ha
  obtain ⟨t', ht', htb, hid'⟩ := mem_transitionIds.mp hb
  obtain rfl := RowTable.eq_of_rowId_eq ht ht' (hid.trans hid'.symm)
  exact ofJob_unique hta htb

/-- The alerts with a key of a job are alerts of the job. -/
lemma AlertsOwned.jobId_of_key {alerts : RowTable AlertRow} (h : AlertsOwned alerts) {a : AlertRow}
    (ha : a ∈ alerts.rows) {jobId : String}
    (hkey : a.alertKey = checkFailureKey jobId ∨ a.alertKey = deliveryBacklogKey jobId) :
    a.jobId = some jobId := by
  obtain ⟨owner, howner, hown⟩ := h a ha
  rw [howner]
  rcases hown with hown | hown
  · rcases hkey with hkey | hkey
    · rw [checkFailureKey_inj.mp (hown.symm.trans hkey)]
    · exact absurd (hown.symm.trans hkey) (checkFailureKey_ne_deliveryBacklogKey _ _)
  · rcases hkey with hkey | hkey
    · exact absurd (hkey.symm.trans hown) (checkFailureKey_ne_deliveryBacklogKey _ _)
    · rw [deliveryBacklogKey_inj.mp (hown.symm.trans hkey)]

lemma AlertsOwned.insertAll {alerts : RowTable AlertRow} (h : AlertsOwned alerts)
    {alertKey jobId : String} (title detail : String) (createdAt : Datetime)
    (channels : List String)
    (hkey : alertKey = checkFailureKey jobId ∨ alertKey = deliveryBacklogKey jobId) :
    AlertsOwned (alerts.insertAll channels (alertRow alertKey jobId title detail createdAt)
      (rowId_newAlert alertKey jobId title detail createdAt)) := by
  intro a ha
  rw [RowTable.rows_insertAll] at ha
  rcases List.mem_append.mp ha with ha | ha
  · exact h a ha
  · obtain ⟨p, _, rfl⟩ := List.mem_map.mp ha
    exact ⟨jobId, rfl, hkey⟩

lemma AlertsOwned.deleteAlerts {alerts : RowTable AlertRow} (h : AlertsOwned alerts)
    (alertKey : String) : AlertsOwned (deleteAlerts alerts alertKey) :=
  fun a ha => h a (RowTable.mem_deleteWhere.mp ha).1

lemma AlertsOwned.evaluated {alerts : RowTable AlertRow} (h : AlertsOwned alerts)
    (alertAfter : ℤ) (channels : List String) (now : String → Datetime) (row : BacklogRow) :
    AlertsOwned (evaluatedAlerts alertAfter channels now row alerts) := by
  rw [evaluatedAlerts]
  split_ifs
  · exact h.insertAll _ _ _ _ (Or.inr rfl)
  · exact h.deleteAlerts _
  · exact h

lemma AlertsOwned.allEvaluated {alerts : RowTable AlertRow} (h : AlertsOwned alerts)
    (alertAfter : ℤ) (channels : List String) (now : String → Datetime) (rows : List BacklogRow) :
    AlertsOwned (allEvaluatedAlerts alertAfter channels now rows alerts) := by
  induction rows generalizing alerts with
  | nil => exact h
  | cons row rows ih => exact ih (h.evaluated alertAfter channels now row)

lemma AlertsOwned.attempted {alerts : RowTable AlertRow} (h : AlertsOwned alerts)
    (p : AlertRow → Bool) (time : Datetime) (error : Option String) :
    AlertsOwned (alerts.updateWhere p (attemptedAlert time error)
      (rowId_attemptedAlert time error)) := by
  refine RowTable.forall_mem_updateWhere fun a ha => ?_
  split_ifs
  · cases error <;> exact h a ha
  · exact h a ha

/-! ## Recording a success -/

/-- The next id of each table. -/
structure Bases where
  run : ℕ
  transition : ℕ
  outbox : ℕ
  alert : ℕ

def Database.bases (db : Database) : Bases :=
  ⟨db.checkRuns.nextId, db.transitions.nextId, db.outbox.nextId, db.alerts.nextId⟩

/-- The status row of a job after a success. -/
def succeededStatus (status : Option JobStatusRow) (jobId : String) (checkedAt : Datetime) :
    JobStatusRow :=
  (status.map fun s => { s with lastSuccessAt := some checkedAt.isoformat,
                                consecutiveFailures := 0, lastError := none,
                                failureAlertActive := false }).getD
    { jobId, lastSuccessAt := some checkedAt.isoformat }

lemma lookup_statusAfterSuccess (status : KeyTable String JobStatusRow) (jobId : String)
    (checkedAt : Datetime) :
    (statusAfterSuccess status jobId checkedAt).lookup jobId
      = some (succeededStatus (status.lookup jobId) jobId checkedAt) :=
  KeyTable.lookup_upsert_self status

/-- A part after a recorded success, with new ids from `b` on. -/
def JobPart.recorded (p : JobPart) (b : Bases) (jobId : String) (result : CheckResult)
    (plan : NotificationPlan) (ts : List OpportunityTransition) (rows : List Observation) :
    JobPart where
  runs := p.runs ++ [checkRunRow jobId result.checkedAt b.run]
  observations := p.observations ++ rows
  transitions := p.transitions ++ (ts.zipIdx b.transition).map fun q =>
    transitionRow b.run q.1 q.2
  outbox := p.outbox ++ ((outboxEntries plan b.transition ts).zipIdx b.outbox).map fun q =>
    entryRow jobId result.checkedAt q.1 q.2
  status := some (succeededStatus p.status jobId result.checkedAt)
  alerts := p.alerts.filter fun a => a.alertKey ≠ checkFailureKey jobId

section Recorded

variable {db : Database} {jobId other : String} {result : CheckResult} {plan : NotificationPlan}
  {ts : List OpportunityTransition} {rows : List Observation}

lemma jobRuns_recorded (db : Database) (jobId other : String) (result : CheckResult)
    (plan : NotificationPlan) (ts : List OpportunityTransition) (rows : List Observation) :
    jobRuns (recorded db other result plan ts rows) jobId
      = jobRuns db jobId ++
        if other = jobId then [checkRunRow other result.checkedAt db.checkRuns.nextId] else [] := by
  rw [jobRuns, recorded, RowTable.rows_insert, List.filter_append, jobRuns]
  by_cases h : other = jobId <;> simp [h, checkRunRow]

/-- A new run is the job's, and the old ones are whose they were. -/
lemma ofJob_recorded (runId : ℕ) :
    ofJob (recorded db other result plan ts rows) jobId runId
      = (ofJob db jobId runId || decide (other = jobId ∧ runId = db.checkRuns.nextId)) := by
  rw [ofJob, jobRuns_recorded, ofJob]
  by_cases h : other = jobId <;> simp [h, checkRunRow]

/-- A run that is there keeps its job. -/
lemma ofJob_recorded_of_mem {runId : ℕ} (h : runId ∈ db.checkRuns.ids) :
    ofJob (recorded db other result plan ts rows) jobId runId = ofJob db jobId runId := by
  have hne : runId ≠ db.checkRuns.nextId := fun heq => db.checkRuns.nextId_notMem_ids (heq ▸ h)
  simp [ofJob_recorded, hne]

lemma ofJob_recorded_nextId :
    ofJob (recorded db other result plan ts rows) jobId db.checkRuns.nextId
      = decide (other = jobId) := by
  have hnot : ofJob db jobId db.checkRuns.nextId = false := by
    rw [Bool.eq_false_iff]
    intro h
    obtain ⟨r, hr, _, hid⟩ := ofJob_iff.mp h
    exact db.checkRuns.nextId_notMem_ids (RowTable.mem_ids.mpr ⟨r, hr, hid⟩)
  simp [ofJob_recorded, hnot]

/-- A selection that takes all or nothing. -/
lemma filter_eq_ite {α : Type} {l : List α} {p : α → Bool} {c : Prop} [Decidable c]
    (h : ∀ a ∈ l, p a = decide c) : l.filter p = if c then l else [] := by
  rw [List.filter_congr h]
  by_cases hc : c <;> simp [hc]

lemma observations_recorded (hc : Consistent db) (jobId other : String) (plan : NotificationPlan)
    (ts : List OpportunityTransition)
    (hrows : encodeObservations db.checkRuns.nextId 0 result.opportunities = .ok rows) :
    ((recorded db other result plan ts rows).part jobId).observations
      = (db.part jobId).observations ++ if other = jobId then rows else [] := by
  have hold : db.observations.filter
      (fun o => ofJob (recorded db other result plan ts rows) jobId o.runId)
        = (db.part jobId).observations :=
    List.filter_congr fun o ho => ofJob_recorded_of_mem (hc.observation_run o ho)
  have hnew : rows.filter (fun o => ofJob (recorded db other result plan ts rows) jobId o.runId)
      = if other = jobId then rows else [] := by
    refine filter_eq_ite fun o ho => ?_
    rw [(encodeObservations_mem hrows o ho).1, ofJob_recorded_nextId]
  rw [← hold, ← hnew, ← List.filter_append]
  rfl

lemma transitions_recorded (hc : Consistent db) (jobId other : String) (result : CheckResult)
    (plan : NotificationPlan) (ts : List OpportunityTransition) (rows : List Observation) :
    ((recorded db other result plan ts rows).part jobId).transitions
      = (db.part jobId).transitions ++ if other = jobId then
          (ts.zipIdx db.transitions.nextId).map fun q =>
            transitionRow db.checkRuns.nextId q.1 q.2
        else [] := by
  have hold : db.transitions.rows.filter
      (fun t => ofJob (recorded db other result plan ts rows) jobId t.runId)
        = (db.part jobId).transitions :=
    List.filter_congr fun t ht => ofJob_recorded_of_mem (hc.transition_run t ht)
  rw [← hold, ← filter_eq_ite, ← List.filter_append, ← RowTable.rows_insertAll]
  · rfl
  · intro t ht
    obtain ⟨q, _, rfl⟩ := List.mem_map.mp ht
    exact ofJob_recorded_nextId

lemma outbox_recorded (db : Database) (jobId other : String) (result : CheckResult)
    (plan : NotificationPlan) (ts : List OpportunityTransition) (rows : List Observation) :
    ((recorded db other result plan ts rows).part jobId).outbox
      = (db.part jobId).outbox ++ if other = jobId then
          ((outboxEntries plan db.transitions.nextId ts).zipIdx db.outbox.nextId).map fun q =>
            entryRow other result.checkedAt q.1 q.2
        else [] := by
  simp only [Database.part]
  rw [← filter_eq_ite, ← List.filter_append, ← RowTable.rows_insertAll]
  · rfl
  · intro n hn
    obtain ⟨q, _, rfl⟩ := List.mem_map.mp hn
    rfl

/-- Deleting the alerts of another job's key. -/
lemma alerts_delete_of_ne {alerts : RowTable AlertRow} (h : AlertsOwned alerts)
    (hne : other ≠ jobId) {alertKey : String}
    (hkey : alertKey = checkFailureKey other ∨ alertKey = deliveryBacklogKey other) :
    jobAlerts (deleteAlerts alerts alertKey) jobId = jobAlerts alerts jobId := by
  rw [jobAlerts, deleteAlerts, RowTable.deleteWhere, List.filter_filter, jobAlerts]
  refine List.filter_congr fun a ha => ?_
  by_cases hjob : a.jobId = some jobId
  · have hother : a.alertKey ≠ alertKey := by
      rintro rfl
      have howner := h.jobId_of_key ha hkey
      rw [hjob, Option.some.injEq] at howner
      exact hne howner.symm
    simp [hjob, hother]
  · simp [hjob]

/-- Deleting the alerts of a key, seen in the part. -/
lemma alerts_delete (alerts : RowTable AlertRow) (jobId alertKey : String) :
    jobAlerts (deleteAlerts alerts alertKey) jobId
      = (jobAlerts alerts jobId).filter fun a => a.alertKey ≠ alertKey := by
  rw [jobAlerts, deleteAlerts, RowTable.deleteWhere, List.filter_filter, jobAlerts,
    List.filter_filter]
  refine List.filter_congr fun a _ => ?_
  by_cases hkey : a.alertKey = alertKey <;> simp [hkey]

/-- **A recorded success of another job** leaves the part alone. -/
lemma part_recorded_of_ne (hs : Separated db) (hne : other ≠ jobId)
    (plan : NotificationPlan) (ts : List OpportunityTransition)
    (hrows : encodeObservations db.checkRuns.nextId 0 result.opportunities = .ok rows) :
    (recorded db other result plan ts rows).part jobId = db.part jobId := by
  have hruns := jobRuns_recorded db jobId other result plan ts rows
  have hobservations := observations_recorded hs.consistent jobId other plan ts hrows
  have htransitions := transitions_recorded hs.consistent jobId other result plan ts rows
  have houtbox := outbox_recorded db jobId other result plan ts rows
  simp only [if_neg hne, List.append_nil] at hruns hobservations htransitions houtbox
  exact JobPart.ext hruns hobservations htransitions houtbox
    (lookup_statusAfterSuccess_of_ne db.jobStatus result.checkedAt hne.symm)
    (alerts_delete_of_ne hs.alerts_owned hne (Or.inl rfl))

/-- **A recorded success of the job**, seen in the part. -/
lemma part_recorded_self (hs : Separated db) (jobId : String) (plan : NotificationPlan)
    (ts : List OpportunityTransition)
    (hrows : encodeObservations db.checkRuns.nextId 0 result.opportunities = .ok rows) :
    (recorded db jobId result plan ts rows).part jobId
      = (db.part jobId).recorded db.bases jobId result plan ts rows := by
  have hruns := jobRuns_recorded db jobId jobId result plan ts rows
  have hobservations := observations_recorded hs.consistent jobId jobId plan ts hrows
  have htransitions := transitions_recorded hs.consistent jobId jobId result plan ts rows
  have houtbox := outbox_recorded db jobId jobId result plan ts rows
  simp only [if_true] at hruns hobservations htransitions houtbox
  exact JobPart.ext hruns hobservations htransitions houtbox
    (lookup_statusAfterSuccess db.jobStatus jobId result.checkedAt)
    (alerts_delete db.alerts jobId _)

end Recorded

/-! ## Separation is kept -/

lemma mem_transitionIds_recorded {db : Database} {jobId other : String} {result : CheckResult}
    {plan : NotificationPlan} {ts : List OpportunityTransition} {rows : List Observation}
    (hc : Consistent db) {id : ℕ} :
    id ∈ ((recorded db other result plan ts rows).part jobId).transitionIds ↔
      id ∈ (db.part jobId).transitionIds ∨ other = jobId ∧ db.transitions.nextId ≤ id ∧
        id < db.transitions.nextId + ts.length := by
  have hnew : ((ts.zipIdx db.transitions.nextId).map fun q =>
      transitionRow db.checkRuns.nextId q.1 q.2).map TransitionRow.id
        = List.range' db.transitions.nextId ts.length := by
    rw [List.map_map]
    exact List.zipIdx_map_snd db.transitions.nextId ts
  rw [JobPart.transitionIds, transitions_recorded hc, List.map_append, List.mem_append]
  refine or_congr Iff.rfl ?_
  split_ifs with h
  · rw [hnew, List.mem_range'_1]
    simp [h]
  · simp [h]

lemma separated_recorded {db : Database} (hs : Separated db) {jobId : String}
    {result : CheckResult} {plan : NotificationPlan} {ts : List OpportunityTransition}
    {rows : List Observation}
    (hrows : encodeObservations db.checkRuns.nextId 0 result.opportunities = .ok rows) :
    Separated (recorded db jobId result plan ts rows) where
  consistent := consistent_recorded hs.consistent hrows
  outbox_owned n hn := by
    rw [mem_transitionIds_recorded hs.consistent]
    simp only [recorded, RowTable.rows_insertAll, List.mem_append] at hn
    rcases hn with hn | hn
    · exact Or.inl (hs.outbox_owned n hn)
    · obtain ⟨⟨e, i⟩, he, rfl⟩ := List.mem_map.mp hn
      exact Or.inr ⟨rfl, outboxEntries_mem (List.fst_mem_of_mem_zipIdx he)⟩
  alerts_owned := hs.alerts_owned.deleteAlerts _
  quiet other hoff := by
    rw [recorded, (backlogSide_success _ _ _ _).1] at hoff
    have hne : checkFailureKey jobId ≠ deliveryBacklogKey other :=
      checkFailureKey_ne_deliveryBacklogKey jobId other
    rw [recorded, alertChannels_deleteAlerts_of_ne _ hne]
    exact hs.quiet other hoff

/-- A run that a retention pass keeps keeps its job. -/
lemma ofJob_prune (db : Database) (observationsBefore notificationsBefore : Datetime)
    (jobId : String) (runId : ℕ) :
    ofJob (prune db observationsBefore notificationsBefore).2 jobId runId
      = (ofJob db jobId runId && decide (runId ∉ expiredRunIds db observationsBefore)) := by
  rw [Bool.eq_iff_iff, Bool.and_eq_true, ofJob_iff, ofJob_iff, decide_eq_true_eq, prune_snd]
  constructor
  · rintro ⟨r, hr, hjob, rfl⟩
    obtain ⟨hr, hkeep⟩ := RowTable.mem_deleteWhere.mp hr
    refine ⟨⟨r, hr, hjob, rfl⟩, fun hexp => ?_⟩
    obtain ⟨r', hr', hid⟩ := List.mem_map.mp hexp
    rw [List.mem_filter] at hr'
    rw [RowTable.eq_of_rowId_eq hr hr'.1 hid.symm, hr'.2] at hkeep
    exact absurd hkeep (by simp)
  · rintro ⟨⟨r, hr, hjob, rfl⟩, hkeep⟩
    refine ⟨r, RowTable.mem_deleteWhere.mpr ⟨hr, ?_⟩, hjob, rfl⟩
    rw [Bool.eq_false_iff]
    exact fun hexp => hkeep (List.mem_map_of_mem (List.mem_filter.mpr ⟨hr, hexp⟩))

/-- The transitions of a job that a retention pass keeps. -/
lemma mem_transitionIds_prune {db : Database} {observationsBefore notificationsBefore : Datetime}
    {jobId : String} {id : ℕ} :
    id ∈ ((prune db observationsBefore notificationsBefore).2.part jobId).transitionIds ↔
      id ∈ (db.part jobId).transitionIds ∧ id ∉ expiredTransitionIds db observationsBefore := by
  have hrows : (prune db observationsBefore notificationsBefore).2.transitions.rows
      = db.transitions.rows.filter fun t =>
          !decide (t.runId ∈ expiredRunIds db observationsBefore) := by
    rw [prune_snd]
    rfl
  simp only [mem_transitionIds, ofJob_prune, hrows, List.mem_filter, Bool.and_eq_true,
    Bool.not_eq_true', decide_eq_false_iff_not, decide_eq_true_eq]
  constructor
  · rintro ⟨t, ⟨ht, hkeep⟩, ⟨hjob, _⟩, rfl⟩
    refine ⟨⟨t, ht, hjob, rfl⟩, fun hexp => ?_⟩
    obtain ⟨t', ht', hid⟩ := List.mem_map.mp hexp
    rw [List.mem_filter, decide_eq_true_eq] at ht'
    exact hkeep (RowTable.eq_of_rowId_eq ht ht'.1 hid.symm ▸ ht'.2)
  · rintro ⟨⟨t, ht, hjob, rfl⟩, hkeep⟩
    have hrun : t.runId ∉ expiredRunIds db observationsBefore := fun hexp =>
      hkeep (List.mem_map_of_mem (List.mem_filter.mpr ⟨ht, decide_eq_true hexp⟩))
    exact ⟨t, ⟨ht, hrun⟩, ⟨hjob, hrun⟩, rfl⟩

lemma separated_prune {db : Database} (hs : Separated db)
    (observationsBefore notificationsBefore : Datetime) :
    Separated (prune db observationsBefore notificationsBefore).2 where
  consistent := consistent_prune hs.consistent _ _
  outbox_owned n hn := by
    rw [prune_snd] at hn
    obtain ⟨hn, hkeep⟩ := RowTable.mem_deleteWhere.mp hn
    rw [Bool.or_eq_false_iff, decide_eq_false_iff_not] at hkeep
    exact mem_transitionIds_prune.mpr ⟨hs.outbox_owned n hn, hkeep.2⟩
  alerts_owned := by
    rw [prune_snd]
    exact hs.alerts_owned
  quiet jobId hoff := by
    rw [prune_snd] at hoff ⊢
    exact hs.quiet jobId hoff

/-- After an evaluation, too, a flag that is off means that there is no alert. -/
lemma quiet_evaluated {db : Database} (hs : Separated db) (alertAfter : ℤ)
    (channels : List String) (now : String → Datetime) {jobId : String}
    (hoff : deliveryAlertActive
      (evaluatedStatus alertAfter (backlogRows db) db.jobStatus) jobId = false) :
    alertChannels (allEvaluatedAlerts alertAfter channels now (backlogRows db) db.alerts)
      (deliveryBacklogKey jobId) = [] := by
  have hquiet := hs.quiet jobId
  rw [deliveryAlertActive, lookup_evaluatedStatus_job] at hoff
  rw [deliveryAlertActive] at hquiet
  rw [alertChannels_evaluated_job]
  cases hlookup : db.jobStatus.lookup jobId with
  | none => exact hquiet (by rw [hlookup, Option.elim_none])
  | some s =>
      simp only [hlookup, Option.map_some, Option.elim_some] at hoff hquiet ⊢
      cases hflag : s.deliveryAlertActive with
      | false => simp [hoff, hquiet hflag]
      | true => simp [hoff]

/-- **Every operation keeps the parts apart.** -/
lemma OpEffect.separated {db db' : Database} {op : StoreOp} {result : StoreResult}
    (h : OpEffect db op result db') (hs : Separated db) : Separated db' := by
  have hc := h.consistent hs.consistent
  cases h with
  | failed => exact hs
  | recorded _ hrows => exact separated_recorded hs hrows
  | @alerted jobId error failedAt now alertAfter channels =>
      refine ⟨hc, hs.outbox_owned, ?_, fun other hoff => ?_⟩
      · exact hs.alerts_owned.insertAll _ _ _ _ (Or.inl rfl)
      · rw [(backlogSide_setFailureAlert _ _ _).1, (backlogSide_failure _ _ _ _ _).1] at hoff
        rw [raisedAlerts, alertChannels_insertAll,
          if_neg (checkFailureKey_ne_deliveryBacklogKey jobId other), List.append_nil]
        exact hs.quiet other hoff
  | counted =>
      refine ⟨hc, hs.outbox_owned, hs.alerts_owned, fun other hoff => ?_⟩
      rw [(backlogSide_failure _ _ _ _ _).1] at hoff
      exact hs.quiet other hoff
  | evaluated =>
      exact ⟨hc, hs.outbox_owned, hs.alerts_owned.allEvaluated _ _ _ _,
        fun other hoff => quiet_evaluated hs _ _ _ hoff⟩
  | @delivered id time =>
      refine ⟨hc, ?_, hs.alerts_owned, hs.quiet⟩
      refine RowTable.forall_mem_updateWhere (h := rowId_deliveredRow time) fun n hn => ?_
      split_ifs <;> exact hs.outbox_owned n hn
  | @attempted id time error =>
      refine ⟨hc, ?_, hs.alerts_owned, hs.quiet⟩
      refine RowTable.forall_mem_updateWhere (h := rowId_failedRow time error) fun n hn => ?_
      split_ifs <;> exact hs.outbox_owned n hn
  | alertDelivered =>
      refine ⟨hc, hs.outbox_owned, hs.alerts_owned.attempted _ _ _, fun other hoff => ?_⟩
      rw [alertChannels_attempted]
      exact hs.quiet other hoff
  | alertAttempted =>
      refine ⟨hc, hs.outbox_owned, hs.alerts_owned.attempted _ _ _, fun other hoff => ?_⟩
      rw [alertChannels_attempted]
      exact hs.quiet other hoff
  | pruned => exact separated_prune hs _ _

lemma separated_empty : Separated .empty :=
  ⟨consistent_empty, by simp [Database.empty], by simp [AlertsOwned, Database.empty],
    fun _ _ => rfl⟩

lemma separated_apply {db : Database} (hs : Separated db) (op : StoreOp) :
    Separated (applyOp db op).2 :=
  (applyOp_effect hs.consistent op).separated hs

/-! ## Operations of other jobs -/

/-- The operations that look at the rows of all jobs. -/
def StoreOp.isGlobal : StoreOp → Bool
  | .raiseDeliveryBacklogAlerts _ _ _ => true
  | .prune _ _ => true
  | _ => false

/-- The operation is made for the job, or on one of its rows. -/
def StoreOp.isOf (jobId : String) (db : Database) : StoreOp → Bool
  | .recordSuccess j _ _ => j == jobId
  | .recordCheckFailure j _ _ _ _ _ => j == jobId
  | .markNotificationDelivered id _ => decide (id ∈ (db.part jobId).outboxIds)
  | .recordNotificationFailure id _ _ => decide (id ∈ (db.part jobId).outboxIds)
  | .markOperationalAlertDelivered id _ => decide (id ∈ (db.part jobId).alertIds)
  | .recordOperationalAlertFailure id _ _ => decide (id ∈ (db.part jobId).alertIds)
  | .raiseDeliveryBacklogAlerts _ _ _ => false
  | .prune _ _ => false

/-- A selection that an update keeps in place. -/
lemma filter_map_update {α : Type} {rows : List α} {sel p : α → Bool} {g : α → α}
    (hsel : ∀ n, sel (g n) = sel n) :
    (rows.map fun n => if p n then g n else n).filter sel
      = (rows.filter sel).map fun n => if p n then g n else n := by
  rw [List.filter_map]
  refine congrArg _ (List.filter_congr fun n _ => ?_)
  simp only [Function.comp_apply]
  split
  · exact hsel n
  · rfl

/-- An update of rows that are not there. -/
lemma map_update_of_none {α : Type} {rows : List α} {p : α → Bool} {g : α → α}
    (h : ∀ n ∈ rows, p n = false) : (rows.map fun n => if p n then g n else n) = rows := by
  refine (List.map_congr_left fun n hn => ?_).trans (List.map_id rows)
  simp [h n hn]

/-- An update of a job's outbox rows, seen in the part. -/
lemma outbox_update (db : Database) (jobId : String) (id : ℕ) {g : OutboxRow → OutboxRow}
    (hg : ∀ n, rowId (g n) = rowId n) (hjob : ∀ n, (g n).jobId = n.jobId) :
    (db.outbox.updateWhere (isPendingId id) g hg).rows.filter (fun n => n.jobId == jobId)
      = (db.part jobId).outbox.map fun n => if isPendingId id n then g n else n :=
  filter_map_update fun n => by rw [hjob]

lemma jobId_attemptedAlert (time : Datetime) (error : Option String) (a : AlertRow) :
    (attemptedAlert time error a).jobId = a.jobId := by
  cases error <;> rfl

/-- An update of a job's alerts, seen in the part. -/
lemma alerts_update (db : Database) (jobId : String) (id : ℕ) (time : Datetime)
    (error : Option String) :
    jobAlerts (db.alerts.updateWhere (isPendingAlertId id) (attemptedAlert time error)
        (rowId_attemptedAlert time error)) jobId
      = (db.part jobId).alerts.map fun a =>
          if isPendingAlertId id a then attemptedAlert time error a else a :=
  filter_map_update fun a => by rw [jobId_attemptedAlert]

lemma isPendingId_of_notMem {db : Database} {jobId : String} {id : ℕ}
    (h : id ∉ (db.part jobId).outboxIds) :
    ∀ n ∈ (db.part jobId).outbox, isPendingId id n = false := by
  intro n hn
  have hne : n.id ≠ id := fun hid => h (List.mem_map.mpr ⟨n, hn, hid⟩)
  simp [isPendingId, hne]

lemma isPendingAlertId_of_notMem {db : Database} {jobId : String} {id : ℕ}
    (h : id ∉ (db.part jobId).alertIds) :
    ∀ a ∈ (db.part jobId).alerts, isPendingAlertId id a = false := by
  intro a ha
  have hne : a.id ≠ id := fun hid => h (List.mem_map.mpr ⟨a, ha, hid⟩)
  simp [isPendingAlertId, hne]

/-- **Enqueuing alerts**, seen in a part. -/
lemma alerts_enqueued (alerts : RowTable AlertRow) (jobId other alertKey title detail : String)
    (createdAt : Datetime) (channels : List String) :
    jobAlerts (alerts.insertAll channels (alertRow alertKey other title detail createdAt)
        (rowId_newAlert alertKey other title detail createdAt)) jobId
      = jobAlerts alerts jobId ++ if other = jobId then
          (channels.zipIdx alerts.nextId).map fun q =>
            alertRow alertKey other title detail createdAt q.1 q.2
        else [] := by
  rw [jobAlerts, jobAlerts, RowTable.rows_insertAll, List.filter_append]
  refine congrArg _ (filter_eq_ite fun a ha => ?_)
  obtain ⟨q, _, rfl⟩ := List.mem_map.mp ha
  simp [alertRow, beq_eq_decide]

/-- **The operations of other jobs leave a part alone.** -/
lemma OpEffect.part_of_other {db db' : Database} {op : StoreOp} {result : StoreResult}
    (h : OpEffect db op result db') (hs : Separated db) {jobId : String}
    (hof : op.isOf jobId db = false) (hglobal : op.isGlobal = false) :
    db'.part jobId = db.part jobId := by
  cases h with
  | failed => rfl
  | @recorded j result plan _ _ _ hrows =>
      exact part_recorded_of_ne hs (by simpa [StoreOp.isOf] using hof) plan _ hrows
  | @alerted j error failedAt now alertAfter channels =>
      have hne : j ≠ jobId := by simpa [StoreOp.isOf] using hof
      refine JobPart.ext rfl rfl rfl rfl ?_ ?_
      · exact lookup_alerted_of_ne db.jobStatus error _ hne.symm
      · refine (alerts_enqueued _ _ _ _ _ _ _ _).trans ?_
        rw [if_neg hne, List.append_nil]
        rfl
  | @counted j error failedAt now =>
      have hne : j ≠ jobId := by simpa [StoreOp.isOf] using hof
      exact JobPart.ext rfl rfl rfl rfl
        (lookup_statusAfterFailure_of_ne db.jobStatus error _ hne.symm) rfl
  | evaluated => simp [StoreOp.isGlobal] at hglobal
  | @delivered id time =>
      have hid : id ∉ (db.part jobId).outboxIds := by simpa [StoreOp.isOf] using hof
      refine JobPart.ext rfl rfl rfl ?_ rfl rfl
      exact (outbox_update db jobId id (rowId_deliveredRow time) fun _ => rfl).trans
        (map_update_of_none (isPendingId_of_notMem hid))
  | @attempted id time error =>
      have hid : id ∉ (db.part jobId).outboxIds := by simpa [StoreOp.isOf] using hof
      refine JobPart.ext rfl rfl rfl ?_ rfl rfl
      exact (outbox_update db jobId id (rowId_failedRow time error) fun _ => rfl).trans
        (map_update_of_none (isPendingId_of_notMem hid))
  | @alertDelivered id time =>
      have hid : id ∉ (db.part jobId).alertIds := by simpa [StoreOp.isOf] using hof
      refine JobPart.ext rfl rfl rfl rfl rfl ?_
      exact (alerts_update db jobId id time none).trans
        (map_update_of_none (isPendingAlertId_of_notMem hid))
  | @alertAttempted id time error =>
      have hid : id ∉ (db.part jobId).alertIds := by simpa [StoreOp.isOf] using hof
      refine JobPart.ext rfl rfl rfl rfl rfl ?_
      exact (alerts_update db jobId id time (some error)).trans
        (map_update_of_none (isPendingAlertId_of_notMem hid))
  | pruned => simp [StoreOp.isGlobal] at hglobal

end WebChecker
