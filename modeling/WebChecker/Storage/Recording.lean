import WebChecker.Library.Results
import WebChecker.Storage.Operations

/-!
# What recording a success does

`Consistent` is what foreign keys guarantee: every observation and transition belongs to a run
that is there, every outbox row to a transition that is there, and the times the store reads back
are readable.  In a consistent database the keys of new rows are free of old rows, so no `INSERT`
of `record_success` can violate a constraint (`recordSuccessBody_eq`): it fails only if the
latest snapshot cannot be decoded or an attribute cannot be written, and otherwise leaves the
database `recorded` describes.
-/

namespace WebChecker

open Relational Results

/-- Text that `fromisoformat` reads because `isoformat` wrote it. -/
def Readable (s : String) : Prop := ∃ d : Datetime, d.isoformat = s

lemma readable_isoformat (d : Datetime) : Readable d.isoformat := ⟨d, rfl⟩

/-- Referential integrity, and readable times in the two outboxes. -/
structure Consistent (db : Database) : Prop where
  observation_run : ∀ o ∈ db.observations, o.runId ∈ db.checkRuns.ids
  transition_run : ∀ t ∈ db.transitions.rows, t.runId ∈ db.checkRuns.ids
  outbox_transition : ∀ n ∈ db.outbox.rows, n.transitionId ∈ db.transitions.ids
  outbox_readable : ∀ n ∈ db.outbox.rows, Readable n.checkedAt
  alert_readable : ∀ a ∈ db.alerts.rows, Readable a.createdAt

lemma consistent_empty : Consistent Database.empty := by
  constructor <;> simp [Database.empty]

/-! ## Observations -/

/-- The rows a snapshot's opportunities are written as. -/
def encodeObservations (runId : ℕ) : ℕ → List Opportunity → Except PyError (List Observation)
  | _, [] => .ok []
  | position, o :: os => do
    let row ← encodeObservation runId position o
    let rows ← encodeObservations runId (position + 1) os
    return row :: rows

lemma encodeObservations_cons_eq_ok {runId position : ℕ} {o : Opportunity} {os : List Opportunity}
    {rows : List Observation} :
    encodeObservations runId position (o :: os) = .ok rows ↔
      ∃ row, encodeObservation runId position o = .ok row ∧
        ∃ rest, encodeObservations runId (position + 1) os = .ok rest ∧ row :: rest = rows := by
  simp only [encodeObservations, bind_eq_ok, pure_eq_ok, Except.ok.injEq]

lemma encodeObservation_eq_ok {runId position : ℕ} {o : Opportunity} {row : Observation} :
    encodeObservation runId position o = .ok row ↔
      ∃ json, dumpsAttributes o.attributes = .ok json ∧
        row = ⟨runId, position, o.id, o.title, o.availability, o.startsAt.map Datetime.isoformat,
          o.bookingUrl, json⟩ := by
  simp only [encodeObservation, bind_eq_ok, pure_eq_ok, Except.ok.injEq]
  exact exists_congr fun json => and_congr_right fun _ => eq_comm

/-- The run's id appears in the rows of a snapshot and decides nothing. -/
lemma encodeObservations_runId (runId runId' : ℕ) (os : List Opportunity) (position : ℕ) :
    encodeObservations runId' position os = (encodeObservations runId position os).map
      fun rows => rows.map fun o => { o with runId := runId' } := by
  induction os generalizing position with
  | nil => rfl
  | cons o os ih =>
      rw [encodeObservations, encodeObservations, ih, encodeObservation, encodeObservation]
      cases dumpsAttributes o.attributes with
      | error e => rfl
      | ok json => cases encodeObservations runId (position + 1) os <;> rfl

/-- What every written observation has in common. -/
lemma encodeObservations_mem {runId : ℕ} {os : List Opportunity} {position : ℕ}
    {rows : List Observation} (h : encodeObservations runId position os = .ok rows) :
    ∀ row ∈ rows, row.runId = runId ∧ position ≤ row.position := by
  induction os generalizing position rows with
  | nil =>
      rw [encodeObservations, Except.ok.injEq] at h
      simp [← h]
  | cons o os ih =>
      obtain ⟨row, hrow, rest, hrest, rfl⟩ := encodeObservations_cons_eq_ok.mp h
      obtain ⟨json, _, rfl⟩ := encodeObservation_eq_ok.mp hrow
      intro x hx
      rcases List.mem_cons.mp hx with rfl | hx
      · exact ⟨rfl, le_refl _⟩
      · have := ih hrest x hx
        exact ⟨this.1, by omega⟩

/-- **The observations of a new run violate no constraint.**  The run exists, its identifiers do
not repeat and no row of the run has been written at this position or later. -/
lemma insertObservations_eq {runId : ℕ} {os : List Opportunity} :
    ∀ {db : Database} {position : ℕ}, runId ∈ db.checkRuns.ids →
      (os.map Opportunity.id).Nodup →
      (∀ x ∈ db.observations, x.runId = runId →
        x.position < position ∧ ∀ o ∈ os, x.opportunityId ≠ o.id) →
      insertObservations db runId position os
        = (encodeObservations runId position os).map fun rows =>
            { db with observations := db.observations ++ rows } := by
  induction os with
  | nil =>
      intro db position _ _ _
      simp [insertObservations, encodeObservations]
  | cons o os ih =>
      intro db position hrun hnodup hfree
      rw [List.map_cons, List.nodup_cons] at hnodup
      rw [insertObservations, encodeObservations]
      cases henc : encodeObservation runId position o with
      | error e => rfl
      | ok row =>
          obtain ⟨json, _, rfl⟩ := encodeObservation_eq_ok.mp henc
          simp only [ok_bind]
          rw [insertObservation, if_neg, if_neg, if_neg (not_not.mpr hrun), ok_bind, ih]
          · cases encodeObservations runId (position + 1) os with
            | error e => rfl
            | ok rows => simp [List.append_assoc]
          · exact hrun
          · exact hnodup.2
          · intro x hx hxr
            rcases List.mem_append.mp hx with hx | hx
            · obtain ⟨hlt, hne⟩ := hfree x hx hxr
              exact ⟨by omega, fun o' ho' => hne o' (List.mem_cons_of_mem _ ho')⟩
            · rw [List.mem_singleton.mp hx]
              refine ⟨Nat.lt_succ_self _, fun o' ho' hid => hnodup.1 ?_⟩
              exact List.mem_map.mpr ⟨o', ho', hid.symm⟩
          · rintro ⟨x, hx, hxr, hpos⟩
            exact absurd hpos (Nat.ne_of_lt (hfree x hx hxr).1)
          · rintro ⟨x, hx, hxr, hid⟩
            exact (hfree x hx hxr).2 o List.mem_cons_self hid

/-! ## Transitions and outbox rows -/

/-- The outbox rows of one transition violate no constraint. -/
lemma insertChannels_eq {jobId : String} {checkedAt : Datetime} {transitionId : ℕ}
    {t : OpportunityTransition} {channels : List String} :
    ∀ {db : Database}, transitionId ∈ db.transitions.ids → channels.Nodup →
      (∀ n ∈ db.outbox.rows, n.transitionId = transitionId → n.channel ∉ channels) →
      insertChannels db jobId checkedAt transitionId t channels
        = .ok { db with outbox := db.outbox.insertAll channels
                          (outboxRow jobId checkedAt transitionId t)
                          (rowId_newOutbox jobId checkedAt transitionId t) } := by
  induction channels with
  | nil => intro db _ _ _; rfl
  | cons channel channels ih =>
      intro db hid hnodup hfree
      rw [List.nodup_cons] at hnodup
      have hfk : (outboxRow jobId checkedAt transitionId t channel db.outbox.nextId).transitionId
          ∈ db.transitions.ids := hid
      rw [insertChannels, insertOutbox, if_neg, if_neg (not_not.mpr hfk), ok_bind,
        ih (by exact hid) hnodup.2]
      · rfl
      · intro n hn hnt
        rcases List.mem_append.mp hn with hn | hn
        · exact fun hc => hfree n hn hnt (List.mem_cons_of_mem _ hc)
        · rw [List.mem_singleton.mp hn]
          exact hnodup.1
      · rintro ⟨n, hn, hnt, hc⟩
        exact hfree n hn hnt (hc ▸ List.mem_cons_self)

/-- The pairs of a selected transition and a channel, with the id of the transition's row, in the
order the loops visit them. -/
def outboxEntries (plan : NotificationPlan) :
    ℕ → List OpportunityTransition → List (ℕ × OpportunityTransition × String)
  | _, [] => []
  | id, t :: ts =>
    (if t.type ∈ plan.on then plan.channels.map fun c => (id, t, c) else []) ++
      outboxEntries plan (id + 1) ts

/-- The outbox row of an entry. -/
def entryRow (jobId : String) (checkedAt : Datetime) (e : ℕ × OpportunityTransition × String)
    (id : ℕ) : OutboxRow := outboxRow jobId checkedAt e.1 e.2.1 e.2.2 id

@[simp] lemma rowId_entryRow (jobId : String) (checkedAt : Datetime)
    (e : ℕ × OpportunityTransition × String) (id : ℕ) :
    rowId (entryRow jobId checkedAt e id) = id :=
  rfl

lemma insertAll_channels (outbox : RowTable OutboxRow) (jobId : String) (checkedAt : Datetime)
    (transitionId : ℕ) (t : OpportunityTransition) (channels : List String) :
    outbox.insertAll channels (outboxRow jobId checkedAt transitionId t)
        (rowId_newOutbox jobId checkedAt transitionId t)
      = outbox.insertAll (channels.map fun c => (transitionId, t, c)) (entryRow jobId checkedAt)
          (rowId_entryRow jobId checkedAt) := by
  induction channels generalizing outbox with
  | nil => rfl
  | cons c channels ih =>
      rw [List.map_cons, RowTable.insertAll_cons, RowTable.insertAll_cons, ih]
      rfl

/-- **The transitions of a new run and their outbox rows violate no constraint**, as long as every
outbox row belongs to a transition that is there: the id of a new transition is then free of
outbox rows. -/
lemma insertTransitions_eq {runId : ℕ} {jobId : String} {checkedAt : Datetime}
    {plan : NotificationPlan} {ts : List OpportunityTransition} :
    ∀ {db : Database}, runId ∈ db.checkRuns.ids →
      (∀ n ∈ db.outbox.rows, n.transitionId ∈ db.transitions.ids) →
      insertTransitions db runId jobId checkedAt plan ts
        = .ok { db with
                transitions := db.transitions.insertAll ts (transitionRow runId)
                  (rowId_newTransition runId)
                outbox := db.outbox.insertAll (outboxEntries plan db.transitions.nextId ts)
                  (entryRow jobId checkedAt) (rowId_entryRow jobId checkedAt) } := by
  induction ts with
  | nil => intro db _ _; rfl
  | cons t ts ih =>
      intro db hrun hfk
      -- the transition row, whose id no outbox row refers to yet
      have hids : ∀ i, i ∈ db.transitions.ids →
          i ∈ (db.transitions.insert (transitionRow runId t)
            (rowId_newTransition runId t)).ids := by
        intro i hi
        simp only [RowTable.ids, RowTable.rows_insert, List.map_append, List.mem_append]
        exact Or.inl hi
      have hnew : db.transitions.nextId ∈
          (db.transitions.insert (transitionRow runId t) (rowId_newTransition runId t)).ids := by
        simp [RowTable.ids, RowTable.rows_insert, transitionRow]
      rw [insertTransitions, insertTransition, if_neg (not_not.mpr (by exact hrun)), ok_bind]
      by_cases hon : t.type ∈ plan.on
      · rw [if_pos hon, insertChannels_eq hnew plan.channels_nodup, ok_bind]
        dsimp only
        rw [ih]
        · simp only [RowTable.nextId_insert, outboxEntries, if_pos hon,
            RowTable.insertAll_append, RowTable.insertAll_cons, insertAll_channels]
        · exact hrun
        · intro n hn
          dsimp only at hn
          rw [RowTable.rows_insertAll] at hn
          rcases List.mem_append.mp hn with hn | hn
          · exact hids _ (hfk n hn)
          · obtain ⟨⟨c, i⟩, _, rfl⟩ := List.mem_map.mp hn
            exact hnew
        · intro n hn hnt
          exact absurd (hnt ▸ hfk n hn) db.transitions.nextId_notMem_ids
      · rw [if_neg hon, ok_bind]
        dsimp only
        rw [ih]
        · simp only [RowTable.nextId_insert, outboxEntries, if_neg hon, List.nil_append,
            RowTable.insertAll_cons]
        · exact hrun
        · exact fun n hn => hids _ (hfk n hn)

/-! ## The operation -/

/-- The database after a recorded success. -/
def recorded (db : Database) (jobId : String) (result : CheckResult) (plan : NotificationPlan)
    (transitions : List OpportunityTransition) (rows : List Observation) : Database where
  checkRuns := db.checkRuns.insert (checkRunRow jobId result.checkedAt)
    (rowId_successRun jobId result)
  observations := db.observations ++ rows
  transitions := db.transitions.insertAll transitions (transitionRow db.checkRuns.nextId)
    (rowId_newTransition db.checkRuns.nextId)
  outbox := db.outbox.insertAll (outboxEntries plan db.transitions.nextId transitions)
    (entryRow jobId result.checkedAt) (rowId_entryRow jobId result.checkedAt)
  jobStatus := statusAfterSuccess db.jobStatus jobId result.checkedAt
  alerts := deleteAlerts db.alerts (checkFailureKey jobId)

/-- **Recording a success in a consistent database.**  No constraint is violated: the operation
fails only where decoding the latest snapshot or writing an attribute mapping does. -/
theorem recordSuccessBody_eq {db : Database} (hc : Consistent db) (jobId : String)
    (result : CheckResult) (plan : NotificationPlan) :
    recordSuccessBody db jobId result plan = do
      let previous ← latestSnapshot db jobId
      let rows ← encodeObservations db.checkRuns.nextId 0 result.opportunities
      return (⟨previous.isNone, transitionsSince previous result⟩,
        recorded db jobId result plan (transitionsSince previous result) rows) := by
  have hrun : db.checkRuns.nextId ∈
      (db.checkRuns.insert (checkRunRow jobId result.checkedAt)
        (rowId_successRun jobId result)).ids := by
    simp [RowTable.ids, RowTable.rows_insert, checkRunRow]
  rw [recordSuccessBody]
  cases latestSnapshot db jobId with
  | error e => rfl
  | ok previous =>
      simp only [ok_bind]
      rw [insertObservations_eq hrun result.ids_nodup]
      · cases encodeObservations db.checkRuns.nextId 0 result.opportunities with
        | error e => rfl
        | ok rows =>
            simp only [map_ok, ok_bind]
            rw [insertTransitions_eq (by exact hrun) (by exact hc.outbox_transition)]
            rfl
      · intro o ho hor
        exact absurd (hor ▸ hc.observation_run o ho) db.checkRuns.nextId_notMem_ids

@[simp] lemma raiseAs_eq_ok {α : Type} {context : String} {x : Except PyError α} {a : α} :
    raiseAs context x = .ok a ↔ x = .ok a := by
  cases x <;> simp [raiseAs]

/-- What a recorded success says about the database it started from. -/
lemma recordSuccess_eq_ok {db db' : Database} (hc : Consistent db) {jobId : String}
    {result : CheckResult} {plan : NotificationPlan} {outcome : RecordOutcome} :
    recordSuccess db jobId result plan = .ok (outcome, db') ↔
      ∃ previous rows, latestSnapshot db jobId = .ok previous ∧
        encodeObservations db.checkRuns.nextId 0 result.opportunities = .ok rows ∧
        outcome = ⟨previous.isNone, transitionsSince previous result⟩ ∧
        db' = recorded db jobId result plan (transitionsSince previous result) rows := by
  rw [recordSuccess, raiseAs_eq_ok, recordSuccessBody_eq hc]
  simp only [bind_eq_ok, pure_eq_ok, Except.ok.injEq, Prod.mk.injEq]
  constructor
  · rintro ⟨previous, hprev, rows, hrows, rfl, rfl⟩
    exact ⟨previous, rows, hprev, hrows, rfl, rfl⟩
  · rintro ⟨previous, rows, hprev, hrows, rfl, rfl⟩
    exact ⟨previous, hprev, rows, hrows, rfl, rfl⟩

/-- **One success in two databases** that agree on the latest snapshot of the job returns the same,
error or not.  A relation between the two is kept if writing the rows keeps it. -/
lemma recordSuccess_both {s t : Database} (hs : Consistent s) (ht : Consistent t) {jobId : String}
    (hsnapshot : latestSnapshot t jobId = latestSnapshot s jobId) {result : CheckResult}
    {plan : NotificationPlan} {R : Database → Database → Prop} (hR : R s t)
    (hrecorded : ∀ ts rows,
      encodeObservations s.checkRuns.nextId 0 result.opportunities = .ok rows →
      encodeObservations t.checkRuns.nextId 0 result.opportunities
          = .ok (rows.map fun o => { o with runId := t.checkRuns.nextId }) →
        R (recorded s jobId result plan ts rows)
          (recorded t jobId result plan ts
            (rows.map fun o => { o with runId := t.checkRuns.nextId }))) :
    let op := StoreOp.recordSuccess jobId result plan
    (applyOp t op).1 = (applyOp s op).1 ∧ R (applyOp s op).2 (applyOp t op).2 := by
  simp only [applyOp, recordSuccess, recordSuccessBody_eq hs, recordSuccessBody_eq ht, hsnapshot]
  cases latestSnapshot s jobId with
  | error e => exact ⟨rfl, hR⟩
  | ok previous =>
      have hrun := encodeObservations_runId s.checkRuns.nextId t.checkRuns.nextId
        result.opportunities 0
      cases hrows : encodeObservations s.checkRuns.nextId 0 result.opportunities with
      | error e =>
          rw [hrows] at hrun
          rw [hrun]
          exact ⟨rfl, hR⟩
      | ok rows =>
          rw [hrows] at hrun
          rw [hrun]
          exact ⟨rfl, hrecorded _ rows hrows hrun⟩

/-! ## In any database

What a recorded success does to the two outboxes does not depend on consistency. -/

/-- The table has all old rows and some with new ids. -/
def Grows (outbox outbox' : RowTable OutboxRow) : Prop :=
  ∃ added, outbox'.rows = outbox.rows ++ added ∧ ∀ n ∈ added, n.id ∉ outbox.ids

lemma Grows.refl (outbox : RowTable OutboxRow) : Grows outbox outbox := ⟨[], by simp, by simp⟩

lemma Grows.trans {a b c : RowTable OutboxRow} (hab : Grows a b) (hbc : Grows b c) : Grows a c := by
  obtain ⟨new, hrows, hids⟩ := hab
  obtain ⟨new', hrows', hids'⟩ := hbc
  refine ⟨new ++ new', by simp [hrows, hrows'], fun n hn hid => ?_⟩
  rcases List.mem_append.mp hn with hn | hn
  · exact hids n hn hid
  · refine hids' n hn ?_
    simp only [RowTable.ids, hrows, List.map_append, List.mem_append]
    exact Or.inl hid

lemma insertOutbox_grows {db db' : Database} {mk : ℕ → OutboxRow} {hmk : ∀ n, rowId (mk n) = n}
    (h : insertOutbox db mk hmk = .ok db') :
    Grows db.outbox db'.outbox ∧ db'.alerts = db.alerts := by
  rw [insertOutbox] at h
  split_ifs at h
  cases h
  refine ⟨⟨_, RowTable.rows_insert db.outbox mk hmk, ?_⟩, rfl⟩
  intro n hn
  have hid : n.id = db.outbox.nextId := by
    rw [List.mem_singleton.mp hn]
    exact hmk _
  rw [hid]
  exact db.outbox.nextId_notMem_ids

lemma insertChannels_grows {jobId : String} {checkedAt : Datetime} {transitionId : ℕ}
    {t : OpportunityTransition} {channels : List String} :
    ∀ {db db' : Database}, insertChannels db jobId checkedAt transitionId t channels = .ok db' →
      Grows db.outbox db'.outbox ∧ db'.alerts = db.alerts := by
  induction channels with
  | nil =>
      intro db db' h
      cases h
      exact ⟨.refl _, rfl⟩
  | cons channel channels ih =>
      intro db db' h
      rw [insertChannels] at h
      obtain ⟨db₁, h₁, h⟩ := bind_eq_ok.mp h
      obtain ⟨hgrows₁, halerts₁⟩ := insertOutbox_grows h₁
      obtain ⟨hgrows, halerts⟩ := ih h
      exact ⟨hgrows₁.trans hgrows, halerts.trans halerts₁⟩

lemma insertTransitions_grows {runId : ℕ} {jobId : String} {checkedAt : Datetime}
    {plan : NotificationPlan} {ts : List OpportunityTransition} :
    ∀ {db db' : Database}, insertTransitions db runId jobId checkedAt plan ts = .ok db' →
      Grows db.outbox db'.outbox ∧ db'.alerts = db.alerts := by
  induction ts with
  | nil =>
      intro db db' h
      cases h
      exact ⟨.refl _, rfl⟩
  | cons t ts ih =>
      intro db db' h
      rw [insertTransitions] at h
      obtain ⟨db₁, h₁, h⟩ := bind_eq_ok.mp h
      have hsame : db₁.outbox = db.outbox ∧ db₁.alerts = db.alerts := by
        rw [insertTransition] at h₁
        split_ifs at h₁
        cases h₁
        exact ⟨rfl, rfl⟩
      by_cases hon : t.type ∈ plan.on
      · rw [if_pos hon] at h
        obtain ⟨db₂, h₂, h⟩ := bind_eq_ok.mp h
        obtain ⟨hchannels, halerts₂⟩ := insertChannels_grows h₂
        obtain ⟨hgrows, halerts⟩ := ih h
        refine ⟨?_, by rw [halerts, halerts₂, hsame.2]⟩
        rw [← hsame.1]
        exact hchannels.trans hgrows
      · rw [if_neg hon] at h
        obtain ⟨hgrows, halerts⟩ := ih h
        exact ⟨hsame.1 ▸ hgrows, halerts.trans hsame.2⟩

lemma insertObservations_outboxes {runId : ℕ} {os : List Opportunity} :
    ∀ {db db' : Database} {position : ℕ}, insertObservations db runId position os = .ok db' →
      db'.outbox = db.outbox ∧ db'.alerts = db.alerts := by
  induction os with
  | nil =>
      intro db db' position h
      cases h
      exact ⟨rfl, rfl⟩
  | cons o os ih =>
      intro db db' position h
      simp only [insertObservations, bind_eq_ok] at h
      obtain ⟨row, _, db₁, h₁, h⟩ := h
      rw [insertObservation] at h₁
      split_ifs at h₁
      cases h₁
      obtain ⟨houtbox, halerts⟩ := ih h
      exact ⟨houtbox, halerts⟩

/-- **A recorded success and the outboxes**: rows with new ids are added to the one, and the alerts
of the job's failures are deleted from the other. -/
lemma recordSuccess_outboxes {db db' : Database} {jobId : String} {result : CheckResult}
    {plan : NotificationPlan} {outcome : RecordOutcome}
    (h : recordSuccess db jobId result plan = .ok (outcome, db')) :
    Grows db.outbox db'.outbox ∧ db'.alerts = deleteAlerts db.alerts (checkFailureKey jobId) := by
  simp only [recordSuccess, raiseAs_eq_ok, recordSuccessBody, bind_eq_ok, pure_eq_ok,
    Except.ok.injEq, Prod.mk.injEq] at h
  obtain ⟨previous, _, db₁, h₁, db₂, h₂, _, rfl⟩ := h
  obtain ⟨houtbox, halerts⟩ := insertObservations_outboxes h₁
  obtain ⟨hgrows, halerts'⟩ := insertTransitions_grows h₂
  exact ⟨houtbox ▸ hgrows, halerts'.trans halerts⟩

end WebChecker
