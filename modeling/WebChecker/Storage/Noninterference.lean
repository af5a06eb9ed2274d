import WebChecker.Storage.Renaming

/-!
# Jobs share the store

A run of operations of any number of jobs, beside the run that keeps those of one job and the
global ones.  Row ids differ between the two, so a call on a row of the job is made under the id
that this row has in the shorter run (`StoreOp.translate`).

`Isolated` ties the two databases together: they agree on the job up to a renaming of row ids, and
the second knows no other job.  Every operation keeps that, with one exception.  An evaluation of
the delivery backlogs is one transaction over all jobs, and it fails if some job newly has a
backlog and the channels repeat a name.  What it should have cleared for the job then stays, and
in the shorter run it does not.

`jobs_isolated_iff` says that this is the only way for jobs to interfere: a run, and every
beginning of it, leaves the job what the shorter run leaves it exactly if no evaluation of the run
is of this kind (`StoreOp.Spares`).
-/

namespace WebChecker

open Relational Results Runs

/-! ## The shorter run -/

/-- The operations of the job, and the global ones. -/
def concerns (jobId : String) (db : Database) (op : StoreOp) : Bool :=
  op.isOf jobId db || op.isGlobal

/-- What is in the place of `id` in another list. -/
def idAt (ids ids' : List ℕ) (id : ℕ) : ℕ := ids'.getD (ids.idxOf id) 0

/-- The operation as it is made in `t`: on the row of the job that is in the same place. -/
def StoreOp.translate (jobId : String) (s t : Database) : StoreOp → StoreOp
  | .markNotificationDelivered id time =>
    .markNotificationDelivered (idAt (s.part jobId).outboxIds (t.part jobId).outboxIds id) time
  | .recordNotificationFailure id time error =>
    .recordNotificationFailure (idAt (s.part jobId).outboxIds (t.part jobId).outboxIds id) time
      error
  | .markOperationalAlertDelivered id time =>
    .markOperationalAlertDelivered (idAt (s.part jobId).alertIds (t.part jobId).alertIds id) time
  | .recordOperationalAlertFailure id time error =>
    .recordOperationalAlertFailure (idAt (s.part jobId).alertIds (t.part jobId).alertIds id) time
      error
  | op => op

/-- What a call on a row raises if the row is not undelivered; the text names the row. -/
def StoreOp.notFound : StoreOp → Option StorageError
  | .markNotificationDelivered id _ => some ⟨s!"pending notification {id} was not found"⟩
  | .recordNotificationFailure id _ _ => some ⟨s!"pending notification {id} was not found"⟩
  | .markOperationalAlertDelivered id _ =>
    some ⟨s!"pending operational alert {id} was not found"⟩
  | .recordOperationalAlertFailure id _ _ =>
    some ⟨s!"pending operational alert {id} was not found"⟩
  | _ => none

/-- The operations returned the same, up to the row an error names. -/
def SameResult (e e' : StoreEvent) : Prop :=
  e'.result = e.result ∨ ∃ error ∈ e.op.notFound, ∃ error' ∈ e'.op.notFound,
    e.result = .failed error ∧ e'.result = .failed error'

/-- The operation of the shorter run is the same one, and what it returned to the job is too. -/
def AgreesOn (jobId : String) (e e' : StoreEvent) : Prop :=
  e'.op = e.op.translate jobId e.before e'.before ∧
    (e.op.isOf jobId e.before = true → SameResult e e')

/-- The two databases have the same of the job, and `get_latest` returns the same for it. -/
def AgreesAfter (jobId : String) (s t : Database) : Prop :=
  SamePart jobId s t ∧ getLatest t jobId = getLatest s jobId

/-- The run leaves the job what the run of its own operations and the global ones leaves it. -/
def IsolatedRun (jobId : String) (ops : List StoreOp) : Prop :=
  Store.Restricts (concerns jobId) (StoreOp.translate jobId) (AgreesAfter jobId) (AgreesOn jobId)
    .empty .empty ops

/-- The operation is no evaluation that fails over other jobs when it has alerts of the job to
delete. -/
def StoreOp.Spares (jobId : String) (db : Database) : StoreOp → Prop
  | .raiseDeliveryBacklogAlerts alertAfter channels _ =>
    channels.Nodup ∨ (∀ other, other ≠ jobId → ¬ RaisesBacklog db alertAfter other) ∨
      ¬ ClearsBacklog db alertAfter jobId
  | _ => True

lemma idAt_map {ids : List ℕ} (f : ℕ → ℕ) {id : ℕ} (h : id ∈ ids) :
    idAt ids (ids.map f) id = f id := by
  rw [idAt, List.getD_eq_getElem?_getD, List.getElem?_map, List.getElem?_idxOf h]
  rfl

/-! ## What the two databases have in common -/

/-- **The databases agree on the job**, and the second knows no other one. -/
structure Isolated (jobId : String) (s t : Database) : Prop where
  left : Separated s
  right : Separated t
  alone : ∀ other, other ≠ jobId → t.jobStatus.lookup other = none
  snapshot : latestSnapshot t jobId = latestSnapshot s jobId
  renamed : ∃ f, t.part jobId = (s.part jobId).rename f

lemma Isolated.agreesAfter {jobId : String} {s t : Database} (h : Isolated jobId s t) :
    AgreesAfter jobId s t := by
  obtain ⟨f, hf⟩ := h.renamed
  refine ⟨⟨f, increasing_of_rename hf, hf⟩, ?_⟩
  rw [getLatest, getLatest, h.snapshot]

lemma isolated_empty (jobId : String) : Isolated jobId .empty .empty where
  left := separated_empty
  right := separated_empty
  alone _ _ := rfl
  snapshot := rfl
  renamed := ⟨⟨id, id, id, id⟩, rfl⟩

/-- The job that an operation is made for. -/
def StoreOp.madeFor : StoreOp → Option String
  | .recordSuccess j _ _ => some j
  | .recordCheckFailure j _ _ _ _ _ => some j
  | _ => none

/-- A job gets a status row by an operation that is made for it. -/
lemma OpEffect.lookup_eq_none {db db' : Database} {op : StoreOp} {result : StoreResult}
    (h : OpEffect db op result db') {jobId : String} (hop : op.madeFor ≠ some jobId)
    (hnone : db.jobStatus.lookup jobId = none) : db'.jobStatus.lookup jobId = none := by
  cases h with
  | @recorded j result =>
      have hne : jobId ≠ j := by simpa [StoreOp.madeFor, eq_comm] using hop
      exact (lookup_statusAfterSuccess_of_ne db.jobStatus result.checkedAt hne).trans hnone
  | @alerted j error =>
      have hne : jobId ≠ j := by simpa [StoreOp.madeFor, eq_comm] using hop
      exact (lookup_alerted_of_ne db.jobStatus error _ hne).trans hnone
  | @counted j error =>
      have hne : jobId ≠ j := by simpa [StoreOp.madeFor, eq_comm] using hop
      exact (lookup_statusAfterFailure_of_ne db.jobStatus error _ hne).trans hnone
  | evaluated =>
      refine (lookup_evaluatedStatus_job db _ jobId).trans ?_
      rw [hnone, Option.map_none]
  | pruned => rwa [prune_snd]
  | _ => exact hnone

/-- A job's latest snapshot changes by its own recorded successes only. -/
lemma OpEffect.latestSnapshot_eq {db db' : Database} {op : StoreOp} {result : StoreResult}
    (h : OpEffect db op result db') {jobId : String}
    (hop : ∀ snapshot plan, op ≠ .recordSuccess jobId snapshot plan) :
    latestSnapshot db' jobId = latestSnapshot db jobId := by
  cases h with
  | @recorded j result plan _ _ _ hrows =>
      by_cases hj : j = jobId
      · exact absurd (by rw [hj]) (hop result plan)
      · exact latestSnapshot_recorded_of_ne hj plan _ hrows
  | pruned => exact latestSnapshot_prune db _ _ jobId
  | _ => rfl

section Steps

variable {jobId : String} {s t : Database}

/-- An operation that records no success keeps the two alike if it keeps the parts alike. -/
lemma Isolated.apply (h : Isolated jobId s t) {op op' : StoreOp}
    (hop : ∀ snapshot plan, op ≠ .recordSuccess jobId snapshot plan)
    (hop' : ∀ snapshot plan, op' ≠ .recordSuccess jobId snapshot plan)
    (hfor : ∀ other, other ≠ jobId → op'.madeFor ≠ some other)
    (hrenamed : ∃ f, (applyOp t op').2.part jobId = ((applyOp s op).2.part jobId).rename f) :
    Isolated jobId (applyOp s op).2 (applyOp t op').2 where
  left := separated_apply h.left op
  right := separated_apply h.right op'
  alone other hne :=
    (applyOp_effect h.right.consistent op').lookup_eq_none (hfor other hne) (h.alone other hne)
  snapshot := by
    rw [(applyOp_effect h.right.consistent op').latestSnapshot_eq hop',
      (applyOp_effect h.left.consistent op).latestSnapshot_eq hop, h.snapshot]
  renamed := hrenamed

/-- An operation that is made for no job does. -/
lemma Isolated.apply_of_madeFor (h : Isolated jobId s t) {op op' : StoreOp}
    (hop : op.madeFor = none) (hop' : op'.madeFor = none)
    (hrenamed : ∃ f, (applyOp t op').2.part jobId = ((applyOp s op).2.part jobId).rename f) :
    Isolated jobId (applyOp s op).2 (applyOp t op').2 := by
  refine h.apply ?_ ?_ ?_ hrenamed
  · rintro snapshot plan rfl
    simp [StoreOp.madeFor] at hop
  · rintro snapshot plan rfl
    simp [StoreOp.madeFor] at hop'
  · intro other _ hfor
    simp [hop'] at hfor

/-- **An operation of another job** is not seen. -/
lemma Isolated.hidden (h : Isolated jobId s t) {op : StoreOp} (hop : concerns jobId s op = false) :
    op.Spares jobId s ∧ Isolated jobId (applyOp s op).2 t := by
  obtain ⟨hof, hglobal⟩ := Bool.or_eq_false_iff.mp hop
  have heffect := applyOp_effect h.left.consistent op
  have hrecord : ∀ snapshot plan, op ≠ .recordSuccess jobId snapshot plan := by
    rintro snapshot plan rfl
    simp [StoreOp.isOf] at hof
  refine ⟨?_, separated_apply h.left op, h.right, h.alone, ?_, ?_⟩
  · cases op with
    | raiseDeliveryBacklogAlerts => simp [StoreOp.isGlobal] at hglobal
    | _ => trivial
  · rw [heffect.latestSnapshot_eq hrecord, h.snapshot]
  · rw [heffect.part_of_other h.left hof hglobal]
    exact h.renamed

/-! ## Recording a success -/

lemma Isolated.recorded (h : Isolated jobId s t) {result : CheckResult} (plan : NotificationPlan)
    (ts : List OpportunityTransition) {rows : List Observation}
    (hrows : encodeObservations s.checkRuns.nextId 0 result.opportunities = .ok rows)
    (hrows' : encodeObservations t.checkRuns.nextId 0 result.opportunities
      = .ok (rows.map fun o => { o with runId := t.checkRuns.nextId })) :
    Isolated jobId (recorded s jobId result plan ts rows)
      (recorded t jobId result plan ts
        (rows.map fun o => { o with runId := t.checkRuns.nextId })) where
  left := separated_recorded h.left hrows
  right := separated_recorded h.right hrows'
  alone other hne := (lookup_statusAfterSuccess_of_ne _ _ hne).trans (h.alone other hne)
  snapshot := by
    obtain ⟨a, ha, hlatest⟩ :=
      latestSnapshot_recorded_self h.left.consistent jobId result plan ts hrows
    obtain ⟨b, hb, hlatest'⟩ :=
      latestSnapshot_recorded_self h.right.consistent jobId result plan ts hrows'
    rw [hlatest, hlatest', ha.unique hb]
  renamed := by
    obtain ⟨f, hf⟩ := h.renamed
    refine ⟨f.extend s.bases t.bases, ?_⟩
    rw [part_recorded_self h.right jobId plan ts hrows',
      part_recorded_self h.left jobId plan ts hrows, hf]
    exact rename_recorded (h.left.closed jobId) (s.below jobId) f result plan ts fun o ho =>
      (encodeObservations_mem hrows o ho).1

/-- **A success of the job** returns the same in both runs, error or not. -/
lemma Isolated.recordSuccess (h : Isolated jobId s t) (result : CheckResult)
    (plan : NotificationPlan) :
    let op := StoreOp.recordSuccess jobId result plan
    (applyOp t op).1 = (applyOp s op).1 ∧ Isolated jobId (applyOp s op).2 (applyOp t op).2 := by
  refine recordSuccess_both h.left.consistent h.right.consistent h.snapshot h ?_
  intro ts rows hrows hrows'
  exact h.recorded plan ts hrows hrows'

/-! ## Recording a failure -/

lemma recordCheckFailure_ok_iff {db : Database} {error : String} {failedAt : Option Datetime}
    {now : Datetime} {alertAfter : ℤ} {channels : List String} {raised : Bool} :
    (∃ db', recordCheckFailure db jobId error failedAt now alertAfter channels
        = .ok (raised, db')) ↔
      let row := failedStatus db.jobStatus jobId error (failedAt.getD now)
      (raised = true ∧ raisesAlert alertAfter row ∧ channels.Nodup ∧
        ∀ c ∈ alertChannels db.alerts (checkFailureKey jobId), c ∉ channels) ∨
      (raised = false ∧ ¬ raisesAlert alertAfter row) := by
  simp only [recordCheckFailure_eq_ok, free_iff, exists_or, ← and_assoc, exists_and_left,
    exists_eq, and_true]

/-- **A failure of the job** returns the same in both runs, error or not. -/
lemma Isolated.recordCheckFailure (h : Isolated jobId s t) (error : String)
    (failedAt : Option Datetime) (now : Datetime) (alertAfter : ℤ) (channels : List String) :
    let op := StoreOp.recordCheckFailure jobId error failedAt now alertAfter channels
    (applyOp t op).1 = (applyOp s op).1 ∧ Isolated jobId (applyOp s op).2 (applyOp t op).2 := by
  intro op
  obtain ⟨f, hf⟩ := h.renamed
  have hlookup : t.jobStatus.lookup jobId = s.jobStatus.lookup jobId := congrArg JobPart.status hf
  have hrow : failedStatus t.jobStatus jobId error (failedAt.getD now)
      = failedStatus s.jobStatus jobId error (failedAt.getD now) := by
    rw [failedStatus, failedStatus, hlookup]
  have hchannels : alertChannels t.alerts (checkFailureKey jobId)
      = alertChannels s.alerts (checkFailureKey jobId) := by
    rw [alertChannels_part h.right (Or.inl rfl), alertChannels_part h.left (Or.inl rfl), hf,
      JobPart.rename, List.filter_map, List.map_map]
    rfl
  have hok : ∀ raised, (∃ t', WebChecker.recordCheckFailure t jobId error failedAt now alertAfter
      channels = .ok (raised, t')) ↔ ∃ s', WebChecker.recordCheckFailure s jobId error failedAt now
        alertAfter channels = .ok (raised, s') := by
    intro raised
    rw [recordCheckFailure_ok_iff, recordCheckFailure_ok_iff, hrow, hchannels]
  have hstep : (applyOp t op).1 = (applyOp s op).1 ∧
      ∃ f, (applyOp t op).2.part jobId = ((applyOp s op).2.part jobId).rename f := by
    dsimp only [op, applyOp]
    cases hs : WebChecker.recordCheckFailure s jobId error failedAt now alertAfter channels with
    | error e =>
        cases ht : WebChecker.recordCheckFailure t jobId error failedAt now alertAfter channels with
        | error e' => exact ⟨congrArg StoreResult.failed (recordCheckFailure_eq_error hs ht), f, hf⟩
        | ok out =>
            obtain ⟨s', hs'⟩ := (hok out.1).mp ⟨out.2, ht⟩
            rw [hs] at hs'
            cases hs'
    | ok out =>
        obtain ⟨raised, s'⟩ := out
        obtain ⟨t', ht⟩ := (hok raised).mpr ⟨s', hs⟩
        rw [ht]
        refine ⟨rfl, f.extend s.bases t.bases, ?_⟩
        simp only [settle, part_failed hs, part_failed ht, hf, hrow]
        exact rename_failed (h.left.closed jobId) (s.below jobId) f t.bases raised error _
          channels _
  refine ⟨hstep.1, h.apply ?_ ?_ ?_ hstep.2⟩
  · simp [op]
  · simp [op]
  · simp [op, StoreOp.madeFor, eq_comm]

/-! ## Calls on rows -/

/-- Two calls that both find their row or both do not, seen from outside. -/
lemma settleUpdate_agree {f : Renaming} (hf : t.part jobId = (s.part jobId).rename f)
    {found found' : Prop} {out out' : Except StorageError Database} {p p' : JobPart}
    {e e' : StorageError}
    (hout : found ∧ (∃ s', out = .ok s' ∧ s'.part jobId = p) ∨ ¬ found ∧ out = .error e)
    (hout' : found' ∧ (∃ t', out' = .ok t' ∧ t'.part jobId = p') ∨ ¬ found' ∧ out' = .error e')
    (hfound : found' ↔ found) (hp : p' = p.rename f) :
    ((settleUpdate t out').1 = (settleUpdate s out).1 ∨
        (settleUpdate s out).1 = .failed e ∧ (settleUpdate t out').1 = .failed e') ∧
      ∃ f, (settleUpdate t out').2.part jobId = ((settleUpdate s out).2.part jobId).rename f := by
  rcases hout with ⟨hs, s', rfl, rfl⟩ | ⟨hs, rfl⟩
  · rcases hout' with ⟨_, t', rfl, rfl⟩ | ⟨ht, _⟩
    · exact ⟨Or.inl rfl, f, hp⟩
    · exact absurd (hfound.mpr hs) ht
  · rcases hout' with ⟨ht, _⟩ | ⟨_, rfl⟩
    · exact absurd (hfound.mp ht) hs
    · exact ⟨Or.inr ⟨rfl, rfl⟩, f, hf⟩

/-- **A call on an outbox row of the job** finds it in both runs or in none. -/
lemma Isolated.updateNotification (h : Isolated jobId s t) {id : ℕ}
    (hid : id ∈ (s.part jobId).outboxIds) {g : OutboxRow → OutboxRow}
    (hg : ∀ n, rowId (g n) = rowId n) (hjob : ∀ n, (g n).jobId = n.jobId)
    (hrename : ∀ f n, g (OutboxRow.rename f n) = (g n).rename f) :
    let moved := idAt (s.part jobId).outboxIds (t.part jobId).outboxIds id
    let out := updateNotification s id g hg
    let out' := updateNotification t moved g hg
    ((settleUpdate t out').1 = (settleUpdate s out).1 ∨
        (settleUpdate s out).1 = .failed ⟨s!"pending notification {id} was not found"⟩ ∧
        (settleUpdate t out').1 = .failed ⟨s!"pending notification {moved} was not found"⟩) ∧
      ∃ f, (settleUpdate t out').2.part jobId = ((settleUpdate s out).2.part jobId).rename f := by
  obtain ⟨f, hf⟩ := h.renamed
  have hinc := increasing_of_rename hf
  have hids : (t.part jobId).outboxIds = (s.part jobId).outboxIds.map f.outbox := by
    rw [hf, outboxIds_rename]
  rw [hids, idAt_map f.outbox hid]
  have hid' : f.outbox id ∈ (t.part jobId).outboxIds := hids ▸ List.mem_map_of_mem hid
  refine settleUpdate_agree hf (part_updateNotification hg hjob hid)
    (part_updateNotification hg hjob hid') ?_ ?_
  · rw [hf]
    exact exists_mem_rename (isPendingId_rename hinc hid)
  · rw [hf, rename_notificationUpdated hinc hid (hrename f)]

/-- **A call on an alert of the job** does too. -/
lemma Isolated.updateOperationalAlert (h : Isolated jobId s t) {id : ℕ}
    (hid : id ∈ (s.part jobId).alertIds) (time : Datetime) (error : Option String) :
    let moved := idAt (s.part jobId).alertIds (t.part jobId).alertIds id
    let out := updateOperationalAlert s id time error
    let out' := updateOperationalAlert t moved time error
    ((settleUpdate t out').1 = (settleUpdate s out).1 ∨
        (settleUpdate s out).1 = .failed ⟨s!"pending operational alert {id} was not found"⟩ ∧
        (settleUpdate t out').1 = .failed ⟨s!"pending operational alert {moved} was not found"⟩) ∧
      ∃ f, (settleUpdate t out').2.part jobId = ((settleUpdate s out).2.part jobId).rename f := by
  obtain ⟨f, hf⟩ := h.renamed
  have hinc := increasing_of_rename hf
  have hids : (t.part jobId).alertIds = (s.part jobId).alertIds.map f.alert := by
    rw [hf, alertIds_rename]
  rw [hids, idAt_map f.alert hid]
  have hid' : f.alert id ∈ (t.part jobId).alertIds := hids ▸ List.mem_map_of_mem hid
  refine settleUpdate_agree hf (part_updateOperationalAlert time error hid)
    (part_updateOperationalAlert time error hid') ?_ ?_
  · rw [hf]
    exact exists_mem_rename (isPendingAlertId_rename hinc hid)
  · rw [hf, rename_alertUpdated hinc hid]

/-! ## Global operations -/

/-- **A retention pass** expires the same rows of the job in both runs. -/
lemma Isolated.prune (h : Isolated jobId s t) (observationsBefore notificationsBefore : Datetime) :
    let op := StoreOp.prune observationsBefore notificationsBefore
    ∃ f, (applyOp t op).2.part jobId = ((applyOp s op).2.part jobId).rename f := by
  obtain ⟨f, hf⟩ := h.renamed
  refine ⟨f, ?_⟩
  simp only [applyOp, part_prune h.left, part_prune h.right, hf]
  exact rename_pruned (h.left.closed jobId) (increasing_of_rename hf) _ _

/-- Alone, only the job itself can newly have a backlog. -/
lemma Isolated.raises_iff (h : Isolated jobId s t) {alertAfter : ℤ} {other : String} :
    RaisesBacklog t alertAfter other ↔ other = jobId ∧ RaisesBacklog s alertAfter jobId := by
  obtain ⟨f, hf⟩ := h.renamed
  have hjob : RaisesBacklog t alertAfter jobId ↔ RaisesBacklog s alertAfter jobId := by
    rw [raisesBacklog_iff, raisesBacklog_iff, hf, raises_rename]
  constructor
  · intro hraises
    have hother : other = jobId := by
      obtain ⟨r, hr, hrj, _⟩ := hraises
      by_contra hne
      exact KeyTable.lookup_eq_none.mp (h.alone other hne) r hr hrj
    subst hother
    exact ⟨rfl, hjob.mp hraises⟩
  · rintro ⟨rfl, hraises⟩
    exact hjob.mpr hraises

/-- Two evaluations that succeed. -/
lemma Isolated.evaluated (h : Isolated jobId s t) (alertAfter : ℤ) (channels : List String)
    (now : String → Datetime) :
    ∃ f, (evaluatedDatabase t alertAfter channels now).part jobId
      = ((evaluatedDatabase s alertAfter channels now).part jobId).rename f := by
  obtain ⟨f, hf⟩ := h.renamed
  obtain ⟨n, hn, hs⟩ := part_evaluated h.left alertAfter channels now jobId
  obtain ⟨n', _, ht⟩ := part_evaluated h.right alertAfter channels now jobId
  have hold := s.below jobId
  have hbelow : (s.part jobId).Below { s.bases with alert := n } :=
    ⟨hold.run, hold.transition, hold.outbox, hn⟩
  refine ⟨f.extend { s.bases with alert := n } { t.bases with alert := n' }, ?_⟩
  rw [hs, ht, hf]
  exact rename_evaluated (h.left.closed jobId) hbelow f { t.bases with alert := n' } alertAfter
    channels now

/-- **An evaluation that spares the job** leaves it the same in both runs. -/
lemma Isolated.evaluation (h : Isolated jobId s t) {alertAfter : ℤ} {channels : List String}
    {now : String → Datetime}
    (hspares : (StoreOp.raiseDeliveryBacklogAlerts alertAfter channels now).Spares jobId s) :
    let op := StoreOp.raiseDeliveryBacklogAlerts alertAfter channels now
    ∃ f, (applyOp t op).2.part jobId = ((applyOp s op).2.part jobId).rename f := by
  intro op
  by_cases hok : channels.Nodup ∨ ∀ other, ¬ RaisesBacklog s alertAfter other
  · have hok' : channels.Nodup ∨ ∀ other, ¬ RaisesBacklog t alertAfter other :=
      hok.imp_right fun hquiet other hraises => hquiet jobId (h.raises_iff.mp hraises).2
    rw [evaluation_succeeds h.left hok, evaluation_succeeds h.right hok']
    exact h.evaluated alertAfter channels now
  · rw [not_or, not_forall_not] at hok
    obtain ⟨hnodup, other, hraises⟩ := hok
    rw [evaluation_fails hnodup hraises]
    by_cases hself : RaisesBacklog s alertAfter jobId
    · -- the job itself makes the evaluation fail, in both runs
      rw [evaluation_fails hnodup (h.raises_iff.mpr ⟨rfl, hself⟩)]
      exact h.renamed
    · -- alone the evaluation succeeds, and has nothing to do
      have hquiet : ∀ other, ¬ RaisesBacklog t alertAfter other := fun other hraises =>
        hself (h.raises_iff.mp hraises).2
      have hne : other ≠ jobId := fun heq => hself (heq ▸ hraises)
      have hclears : ¬ ClearsBacklog s alertAfter jobId :=
        (hspares.resolve_left hnodup).resolve_left fun hall => hall other hne hraises
      obtain ⟨f, hf⟩ := h.renamed
      obtain ⟨n, _, hpart⟩ := part_evaluated h.right alertAfter channels now jobId
      have hraises' : ¬ (t.part jobId).raises alertAfter := fun hr =>
        hquiet jobId (raisesBacklog_iff.mpr hr)
      have hclears' : ¬ (t.part jobId).clears alertAfter := by
        rwa [hf, clears_rename, ← clearsBacklog_iff]
      rw [evaluation_succeeds h.right (Or.inr hquiet), hpart,
        evaluated_eq_self hraises' hclears']
      exact ⟨f, hf⟩

/-- **An evaluation that does not spare the job** leaves it a flag that the shorter run clears. -/
lemma Isolated.interferes (h : Isolated jobId s t) {op : StoreOp} (hop : ¬ op.Spares jobId s) :
    ¬ SamePart jobId (applyOp s op).2 (applyOp t (op.translate jobId s t)).2 := by
  cases op with
  | raiseDeliveryBacklogAlerts alertAfter channels now =>
      simp only [StoreOp.Spares, not_or, not_forall, not_not] at hop
      obtain ⟨hnodup, ⟨other, _, hraises⟩, hclears⟩ := hop
      obtain ⟨f, hf⟩ := h.renamed
      rw [clearsBacklog_iff] at hclears
      have hquiet : ∀ other, ¬ RaisesBacklog t alertAfter other := fun other hr =>
        not_raises_of_clears hclears (raisesBacklog_iff.mp (h.raises_iff.mp hr).2)
      have hclears' : (t.part jobId).clears alertAfter := hf ▸ (clears_rename f _ _).mpr hclears
      obtain ⟨n, _, hpart⟩ := part_evaluated h.right alertAfter channels now jobId
      dsimp only [StoreOp.translate]
      rw [evaluation_fails hnodup hraises, evaluation_succeeds h.right (Or.inr hquiet)]
      rintro ⟨g, _, hsame⟩
      refine status_of_clears hclears' channels now n ?_
      rw [← hpart, hsame, hf]
      rfl
  | _ => exact absurd trivial hop

end Steps

/-! ## Whole runs -/

/-- **One operation of the job, or a global one.** -/
lemma Isolated.step {jobId : String} {s t : Database} (h : Isolated jobId s t) {op : StoreOp}
    (hop : concerns jobId s op = true) (hspares : op.Spares jobId s) :
    let op' := op.translate jobId s t
    AgreesOn jobId (Store.event s op) (Store.event t op') ∧
      Isolated jobId (applyOp s op).2 (applyOp t op').2 := by
  cases op with
  | recordSuccess j result plan =>
      obtain rfl : j = jobId := by simpa [concerns, StoreOp.isOf, StoreOp.isGlobal] using hop
      obtain ⟨hresult, hisolated⟩ := h.recordSuccess result plan
      exact ⟨⟨rfl, fun _ => Or.inl hresult⟩, hisolated⟩
  | recordCheckFailure j error failedAt now alertAfter channels =>
      obtain rfl : j = jobId := by simpa [concerns, StoreOp.isOf, StoreOp.isGlobal] using hop
      obtain ⟨hresult, hisolated⟩ :=
        h.recordCheckFailure error failedAt now alertAfter channels
      exact ⟨⟨rfl, fun _ => Or.inl hresult⟩, hisolated⟩
  | raiseDeliveryBacklogAlerts alertAfter channels now =>
      exact ⟨⟨rfl, fun hof => absurd hof Bool.false_ne_true⟩,
        h.apply_of_madeFor rfl rfl (h.evaluation hspares)⟩
  | prune observationsBefore notificationsBefore =>
      exact ⟨⟨rfl, fun hof => absurd hof Bool.false_ne_true⟩,
        h.apply_of_madeFor rfl rfl (h.prune _ _)⟩
  | markNotificationDelivered id time =>
      have hid : id ∈ (s.part jobId).outboxIds := by
        simpa [concerns, StoreOp.isOf, StoreOp.isGlobal] using hop
      obtain ⟨hresult, hrenamed⟩ :=
        h.updateNotification hid (rowId_deliveredRow time) (fun _ => rfl) fun _ _ => rfl
      refine ⟨⟨rfl, fun _ => hresult.imp_right ?_⟩, h.apply_of_madeFor rfl rfl hrenamed⟩
      exact fun hboth => ⟨_, rfl, _, rfl, hboth⟩
  | recordNotificationFailure id time error =>
      have hid : id ∈ (s.part jobId).outboxIds := by
        simpa [concerns, StoreOp.isOf, StoreOp.isGlobal] using hop
      obtain ⟨hresult, hrenamed⟩ :=
        h.updateNotification hid (rowId_failedRow time error) (fun _ => rfl) fun _ _ => rfl
      refine ⟨⟨rfl, fun _ => hresult.imp_right ?_⟩, h.apply_of_madeFor rfl rfl hrenamed⟩
      exact fun hboth => ⟨_, rfl, _, rfl, hboth⟩
  | markOperationalAlertDelivered id time =>
      have hid : id ∈ (s.part jobId).alertIds := by
        simpa [concerns, StoreOp.isOf, StoreOp.isGlobal] using hop
      obtain ⟨hresult, hrenamed⟩ := h.updateOperationalAlert hid time none
      refine ⟨⟨rfl, fun _ => hresult.imp_right ?_⟩, h.apply_of_madeFor rfl rfl hrenamed⟩
      exact fun hboth => ⟨_, rfl, _, rfl, hboth⟩
  | recordOperationalAlertFailure id time error =>
      have hid : id ∈ (s.part jobId).alertIds := by
        simpa [concerns, StoreOp.isOf, StoreOp.isGlobal] using hop
      obtain ⟨hresult, hrenamed⟩ := h.updateOperationalAlert hid time (some error)
      refine ⟨⟨rfl, fun _ => hresult.imp_right ?_⟩, h.apply_of_madeFor rfl rfl hrenamed⟩
      exact fun hboth => ⟨_, rfl, _, rfl, hboth⟩

/-- **Jobs interfere through failing evaluations only.**  Every beginning of a run leaves the job
the same results, the same latest snapshot and, up to a renaming of row ids that preserves their
order, the same part of the store as the run of its own operations and the global ones, exactly if
each evaluation of the run spares the job. -/
theorem jobs_isolated_iff (jobId : String) (ops : List StoreOp) :
    (∀ as, as <+: ops → IsolatedRun jobId as) ↔
      ∀ e ∈ Store.history .empty ops, e.op.Spares jobId e.before := by
  refine Machine.restricts_iff (R := Isolated jobId) (A := fun db op => op.Spares jobId db)
    (fun _ _ h => h.agreesAfter) (fun _ _ _ h hop => h.hidden hop)
    (fun _ _ _ h hop hspares => h.step hop hspares)
    (fun _ _ _ h _ hop hagrees => h.interferes hop hagrees.1) (isolated_empty jobId)

/-! ## An evaluation that fails -/

/-- A delivery of one job fails once, raises an alert and succeeds; then a delivery of another job
fails, and the next evaluation repeats a channel. -/
def sharedEvaluation : List StoreOp := [
  .recordSuccess "a" (.onFirst .unavailable) .email,
  .recordSuccess "a" (.onSecond .available) .email,
  .recordNotificationFailure 1 .epoch "timeout",
  .raiseDeliveryBacklogAlerts 1 ["console"] fun _ => .epoch,
  .markNotificationDelivered 1 .epoch,
  .recordSuccess "b" (.onFirst .unavailable) .email,
  .recordSuccess "b" (.onSecond .available) .email,
  .recordNotificationFailure 2 .epoch "timeout",
  .raiseDeliveryBacklogAlerts 1 ["console", "console"] fun _ => .epoch]

/-- **The backlog alert of a job stays because of another job**: the evaluation that would delete
it fails. -/
theorem sharedEvaluation_interferes :
    ¬ IsolatedRun "a" sharedEvaluation ∧
      deliveryAlertActive (Store.exec .empty sharedEvaluation).jobStatus "a" = true ∧
      ¬ BacklogActive (Store.exec .empty sharedEvaluation).outbox 1 "a" := by
  refine ⟨?_, ?_, ?_⟩
  · rintro ⟨_, ⟨f, _, hsame⟩, _⟩
    have hstatus : (Store.exec .empty (Store.restrict (concerns "a") (StoreOp.translate "a") .empty
        .empty sharedEvaluation)).jobStatus.lookup "a"
          = (Store.exec .empty sharedEvaluation).jobStatus.lookup "a" :=
      congrArg JobPart.status hsame
    exact absurd hstatus (by decide +kernel)
  · decide +kernel
  · decide +kernel

end WebChecker
