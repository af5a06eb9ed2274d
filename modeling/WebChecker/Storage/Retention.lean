import WebChecker.Storage.History

/-!
# Retention is invisible to checking

A database and its pruned copy differ in runs, observations, transitions and delivered rows, and
once rows are inserted also in the ids these get.  `Mirrors` says what they still have in common:
status rows, alerts, the latest snapshot of every job, and the undelivered rows up to the
renaming `renamed` of the ids given out since.

Every later operation keeps that in common and returns the same (`Mirrors.step`), where a call on
an undelivered row is made with that row's id in each of the two databases.  The theorem is the
simulation this step lemma gives.
-/

namespace WebChecker

open Relational Results Runs

/-! ## The renaming -/

/-- Ids below `base` are kept; the ids from `base` on become those from `base'` on. -/
def renamed (base base' i : ℕ) : ℕ := if i < base then i else base' + (i - base)

section Renaming

variable {base base' : ℕ}

lemma renamed_of_lt {i : ℕ} (h : i < base) : renamed base base' i = i := if_pos h

lemma renamed_add (d : ℕ) : renamed base base' (base + d) = base' + d := by
  simp [renamed]

/-- The renaming is increasing on ids that a retention pass has kept or that are new. -/
lemma renamed_lt {i j : ℕ} (hi : i < base' ∨ base ≤ i) (hj : j < base' ∨ base ≤ j)
    (hij : i < j) : renamed base base' i < renamed base base' j := by
  unfold renamed
  split <;> split <;> omega

lemma renamed_inj {i j : ℕ} (hi : i < base' ∨ base ≤ i) (hj : j < base' ∨ base ≤ j) :
    renamed base base' i = renamed base base' j ↔ i = j := by
  unfold renamed
  split <;> split <;> omega

end Renaming

/-! ## What two databases have in common -/

/-- The row is the same notification under the renamed id. -/
def SamePending (base base' : ℕ) (a b : OutboxRow) : Prop :=
  ∃ k, b = { a with id := renamed base base' a.id, transitionId := k }

/-- What a database and its pruned copy have in common. -/
structure Mirrors (base base' : ℕ) (s t : Database) : Prop where
  status : t.jobStatus = s.jobStatus
  alerts : t.alerts = s.alerts
  snapshot : ∀ jobId, latestSnapshot t jobId = latestSnapshot s jobId
  pending : List.Forall₂ (SamePending base base') (pendingRows s) (pendingRows t)
  kept_or_new : ∀ r ∈ pendingRows s, r.id < base' ∨ base ≤ r.id
  next : ∃ d, s.outbox.nextId = base + d ∧ t.outbox.nextId = base' + d

/-- Undelivered rows survive a retention pass as they are. -/
lemma pendingRows_prune (db : Database) (observationsBefore notificationsBefore : Datetime) :
    pendingRows (prune db observationsBefore notificationsBefore).2 = pendingRows db := by
  have hrows : (prune db observationsBefore notificationsBefore).2.outbox.rows
      = db.outbox.rows.filter fun n => !(completedBefore notificationsBefore n ||
          decide (n.transitionId ∈ expiredTransitionIds db observationsBefore)) := by
    rw [prune_snd]
    rfl
  rw [pendingRows, hrows, List.filter_filter, pendingRows]
  refine List.filter_congr fun n hn => ?_
  by_cases hp : n.pending = true
  · rw [hp, completedBefore_of_pending hp, decide_eq_false (pending_not_expired hn hp)]
    rfl
  · simp [hp]

/-- **A database mirrors its pruned copy.** -/
lemma mirrors_prune (db : Database) (observationsBefore notificationsBefore : Datetime) :
    Mirrors db.outbox.nextId (prune db observationsBefore notificationsBefore).2.outbox.nextId db
      (prune db observationsBefore notificationsBefore).2 := by
  have hpending := pendingRows_prune db observationsBefore notificationsBefore
  constructor
  · rw [prune_snd]
  · rw [prune_snd]
  · exact latestSnapshot_prune db observationsBefore notificationsBefore
  · rw [hpending]
    refine List.forall₂_same.mpr fun r hr => ⟨r.transitionId, ?_⟩
    have hlt : r.id < db.outbox.nextId := RowTable.rowId_lt_nextId (mem_pendingRows.mp hr).1
    rw [renamed_of_lt hlt]
  · intro r hr
    rw [← hpending] at hr
    exact Or.inl (RowTable.rowId_lt_nextId (mem_pendingRows.mp hr).1)
  · exact ⟨0, rfl, rfl⟩

section Steps

variable {base base' : ℕ} {s t : Database}

/-- A property that related rows share selects related rows. -/
lemma forall₂_filter {p q : OutboxRow → Bool} {l l' : List OutboxRow}
    (h : List.Forall₂ (SamePending base base') l l')
    (hpq : ∀ a ∈ l, ∀ b, SamePending base base' a b → q b = p a) :
    List.Forall₂ (SamePending base base') (l.filter p) (l'.filter q) := by
  induction h with
  | nil => exact .nil
  | @cons a b l l' hab _ ih =>
      have ih := ih fun x hx => hpq x (List.mem_cons_of_mem _ hx)
      rw [List.filter_cons, List.filter_cons, hpq a List.mem_cons_self b hab]
      split
      · exact .cons hab ih
      · exact ih

/-! ## Status and alerts -/

/-- Writing the same status rows and alerts on both sides. -/
lemma Mirrors.write (h : Mirrors base base' s t) (status : KeyTable String JobStatusRow)
    (alerts : RowTable AlertRow) :
    Mirrors base base' { s with jobStatus := status, alerts := alerts }
      { t with jobStatus := status, alerts := alerts } :=
  ⟨rfl, rfl, h.snapshot, h.pending, h.kept_or_new, h.next⟩

/-- Recording a failure reads and writes status rows and alerts only. -/
lemma recordCheckFailureBody_frame (hstatus : t.jobStatus = s.jobStatus)
    (halerts : t.alerts = s.alerts) (jobId error : String) (occurredAt : Datetime)
    (alertAfter : ℤ) (channels : List String) :
    ∃ out : Except PyError (Bool × KeyTable String JobStatusRow × RowTable AlertRow),
      recordCheckFailureBody s jobId error occurredAt alertAfter channels
          = out.map (fun o => (o.1, { s with jobStatus := o.2.1, alerts := o.2.2 })) ∧
        recordCheckFailureBody t jobId error occurredAt alertAfter channels
          = out.map (fun o => (o.1, { t with jobStatus := o.2.1, alerts := o.2.2 })) := by
  simp only [recordCheckFailureBody, hstatus, halerts, lookup_statusAfterFailure]
  split
  · cases enqueueOperationalAlert (checkFailureKey jobId) jobId
      ("Repeated check failures: " ++ jobId)
      (toString (failedStatus s.jobStatus jobId error occurredAt).consecutiveFailures ++
        " consecutive scheduled checks failed. Last error: " ++ sliceTo 1000 error)
      occurredAt channels s.alerts with
    | error e => exact ⟨.error e, rfl, rfl⟩
    | ok alerts =>
        exact ⟨.ok (true, setFailureAlert (statusAfterFailure s.jobStatus jobId error occurredAt)
          jobId, alerts), rfl, rfl⟩
  · exact ⟨.ok (false, statusAfterFailure s.jobStatus jobId error occurredAt, s.alerts), rfl,
      by simp [← halerts]⟩

lemma Mirrors.recordCheckFailure (h : Mirrors base base' s t) (jobId error : String)
    (failedAt : Option Datetime) (now : Datetime) (alertAfter : ℤ) (channels : List String) :
    let op := StoreOp.recordCheckFailure jobId error failedAt now alertAfter channels
    (applyOp t op).1 = (applyOp s op).1 ∧
      Mirrors base base' (applyOp s op).2 (applyOp t op).2 := by
  obtain ⟨out, hs, ht⟩ := recordCheckFailureBody_frame h.status h.alerts jobId error
    (failedAt.getD now) alertAfter channels
  simp only [applyOp, WebChecker.recordCheckFailure, hs, ht]
  cases out with
  | error e => exact ⟨rfl, h⟩
  | ok o => exact ⟨rfl, h.write _ _⟩

/-- The backlog query sees undelivered rows through their job and their attempts. -/
lemma Mirrors.backlogRows_eq (h : Mirrors base base' s t) : backlogRows t = backlogRows s := by
  have hof : ∀ (db : Database) (jobId : String),
      pendingOf db.outbox jobId = (pendingRows db).filter fun n => n.jobId == jobId := by
    intro db jobId
    rw [pendingOf, pendingRows, List.filter_filter]
  have hrel : ∀ jobId, List.Forall₂ (SamePending base base') (pendingOf s.outbox jobId)
      (pendingOf t.outbox jobId) := by
    intro jobId
    rw [hof, hof]
    refine forall₂_filter h.pending ?_
    rintro a _ b ⟨k, rfl⟩
    rfl
  have hrow : ∀ status : JobStatusRow, backlogRow t.outbox status = backlogRow s.outbox status := by
    intro status
    have hattempts : (pendingOf t.outbox status.jobId).map OutboxRow.attempts
        = (pendingOf s.outbox status.jobId).map OutboxRow.attempts := by
      refine map_eq_of_forall₂ (hrel status.jobId) ?_
      rintro a b ⟨k, rfl⟩
      rfl
    rw [backlogRow, backlogRow, hattempts, (hrel status.jobId).length_eq]
  rw [backlogRows, backlogRows, h.status]
  exact List.map_congr_left fun status _ => hrow status

lemma Mirrors.raiseDeliveryBacklogAlerts (h : Mirrors base base' s t) (alertAfter : ℤ)
    (channels : List String) (now : String → Datetime) :
    let op := StoreOp.raiseDeliveryBacklogAlerts alertAfter channels now
    (applyOp t op).1 = (applyOp s op).1 ∧
      Mirrors base base' (applyOp s op).2 (applyOp t op).2 := by
  simp only [applyOp, WebChecker.raiseDeliveryBacklogAlerts, h.backlogRows_eq, h.status, h.alerts]
  cases evaluateBacklogs alertAfter channels now (backlogRows s) s.jobStatus s.alerts with
  | error e => exact ⟨rfl, h⟩
  | ok out => exact ⟨rfl, h.write _ _⟩

lemma Mirrors.updateOperationalAlert (h : Mirrors base base' s t) (id : ℕ) (time : Datetime)
    (error : Option String) :
    (settleUpdate t (updateOperationalAlert t id time error)).1
        = (settleUpdate s (updateOperationalAlert s id time error)).1 ∧
      Mirrors base base' (settleUpdate s (updateOperationalAlert s id time error)).2
        (settleUpdate t (updateOperationalAlert t id time error)).2 := by
  simp only [WebChecker.updateOperationalAlert, h.alerts]
  split
  · refine ⟨rfl, ?_⟩
    have hw := h.write s.jobStatus
      (s.alerts.updateWhere (isPendingAlertId id) (attemptedAlert time error)
        (rowId_attemptedAlert time error))
    simpa only [settleUpdate, ← h.status] using hw
  · exact ⟨rfl, h⟩

/-! ## Calls on undelivered rows -/

/-- The renamed id is undelivered in the copy. -/
lemma Mirrors.renamed_mem (h : Mirrors base base' s t) {id : ℕ}
    (hid : id ∈ (pendingRows s).map OutboxRow.id) :
    renamed base base' id ∈ (pendingRows t).map OutboxRow.id := by
  have hids : (pendingRows t).map OutboxRow.id
      = (pendingRows s).map fun a => renamed base base' a.id := by
    refine map_eq_of_forall₂ h.pending ?_
    rintro a b ⟨k, rfl⟩
    rfl
  obtain ⟨a, ha, rfl⟩ := List.mem_map.mp hid
  rw [hids]
  exact List.mem_map_of_mem ha

lemma Mirrors.id_iff (h : Mirrors base base' s t) {id : ℕ}
    (hid : id ∈ (pendingRows s).map OutboxRow.id) {a b : OutboxRow} (ha : a ∈ pendingRows s)
    (hab : SamePending base base' a b) : b.id = renamed base base' id ↔ a.id = id := by
  obtain ⟨x, hx, rfl⟩ := List.mem_map.mp hid
  obtain ⟨k, rfl⟩ := hab
  exact renamed_inj (h.kept_or_new a ha) (h.kept_or_new x hx)

lemma Mirrors.markNotificationDelivered (h : Mirrors base base' s t) {id : ℕ} (time : Datetime)
    (hid : id ∈ (pendingRows s).map OutboxRow.id) :
    let op := StoreOp.markNotificationDelivered id time
    let op' := StoreOp.markNotificationDelivered (renamed base base' id) time
    (applyOp t op').1 = (applyOp s op).1 ∧
      Mirrors base base' (applyOp s op).2 (applyOp t op').2 := by
  simp only [applyOp, WebChecker.markNotificationDelivered, updateNotification,
    countP_isPendingId hid, countP_isPendingId (h.renamed_mem hid), if_true, settleUpdate,
    true_and]
  refine ⟨h.status, h.alerts, h.snapshot, ?_, ?_, ?_⟩
  · rw [pendingRows_delivered, pendingRows_delivered]
    refine forall₂_filter h.pending fun a ha b hab => ?_
    rw [Bool.eq_iff_iff, bne_iff_ne, bne_iff_ne]
    exact not_congr (h.id_iff hid ha hab)
  · rw [pendingRows_delivered]
    exact fun r hr => h.kept_or_new r (List.mem_filter.mp hr).1
  · simpa only [RowTable.nextId_updateWhere] using h.next

lemma Mirrors.recordNotificationFailure (h : Mirrors base base' s t) {id : ℕ} (time : Datetime)
    (error : String) (hid : id ∈ (pendingRows s).map OutboxRow.id) :
    let op := StoreOp.recordNotificationFailure id time error
    let op' := StoreOp.recordNotificationFailure (renamed base base' id) time error
    (applyOp t op').1 = (applyOp s op).1 ∧
      Mirrors base base' (applyOp s op).2 (applyOp t op').2 := by
  simp only [applyOp, WebChecker.recordNotificationFailure, updateNotification,
    countP_isPendingId hid, countP_isPendingId (h.renamed_mem hid), if_true, settleUpdate,
    true_and]
  refine ⟨h.status, h.alerts, h.snapshot, ?_, ?_, ?_⟩
  · rw [pendingRows_attempted, pendingRows_attempted]
    refine List.rel_map (R := fun a b => a ∈ pendingRows s ∧ SamePending base base' a b) ?_ ?_
    · rintro a b ⟨ha, hab⟩
      have hiff := h.id_iff hid ha hab
      obtain ⟨k, rfl⟩ := hab
      dsimp only at hiff ⊢
      by_cases ha' : a.id = id
      · rw [if_pos ha', if_pos (hiff.mpr ha')]
        exact ⟨k, rfl⟩
      · rw [if_neg ha', if_neg (mt hiff.mp ha')]
        exact ⟨k, rfl⟩
    · exact (List.forall₂_and_left _ _).mpr ⟨fun a ha => ha, h.pending⟩
  · rw [pendingRows_attempted]
    intro r hr
    obtain ⟨a, ha, rfl⟩ := List.mem_map.mp hr
    split
    · exact h.kept_or_new a ha
    · exact h.kept_or_new a ha
  · simpa only [RowTable.nextId_updateWhere] using h.next

/-! ## Recording a success -/

/-- The rows of two recorded successes, from corresponding ids on. -/
lemma forall₂_entryRows (jobId : String) (checkedAt : Datetime)
    {es es' : List (ℕ × OpportunityTransition × String)}
    (h : List.Forall₂ (fun e e' => e'.2 = e.2) es es') (d : ℕ) :
    List.Forall₂ (SamePending base base')
      ((es.zipIdx (base + d)).map fun p => entryRow jobId checkedAt p.1 p.2)
      ((es'.zipIdx (base' + d)).map fun p => entryRow jobId checkedAt p.1 p.2) := by
  induction h generalizing d with
  | nil => exact .nil
  | @cons e e' es es' he _ ih =>
      rw [List.zipIdx_cons, List.zipIdx_cons, List.map_cons, List.map_cons]
      refine .cons ⟨e'.1, ?_⟩ (ih (d + 1))
      simp [entryRow, outboxRow, he, renamed_add]

lemma forall₂_outboxEntries (plan : NotificationPlan) (ts : List OpportunityTransition)
    (n n' : ℕ) :
    List.Forall₂ (fun e e' => e'.2 = e.2) (outboxEntries plan n ts) (outboxEntries plan n' ts) := by
  induction ts generalizing n n' with
  | nil => exact .nil
  | cons t ts ih =>
      rw [outboxEntries, outboxEntries]
      refine List.rel_append ?_ (ih (n + 1) (n' + 1))
      split
      · refine List.rel_map (R := (· = ·)) ?_ (List.forall₂_eq_eq_eq ▸ rfl)
        rintro c _ rfl
        rfl
      · exact .nil

lemma Mirrors.recorded (h : Mirrors base base' s t) (hs : Consistent s) (ht : Consistent t)
    (jobId : String) (result : CheckResult) (plan : NotificationPlan)
    (ts : List OpportunityTransition) {rows rows' : List Observation}
    (hrows : encodeObservations s.checkRuns.nextId 0 result.opportunities = .ok rows)
    (hrows' : encodeObservations t.checkRuns.nextId 0 result.opportunities = .ok rows') :
    Mirrors base base' (recorded s jobId result plan ts rows)
      (recorded t jobId result plan ts rows') := by
  obtain ⟨d, hd, hd'⟩ := h.next
  have hentries := forall₂_outboxEntries plan ts s.transitions.nextId t.transitions.nextId
  constructor
  · rw [WebChecker.recorded, WebChecker.recorded, h.status]
  · rw [WebChecker.recorded, WebChecker.recorded, h.alerts]
  · intro j
    by_cases hj : jobId = j
    · subst hj
      obtain ⟨a, ha, hlatest⟩ := latestSnapshot_recorded_self hs jobId result plan ts hrows
      obtain ⟨b, hb, hlatest'⟩ := latestSnapshot_recorded_self ht jobId result plan ts hrows'
      rw [hlatest, hlatest', ha.unique hb]
    · rw [latestSnapshot_recorded_of_ne hj plan ts hrows,
        latestSnapshot_recorded_of_ne hj plan ts hrows', h.snapshot]
  · rw [pendingRows_recorded, pendingRows_recorded, hd, hd']
    exact List.rel_append h.pending (forall₂_entryRows jobId result.checkedAt hentries d)
  · intro r hr
    rw [pendingRows_recorded] at hr
    rcases List.mem_append.mp hr with hr | hr
    · exact h.kept_or_new r hr
    · have hge := RowTable.rowId_ge_of_mem_inserted (rowId_entryRow jobId result.checkedAt) hr
      rw [rowId_outboxRow] at hge
      exact Or.inr (by omega)
  · refine ⟨d + (outboxEntries plan s.transitions.nextId ts).length, ?_, ?_⟩
    · simp only [WebChecker.recorded, RowTable.nextId_insertAll]
      omega
    · simp only [WebChecker.recorded, RowTable.nextId_insertAll, hentries.length_eq]
      omega

lemma Mirrors.recordSuccess (h : Mirrors base base' s t) (hs : Consistent s) (ht : Consistent t)
    (jobId : String) (result : CheckResult) (plan : NotificationPlan) :
    let op := StoreOp.recordSuccess jobId result plan
    (applyOp t op).1 = (applyOp s op).1 ∧
      Mirrors base base' (applyOp s op).2 (applyOp t op).2 := by
  refine recordSuccess_both hs ht (h.snapshot jobId) h ?_
  intro ts rows hrows hrows'
  exact h.recorded hs ht jobId result plan ts hrows hrows'

end Steps

/-! ## Every later run -/

/-- The operations that may follow a retention pass: calls on outbox rows are on undelivered
ones, and there is no further pass. -/
def StoreOp.Later (db : Database) : StoreOp → Prop
  | .markNotificationDelivered id _ => id ∈ (pendingRows db).map OutboxRow.id
  | .recordNotificationFailure id _ _ => id ∈ (pendingRows db).map OutboxRow.id
  | .prune _ _ => False
  | _ => True

instance (db : Database) : (op : StoreOp) → Decidable (op.Later db)
  | .markNotificationDelivered .. => inferInstanceAs (Decidable (_ ∈ _))
  | .recordNotificationFailure .. => inferInstanceAs (Decidable (_ ∈ _))
  | .prune .. => inferInstanceAs (Decidable False)
  | .recordSuccess .. => inferInstanceAs (Decidable True)
  | .recordCheckFailure .. => inferInstanceAs (Decidable True)
  | .raiseDeliveryBacklogAlerts .. => inferInstanceAs (Decidable True)
  | .markOperationalAlertDelivered .. => inferInstanceAs (Decidable True)
  | .recordOperationalAlertFailure .. => inferInstanceAs (Decidable True)

/-- The same operation, called with renamed ids of outbox rows. -/
def StoreOp.rename (f : ℕ → ℕ) : StoreOp → StoreOp
  | .markNotificationDelivered id time => .markNotificationDelivered (f id) time
  | .recordNotificationFailure id time error => .recordNotificationFailure (f id) time error
  | op => op

/-- **Every later operation** returns the same on both sides and keeps them alike. -/
lemma Mirrors.step {base base' : ℕ} {s t : Database} (h : Mirrors base base' s t)
    (hs : Consistent s) (ht : Consistent t) {op : StoreOp} (hop : op.Later s) :
    (applyOp t (op.rename (renamed base base'))).1 = (applyOp s op).1 ∧
      Mirrors base base' (applyOp s op).2 (applyOp t (op.rename (renamed base base'))).2 := by
  cases op with
  | recordSuccess jobId result plan => exact h.recordSuccess hs ht jobId result plan
  | recordCheckFailure jobId error failedAt now alertAfter channels =>
      exact h.recordCheckFailure jobId error failedAt now alertAfter channels
  | raiseDeliveryBacklogAlerts alertAfter channels now =>
      exact h.raiseDeliveryBacklogAlerts alertAfter channels now
  | markNotificationDelivered id time => exact h.markNotificationDelivered time hop
  | recordNotificationFailure id time error => exact h.recordNotificationFailure time error hop
  | markOperationalAlertDelivered id time => exact h.updateOperationalAlert id time none
  | recordOperationalAlertFailure id time error =>
      exact h.updateOperationalAlert id time (some error)
  | prune observationsBefore notificationsBefore => exact absurd hop id

/-- No operation takes the last run of a job away. -/
lemma OpEffect.latestRun_isSome {db db' : Database} {op : StoreOp} {result : StoreResult}
    (h : OpEffect db op result db') {jobId : String} (hrun : (latestRun db jobId).isSome) :
    (latestRun db' jobId).isSome := by
  cases h with
  | @recorded j =>
      by_cases hj : j = jobId
      · subst hj
        rw [latestRun_recorded_self]
        rfl
      · rwa [latestRun_recorded_of_ne db hj]
  | pruned => rwa [latestRun_prune]
  | _ => exact hrun

/-- A success of a job with a run is compared with a snapshot. -/
lemma OpEffect.compared {db db' : Database} {jobId : String} {snapshot : CheckResult}
    {plan : NotificationPlan} {outcome : RecordOutcome}
    (h : OpEffect db (.recordSuccess jobId snapshot plan) (.recorded outcome) db')
    (hrun : (latestRun db jobId).isSome) :
    outcome.baselineCreated = false ∧ ∀ x ∈ outcome.transitions, x.type ≠ .initiallyAvailable := by
  cases h with
  | recorded hprevious =>
      obtain ⟨p, rfl⟩ := Option.isSome_iff_exists.mp (latestSnapshot_isSome hrun hprevious)
      exact ⟨rfl, fun x hx => ne_initiallyAvailable hx⟩

/-- The event, if it is a recorded success of the job, was compared with a snapshot. -/
def ComparedFor (jobId : String) (e : StoreEvent) : Prop :=
  ∀ snapshot plan outcome, e.op = .recordSuccess jobId snapshot plan →
    e.result = .recorded outcome →
    outcome.baselineCreated = false ∧ ∀ x ∈ outcome.transitions, x.type ≠ .initiallyAvailable

/-- **A job with a run keeps a baseline.** -/
lemma baseline_kept {db : Database} (hc : Consistent db) {jobId : String}
    (hrun : (latestRun db jobId).isSome) (ops : List StoreOp) :
    (latestRun (Store.exec db ops) jobId).isSome ∧
      ∀ e ∈ Store.history db ops, ComparedFor jobId e := by
  refine effect_induction_all (P := fun h s => (latestRun s jobId).isSome ∧
    ∀ e ∈ h, ComparedFor jobId e) hc ⟨hrun, by simp⟩ ?_ ops
  rintro h s s' op result ⟨hsome, hall⟩ _ heffect
  refine ⟨heffect.latestRun_isSome hsome, fun e he => ?_⟩
  rcases List.mem_append.mp he with he | he
  · exact hall e he
  · obtain rfl := List.mem_singleton.mp he
    rintro snapshot plan outcome rfl rfl
    exact heffect.compared hsome

/-- The item under the renamed id. -/
def PendingNotification.rename (f : ℕ → ℕ) (item : PendingNotification) : PendingNotification :=
  { item with id := f item.id }

/-- **Retention is invisible to checking.**  From any reachable database and from its pruned copy,
every later sequence of operations (calls on undelivered rows made under the renamed ids) returns
the same results, leaves the same latest snapshot of every job, and leaves the same undelivered
rows under a renaming of ids that is increasing on them and moves no id that was in use at the
retention pass.  No job with a baseline loses it: its later successes are never a first one. -/
theorem retention_invisible {s : Database} (hs : Reachable s)
    (observationsBefore notificationsBefore : Datetime) {ops : List StoreOp}
    (hops : ∀ e ∈ Store.history s ops, e.op.Later e.before) :
    let t := (prune s observationsBefore notificationsBefore).2
    let f := renamed s.outbox.nextId t.outbox.nextId
    let ops' := ops.map (StoreOp.rename f)
    (Store.history t ops').map Event.result = (Store.history s ops).map Event.result ∧
      (∀ jobId, getLatest (Store.exec t ops') jobId = getLatest (Store.exec s ops) jobId) ∧
      (∀ limit, ∃ items, listPendingNotifications (Store.exec s ops) limit = .ok items ∧
        listPendingNotifications (Store.exec t ops') limit
          = .ok (items.map (PendingNotification.rename f))) ∧
      (∀ i ∈ s.outbox.ids, f i = i) ∧
      StrictMonoOn f {i | i ∈ (pendingRows (Store.exec s ops)).map OutboxRow.id} ∧
      ∀ jobId, (latestRun s jobId).isSome → (latestRun (Store.exec t ops') jobId).isSome ∧
        ∀ e ∈ Store.history t ops', ComparedFor jobId e := by
  intro t f ops'
  have hct : Consistent t := consistent_prune hs.consistent _ _
  have hsim := Store.simulation
    (R := fun x y => Consistent x ∧ Consistent y ∧
      Mirrors s.outbox.nextId t.outbox.nextId x y)
    (A := fun x op => op.Later x) (f := StoreOp.rename f)
    (fun x y op ⟨hx, hy, hxy⟩ hop => ⟨(hxy.step hx hy hop).1, consistent_apply hx op,
      consistent_apply hy _, (hxy.step hx hy hop).2⟩)
    ⟨hs.consistent, hct, mirrors_prune s observationsBefore notificationsBefore⟩ hops
  obtain ⟨hresults, hcs', hct', hend⟩ := hsim
  refine ⟨hresults, fun jobId => ?_, fun limit => ?_, fun i hi => ?_, ?_, fun jobId hrun => ?_⟩
  · rw [getLatest, getLatest, hend.snapshot]
  · refine ⟨_, listPendingNotifications_eq hcs' limit, ?_⟩
    have hlist : ((pendingRows (Store.exec t ops')).map notificationOf)
        = ((pendingRows (Store.exec s ops)).map
            (PendingNotification.rename f ∘ notificationOf)) := by
      refine map_eq_of_forall₂ hend.pending ?_
      rintro a b ⟨k, rfl⟩
      rfl
    rw [listPendingNotifications_eq hct', List.map_take, hlist, ← List.map_take, List.map_map]
  · obtain ⟨r, hr, rfl⟩ := RowTable.mem_ids.mp hi
    exact renamed_of_lt (RowTable.rowId_lt_nextId hr)
  · rintro i hi j hj hij
    obtain ⟨a, ha, rfl⟩ := List.mem_map.mp hi
    obtain ⟨b, hb, rfl⟩ := List.mem_map.mp hj
    exact renamed_lt (hend.kept_or_new a ha) (hend.kept_or_new b hb) hij
  · refine baseline_kept hct ?_ ops'
    rw [latestRun_prune]
    exact hrun

/-- Two snapshots with a transition that is announced and delivered, and a third one. -/
def beforeRetention : List StoreOp := [
  .recordSuccess "job" (.onFirst .unavailable) .email,
  .recordSuccess "job" (.onSecond .available) .email,
  .markNotificationDelivered 1 .epoch,
  .recordSuccess "job" (.onThird .unavailable) .email]

/-- A fourth snapshot, whose announcement fails once and is then delivered, and a fifth. -/
def afterRetention : List StoreOp := [
  .recordSuccess "job" (.single 4 .available [] (by decide)) .email,
  .recordNotificationFailure 2 .epoch "timeout",
  .raiseDeliveryBacklogAlerts 1 ["console"] fun _ => .epoch,
  .markNotificationDelivered 2 .epoch,
  .recordSuccess "job" (.single 5 .unavailable [] (by decide)) .email]

/-- **A pass that deletes two runs and a delivered row**: the row that is inserted next has another
id in the pruned store, and nothing else is different. -/
theorem retention_invisible_renamed :
    let s := Store.exec .empty beforeRetention
    let t := (prune s (january 3 (by decide)) (january 1 (by decide))).2
    let f := renamed s.outbox.nextId t.outbox.nextId
    (s.checkRuns.ids = [1, 2, 3] ∧ t.checkRuns.ids = [3] ∧
        s.outbox.ids = [1] ∧ t.outbox.ids = [] ∧ f 2 = 1) ∧
      (Store.history t (afterRetention.map (StoreOp.rename f))).map Event.result
        = (Store.history s afterRetention).map Event.result ∧
      getLatest (Store.exec t (afterRetention.map (StoreOp.rename f))) "job"
        = getLatest (Store.exec s afterRetention) "job" := by
  intro s t f
  have hlater : ∀ e ∈ Store.history s afterRetention, e.op.Later e.before := by decide +kernel
  obtain ⟨hresults, hlatest, -⟩ := retention_invisible ⟨_, rfl⟩ (january 3 (by decide))
    (january 1 (by decide)) hlater
  exact ⟨by decide +kernel, hresults, hlatest "job"⟩

end WebChecker
