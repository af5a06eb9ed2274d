import WebChecker.Storage.Effects

/-!
# Integrity

No operation leaves a dangling reference: `consistent_apply`.  For most operations there is
nothing to show, because they touch no reference; a recorded success adds rows together with what
they refer to, and a retention pass deletes from a run downwards.

`effect_induction` is the rule that every invariant about the history of a run goes through.
`prune_snd` writes the database after a retention pass out, once for all later modules, and
`pending_not_expired` is the guard that keeps an undelivered row out of its reach.
-/

namespace WebChecker

open Relational Results Runs

/-! ## Retention passes -/

/-- The runs a retention pass deletes. -/
def expiredRunIds (db : Database) (before : Datetime) : List ℕ :=
  (db.checkRuns.rows.filter (expiredRun db before)).map CheckRun.id

/-- The transitions that go with them. -/
def expiredTransitionIds (db : Database) (before : Datetime) : List ℕ :=
  (db.transitions.rows.filter fun t => t.runId ∈ expiredRunIds db before).map TransitionRow.id

lemma completedBefore_of_pending {before : Datetime} {n : OutboxRow} (h : n.pending) :
    completedBefore before n = false := by
  rw [completedBefore, Option.isNone_iff_eq_none.mp h, Option.any_none]

/-- Deleting delivered rows first does not change which runs hold an undelivered one. -/
lemma holdsPending_deleteCompleted (db : Database) (before : Datetime) (run : CheckRun) :
    holdsPending { db with outbox := db.outbox.deleteWhere (completedBefore before) } run
      = holdsPending db run := by
  have hany : ∀ id, (db.outbox.deleteWhere (completedBefore before)).rows.any
      (fun n => n.transitionId == id && n.pending)
        = db.outbox.rows.any fun n => n.transitionId == id && n.pending := by
    intro id
    rw [Bool.eq_iff_iff, List.any_eq_true, List.any_eq_true]
    refine exists_congr fun n => and_congr_left fun hn => ?_
    rw [Bool.and_eq_true] at hn
    rw [RowTable.mem_deleteWhere, and_iff_left (completedBefore_of_pending hn.2)]
  simp only [holdsPending, hany]

lemma expiredRun_deleteCompleted (db : Database)
    (observationsBefore notificationsBefore : Datetime) :
    expiredRun { db with outbox := db.outbox.deleteWhere (completedBefore notificationsBefore) }
        observationsBefore
      = expiredRun db observationsBefore := by
  funext run
  rw [expiredRun, expiredRun, holdsPending_deleteCompleted]
  rfl

/-- **The database after a retention pass.** -/
lemma prune_snd (db : Database) (observationsBefore notificationsBefore : Datetime) :
    (prune db observationsBefore notificationsBefore).2 =
      { db with
        checkRuns := db.checkRuns.deleteWhere (expiredRun db observationsBefore)
        observations := db.observations.filter fun o =>
          o.runId ∉ expiredRunIds db observationsBefore
        transitions := db.transitions.deleteWhere fun t =>
          t.runId ∈ expiredRunIds db observationsBefore
        outbox := db.outbox.deleteWhere fun n => completedBefore notificationsBefore n ||
          decide (n.transitionId ∈ expiredTransitionIds db observationsBefore) } := by
  rw [prune]
  dsimp only
  rw [expiredRun_deleteCompleted, deleteRuns]
  simp only [RowTable.deleteWhere_deleteWhere]
  rfl

/-- **An undelivered row is out of a retention pass's reach**: its run is not expired. -/
lemma pending_not_expired {db : Database} {before : Datetime} {n : OutboxRow}
    (hn : n ∈ db.outbox.rows) (hp : n.pending) :
    n.transitionId ∉ expiredTransitionIds db before := by
  intro hex
  obtain ⟨t, ht, hid⟩ := List.mem_map.mp hex
  rw [List.mem_filter, decide_eq_true_eq] at ht
  obtain ⟨run, hrun, hrid⟩ := List.mem_map.mp ht.2
  have hhold : holdsPending db run = true := by
    refine List.any_eq_true.mpr ⟨t, ht.1, ?_⟩
    rw [Bool.and_eq_true, beq_iff_eq, List.any_eq_true]
    exact ⟨hrid.symm, n, hn, by rw [hid, beq_self_eq_true, hp, Bool.and_self]⟩
  have hexp := (List.mem_filter.mp hrun).2
  rw [expiredRun, hhold, Bool.not_true, Bool.and_false] at hexp
  exact Bool.false_ne_true hexp

/-! ## Consistency -/

lemma outboxEntries_mem {plan : NotificationPlan} {ts : List OpportunityTransition} {n : ℕ}
    {e : ℕ × OpportunityTransition × String} (he : e ∈ outboxEntries plan n ts) :
    n ≤ e.1 ∧ e.1 < n + ts.length := by
  induction ts generalizing n with
  | nil => simp [outboxEntries] at he
  | cons t ts ih =>
      rw [outboxEntries] at he
      rw [List.length_cons]
      rcases List.mem_append.mp he with he | he
      · split_ifs at he
        · obtain ⟨c, _, rfl⟩ := List.mem_map.mp he
          exact ⟨le_refl _, by omega⟩
        · simp at he
      · have := ih he
        omega

/-- The rows of a recorded success: the old ones, and undelivered ones without an attempt whose
ids are above all old ones. -/
lemma mem_outbox_recorded {db : Database} {jobId : String} {result : CheckResult}
    {plan : NotificationPlan} {ts : List OpportunityTransition} {rows : List Observation}
    {n : OutboxRow} (hn : n ∈ (recorded db jobId result plan ts rows).outbox.rows) :
    n ∈ db.outbox.rows ∨
      (db.outbox.nextId ≤ n.id ∧ n.pending = true ∧ n.attempts = 0 ∧ n.jobId = jobId) := by
  simp only [recorded] at hn
  rw [RowTable.rows_insertAll] at hn
  rcases List.mem_append.mp hn with hn | hn
  · exact Or.inl hn
  · have hid := RowTable.rowId_ge_of_mem_inserted (rowId_entryRow jobId result.checkedAt) hn
    obtain ⟨⟨e, i⟩, _, rfl⟩ := List.mem_map.mp hn
    exact Or.inr ⟨hid, rfl, rfl, rfl⟩

lemma consistent_recorded {db : Database} (hc : Consistent db) {jobId : String}
    {result : CheckResult} {plan : NotificationPlan} {ts : List OpportunityTransition}
    {rows : List Observation}
    (hrows : encodeObservations db.checkRuns.nextId 0 result.opportunities = .ok rows) :
    Consistent (recorded db jobId result plan ts rows) := by
  have hids : ∀ i, i ∈ db.checkRuns.ids ∨ i = db.checkRuns.nextId →
      i ∈ (recorded db jobId result plan ts rows).checkRuns.ids := by
    intro i hi
    simpa [recorded, RowTable.ids, RowTable.rows_insert, checkRunRow] using hi
  constructor
  · intro o ho
    rcases List.mem_append.mp ho with ho | ho
    · exact hids _ (Or.inl (hc.observation_run o ho))
    · exact hids _ (Or.inr (encodeObservations_mem hrows o ho).1)
  · intro t ht
    simp only [recorded] at ht
    rw [RowTable.rows_insertAll] at ht
    rcases List.mem_append.mp ht with ht | ht
    · exact hids _ (Or.inl (hc.transition_run t ht))
    · obtain ⟨⟨x, i⟩, _, rfl⟩ := List.mem_map.mp ht
      exact hids _ (Or.inr rfl)
  · intro n hn
    simp only [recorded] at hn ⊢
    rw [RowTable.rows_insertAll] at hn
    rw [RowTable.mem_ids_insertAll (rowId_newTransition db.checkRuns.nextId)]
    rcases List.mem_append.mp hn with hn | hn
    · exact Or.inl (hc.outbox_transition n hn)
    · obtain ⟨⟨e, i⟩, he, rfl⟩ := List.mem_map.mp hn
      exact Or.inr (outboxEntries_mem (List.fst_mem_of_mem_zipIdx he))
  · intro n hn
    simp only [recorded] at hn
    rw [RowTable.rows_insertAll] at hn
    rcases List.mem_append.mp hn with hn | hn
    · exact hc.outbox_readable n hn
    · obtain ⟨⟨e, i⟩, _, rfl⟩ := List.mem_map.mp hn
      exact readable_isoformat _
  · intro a ha
    exact hc.alert_readable a (RowTable.mem_deleteWhere.mp ha).1

lemma consistent_prune {db : Database} (hc : Consistent db)
    (observationsBefore notificationsBefore : Datetime) :
    Consistent (prune db observationsBefore notificationsBefore).2 := by
  rw [prune_snd]
  constructor
  · intro o ho
    rw [List.mem_filter, decide_eq_true_eq] at ho
    exact RowTable.mem_ids_deleteWhere.mpr ⟨hc.observation_run o ho.1, ho.2⟩
  · intro t ht
    obtain ⟨ht, hkeep⟩ := RowTable.mem_deleteWhere.mp ht
    exact RowTable.mem_ids_deleteWhere.mpr
      ⟨hc.transition_run t ht, of_decide_eq_false hkeep⟩
  · intro n hn
    obtain ⟨hn, hkeep⟩ := RowTable.mem_deleteWhere.mp hn
    rw [Bool.or_eq_false_iff] at hkeep
    exact RowTable.mem_ids_deleteWhere.mpr
      ⟨hc.outbox_transition n hn, of_decide_eq_false hkeep.2⟩
  · exact fun n hn => hc.outbox_readable n (RowTable.mem_deleteWhere.mp hn).1
  · exact hc.alert_readable

/-- Consistency looks at the outbox through two columns, and at the alerts through one. -/
lemma Consistent.update {db : Database} (hc : Consistent db) {outbox : RowTable OutboxRow}
    {status : KeyTable String JobStatusRow} {alerts : RowTable AlertRow}
    (houtbox : ∀ n ∈ outbox.rows, ∃ n' ∈ db.outbox.rows,
      n'.transitionId = n.transitionId ∧ n'.checkedAt = n.checkedAt)
    (halerts : ∀ a ∈ alerts.rows, Readable a.createdAt) :
    Consistent { db with outbox := outbox, jobStatus := status, alerts := alerts } where
  observation_run := hc.observation_run
  transition_run := hc.transition_run
  outbox_transition n hn := by
    obtain ⟨n', hn', ht, _⟩ := houtbox n hn
    exact ht ▸ hc.outbox_transition n' hn'
  outbox_readable n hn := by
    obtain ⟨n', hn', _, hr⟩ := houtbox n hn
    exact hr ▸ hc.outbox_readable n' hn'
  alert_readable := halerts

/-- An update of outbox rows that keeps the two columns. -/
lemma columns_updateWhere {outbox : RowTable OutboxRow} {p : OutboxRow → Bool}
    {f : OutboxRow → OutboxRow} {hf : ∀ n, rowId (f n) = rowId n}
    (hkeeps : ∀ n, n.transitionId = (f n).transitionId ∧ n.checkedAt = (f n).checkedAt) :
    ∀ n ∈ (outbox.updateWhere p f hf).rows, ∃ n' ∈ outbox.rows,
      n'.transitionId = n.transitionId ∧ n'.checkedAt = n.checkedAt := by
  intro n hn
  obtain ⟨n', hn', rfl⟩ := RowTable.mem_updateWhere.mp hn
  refine ⟨n', hn', ?_⟩
  split_ifs
  · exact hkeeps n'
  · exact ⟨rfl, rfl⟩

/-- **Every effect keeps the database consistent.** -/
lemma OpEffect.consistent {db db' : Database} {op : StoreOp} {result : StoreResult}
    (h : OpEffect db op result db') (hc : Consistent db) : Consistent db' := by
  have hsame : ∀ n ∈ db.outbox.rows, ∃ n' ∈ db.outbox.rows,
      n'.transitionId = n.transitionId ∧ n'.checkedAt = n.checkedAt :=
    fun n hn => ⟨n, hn, rfl, rfl⟩
  cases h with
  | failed => exact hc
  | recorded _ hrows => exact consistent_recorded hc hrows
  | alerted =>
      refine hc.update hsame fun a ha => ?_
      rw [raisedAlerts, RowTable.rows_insertAll] at ha
      rcases List.mem_append.mp ha with ha | ha
      · exact hc.alert_readable a ha
      · obtain ⟨⟨c, i⟩, _, rfl⟩ := List.mem_map.mp ha
        exact readable_isoformat _
  | counted => exact hc.update hsame hc.alert_readable
  | evaluated =>
      exact hc.update hsame fun a ha =>
        (mem_allEvaluatedAlerts ha).elim (hc.alert_readable a) And.left
  | delivered =>
      exact hc.update (columns_updateWhere fun _ => ⟨rfl, rfl⟩) hc.alert_readable
  | attempted =>
      exact hc.update (columns_updateWhere fun _ => ⟨rfl, rfl⟩) hc.alert_readable
  | alertDelivered =>
      refine hc.update hsame fun a ha => ?_
      obtain ⟨a', ha', rfl⟩ := RowTable.mem_updateWhere.mp ha
      split_ifs <;> exact hc.alert_readable a' ha'
  | alertAttempted =>
      refine hc.update hsame fun a ha => ?_
      obtain ⟨a', ha', rfl⟩ := RowTable.mem_updateWhere.mp ha
      split_ifs <;> exact hc.alert_readable a' ha'
  | pruned => exact consistent_prune hc _ _

theorem consistent_apply {db : Database} (hc : Consistent db) (op : StoreOp) :
    Consistent (applyOp db op).2 := (applyOp_effect hc op).consistent hc

/-- The same for an operation that has returned. -/
lemma Consistent.settled {α : Type} {db db' : Database} {a : α} {wrap : α → StoreResult}
    {out : Except StorageError (α × Database)} (hc : Consistent db) (op : StoreOp)
    (hop : applyOp db op = settle db wrap out) (h : out = .ok (a, db')) : Consistent db' := by
  have hafter := consistent_apply hc op
  rwa [hop, h] at hafter

lemma Consistent.settledUpdate {db db' : Database} {out : Except StorageError Database}
    (hc : Consistent db) (op : StoreOp) (hop : applyOp db op = WebChecker.settleUpdate db out)
    (h : out = .ok db') : Consistent db' := by
  have hafter := consistent_apply hc op
  rwa [hop, h] at hafter

/-- **Every database that operations lead to is consistent.** -/
theorem Reachable.consistent {db : Database} (h : Reachable db) : Consistent db :=
  h.invariant consistent_empty fun _ op hc => consistent_apply hc op

/-! ## Histories -/

/-- **Induction over a run of the store.**  A relation between the history and the database that
every effect of an admitted operation continues holds after every run of such operations. -/
theorem effect_induction {P : List (Event Database StoreOp StoreResult) → Database → Prop}
    {admitted : StoreOp → Prop} {db : Database} (hc : Consistent db) (start : P [] db)
    (step : ∀ {h s s' op result}, P h s → admitted op → Consistent s → OpEffect s op result s' →
      P (h ++ [⟨s, op, result, s'⟩]) s')
    {ops : List StoreOp} (hops : ∀ op ∈ ops, admitted op) :
    P (Store.history db ops) (Store.exec db ops) := by
  refine (Store.history_induction (P := fun h s => Consistent s ∧ P h s) ⟨hc, start⟩ ?_ hops).2
  rintro h s op ⟨hs, hP⟩ hop
  exact ⟨consistent_apply hs op, step hP hop hs (applyOp_effect hs op)⟩

/-- The same for runs of any operations. -/
theorem effect_induction_all {P : List (Event Database StoreOp StoreResult) → Database → Prop}
    {db : Database} (hc : Consistent db) (start : P [] db)
    (step : ∀ {h s s' op result}, P h s → Consistent s → OpEffect s op result s' →
      P (h ++ [⟨s, op, result, s'⟩]) s')
    (ops : List StoreOp) : P (Store.history db ops) (Store.exec db ops) :=
  effect_induction hc start (fun hP (_ : True) hs heffect => step hP hs heffect) fun _ _ => trivial

end WebChecker
