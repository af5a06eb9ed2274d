import WebChecker.Storage.Projection

/-!
# A part under other ids

Row ids are handed out across jobs, so two databases that agree on a job do so up to a renaming of
its ids.  Both list their rows by id, so such a renaming preserves the order
(`increasing_of_rename`), and in particular it is injective on the ids of the part.

Everything that an operation does to a part commutes with renaming.  Where it adds rows, the
renaming is extended to their ids (`Renaming.extend`).
-/

namespace WebChecker

open Relational Results Runs

/-! ## Rows and parts -/

/-- A renaming of the ids of each table. -/
structure Renaming where
  run : ℕ → ℕ
  transition : ℕ → ℕ
  outbox : ℕ → ℕ
  alert : ℕ → ℕ

def CheckRun.rename (f : Renaming) (r : CheckRun) : CheckRun := { r with id := f.run r.id }

def Observation.rename (f : Renaming) (o : Observation) : Observation :=
  { o with runId := f.run o.runId }

def TransitionRow.rename (f : Renaming) (t : TransitionRow) : TransitionRow :=
  { t with id := f.transition t.id, runId := f.run t.runId }

def OutboxRow.rename (f : Renaming) (n : OutboxRow) : OutboxRow :=
  { n with id := f.outbox n.id, transitionId := f.transition n.transitionId }

def AlertRow.rename (f : Renaming) (a : AlertRow) : AlertRow := { a with id := f.alert a.id }

/-- A part under other ids. -/
def JobPart.rename (f : Renaming) (p : JobPart) : JobPart where
  runs := p.runs.map (CheckRun.rename f)
  observations := p.observations.map (Observation.rename f)
  transitions := p.transitions.map (TransitionRow.rename f)
  outbox := p.outbox.map (OutboxRow.rename f)
  status := p.status
  alerts := p.alerts.map (AlertRow.rename f)

/-- The renaming preserves the order of the ids of a part. -/
structure Renaming.Increasing (f : Renaming) (p : JobPart) : Prop where
  run : StrictMonoOn f.run {i | i ∈ p.runIds}
  transition : StrictMonoOn f.transition {i | i ∈ p.transitionIds}
  outbox : StrictMonoOn f.outbox {i | i ∈ p.outboxIds}
  alert : StrictMonoOn f.alert {i | i ∈ p.alertIds}

/-- **Two databases agree on a job** up to the ids of its rows. -/
def SamePart (jobId : String) (s t : Database) : Prop :=
  ∃ f : Renaming, f.Increasing (s.part jobId) ∧ t.part jobId = (s.part jobId).rename f

@[simp] lemma runIds_rename (f : Renaming) (p : JobPart) :
    (p.rename f).runIds = p.runIds.map f.run := by
  simp only [JobPart.runIds, JobPart.rename, List.map_map]
  rfl

@[simp] lemma transitionIds_rename (f : Renaming) (p : JobPart) :
    (p.rename f).transitionIds = p.transitionIds.map f.transition := by
  simp only [JobPart.transitionIds, JobPart.rename, List.map_map]
  rfl

@[simp] lemma outboxIds_rename (f : Renaming) (p : JobPart) :
    (p.rename f).outboxIds = p.outboxIds.map f.outbox := by
  simp only [JobPart.outboxIds, JobPart.rename, List.map_map]
  rfl

@[simp] lemma alertIds_rename (f : Renaming) (p : JobPart) :
    (p.rename f).alertIds = p.alertIds.map f.alert := by
  simp only [JobPart.alertIds, JobPart.rename, List.map_map]
  rfl

/-- A map between increasing lists preserves the order. -/
lemma strictMonoOn_of_pairwise {l : List ℕ} {f : ℕ → ℕ} (h : l.Pairwise (· < ·))
    (hf : (l.map f).Pairwise (· < ·)) : StrictMonoOn f {i | i ∈ l} := by
  induction l with
  | nil => simp [StrictMonoOn]
  | cons i l ih =>
      rw [List.pairwise_cons] at h
      rw [List.map_cons, List.pairwise_cons] at hf
      have hrest := ih h.2 hf.2
      intro a ha b hb hab
      rcases List.mem_cons.mp ha with rfl | ha'
      · rcases List.mem_cons.mp hb with rfl | hb'
        · exact absurd hab (lt_irrefl _)
        · exact hf.1 _ (List.mem_map_of_mem hb')
      · rcases List.mem_cons.mp hb with rfl | hb'
        · exact absurd (h.1 a ha') hab.not_gt
        · exact hrest ha' hb' hab

/-- The ids of a selection of rows increase. -/
lemma pairwise_ids {α : Type} [HasRowId α] (t : RowTable α) (p : α → Bool) :
    ((t.rows.filter p).map rowId).Pairwise (· < ·) :=
  List.pairwise_map.mpr (t.increasing.filter p)

/-- **A renaming between the parts of two databases preserves the order**, because both list their
rows by id. -/
lemma increasing_of_rename {jobId : String} {s t : Database} {f : Renaming}
    (h : t.part jobId = (s.part jobId).rename f) : f.Increasing (s.part jobId) := by
  have hruns : (t.part jobId).runIds.Pairwise (· < ·) := pairwise_ids t.checkRuns _
  have htransitions : (t.part jobId).transitionIds.Pairwise (· < ·) := pairwise_ids t.transitions _
  have houtbox : (t.part jobId).outboxIds.Pairwise (· < ·) := pairwise_ids t.outbox _
  have halerts : (t.part jobId).alertIds.Pairwise (· < ·) := pairwise_ids t.alerts _
  rw [h, runIds_rename] at hruns
  rw [h, transitionIds_rename] at htransitions
  rw [h, outboxIds_rename] at houtbox
  rw [h, alertIds_rename] at halerts
  exact ⟨strictMonoOn_of_pairwise (pairwise_ids s.checkRuns _) hruns,
    strictMonoOn_of_pairwise (pairwise_ids s.transitions _) htransitions,
    strictMonoOn_of_pairwise (pairwise_ids s.outbox _) houtbox,
    strictMonoOn_of_pairwise (pairwise_ids s.alerts _) halerts⟩

/-! ## Extending a renaming -/

/-- The references of a part lead into it. -/
structure JobPart.Closed (p : JobPart) : Prop where
  observation : ∀ o ∈ p.observations, o.runId ∈ p.runIds
  transition : ∀ t ∈ p.transitions, t.runId ∈ p.runIds
  outbox : ∀ n ∈ p.outbox, n.transitionId ∈ p.transitionIds

lemma Separated.closed {db : Database} (hs : Separated db) (jobId : String) :
    (db.part jobId).Closed where
  observation o ho := of_decide_eq_true (List.mem_filter.mp ho).2
  transition t ht := of_decide_eq_true (List.mem_filter.mp ht).2
  outbox n hn := by
    obtain ⟨hmem, rfl⟩ := mem_part_outbox.mp hn
    exact hs.outbox_owned n hmem

/-- The ids of a part are below the next ones. -/
structure JobPart.Below (p : JobPart) (b : Bases) : Prop where
  run : ∀ i ∈ p.runIds, i < b.run
  transition : ∀ i ∈ p.transitionIds, i < b.transition
  outbox : ∀ i ∈ p.outboxIds, i < b.outbox
  alert : ∀ i ∈ p.alertIds, i < b.alert

lemma Database.below (db : Database) (jobId : String) : (db.part jobId).Below db.bases where
  run := List.forall_mem_map.mpr fun _ h => RowTable.rowId_lt_nextId (List.mem_filter.mp h).1
  transition := List.forall_mem_map.mpr fun _ h =>
    RowTable.rowId_lt_nextId (List.mem_filter.mp h).1
  outbox := List.forall_mem_map.mpr fun _ h => RowTable.rowId_lt_nextId (List.mem_filter.mp h).1
  alert := List.forall_mem_map.mpr lt_nextId_of_jobAlerts

/-- Ids below `base` are renamed by `f`; the ids from `base` on become those from `base'` on. -/
def extendFrom (base base' : ℕ) (f : ℕ → ℕ) (i : ℕ) : ℕ :=
  if i < base then f i else base' + (i - base)

lemma extendFrom_of_lt {base base' i : ℕ} {f : ℕ → ℕ} (h : i < base) :
    extendFrom base base' f i = f i := if_pos h

@[simp] lemma extendFrom_add (base base' d : ℕ) (f : ℕ → ℕ) :
    extendFrom base base' f (base + d) = base' + d := by
  simp [extendFrom]

@[simp] lemma extendFrom_self (base base' : ℕ) (f : ℕ → ℕ) :
    extendFrom base base' f base = base' := by
  simp [extendFrom]

/-- The renaming, extended to the ids that the two sides hand out next. -/
def Renaming.extend (f : Renaming) (b b' : Bases) : Renaming where
  run := extendFrom b.run b'.run f.run
  transition := extendFrom b.transition b'.transition f.transition
  outbox := extendFrom b.outbox b'.outbox f.outbox
  alert := extendFrom b.alert b'.alert f.alert

/-- **An extension moves no old row.** -/
lemma rename_extend {p : JobPart} (hc : p.Closed) {b : Bases} (hb : p.Below b) (f : Renaming)
    (b' : Bases) : p.rename (f.extend b b') = p.rename f := by
  have hrun : ∀ i ∈ p.runIds, (f.extend b b').run i = f.run i := fun i hi =>
    extendFrom_of_lt (hb.run i hi)
  have htransition : ∀ i ∈ p.transitionIds, (f.extend b b').transition i = f.transition i :=
    fun i hi => extendFrom_of_lt (hb.transition i hi)
  have houtbox : ∀ i ∈ p.outboxIds, (f.extend b b').outbox i = f.outbox i := fun i hi =>
    extendFrom_of_lt (hb.outbox i hi)
  have halert : ∀ i ∈ p.alertIds, (f.extend b b').alert i = f.alert i := fun i hi =>
    extendFrom_of_lt (hb.alert i hi)
  refine JobPart.ext ?_ ?_ ?_ ?_ rfl ?_
  · refine List.map_congr_left fun r hr => ?_
    rw [CheckRun.rename, hrun r.id (List.mem_map_of_mem hr), CheckRun.rename]
  · refine List.map_congr_left fun o ho => ?_
    rw [Observation.rename, hrun o.runId (hc.observation o ho), Observation.rename]
  · refine List.map_congr_left fun t ht => ?_
    rw [TransitionRow.rename, htransition t.id (List.mem_map_of_mem ht),
      hrun t.runId (hc.transition t ht), TransitionRow.rename]
  · refine List.map_congr_left fun n hn => ?_
    rw [OutboxRow.rename, houtbox n.id (List.mem_map_of_mem hn),
      htransition n.transitionId (hc.outbox n hn), OutboxRow.rename]
  · refine List.map_congr_left fun a ha => ?_
    rw [AlertRow.rename, halert a.id (List.mem_map_of_mem ha), AlertRow.rename]

/-- A batch of new rows under other ids. -/
lemma map_zipIdx_shift {β γ : Type} (mk mk' : β → ℕ → γ) (r : γ → γ) {n n' : ℕ}
    (h : ∀ x d, r (mk x (n + d)) = mk' x (n' + d)) (l : List β) :
    ((l.zipIdx n).map fun q => mk q.1 q.2).map r = (l.zipIdx n').map fun q => mk' q.1 q.2 := by
  induction l generalizing n n' with
  | nil => rfl
  | cons x l ih =>
      have hnext : ∀ y d, r (mk y (n + 1 + d)) = mk' y (n' + 1 + d) := by
        intro y d
        rw [Nat.add_right_comm, Nat.add_assoc, h, Nat.add_right_comm, Nat.add_assoc]
      simp only [List.zipIdx_cons, List.map_cons, ih hnext]
      rw [← Nat.add_zero n, h x 0]
      rfl

/-! ## Adding rows -/

section Adding

variable {p : JobPart} {b b' : Bases} {jobId : String}

lemma outboxEntries_shift (plan : NotificationPlan) (f : ℕ → ℕ) (n n' : ℕ)
    (ts : List OpportunityTransition) :
    (outboxEntries plan n ts).map (fun e => (extendFrom n n' f e.1, e.2))
      = outboxEntries plan n' ts := by
  have general : ∀ d, (outboxEntries plan (n + d) ts).map (fun e => (extendFrom n n' f e.1, e.2))
      = outboxEntries plan (n' + d) ts := by
    induction ts with
    | nil => simp [outboxEntries]
    | cons t ts ih =>
        intro d
        rw [outboxEntries, outboxEntries, List.map_append, Nat.add_assoc, ih, Nat.add_assoc]
        refine congrArg (· ++ _) ?_
        split_ifs
        · simp [List.map_map]
        · rfl
  exact general 0

lemma alerts_without_rename (f : Renaming) (alerts : List AlertRow) (alertKey : String) :
    (alerts.map (AlertRow.rename f)).filter (fun a => a.alertKey ≠ alertKey)
      = (alerts.filter fun a => a.alertKey ≠ alertKey).map (AlertRow.rename f) := by
  rw [List.filter_map]
  rfl

/-- A part with another status row and other alerts. -/
lemma rename_with {f g : Renaming} (hold : p.rename g = p.rename f) (status : Option JobStatusRow)
    {alerts alerts' : List AlertRow} (h : alerts.map (AlertRow.rename g) = alerts') :
    { p.rename f with status := status, alerts := alerts' }
      = ({ p with status := status, alerts := alerts } : JobPart).rename g := by
  rw [← hold, ← h]
  rfl

/-- **A recorded success** commutes with renaming. -/
lemma rename_recorded (hc : p.Closed) (hb : p.Below b) (f : Renaming) (result : CheckResult)
    (plan : NotificationPlan) (ts : List OpportunityTransition) {rows : List Observation}
    (hrows : ∀ o ∈ rows, o.runId = b.run) :
    (p.rename f).recorded b' jobId result plan ts
        (rows.map fun o => { o with runId := b'.run })
      = (p.recorded b jobId result plan ts rows).rename (f.extend b b') := by
  have hold := rename_extend hc hb f b'
  refine JobPart.ext ?_ ?_ ?_ ?_ rfl ?_
  · have hruns : p.runs.map (CheckRun.rename (f.extend b b')) = p.runs.map (CheckRun.rename f) :=
      congrArg JobPart.runs hold
    simp only [JobPart.recorded, JobPart.rename, List.map_append, hruns]
    simp [CheckRun.rename, checkRunRow, Renaming.extend]
  · have hobservations : p.observations.map (Observation.rename (f.extend b b'))
        = p.observations.map (Observation.rename f) := congrArg JobPart.observations hold
    simp only [JobPart.recorded, JobPart.rename, List.map_append, hobservations]
    refine congrArg _ (List.map_congr_left fun o ho => ?_)
    simp [Observation.rename, hrows o ho, Renaming.extend]
  · have htransitions : p.transitions.map (TransitionRow.rename (f.extend b b'))
        = p.transitions.map (TransitionRow.rename f) := congrArg JobPart.transitions hold
    simp only [JobPart.recorded, JobPart.rename, List.map_append, htransitions]
    refine congrArg _ (map_zipIdx_shift (transitionRow b.run) (transitionRow b'.run) _ ?_ ts).symm
    intro t d
    simp [TransitionRow.rename, transitionRow, Renaming.extend]
  · have houtbox : p.outbox.map (OutboxRow.rename (f.extend b b'))
        = p.outbox.map (OutboxRow.rename f) := congrArg JobPart.outbox hold
    simp only [JobPart.recorded, JobPart.rename, List.map_append, houtbox]
    rw [← outboxEntries_shift plan f.transition b.transition b'.transition ts, List.zipIdx_map,
      List.map_map]
    refine congrArg _ (map_zipIdx_shift (entryRow jobId result.checkedAt) (fun e => entryRow jobId
      result.checkedAt (extendFrom b.transition b'.transition f.transition e.1, e.2)) _ ?_ _).symm
    intro e d
    simp [OutboxRow.rename, entryRow, outboxRow, Renaming.extend]
  · have halerts : p.alerts.map (AlertRow.rename (f.extend b b'))
        = p.alerts.map (AlertRow.rename f) := congrArg JobPart.alerts hold
    simp only [JobPart.recorded, JobPart.rename]
    rw [← halerts, alerts_without_rename]

/-- New alerts under other ids. -/
lemma alerts_enqueued_rename (hc : p.Closed) (hb : p.Below b) (f : Renaming)
    (alertKey title detail : String) (createdAt : Datetime) (channels : List String) :
    (p.alerts ++ (channels.zipIdx b.alert).map fun q =>
        alertRow alertKey jobId title detail createdAt q.1 q.2).map
          (AlertRow.rename (f.extend b b'))
      = p.alerts.map (AlertRow.rename f) ++ (channels.zipIdx b'.alert).map fun q =>
          alertRow alertKey jobId title detail createdAt q.1 q.2 := by
  have halerts : p.alerts.map (AlertRow.rename (f.extend b b'))
      = p.alerts.map (AlertRow.rename f) := congrArg JobPart.alerts (rename_extend hc hb f b')
  rw [List.map_append, halerts]
  refine congrArg _ (map_zipIdx_shift (alertRow alertKey jobId title detail createdAt)
    (alertRow alertKey jobId title detail createdAt) _ ?_ channels)
  intro c d
  simp [AlertRow.rename, alertRow, Renaming.extend]

/-- **A recorded failure** commutes with renaming. -/
lemma rename_failed (hc : p.Closed) (hb : p.Below b) (f : Renaming) (b' : Bases) (raised : Bool)
    (error : String) (occurredAt : Datetime) (channels : List String) (row : JobStatusRow) :
    (p.rename f).failed raised b'.alert jobId error occurredAt channels row
      = (p.failed raised b.alert jobId error occurredAt channels row).rename (f.extend b b') := by
  have hold := rename_extend hc hb f b'
  rw [JobPart.failed, JobPart.failed]
  split_ifs
  · exact rename_with hold _ (alerts_enqueued_rename hc hb f _ _ _ _ channels)
  · exact rename_with hold _ (congrArg JobPart.alerts hold)

/-- The backlog query does not look at ids. -/
lemma backlogRow_rename (f : Renaming) (p : JobPart) (s : JobStatusRow) :
    (p.rename f).backlogRow s = p.backlogRow s := by
  have hpending : (p.rename f).outbox.filter OutboxRow.pending
      = (p.outbox.filter OutboxRow.pending).map (OutboxRow.rename f) := List.filter_map
  rw [JobPart.backlogRow, hpending, JobPart.backlogRow, List.length_map, List.map_map]
  rfl

lemma raises_rename (f : Renaming) (p : JobPart) (alertAfter : ℤ) :
    (p.rename f).raises alertAfter ↔ p.raises alertAfter := by
  simp only [JobPart.raises, backlogRow_rename]
  rfl

lemma clears_rename (f : Renaming) (p : JobPart) (alertAfter : ℤ) :
    (p.rename f).clears alertAfter ↔ p.clears alertAfter := by
  simp only [JobPart.clears, backlogRow_rename]
  rfl

/-- **An evaluation** commutes with renaming. -/
lemma rename_evaluated (hc : p.Closed) (hb : p.Below b) (f : Renaming) (b' : Bases) (alertAfter : ℤ)
    (channels : List String) (now : String → Datetime) :
    (p.rename f).evaluated alertAfter channels now b'.alert
      = (p.evaluated alertAfter channels now b.alert).rename (f.extend b b') := by
  have hold := rename_extend hc hb f b'
  have hstatus : (p.rename f).status = p.status := rfl
  rw [JobPart.evaluated, JobPart.evaluated, hstatus]
  cases p.status with
  | none => exact hold.symm
  | some s =>
      dsimp only
      rw [backlogRow_rename]
      refine rename_with hold _ ?_
      rw [JobPart.evaluatedAlerts, JobPart.evaluatedAlerts]
      split_ifs
      · exact alerts_enqueued_rename hc hb f _ _ _ _ channels
      · rw [← alerts_without_rename]
        exact congrArg (List.filter _) (congrArg JobPart.alerts hold)
      · exact congrArg JobPart.alerts hold

end Adding

/-! ## Selecting rows -/

section Selecting

variable {p : JobPart} {f : Renaming}

/-- On the ids of a part, a renaming that preserves the order moves no two to one. -/
lemma map_eq_iff {g : ℕ → ℕ} {ids : List ℕ} (hg : StrictMonoOn g {i | i ∈ ids}) {i j : ℕ}
    (hi : i ∈ ids) (hj : j ∈ ids) : g i = g j ↔ i = j :=
  hg.injOn.eq_iff hi hj

lemma mem_map_iff {g : ℕ → ℕ} {ids : List ℕ} (hg : StrictMonoOn g {i | i ∈ ids}) {l : List ℕ}
    (hl : l ⊆ ids) {i : ℕ} (hi : i ∈ ids) : g i ∈ l.map g ↔ i ∈ l := by
  rw [List.mem_map]
  constructor
  · rintro ⟨j, hj, hji⟩
    exact (map_eq_iff hg (hl hj) hi).mp hji ▸ hj
  · exact fun h => ⟨i, h, rfl⟩

/-- A selection of renamed rows. -/
lemma filter_rename {α : Type} {rename : α → α} {q q' : α → Bool} {l : List α}
    (h : ∀ a ∈ l, q' (rename a) = q a) :
    (l.map rename).filter q' = (l.filter q).map rename := by
  rw [List.filter_map]
  exact congrArg _ (List.filter_congr h)

/-- An update of renamed rows. -/
lemma map_update_rename {α : Type} {rename g : α → α} {q q' : α → Bool} {l : List α}
    (hq : ∀ a ∈ l, q' (rename a) = q a) (hg : ∀ a, g (rename a) = rename (g a)) :
    ((l.map rename).map fun a => if q' a then g a else a)
      = (l.map fun a => if q a then g a else a).map rename := by
  rw [List.map_map, List.map_map]
  refine List.map_congr_left fun a ha => ?_
  simp only [Function.comp_apply, hq a ha]
  split
  · exact hg a
  · rfl

lemma holdsPending_rename (hc : p.Closed) (hf : f.Increasing p) {run : CheckRun}
    (hrun : run ∈ p.runs) : (p.rename f).holdsPending (run.rename f) = p.holdsPending run := by
  have hinner : ∀ t ∈ p.transitions, ((p.rename f).outbox.any fun n =>
      n.transitionId == (t.rename f).id && n.pending)
        = p.outbox.any fun n => n.transitionId == t.id && n.pending := by
    intro t ht
    rw [JobPart.rename, List.any_map, Bool.eq_iff_iff, List.any_eq_true, List.any_eq_true]
    refine exists_congr fun n => and_congr_right fun hn => ?_
    simp only [Function.comp_apply, Bool.and_eq_true, beq_iff_eq]
    exact and_congr_left fun _ =>
      map_eq_iff hf.transition (hc.outbox n hn) (List.mem_map_of_mem ht)
  rw [JobPart.holdsPending, JobPart.holdsPending, Bool.eq_iff_iff, List.any_eq_true,
    List.any_eq_true]
  constructor
  · rintro ⟨t', ht', h⟩
    obtain ⟨t, ht, rfl⟩ := List.mem_map.mp ht'
    rw [hinner t ht, Bool.and_eq_true, beq_iff_eq] at h
    refine ⟨t, ht, ?_⟩
    rw [Bool.and_eq_true, beq_iff_eq]
    exact ⟨(map_eq_iff hf.run (hc.transition t ht) (List.mem_map_of_mem hrun)).mp h.1, h.2⟩
  · rintro ⟨t, ht, h⟩
    rw [Bool.and_eq_true, beq_iff_eq] at h
    refine ⟨t.rename f, List.mem_map_of_mem ht, ?_⟩
    rw [hinner t ht, Bool.and_eq_true, beq_iff_eq]
    exact ⟨congrArg f.run h.1, h.2⟩

lemma expiredRun_rename (hc : p.Closed) (hf : f.Increasing p) (before : Datetime) {run : CheckRun}
    (hrun : run ∈ p.runs) :
    (p.rename f).expiredRun before (run.rename f) = p.expiredRun before run := by
  have hlast : (p.rename f).runs.getLast?.map CheckRun.id = some (run.rename f).id ↔
      p.runs.getLast?.map CheckRun.id = some run.id := by
    rw [JobPart.rename, List.getLast?_map]
    cases h : p.runs.getLast? with
    | none => simp
    | some r =>
        simp only [Option.map_some, Option.some.injEq]
        exact map_eq_iff hf.run (List.mem_map_of_mem (List.mem_of_getLast? h))
          (List.mem_map_of_mem hrun)
  rw [JobPart.expiredRun, JobPart.expiredRun, holdsPending_rename hc hf hrun]
  simp only [ne_eq, hlast]
  rfl

lemma expiredRunIds_rename (hc : p.Closed) (hf : f.Increasing p) (before : Datetime) :
    (p.rename f).expiredRunIds before = (p.expiredRunIds before).map f.run := by
  have hruns : (p.rename f).runs.filter ((p.rename f).expiredRun before)
      = (p.runs.filter (p.expiredRun before)).map (CheckRun.rename f) :=
    filter_rename fun r hr => expiredRun_rename hc hf before hr
  rw [JobPart.expiredRunIds, hruns, JobPart.expiredRunIds, List.map_map, List.map_map]
  rfl

/-- Whether a run has expired does not depend on the ids. -/
lemma mem_expiredRunIds_rename (hc : p.Closed) (hf : f.Increasing p) (before : Datetime) {i : ℕ}
    (hi : i ∈ p.runIds) :
    f.run i ∈ (p.rename f).expiredRunIds before ↔ i ∈ p.expiredRunIds before := by
  rw [expiredRunIds_rename hc hf]
  exact mem_map_iff hf.run (List.map_subset _ (List.filter_subset_self _)) hi

lemma mem_expiredTransitionIds_rename (hc : p.Closed) (hf : f.Increasing p) (before : Datetime)
    {i : ℕ} (hi : i ∈ p.transitionIds) :
    f.transition i ∈ (p.rename f).expiredTransitionIds before ↔
      i ∈ p.expiredTransitionIds before := by
  have htransitions : ((p.rename f).transitions.filter fun t =>
      t.runId ∈ (p.rename f).expiredRunIds before)
        = (p.transitions.filter fun t => t.runId ∈ p.expiredRunIds before).map
            (TransitionRow.rename f) :=
    filter_rename fun t ht => decide_eq_decide.mpr
      (mem_expiredRunIds_rename hc hf before (hc.transition t ht))
  have hids : (p.rename f).expiredTransitionIds before
      = (p.expiredTransitionIds before).map f.transition := by
    rw [JobPart.expiredTransitionIds, htransitions, JobPart.expiredTransitionIds, List.map_map,
      List.map_map]
    rfl
  rw [hids]
  exact mem_map_iff hf.transition (List.map_subset _ (List.filter_subset_self _)) hi

/-- **A retention pass** commutes with renaming. -/
lemma rename_pruned (hc : p.Closed) (hf : f.Increasing p)
    (observationsBefore notificationsBefore : Datetime) :
    (p.rename f).pruned observationsBefore notificationsBefore
      = (p.pruned observationsBefore notificationsBefore).rename f := by
  refine JobPart.ext ?_ ?_ ?_ ?_ rfl rfl
  · refine filter_rename fun r hr => ?_
    rw [expiredRun_rename hc hf _ hr]
  · exact filter_rename fun o ho => decide_eq_decide.mpr
      (not_congr (mem_expiredRunIds_rename hc hf _ (hc.observation o ho)))
  · exact filter_rename fun t ht => decide_eq_decide.mpr
      (not_congr (mem_expiredRunIds_rename hc hf _ (hc.transition t ht)))
  · refine filter_rename fun n hn => ?_
    have hexpired := mem_expiredTransitionIds_rename hc hf observationsBefore (hc.outbox n hn)
    exact congrArg (fun b => !(completedBefore notificationsBefore n || b))
      (decide_eq_decide.mpr hexpired)

/-- The row that a call names, under both ids. -/
lemma isPendingId_rename (hf : f.Increasing p) {id : ℕ} (hid : id ∈ p.outboxIds) :
    ∀ n ∈ p.outbox, isPendingId (f.outbox id) (n.rename f) = isPendingId id n := by
  intro n hn
  rw [isPendingId, isPendingId, Bool.eq_iff_iff, Bool.and_eq_true, Bool.and_eq_true, beq_iff_eq,
    beq_iff_eq]
  exact and_congr_left fun _ => map_eq_iff hf.outbox (List.mem_map_of_mem hn) hid

lemma isPendingAlertId_rename (hf : f.Increasing p) {id : ℕ} (hid : id ∈ p.alertIds) :
    ∀ a ∈ p.alerts, isPendingAlertId (f.alert id) (a.rename f) = isPendingAlertId id a := by
  intro a ha
  rw [isPendingAlertId, isPendingAlertId, Bool.eq_iff_iff, Bool.and_eq_true, Bool.and_eq_true,
    beq_iff_eq, beq_iff_eq]
  exact and_congr_left fun _ => map_eq_iff hf.alert (List.mem_map_of_mem ha) hid

/-- Whether a call finds its row does not depend on the ids. -/
lemma exists_mem_rename {α : Type} {rename : α → α} {q q' : α → Bool} {l : List α}
    (h : ∀ a ∈ l, q' (rename a) = q a) :
    (∃ a ∈ l.map rename, q' a = true) ↔ ∃ a ∈ l, q a = true := by
  constructor
  · rintro ⟨_, hmem, hq⟩
    obtain ⟨a, ha, rfl⟩ := List.mem_map.mp hmem
    exact ⟨a, ha, (h a ha).symm.trans hq⟩
  · rintro ⟨a, ha, hq⟩
    exact ⟨rename a, List.mem_map_of_mem ha, (h a ha).trans hq⟩

/-- **A call on an outbox row** commutes with renaming. -/
lemma rename_notificationUpdated (hf : f.Increasing p) {id : ℕ} (hid : id ∈ p.outboxIds)
    {g : OutboxRow → OutboxRow} (hg : ∀ n, g (n.rename f) = (g n).rename f) :
    (p.rename f).notificationUpdated (f.outbox id) g = (p.notificationUpdated id g).rename f :=
  JobPart.ext rfl rfl rfl (map_update_rename (isPendingId_rename hf hid) hg) rfl rfl

/-- **A call on an alert** commutes with renaming. -/
lemma rename_alertUpdated (hf : f.Increasing p) {id : ℕ} (hid : id ∈ p.alertIds) (time : Datetime)
    (error : Option String) :
    (p.rename f).alertUpdated (f.alert id) time error
      = (p.alertUpdated id time error).rename f := by
  refine JobPart.ext rfl rfl rfl rfl rfl ?_
  refine map_update_rename (isPendingAlertId_rename hf hid) fun a => ?_
  cases error <;> rfl

end Selecting

end WebChecker
