import WebChecker.Core.Deliveries
import WebChecker.Core.Transactions
import WebChecker.Storage.Edges

/-!
# What is announced is what was found

End to end, the program turns the results of drivers into notifications.  The results that are
recorded in a life of the worker make a list of selected edges for every job (`selectedEdges` of
`Scheduler.commits`), and the notifications are exactly those:

* `sent_edges` — whatever is sent announces a selected edge, also after rows have been pruned and
  their ids have been assigned again.
* `edges_covered` — every selected edge is in an undelivered row or has been sent, if retention
  spares the rows that tasks are about to send.
-/

namespace WebChecker

open Relational Results Runs Dispatch

/-- The notification announces the edge, for its own job and under its own id. -/
def PendingNotification.AnnouncesEdge (n : PendingNotification) (edge : SelectedEdge) : Prop :=
  { n with attempts := 0 } = edge.notification n.jobId n.id

namespace Lifecycle

/-! ## What is sent -/

/-- What tasks are going to send is in `P`, and what has been sent is in `Q`. -/
structure Told (P Q : PendingNotification → Prop) (s : Lifecycle) : Prop where
  held : ∀ j, ∀ n ∈ (s.worker.tasks j).held, P n
  told : ∀ n ∈ s.sent ++ s.interrupted, Q n

section Told

variable {P Q : PendingNotification → Prop} {s : Lifecycle}

lemma told_start : Told P Q (start .empty) where
  held j n hn := by simp [start, Worker.start, JobTask.held, JobTask.pass, Pass.held] at hn
  told n hn := by simp [start] at hn

lemma mem_held_of_sending {task : JobTask} {n : PendingNotification} (h : task.sending = some n) :
    n ∈ task.held := by
  rw [JobTask.sending] at h
  split at h
  · next item now todo hpass =>
    rw [Option.some.injEq] at h
    rw [JobTask.held, hpass, ← h]
    exact List.mem_cons_self
  · cases h

lemma Told.abandon (h : s.Told P Q) (hPQ : ∀ n, P n → Q n) (arrived : String → Bool) :
    (s.abandon arrived).Told P Q := by
  constructor
  · simp [Lifecycle.abandon, JobTask.held, JobTask.pass, Pass.held]
  · intro n hn
    simp only [Lifecycle.abandon, List.mem_append] at hn
    rcases hn with hn | hn | hn
    · exact h.told n (List.mem_append_left _ hn)
    · exact h.told n (List.mem_append_right _ hn)
    · obtain ⟨j, _, hsending⟩ := List.mem_filterMap.mp hn
      exact hPQ n (h.held j n (mem_held_of_sending hsending))

/-- Another worker, whose changed task goes on with what is in `P`. -/
lemma Told.task (h : s.Told P Q) {w' : Worker} {jobId : String} {task : JobTask}
    (htasks : w'.tasks = Function.update s.worker.tasks jobId task)
    (hheld : ∀ n ∈ task.held, P n) : ({ s with worker := w' } : Lifecycle).Told P Q := by
  refine ⟨?_, h.told⟩
  rw [htasks]
  exact forall_held_update (P := fun items => ∀ n ∈ items, P n) h.held hheld

lemma Told.returned (h : s.Told P Q) {n : Option PendingNotification} (hn : ∀ m ∈ n, Q m) :
    (s.returned n).Told P Q := by
  refine ⟨h.held, fun m hm => ?_⟩
  simp only [Lifecycle.returned, List.mem_append, Option.mem_toList] at hm
  rcases hm with (hm | hm) | hm
  · exact h.told m (List.mem_append_left _ hm)
  · exact hn m hm
  · exact h.told m (List.mem_append_right _ hm)

section Step

variable (hc : Consistent s.worker.db) (hlisted : ∀ n, Announces s.worker.db n → P n)
  {scheduler : Scheduler}

include hc hlisted

/-- What a pass has sent and what it holds after a step. -/
lemma Told.pass (h : s.Told P Q) {jobId : String} {job : ScheduledJob} {x : CheckAttempt}
    {db : Database} {a : PassStep Datetime String}
    {pass pass' : Pass PendingNotification Datetime StorageError}
    (htask : s.worker.tasks jobId = .dispatching job x pass)
    (heffect : (notificationOutbox scheduler.notifiers dispatchLimit).Effect s.worker.db pass a db
      pass') :
    (∀ n ∈ pass.delivers a, P n) ∧ ∀ n ∈ pass'.held, P n := by
  have hpass : ∀ n ∈ pass.held, P n := by
    intro n hn
    refine h.held jobId n ?_
    rwa [htask]
  refine ⟨fun n hn => hpass n (Pass.mem_held_of_delivers hn), fun n hn => ?_⟩
  rcases heffect.held hn with hn | ⟨items, hlist, hn⟩
  · exact hpass n hn
  · exact hlisted n (announces_of_listed hc hlist hn)

/-- **Every step** takes up what is listed, and sends what has been taken up. -/
lemma Told.step (h : s.Told P Q) (hPQ : ∀ n, P n → Q n) (hown : scheduler.Owned s.worker)
    {s' : Lifecycle} {act : LifecycleAction} (heffect : scheduler.LifecycleEffect s act s') :
    s'.Told P Q := by
  have hnothing : ∀ {task : JobTask}, task.held = [] → ∀ n ∈ task.held, P n := by
    intro task hheld n hn
    rw [hheld] at hn
    cases hn
  cases heffect with
  | @stepped a w hstage heffect =>
      cases delivery_of_effect hc hown heffect with
      | @quiet jobId task hbooks hkeeps htasks hheld =>
          obtain ⟨hsent, _, hinterrupted⟩ := hbooks
          refine ⟨(h.task htasks (hnothing hheld)).held, ?_⟩
          simpa only [hsent, hinterrupted] using h.told
      | @dispatched jobId job x pass a' db pass' task scheduler' htask heffect hobserve hkeeps
          htasks hheld =>
          obtain ⟨hdelivers, hpass'⟩ := h.pass hc hlisted htask heffect
          rw [hobserve]
          refine (h.returned fun n hn => hPQ n (hdelivers n hn)).task htasks ?_
          rcases hheld with hheld | hheld
          · exact hnothing hheld
          · rwa [hheld]
  | @diedAfter jobId a arrived job x pass db pass' hstage htask heffect =>
      obtain ⟨hdelivers, hpass'⟩ := h.pass hc hlisted htask heffect
      refine Told.abandon ?_ hPQ arrived
      exact (h.returned fun n hn => hPQ n (hdelivers n hn)).task
        (tasks_halfDispatched jobId job x (pass.delivers a) db pass') hpass'
  | died => exact h.abandon hPQ _
  | @timedOut arrived => exact ⟨(h.abandon hPQ arrived).held, (h.abandon hPQ arrived).told⟩
  | stopping => exact ⟨h.held, h.told⟩
  | drained => exact ⟨h.held, h.told⟩
  | booted => exact ⟨h.held, h.told⟩
  | pruned => exact ⟨h.held, h.told⟩

end Step

end Told

/-! ## The edges of a life -/

/-- The edges that the snapshots recorded for a job in a life select. -/
def edges (scheduler : Scheduler) (acts : List LifecycleAction) (jobId : String) :
    List SelectedEdge :=
  selectedEdges none (scheduler.commits jobId (start .empty) acts)

section Edges

variable {scheduler : Scheduler} {acts : List LifecycleAction} {s : Lifecycle}

lemma consistent_run (hrun : scheduler.lifecycle.run (start .empty) acts = some s) :
    Consistent s.worker.db := by
  obtain ⟨ops, hexec, _⟩ := holds_run hrun
  exact Reachable.consistent ⟨ops, hexec⟩

/-- The notification announces an edge of the life. -/
def OnEdge (scheduler : Scheduler) (acts : List LifecycleAction) (n : PendingNotification) : Prop :=
  ∃ edge ∈ edges scheduler acts n.jobId, n.AnnouncesEdge edge

/-- Every row of the outbox announces an edge of the life. -/
lemma onEdge_of_announces (hrun : scheduler.lifecycle.run (start .empty) acts = some s)
    {n : PendingNotification} (hn : Announces s.worker.db n) : OnEdge scheduler acts n := by
  obtain ⟨ops, hexec, hcommits⟩ := holds_run hrun
  obtain ⟨r, hr, hann⟩ := hn
  obtain ⟨edge, hedge, hannounces⟩ := outboxOfEdges_run ops r (hexec ▸ hr)
  have hjob : r.jobId = n.jobId := congrArg PendingNotification.jobId hann
  have hid : r.id = n.id := congrArg PendingNotification.id hann
  rw [hcommits, hjob] at hedge
  rw [OutboxRow.AnnouncesEdge, hann, hjob, hid] at hannounces
  exact ⟨edge, hedge, hannounces⟩

/-- Edges of a life stay edges of it. -/
lemma OnEdge.append {n : PendingNotification} (h : OnEdge scheduler acts n)
    (hrun : scheduler.lifecycle.run (start .empty) acts = some s) (more : List LifecycleAction) :
    OnEdge scheduler (acts ++ more) n := by
  obtain ⟨edge, hedge, hannounces⟩ := h
  refine ⟨edge, ?_, hannounces⟩
  rw [edges, Scheduler.commits, Process.collect_append _ hrun, List.filterMap_append]
  exact mem_selectedEdges_append hedge _

end Edges

end Lifecycle

/-- **Nothing is announced that was not found.**  In every life of a worker, over any number of
processes that are stopped or die at any point and with any retention passes: whatever is sent, also
in a send that is cut off, announces a transition between two snapshots of its job that were
recorded one after the other, one that the plan of the job selects, on a channel of the plan. -/
theorem sent_edges {scheduler : Scheduler} {acts : List LifecycleAction} {s : Lifecycle}
    (hrun : scheduler.lifecycle.run (.start .empty) acts = some s) :
    ∀ n ∈ s.sent ++ s.interrupted,
      ∃ edge ∈ Lifecycle.edges scheduler acts n.jobId, n.AnnouncesEdge edge := by
  refine (Process.run_induction
    (P := fun acts s => scheduler.lifecycle.run (.start .empty) acts = some s ∧
      Lifecycle.Inv scheduler s ∧ s.Told (Lifecycle.OnEdge scheduler acts)
        (Lifecycle.OnEdge scheduler acts))
    ⟨rfl, Lifecycle.inv_start scheduler .empty, Lifecycle.told_start⟩ ?_ hrun).2.2.told
  rintro acts s act s' ⟨hrun, inv, h⟩ hstep
  refine ⟨Process.run_append hrun (by simp [Process.run, hstep]), inv.step hstep, ?_⟩
  have h' := h.step (Lifecycle.consistent_run hrun) (fun n => Lifecycle.onEdge_of_announces hrun)
    (fun _ => id) inv.owned (Scheduler.lifecycleEffect_of_step hstep)
  exact ⟨fun j n hn => (h'.held j n hn).append hrun [act],
    fun n hn => (h'.told n hn).append hrun [act]⟩

/-- The notification whose send the death of the process cut off, and the one sent instead. -/
theorem sent_edges_interrupted :
    ∃ s, twoJobs.lifecycle.run (.start .empty) interruptedLife = some s ∧
      (s.sent ++ s.interrupted).map PendingNotification.jobId = ["swim", "swim"] ∧
      ∀ n ∈ s.sent ++ s.interrupted,
        ∃ edge ∈ Lifecycle.edges twoJobs interruptedLife n.jobId, n.AnnouncesEdge edge := by
  have hlife : (twoJobs.lifecycle.run (.start .empty) interruptedLife).map (fun s =>
      (s.sent ++ s.interrupted).map PendingNotification.jobId) = some ["swim", "swim"] := by
    decide +kernel
  obtain ⟨s, hs, htold⟩ := Option.map_eq_some_iff.mp hlife
  exact ⟨s, hs, htold, sent_edges hs⟩

/-! ## Every edge is announced -/

/-- What an undelivered row becomes: it stays undelivered, or what it announces is among the
notifications. -/
def CarriesOn (db db' : Database) (sent : List PendingNotification) : Prop :=
  ∀ r ∈ db.outbox.rows, r.pending = true →
    (∃ r' ∈ db'.outbox.rows, r'.announcement = r.announcement ∧ r'.pending = true) ∨
      ∃ n ∈ sent, notificationOf r.announcement = { n with attempts := 0 }

section CarriesOn

variable {db db' db'' : Database} {sent : List PendingNotification}

lemma CarriesOn.mono {more : List PendingNotification} (h : CarriesOn db db' sent)
    (hsub : sent ⊆ more) : CarriesOn db db' more := by
  intro r hr hp
  exact (h r hr hp).imp_right fun ⟨n, hn, hann⟩ => ⟨n, hsub hn, hann⟩

lemma KeepsOutbox.carriesOn (h : KeepsOutbox db db') : CarriesOn db db' sent := by
  intro r hr hp
  obtain ⟨r', hr', hann, hpending⟩ := h.rows r hr
  exact Or.inl ⟨r', hr', hann, hpending.trans hp⟩

lemma CarriesOn.trans_keeps (h : CarriesOn db db' sent) (hkeeps : KeepsOutbox db' db'') :
    CarriesOn db db'' sent := by
  intro r hr hp
  refine (h r hr hp).imp_left ?_
  rintro ⟨r', hr', hann, hp'⟩
  obtain ⟨r'', hr'', hann', hpending⟩ := hkeeps.rows r' hr'
  exact ⟨r'', hr'', hann'.trans hann, hpending.trans hp'⟩

/-- A retention pass removes delivered rows only. -/
lemma carriesOn_prune (hc : Consistent db) (observationsBefore notificationsBefore : Datetime) :
    CarriesOn db (prune db observationsBefore notificationsBefore).2 sent := by
  intro r hr hp
  have heffect : OpEffect db (.prune observationsBefore notificationsBefore) _ _ :=
    applyOp_effect hc (.prune observationsBefore notificationsBefore)
  obtain ⟨r', hr', hann, _, hdelivered⟩ := heffect.pending_row hr hp
  exact Or.inl ⟨r', hr', hann, by rw [OutboxRow.pending, hdelivered]; rfl⟩

/-- Delivering a notification that announces its row. -/
lemma carriesOn_delivered (hc : Consistent db) {n : PendingNotification} {time : Datetime}
    (hrecord : recordAttempt db n time none = .ok db') (hn : Announces db n) :
    CarriesOn db db' [n] := by
  intro r hr hp
  have heffect := applyOp_effect hc (attemptOp n.id time none)
  rw [applyOp_attempt hrecord] at heffect
  by_cases hid : r.id = n.id
  · obtain ⟨r₀, hr₀, hann⟩ := hn
    have hid₀ : r₀.id = n.id := congrArg PendingNotification.id hann
    rw [RowTable.eq_of_rowId_eq hr hr₀ (hid.trans hid₀.symm)]
    exact Or.inr ⟨n, List.mem_singleton_self n, hann⟩
  · obtain ⟨r', hr', hann, _, hdelivered⟩ := heffect.pending_row hr hp
    refine Or.inl ⟨r', hr', hann, ?_⟩
    rw [OutboxRow.pending, hdelivered]
    simp [attemptOp, deliversAt, Ne.symm hid]

/-- **A step of a dispatch** delivers what it has sent. -/
lemma carriesOn_pass (hc : Consistent db) {registry : NotifierRegistry}
    {a : PassStep Datetime String} {pass pass' : Pass PendingNotification Datetime StorageError}
    (hheld : ∀ n ∈ pass.held, Announces db n)
    (heffect : (notificationOutbox registry dispatchLimit).Effect db pass a db' pass') :
    CarriesOn db db' (pass.delivers a).toList := by
  cases heffect with
  | @refused n todo now e _ hrefuse hrecord =>
      have hfailed : recordAttempt db n now (some e) = .ok db' := hrecord
      exact (keepsOutbox_failedAttempt hc hfailed).carriesOn
  | @recorded n todo now error _ hrecord =>
      cases error with
      | none => exact carriesOn_delivered hc hrecord (hheld n List.mem_cons_self)
      | some e =>
          have hfailed : recordAttempt db n now (some e) = .ok db' := hrecord
          exact (keepsOutbox_failedAttempt hc hfailed).carriesOn
  | _ => exact (KeepsOutbox.refl db).carriesOn

end CarriesOn

namespace Lifecycle

/-- A retention pass removes no row that a task is about to send. -/
def SparesHeld (s : Lifecycle) : LifecycleAction → Prop
  | .prune observationsBefore notificationsBefore =>
    ∀ j, ∀ n ∈ (s.worker.tasks j).held,
      n.id ∈ (WebChecker.prune s.worker.db observationsBefore notificationsBefore).2.outbox.ids
  | _ => True

section Covered

variable {scheduler : Scheduler} {s s' : Lifecycle}

/-- An operation other than a retention pass changes no row in what it announces. -/
lemma announces_of_effect {db db' : Database} {op : StoreOp} {result : StoreResult}
    (h : OpEffect db op result db') (hprune : ∀ a b, op ≠ .prune a b) {n : PendingNotification}
    (hn : Announces db n) : Announces db' n := by
  refine hn.of_rows fun r hr => ?_
  cases hp : r.pending with
  | true => exact (h.pending_row hr hp).imp fun _ h => ⟨h.1, h.2.1⟩
  | false =>
      rcases h.delivered_row hr hp with ⟨hkeep, _⟩ | ⟨_, a, b, hpruned⟩
      · exact ⟨r, hkeep, rfl⟩
      · exact absurd hpruned (hprune a b)

/-- The same for the operations of a step. -/
lemma announces_of_transacted {db db' : Database} (hc : Consistent db)
    (h : scheduler.Transacted db db') {n : PendingNotification} (hn : Announces db n) :
    Announces db' n := by
  refine (h.keeps (I := fun db => Consistent db ∧ Announces db n) ⟨hc, hn⟩ ?_).2
  rintro db op ⟨hc, hn⟩ hop
  refine ⟨consistent_apply hc op, announces_of_effect (applyOp_effect hc op) ?_ hn⟩
  rintro a b rfl
  exact hop.elim id id

/-- **What tasks are about to send stays in the outbox.** -/
lemma Told.rows (h : s.Told (Announces s.worker.db) fun _ => True) (hc : Consistent s.worker.db)
    (hown : scheduler.Owned s.worker) {act : LifecycleAction} (hspares : s.SparesHeld act)
    (heffect : scheduler.LifecycleEffect s act s') :
    s'.Told (Announces s'.worker.db) fun _ => True := by
  have hheld := (h.step hc (fun _ => id) (fun _ _ => trivial) hown heffect).held
  refine ⟨fun j n hn => ?_, fun _ _ => trivial⟩
  have hn' := hheld j n hn
  cases heffect with
  | stepped hstage heffect =>
      cases Scheduler.commits_of_effect heffect with
      | other hcommit htransacted => exact announces_of_transacted hc htransacted hn'
      | @committed job result outcome hcommit hrecord =>
          have heffect := applyOp_effect hc (.recordSuccess job.id result job.notifications)
          rw [applyOp, hrecord, settle] at heffect
          exact announces_of_effect heffect (by simp) hn'
  | diedAfter hstage htask heffect =>
      have htransacted : scheduler.Transacted s.worker.db _ := Scheduler.transacted_pass heffect
      exact announces_of_transacted hc htransacted hn'
  | @pruned observationsBefore notificationsBefore =>
      obtain ⟨r, hr, hann⟩ := hn'
      obtain ⟨r', hr', hid⟩ := RowTable.mem_ids.mp (hspares j n hn)
      refine ⟨r', hr', ?_⟩
      have hsame : r' = r := RowTable.eq_of_rowId_eq (mem_of_mem_prune hr') hr
        (hid.trans (congrArg PendingNotification.id hann).symm)
      rwa [hsame]
  | _ => exact hn'

/-- **Every step** delivers what it has sent, and forgets nothing that has been sent. -/
lemma carriesOn_of_effect (hheld : ∀ j, ∀ n ∈ (s.worker.tasks j).held, Announces s.worker.db n)
    (hc : Consistent s.worker.db) (hown : scheduler.Owned s.worker) {act : LifecycleAction}
    (heffect : scheduler.LifecycleEffect s act s') :
    CarriesOn s.worker.db s'.worker.db s'.sent ∧ s.sent ⊆ s'.sent := by
  have hpass : ∀ {jobId job x pass a db pass'} {registry : NotifierRegistry},
      s.worker.tasks jobId = .dispatching job x pass →
      (notificationOutbox registry dispatchLimit).Effect s.worker.db pass a db pass' →
      CarriesOn s.worker.db db (s.returned (pass.delivers a)).sent ∧
        s.sent ⊆ (s.returned (pass.delivers a)).sent := by
    intro jobId job x pass a db pass' registry htask heffect
    refine ⟨(carriesOn_pass hc (fun n hn => hheld jobId n ?_) heffect).mono ?_, ?_⟩
    · rwa [htask]
    · exact List.subset_append_right _ _
    · exact List.subset_append_left _ _
  cases heffect with
  | @stepped a w hstage heffect =>
      cases delivery_of_effect hc hown heffect with
      | quiet hbooks hkeeps htasks hheld => exact ⟨hkeeps.carriesOn, hbooks.1 ▸ List.Subset.refl _⟩
      | dispatched htask heffect hobserve hkeeps htasks hheld =>
          obtain ⟨hcarries, hsub⟩ := hpass htask heffect
          rw [hobserve]
          exact ⟨hcarries.trans_keeps hkeeps, hsub⟩
  | diedAfter hstage htask heffect => exact hpass htask heffect
  | pruned => exact ⟨carriesOn_prune hc _ _, List.Subset.refl _⟩
  | _ => exact ⟨(KeepsOutbox.refl _).carriesOn, List.Subset.refl _⟩

/-- The edge is in an undelivered row, or has been sent. -/
def Covers (s : Lifecycle) (jobId : String) (edge : SelectedEdge) : Prop :=
  (∃ r ∈ s.worker.db.outbox.rows, r.jobId = jobId ∧ r.pending = true ∧ r.AnnouncesEdge edge) ∨
    ∃ n ∈ s.sent, n.jobId = jobId ∧ n.AnnouncesEdge edge

lemma Covers.carriesOn {jobId : String} {edge : SelectedEdge} (h : s.Covers jobId edge)
    (hcarries : CarriesOn s.worker.db s'.worker.db s'.sent) (hsub : s.sent ⊆ s'.sent) :
    s'.Covers jobId edge := by
  rcases h with ⟨r, hr, hjob, hp, hannounces⟩ | ⟨n, hn, hsays⟩
  · rcases hcarries r hr hp with ⟨r', hr', hann, hp'⟩ | ⟨n, hn, hann⟩
    · have hjob' := (jobId_of_announcement hann).trans hjob
      exact Or.inl ⟨r', hr', hjob', hp', hannounces.of_announcement hann⟩
    · have hjob' : r.jobId = n.jobId := congrArg PendingNotification.jobId hann
      have hid : r.id = n.id := congrArg PendingNotification.id hann
      rw [OutboxRow.AnnouncesEdge, hann, hjob', hid] at hannounces
      exact Or.inr ⟨n, hn, hjob'.symm.trans hjob, hannounces⟩
  · exact Or.inr ⟨n, hsub hn, hsays⟩

/-- The edges of one more step. -/
lemma mem_edges_snoc {acts : List LifecycleAction}
    (hrun : scheduler.lifecycle.run (start .empty) acts = some s) {act : LifecycleAction}
    {jobId : String} {edge : SelectedEdge} (h : edge ∈ edges scheduler (acts ++ [act]) jobId) :
    edge ∈ edges scheduler acts jobId ∨
      ∃ job result, s.commit act = some (job, result) ∧ job.id = jobId ∧
        edge ∈ edgesOf ((scheduler.commits job.id (start .empty) acts).map Prod.fst).getLast? result
          job.notifications := by
  rw [edges, Scheduler.commits, Process.collect_snoc _ hrun, List.filterMap_append,
    ← Scheduler.commits] at h
  cases hcommit : s.commit act with
  | none =>
      rw [hcommit] at h
      exact Or.inl (by simpa [edges] using h)
  | some commit =>
      obtain ⟨job, result⟩ := commit
      rw [hcommit] at h
      by_cases hid : job.id = jobId
      · subst hid
        simp only [Option.toList_some, List.filterMap_cons, if_pos, List.filterMap_nil] at h
        rw [selectedEdges_snoc, Option.or_none, List.mem_append] at h
        exact h.imp_right fun hedge => ⟨job, result, rfl, rfl, hedge⟩
      · exact Or.inl (by simpa [edges, hid] using h)

/-- **A commit has a row for each of its edges.** -/
lemma rows_of_commit {acts : List LifecycleAction}
    (hrun : scheduler.lifecycle.run (start .empty) acts = some s) {job : ScheduledJob}
    {result : CheckResult} {outcome : RecordOutcome} {db : Database}
    (hrecord : recordSuccess s.worker.db job.id result job.notifications = .ok (outcome, db))
    {edge : SelectedEdge}
    (hedge : edge ∈ edgesOf
      ((scheduler.commits job.id (start .empty) acts).map Prod.fst).getLast? result
        job.notifications) :
    ∃ r ∈ db.outbox.rows, r.jobId = job.id ∧ r.pending = true ∧ r.AnnouncesEdge edge := by
  obtain ⟨ops, hexec, hcommits⟩ := holds_run hrun
  have heffect := applyOp_effect (consistent_run hrun)
    (.recordSuccess job.id result job.notifications)
  rw [applyOp, hrecord, settle, ← hexec] at heffect
  obtain ⟨stored, rows, _, _, hdb⟩ := recorded_history (latestCommitted_run ops) heffect
  have hdb : db = _ := hdb
  rw [hdb, snapshots, hcommits]
  exact recorded_row hedge

end Covered

end Lifecycle

/-- **Every edge is announced.**  In every life of a worker, over any number of processes that are
stopped or die at any point, with retention passes that spare the rows tasks are about to send: a
transition between two snapshots of a job that were recorded one after the other, if the plan of the
job selects it, is in an undelivered row of the outbox for every channel of the plan, or has been
sent there. -/
theorem edges_covered {scheduler : Scheduler} {acts : List LifecycleAction} {s : Lifecycle}
    (hrun : scheduler.lifecycle.run (.start .empty) acts = some s)
    (hspares : scheduler.lifecycle.AllSteps Lifecycle.SparesHeld (.start .empty) acts)
    (jobId : String) : ∀ edge ∈ Lifecycle.edges scheduler acts jobId, s.Covers jobId edge := by
  have hrun' := Process.run_induction
    (P := fun acts s => scheduler.lifecycle.run (.start .empty) acts = some s ∧
      (scheduler.lifecycle.AllSteps Lifecycle.SparesHeld (.start .empty) acts →
        Lifecycle.Inv scheduler s ∧ s.Told (Announces s.worker.db) (fun _ => True) ∧
          ∀ edge ∈ Lifecycle.edges scheduler acts jobId, s.Covers jobId edge))
    ⟨rfl, fun _ => ⟨Lifecycle.inv_start scheduler .empty, Lifecycle.told_start, ?_⟩⟩ ?_ hrun
  · exact (hrun'.2 hspares).2.2
  · simp [Lifecycle.edges, Scheduler.commits, Process.collect, selectedEdges]
  rintro acts s act s' ⟨hrun, h⟩ hstep
  refine ⟨Process.run_append hrun (by simp [Process.run, hstep]), fun hspares => ?_⟩
  obtain ⟨hspares, hlast, _⟩ := (Process.allSteps_append hrun).mp hspares
  obtain ⟨inv, htold, hcovers⟩ := h hspares
  have hc := Lifecycle.consistent_run hrun
  have heffect := Scheduler.lifecycleEffect_of_step hstep
  obtain ⟨hcarries, hsub⟩ := Lifecycle.carriesOn_of_effect htold.held hc inv.owned heffect
  refine ⟨inv.step hstep, htold.rows hc inv.owned hlast heffect, fun edge hedge => ?_⟩
  rcases Lifecycle.mem_edges_snoc hrun hedge with hold | ⟨job, result, hcommit, rfl, hnew⟩
  · exact (hcovers edge hold).carriesOn hcarries hsub
  · cases heffect with
    | @stepped a w hstage heffect =>
        have hcommit : s.worker.commit a = some (job, result) := hcommit
        cases Scheduler.commits_of_effect heffect with
        | other hnone htransacted => simp [hcommit] at hnone
        | committed hsome hrecord =>
            rw [hcommit, Option.some.injEq, Prod.mk.injEq] at hsome
            obtain ⟨rfl, rfl⟩ := hsome
            exact Or.inl (Lifecycle.rows_of_commit hrun hrecord hnew)
    | _ => cases hcommit

/-- In the same life, nothing is pruned. -/
theorem edges_covered_interrupted :
    ∃ s, twoJobs.lifecycle.run (.start .empty) interruptedLife = some s ∧
      (Lifecycle.edges twoJobs interruptedLife "swim").length = 1 ∧
      ∀ edge ∈ Lifecycle.edges twoJobs interruptedLife "swim", s.Covers "swim" edge := by
  have hlife : (twoJobs.lifecycle.run (.start .empty) interruptedLife).isSome = true := by
    decide +kernel
  obtain ⟨s, hs⟩ := Option.isSome_iff_exists.mp hlife
  have hspares : twoJobs.lifecycle.AllSteps Lifecycle.SparesHeld (.start .empty)
      interruptedLife := by
    refine interruptedLife_allSteps twoJobs fun s act hprune => ?_
    cases act with
    | prune a b => exact absurd rfl (hprune a b)
    | _ => trivial
  exact ⟨s, hs, by decide +kernel, edges_covered hs hspares "swim"⟩

end WebChecker
