import WebChecker.Core.Deliveries

/-!
# One dispatch at a time

A send can only find its row delivered already if another task has listed the row while it was
undelivered.  When at most one task dispatches at a time, every task can deliver what it holds
(`Lifecycle.Punctual`), so no send is late; and the death of a process cuts off one send at most.
As in `Core/Deliveries`, SQLite reports no lock and no I/O error when an outcome is recorded.
-/

namespace WebChecker

open Relational Results Runs Dispatch

namespace Lifecycle

variable {s : Lifecycle}

/-- At most one task dispatches notifications. -/
def OneDispatch (s : Lifecycle) : Prop :=
  ∀ j k, (s.worker.tasks j).isDispatching = true → (s.worker.tasks k).isDispatching = true → j = k

/-- The rows of the items are undelivered, and no two of them are the same. -/
def Ready (db : Database) (items : List PendingNotification) : Prop :=
  (∀ n ∈ items, n.id ∈ pendingIds db) ∧ (items.map PendingNotification.id).Nodup

lemma ready_nil (db : Database) : Ready db [] := ⟨by simp, by simp⟩

lemma Ready.of_keeps {db db' : Database} {items : List PendingNotification} (h : Ready db items)
    (hkeeps : KeepsOutbox db db') : Ready db' items :=
  ⟨fun n hn => hkeeps.mem_pendingIds (h.1 n hn), h.2⟩

lemma Ready.tail {db : Database} {n : PendingNotification} {items : List PendingNotification}
    (h : Ready db (n :: items)) : Ready db items := by
  rw [Ready, List.map_cons, List.nodup_cons] at h
  exact ⟨fun m hm => h.1 m (List.mem_cons_of_mem _ hm), h.2.2⟩

/-- Every list of pending notifications is ready. -/
lemma ready_of_listed {db : Database} (hc : Consistent db) {limit : ℕ}
    {items : List PendingNotification} (h : listPendingNotifications db limit = .ok items) :
    Ready db items := by
  refine ⟨mem_pendingIds_of_listed h, ?_⟩
  rw [listPendingNotifications_eq hc, Except.ok.injEq] at h
  rw [← h, List.map_map]
  exact (nodup_pendingIds db).sublist ((List.take_sublist _ _).map _)

/-- The rest of the items, once the row of the first is delivered. -/
lemma Ready.delivered {db db' : Database} {n : PendingNotification}
    {items : List PendingNotification} (h : Ready db (n :: items)) {time : Datetime}
    (hrecord : recordAttempt db n time none = .ok db') : Ready db' items := by
  refine ⟨fun m hm => ?_, h.tail.2⟩
  rcases updateNotification_cases db n.id (rowId_deliveredRow time) with ⟨hok, _⟩ | ⟨herror, _⟩
  · obtain rfl := Except.ok.inj (hok.symm.trans hrecord)
    refine (pendingIds_delivered db n.id time m.id).mpr ⟨h.tail.1 m hm, fun hid => ?_⟩
    have hnodup := h.2
    rw [List.map_cons, List.nodup_cons] at hnodup
    exact hnodup.1 (hid ▸ List.mem_map_of_mem hm)
  · cases herror.symm.trans hrecord

/-- Every task can deliver what it holds, and every send has. -/
structure Punctual (s : Lifecycle) : Prop where
  ready : ∀ j, Ready s.worker.db (s.worker.tasks j).held
  late : s.late = []

lemma held_of_not_isDispatching {task : JobTask} (h : task.isDispatching = false) :
    task.held = [] := by
  cases task <;> first | rfl | cases h

/-- **A step of the only dispatch.** -/
lemma Punctual.halfDispatched (h : s.Punctual) (hone : s.OneDispatch) (hc : Consistent s.worker.db)
    {scheduler : Scheduler} {jobId : String} {job : ScheduledJob} {x : CheckAttempt} {db : Database}
    {a : PassStep Datetime String} {pass pass' : Pass PendingNotification Datetime StorageError}
    (htask : s.worker.tasks jobId = .dispatching job x pass)
    (heffect : (notificationOutbox scheduler.notifiers dispatchLimit).Effect s.worker.db pass a db
      pass') :
    (s.halfDispatched jobId job x (pass.delivers a) db pass').Punctual := by
  have hready : Ready s.worker.db pass.held := by
    have hheld := h.ready jobId
    rwa [htask] at hheld
  have hothers : ∀ j ≠ jobId, (s.worker.tasks j).held = [] := by
    intro j hj
    refine held_of_not_isDispatching (Bool.eq_false_iff.mpr fun hdispatching => hj ?_)
    exact hone j jobId hdispatching (by rw [htask]; rfl)
  -- the other tasks hold nothing, so only the rest of this pass matters
  have hstep : Ready db pass'.held → (s.returned (pass.delivers a)).late = [] →
      (s.halfDispatched jobId job x (pass.delivers a) db pass').Punctual := by
    refine fun hnew hlate => ⟨fun j => ?_, hlate⟩
    rw [tasks_halfDispatched]
    by_cases hj : j = jobId
    · rw [hj, Function.update_self]
      exact hnew
    · rw [Function.update_of_ne hj, hothers j hj]
      exact ready_nil db
  have hquiet : pass.delivers a = none → (s.returned (pass.delivers a)).late = [] := by
    intro hnone
    rw [hnone, returned_none, h.late]
  cases heffect with
  | listed hlist => exact hstep (ready_of_listed hc hlist) (hquiet rfl)
  | unlisted => exact hstep (ready_nil _) (hquiet rfl)
  | started => exact hstep hready (hquiet rfl)
  | refusalRaised => exact hstep (ready_nil _) (hquiet rfl)
  | refused hrefuse hrecord =>
      exact hstep (hready.tail.of_keeps (keepsOutbox_failedAttempt hc hrecord)) (hquiet rfl)
  | @recorded n todo now error db hrecord =>
      cases error with
      | some e =>
          exact hstep (hready.tail.of_keeps (keepsOutbox_failedAttempt hc hrecord)) (hquiet rfl)
      | none =>
          refine hstep (hready.delivered hrecord) ?_
          simp [Pass.delivers, returned, h.late, hready.1 n List.mem_cons_self]
  | @recordRaised n todo now error e hrecord =>
      have hraises : ∃ e, recordAttempt s.worker.db n now error = .error e := ⟨e, hrecord⟩
      exact absurd (hready.1 n List.mem_cons_self) (recordAttempt_error_iff.mp hraises)

lemma Punctual.abandon (h : s.Punctual) (arrived : String → Bool) : (s.abandon arrived).Punctual :=
  ⟨fun _ => ready_nil _, h.late⟩

/-- A task goes on with what it held, or with less. -/
lemma Punctual.task (h : s.Punctual) {w' : Worker} {jobId : String} {task : JobTask}
    (hkeeps : KeepsOutbox s.worker.db w'.db)
    (htasks : w'.tasks = Function.update s.worker.tasks jobId task)
    (hheld : Ready s.worker.db task.held) : ({ s with worker := w' } : Lifecycle).Punctual := by
  refine ⟨?_, h.late⟩
  rw [htasks]
  exact forall_held_update (P := Ready w'.db) (fun j => (h.ready j).of_keeps hkeeps)
    (hheld.of_keeps hkeeps)

/-- **Every step of the worker.** -/
lemma Punctual.effect (h : s.Punctual) (hone : s.OneDispatch) (hc : Consistent s.worker.db)
    {act : WorkerAction} {w' : Worker} (hdelivery : s.Delivery act w') :
    ({ s.observe act with worker := w' } : Lifecycle).Punctual := by
  cases hdelivery with
  | quiet hbooks hkeeps htasks hheld =>
      have hsame := h.task hkeeps htasks (hheld ▸ ready_nil _)
      exact ⟨hsame.ready, hbooks.2.1.trans h.late⟩
  | @dispatched jobId job x pass a db pass' task scheduler htask heffect hobserve hkeeps htasks
      hheld =>
      have hhalf := h.halfDispatched hone hc htask heffect
      rw [hobserve]
      refine hhalf.task hkeeps (by rw [htasks, tasks_halfDispatched, Function.update_idem]) ?_
      rcases hheld with hheld | hheld
      · exact hheld ▸ ready_nil _
      · rw [hheld]
        have hpass := hhalf.ready jobId
        rwa [tasks_halfDispatched, Function.update_self, held_dispatching] at hpass

/-- **Every step**, if at most one task dispatches and no row is removed. -/
lemma Punctual.step (h : s.Punctual) (hone : s.OneDispatch) (hc : Consistent s.worker.db)
    {scheduler : Scheduler} (inv : Inv scheduler s) {s' : Lifecycle} {act : LifecycleAction}
    (hspares : s.SparesOutbox act) (hstep : scheduler.lifecycle.step s act = some s') :
    s'.Punctual := by
  cases Scheduler.lifecycleEffect_of_step hstep with
  | stepped hstage heffect => exact h.effect hone hc (delivery_of_effect hc inv.owned heffect)
  | diedAfter hstage htask heffect => exact (h.halfDispatched hone hc htask heffect).abandon _
  | died => exact h.abandon _
  | timedOut => exact ⟨fun _ => ready_nil _, h.late⟩
  | stopping => exact ⟨h.ready, h.late⟩
  | drained => exact ⟨h.ready, h.late⟩
  | booted => exact ⟨h.ready, h.late⟩
  | pruned => exact ⟨fun j => (h.ready j).of_keeps (.of_eq hspares), h.late⟩

end Lifecycle

/-! ## Sends that are cut off -/

/-- The process ends although tasks are not done. -/
def LifecycleAction.cutsOff : LifecycleAction → Bool
  | timeout _ => true
  | die _ => true
  | dieAfter _ _ _ => true
  | _ => false

namespace Lifecycle

variable {s : Lifecycle}

lemma isDispatching_of_sending {task : JobTask} (h : task.sending.isSome = true) :
    task.isDispatching = true := by
  cases task <;> first | rfl | cases h

/-- A list without repetitions whose elements are equal. -/
lemma length_le_one_of_nodup {α : Type} {l : List α} (hnodup : l.Nodup)
    (hsame : ∀ a ∈ l, ∀ b ∈ l, a = b) : l.length ≤ 1 := by
  match l with
  | [] => exact Nat.zero_le 1
  | [a] => exact le_refl 1
  | a :: b :: l =>
      have hab : a = b := hsame a List.mem_cons_self b (List.mem_cons_of_mem _ List.mem_cons_self)
      rw [hab, List.nodup_cons] at hnodup
      exact absurd List.mem_cons_self hnodup.1

/-- **One send is cut off at most** when the tasks are gone. -/
lemma length_interrupted_abandon {scheduler : Scheduler} (inv : Inv scheduler s)
    (hone : s.OneDispatch) (arrived : String → Bool) :
    (s.abandon arrived).interrupted.length ≤ s.interrupted.length + 1 := by
  rw [Lifecycle.abandon, List.length_append, List.length_filterMap_eq_countP,
    List.countP_eq_length_filter]
  refine Nat.add_le_add_left (length_le_one_of_nodup ?_ fun j hj k hk => ?_) _
  · exact (inv.nodup_unfinished.filter _).filter _
  · rw [List.mem_filter] at hj hk
    exact hone j k (isDispatching_of_sending hj.2) (isDispatching_of_sending hk.2)

/-- The step of a dispatch starts no other. -/
lemma OneDispatch.halfDispatched (hone : s.OneDispatch) {jobId : String} {job : ScheduledJob}
    {x : CheckAttempt} {pass : Pass PendingNotification Datetime StorageError}
    (htask : s.worker.tasks jobId = .dispatching job x pass) (n : Option PendingNotification)
    (db : Database) (pass' : Pass PendingNotification Datetime StorageError) :
    (s.halfDispatched jobId job x n db pass').OneDispatch := by
  have hsame : ∀ j, ((s.halfDispatched jobId job x n db pass').worker.tasks j).isDispatching
      = (s.worker.tasks j).isDispatching := by
    intro j
    rw [tasks_halfDispatched]
    by_cases hj : j = jobId
    · rw [hj, Function.update_self, htask]
      rfl
    · rw [Function.update_of_ne hj]
  intro j k hj hk
  exact hone j k (hsame j ▸ hj) (hsame k ▸ hk)

lemma length_interrupted_step {scheduler : Scheduler} (inv : Inv scheduler s)
    (hone : s.OneDispatch) {s' : Lifecycle} {act : LifecycleAction}
    (hstep : scheduler.lifecycle.step s act = some s') :
    s'.interrupted.length ≤ s.interrupted.length + if act.cutsOff then 1 else 0 := by
  cases Scheduler.lifecycleEffect_of_step hstep with
  | @stepped a w hstage heffect => cases a <;> exact Nat.le_add_right _ _
  | @diedAfter jobId a arrived job x pass db pass' hstage htask heffect =>
      exact length_interrupted_abandon (inv.halfDispatched hstage htask (pass.delivers a) db pass')
        (hone.halfDispatched htask (pass.delivers a) db pass') arrived
  | died => exact length_interrupted_abandon inv hone _
  | timedOut => exact length_interrupted_abandon inv hone _
  | stopping => exact Nat.le_add_right _ _
  | drained => exact Nat.le_add_right _ _
  | booted => exact Nat.le_add_right _ _
  | pruned => exact Nat.le_add_right _ _

/-- The steps of a life in which at most one task dispatches, and no row is removed. -/
def Exact (s : Lifecycle) (act : LifecycleAction) : Prop := s.OneDispatch ∧ s.SparesOutbox act

/-- **The sends that are cut off** are no more than the ends of processes that cut off tasks. -/
lemma length_interrupted_run {scheduler : Scheduler} {acts : List LifecycleAction} {s' : Lifecycle}
    (inv : Inv scheduler s) (hrun : scheduler.lifecycle.run s acts = some s')
    (hexact : scheduler.lifecycle.AllSteps Exact s acts) :
    s'.interrupted.length ≤ s.interrupted.length + acts.countP LifecycleAction.cutsOff := by
  induction acts generalizing s with
  | nil =>
      cases hrun
      exact Nat.le_add_right _ _
  | cons act acts ih =>
      obtain ⟨t, hstep, hrun⟩ := Process.run_cons.mp hrun
      have hone := length_interrupted_step inv hexact.1.1 hstep
      have hrest := ih (inv.step hstep) hrun (hexact.2 t hstep)
      rw [List.countP_cons]
      omega

/-- A scheduler of one job never dispatches twice at a time. -/
lemma oneDispatch_of_lone {scheduler : Scheduler} (inv : Inv scheduler s)
    (hlone : scheduler.jobs.length ≤ 1) : s.OneDispatch := by
  have hjob : ∀ j, (s.worker.tasks j).isDispatching = true →
      ∃ job ∈ scheduler.jobs, job.id = j := by
    intro j hj
    have hbusy : (s.worker.tasks j).isDone = false := by
      cases htask : s.worker.tasks j <;> rw [htask] at hj <;> first | rfl | cases hj
    obtain ⟨job, hfind⟩ := Option.isSome_iff_exists.mp (inv.configured j (inv.tabled j hbusy))
    exact ⟨job, List.mem_of_find?_eq_some hfind, by simpa using List.find?_some hfind⟩
  intro j k hj hk
  obtain ⟨job, hjob₁, rfl⟩ := hjob j hj
  obtain ⟨other, hjob₂, rfl⟩ := hjob k hk
  match hjobs : scheduler.jobs with
  | [] => rw [hjobs] at hjob₁; cases hjob₁
  | [only] =>
      rw [hjobs, List.mem_singleton] at hjob₁ hjob₂
      rw [hjob₁, hjob₂]
  | a :: b :: rest => rw [hjobs] at hlone; simp at hlone

end Lifecycle

/-! ## The result -/

/-- One job, which notifies by mail. -/
def oneJob : Scheduler :=
  .create [onceAMinute "swim" .email] .email (some .email) 3 ["email"]

end WebChecker
