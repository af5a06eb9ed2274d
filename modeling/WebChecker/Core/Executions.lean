import WebChecker.Core.Lifecycle
import WebChecker.Core.Retries

/-!
# Every execution is accounted for

Whatever happens to a worker process, the log of an execution follows the retry protocol
(`ExecutionState.next`), and the execution is in exactly one of three conditions (`Standing`): its
log has ended, a task is still in it, or its last attempt was cut off.

`Lifecycle.Inv` is kept by every effect of a step.  The argument is in two parts: what a step of the
worker means (`Inv.advance`, with a lemma for each case of `Scheduler.Advance`), and what it means
that all tasks are gone (`Inv.abandon`).
-/

namespace WebChecker

open Relational Results Runs Dispatch

/-! ## Reading the books -/

/-- The attempts of an execution that were cut off. -/
def cutOffIn (cutOff : List CheckAttempt) (jobId : String) (execution : ℕ) : List CheckAttempt :=
  cutOff.filter fun x => x.party = jobId ∧ x.execution = execution

lemma executionLog_append (log : List (CheckAttempt × AttemptEvent)) (x : CheckAttempt)
    (events : List AttemptEvent) (jobId : String) (execution : ℕ) :
    executionLog (log ++ events.map fun e => (x, e)) jobId execution
      = executionLog log jobId execution ++
        if x.party = jobId ∧ x.execution = execution then events.map fun e => (x.number, e)
        else [] := by
  rw [executionLog, List.filterMap_append, ← executionLog, List.filterMap_map]
  congr 1
  split_ifs with h
  · rw [← List.filterMap_eq_map]
    congr 1
    funext e
    simp [h]
  · rw [List.filterMap_eq_nil_iff]
    intro e _
    simp [h]

/-- The events of other executions do not show. -/
lemma executionLog_append_of_ne {log : List (CheckAttempt × AttemptEvent)} {x : CheckAttempt}
    {jobId : String} {execution : ℕ} (h : ¬ (x.party = jobId ∧ x.execution = execution))
    (events : List AttemptEvent) :
    executionLog (log ++ events.map fun e => (x, e)) jobId execution
      = executionLog log jobId execution := by
  rw [executionLog_append, if_neg h, List.append_nil]

lemma attempt_phase (task : JobTask) :
    task.phase.attempt = task.position.map fun p => p.2.1 := by
  cases task <;> rfl

lemma exists_position {task : JobTask} {x : CheckAttempt} (h : task.phase.attempt = some x) :
    ∃ job st, task.position = some (job, x, st) := by
  rw [attempt_phase, Option.map_eq_some_iff] at h
  obtain ⟨⟨job, x, st⟩, hposition, rfl⟩ := h
  exact ⟨job, st, hposition⟩

/-- A task is in no execution whose log has ended. -/
lemma not_ended_of_position {task : JobTask} {job : ScheduledJob} {x : CheckAttempt}
    {st : ExecutionState} (h : task.position = some (job, x, st)) : st.ended = false := by
  cases task <;> cases h <;> rfl

/-- A task is in no execution without an event. -/
lemma not_fresh_of_position {task : JobTask} {job : ScheduledJob} {x : CheckAttempt}
    {st : ExecutionState} (h : task.position = some (job, x, st)) : st ≠ .fresh := by
  cases task <;> cases h <;> simp

/-! ## The invariant -/

namespace Lifecycle

/-- The condition of an execution whose log stands at `st`. -/
inductive Standing (s : Lifecycle) (jobId : String) (execution : ℕ) (st : ExecutionState) : Prop
  /-- Its log has ended. -/
  | ended (hended : st.ended = true) (hcut : cutOffIn s.cutOff jobId execution = [])
      (hleft : ∀ job x st', (s.worker.tasks jobId).position = some (job, x, st') →
        x.execution ≠ execution)
  /-- The job's task is in it. -/
  | goesOn {job x} (htask : (s.worker.tasks jobId).position = some (job, x, st))
      (hexecution : x.execution = execution) (hcut : cutOffIn s.cutOff jobId execution = [])
  /-- Its last attempt was cut off. -/
  | cutOff {x} (hopen : st.ended = false) (hbegun : st ≠ .fresh)
      (hcut : cutOffIn s.cutOff jobId execution = [x]) (hnumber : x.number = st.attempts)
      (hleft : ∀ job x st', (s.worker.tasks jobId).position = some (job, x, st') →
        x.execution ≠ execution)

/-- The executions of one job: those that have begun are accounted for, and there are no traces of
later ones. -/
structure Accounted (s : Lifecycle) (job : ScheduledJob) : Prop where
  fresh : ∀ e, s.worker.executions job.id ≤ e →
    executionLog s.worker.log job.id e = [] ∧ cutOffIn s.cutOff job.id e = []
  begun : ∀ e < s.worker.executions job.id, ∃ st : ExecutionState,
    ExecutionState.fresh.follow job.retry.maxAttempts (executionLog s.worker.log job.id e)
        = some st ∧
      s.Standing job.id e st

/-- What holds throughout the life of a worker process. -/
structure Inv (scheduler : Scheduler) (s : Lifecycle) : Prop where
  owned : scheduler.Owned s.worker
  nodup : s.table.Nodup
  tabled : ∀ j, (s.worker.tasks j).isDone = false → j ∈ s.table
  configured : ∀ j ∈ s.table, (scheduler.jobWithId j).isSome = true
  halted : s.stage = .stopped → ∀ j, s.worker.tasks j = .done
  accounted : ∀ job, scheduler.jobWithId job.id = some job → s.Accounted job

lemma inv_start (scheduler : Scheduler) (db : Database) : Inv scheduler (start db) where
  owned jobId job x st h := by simp [start, Worker.start, JobTask.position] at h
  nodup := List.nodup_nil
  tabled j h := by simp [start, Worker.start, JobTask.isDone] at h
  configured j h := by simp [start] at h
  halted _ _ := rfl
  accounted job _ := ⟨fun e _ => ⟨rfl, rfl⟩, fun e he => absurd he (Nat.not_lt_zero e)⟩

section Inv

variable {scheduler : Scheduler} {s : Lifecycle}

lemma mem_unfinished {j : String} :
    j ∈ s.unfinished ↔ j ∈ s.table ∧ (s.worker.tasks j).isDone = false := by
  simp [unfinished]

/-- The table shows every task that is not done. -/
lemma Inv.mem_unfinished_iff (inv : Inv scheduler s) {j : String} :
    j ∈ s.unfinished ↔ (s.worker.tasks j).isDone = false :=
  mem_unfinished.trans ⟨And.right, fun h => ⟨inv.tabled j h, h⟩⟩

lemma Inv.nodup_unfinished (inv : Inv scheduler s) : s.unfinished.Nodup := inv.nodup.filter _

/-! ### Nothing happens to the executions -/

/-- A standing depends on the job's task and on what was cut off. -/
lemma Standing.congr {s' : Lifecycle} {jobId : String} {e : ℕ} {st : ExecutionState}
    (h : s.Standing jobId e st)
    (hposition : (s'.worker.tasks jobId).position = (s.worker.tasks jobId).position)
    (hcut : cutOffIn s'.cutOff jobId e = cutOffIn s.cutOff jobId e) : s'.Standing jobId e st := by
  cases h with
  | ended hended hnone hleft => exact .ended hended (hcut.trans hnone) (hposition ▸ hleft)
  | goesOn htask hexecution hnone =>
      exact .goesOn (hposition.trans htask) hexecution (hcut.trans hnone)
  | cutOff hopen hbegun hone hnumber hleft =>
      exact .cutOff hopen hbegun (hcut.trans hone) hnumber (hposition ▸ hleft)

lemma Accounted.congr {s' : Lifecycle} {job : ScheduledJob} (h : s.Accounted job)
    (hposition : (s'.worker.tasks job.id).position = (s.worker.tasks job.id).position)
    (hexecutions : s'.worker.executions job.id = s.worker.executions job.id)
    (hlog : ∀ e, executionLog s'.worker.log job.id e = executionLog s.worker.log job.id e)
    (hcut : ∀ e, cutOffIn s'.cutOff job.id e = cutOffIn s.cutOff job.id e) :
    s'.Accounted job := by
  constructor
  · intro e he
    rw [hlog, hcut]
    exact h.fresh e (hexecutions ▸ he)
  · intro e he
    obtain ⟨st, hfollow, hstanding⟩ := h.begun e (hexecutions ▸ he)
    exact ⟨st, by rw [hlog, hfollow], hstanding.congr hposition (hcut e)⟩

/-- Steps that concern neither the tasks nor the books. -/
lemma Inv.congr (inv : Inv scheduler s) {s' : Lifecycle}
    (hposition : ∀ j, (s'.worker.tasks j).position = (s.worker.tasks j).position)
    (hdone : ∀ j, (s'.worker.tasks j).isDone = (s.worker.tasks j).isDone)
    (hexecutions : s'.worker.executions = s.worker.executions)
    (hlog : s'.worker.log = s.worker.log) (hcut : s'.cutOff = s.cutOff)
    (htable : s'.table = s.table)
    (hhalted : s'.stage = .stopped → ∀ j, s'.worker.tasks j = .done) : Inv scheduler s' where
  owned jobId job x st h := by
    rw [hexecutions]
    exact inv.owned jobId job x st (hposition jobId ▸ h)
  nodup := htable ▸ inv.nodup
  tabled j h := htable ▸ inv.tabled j (hdone j ▸ h)
  configured := htable ▸ inv.configured
  halted := hhalted
  accounted job hjob := (inv.accounted job hjob).congr (hposition job.id)
    (congrFun hexecutions job.id) (fun e => by rw [hlog]) (fun e => by rw [hcut])

/-! ### All tasks are gone -/

/-- The attempts that are cut off of one execution. -/
lemma Inv.cutOffIn_abandon (inv : Inv scheduler s) (arrived : String → Bool) (jobId : String)
    (e : ℕ) :
    cutOffIn (s.abandon arrived).cutOff jobId e = cutOffIn s.cutOff jobId e ++
      ((s.worker.tasks jobId).phase.attempt.toList.filter fun x => x.execution = e) := by
  have hparty : ∀ j x, (s.worker.tasks j).phase.attempt = some x → x.party = j := by
    intro j x hx
    obtain ⟨job, st, hposition⟩ := exists_position hx
    exact (inv.owned j job x st hposition).2.1
  have hnone : ∀ l : List String, jobId ∉ l →
      (l.filterMap fun j => (s.worker.tasks j).phase.attempt).filter
        (fun x => decide (x.party = jobId ∧ x.execution = e)) = [] := by
    intro l hl
    rw [List.filter_eq_nil_iff]
    intro x hx hmatch
    obtain ⟨j, hj, hattempt⟩ := List.mem_filterMap.mp hx
    simp only [decide_eq_true_eq] at hmatch
    exact hl (hmatch.1 ▸ hparty j x hattempt ▸ hj)
  rw [cutOffIn, abandon, List.filter_append, ← cutOffIn]
  congr 1
  cases hattempt : (s.worker.tasks jobId).phase.attempt with
  | none =>
      rw [Option.toList_none, List.filter_nil, List.filter_eq_nil_iff]
      intro x hx hmatch
      obtain ⟨j, hj, hx⟩ := List.mem_filterMap.mp hx
      simp only [decide_eq_true_eq] at hmatch
      rw [← hmatch.1, hparty j x hx, hx] at hattempt
      cases hattempt
  | some x =>
      -- the task of the job is in the table, and only once
      have hmem : jobId ∈ s.unfinished := by
        obtain ⟨job, st, hposition⟩ := exists_position hattempt
        exact inv.mem_unfinished_iff.mpr (isDone_of_position hposition)
      obtain ⟨before, after, hsplit⟩ := List.append_of_mem hmem
      have hnodup := inv.nodup_unfinished
      rw [hsplit, List.nodup_append, List.nodup_cons] at hnodup
      have hbefore : jobId ∉ before := fun hj => hnodup.2.2 jobId hj jobId List.mem_cons_self rfl
      rw [hsplit, List.filterMap_append, List.filterMap_cons, hattempt, List.filter_append,
        hnone before hbefore, List.nil_append, List.filter_cons, hnone after hnodup.2.1.1]
      simp [hparty jobId x hattempt, List.filter_cons]

/-- An execution that no task is in is not cut off. -/
lemma Inv.cutOffIn_abandon_of_left (inv : Inv scheduler s) (arrived : String → Bool)
    {jobId : String} {e : ℕ} (hleft : ∀ job x st,
      (s.worker.tasks jobId).position = some (job, x, st) → x.execution ≠ e) :
    cutOffIn (s.abandon arrived).cutOff jobId e = cutOffIn s.cutOff jobId e := by
  rw [inv.cutOffIn_abandon, List.append_right_eq_self, List.filter_eq_nil_iff]
  intro x hx hexecution
  obtain ⟨job, st, hposition⟩ := exists_position (Option.mem_toList.mp hx)
  exact hleft job x st hposition (of_decide_eq_true hexecution)

/-- **Executions that are cut off** stand where they stood. -/
lemma Inv.abandon (inv : Inv scheduler s) (arrived : String → Bool) :
    Inv scheduler (s.abandon arrived) where
  owned jobId job x st h := by simp [Lifecycle.abandon, JobTask.position] at h
  nodup := List.nodup_nil
  tabled j h := by simp [Lifecycle.abandon, JobTask.isDone] at h
  configured j h := by simp [Lifecycle.abandon] at h
  halted _ _ := rfl
  accounted job hjob := by
    have hacc := inv.accounted job hjob
    have hgone : ∀ (j : ScheduledJob) x st', ((s.abandon arrived).worker.tasks job.id).position
        = some (j, x, st') → ∀ e, x.execution ≠ e := by
      intro j x st' h
      simp [Lifecycle.abandon, JobTask.position] at h
    constructor
    · intro e he
      obtain ⟨hlog, hcut⟩ := hacc.fresh e he
      refine ⟨hlog, (inv.cutOffIn_abandon_of_left arrived fun j x st hposition => ?_).trans hcut⟩
      have hlast := (inv.owned job.id j x st hposition).2.2.1
      have hbegun : s.worker.executions job.id ≤ e := he
      omega
    · intro e he
      obtain ⟨st, hfollow, hstanding⟩ := hacc.begun e he
      refine ⟨st, hfollow, ?_⟩
      cases hstanding with
      | ended hended hcut hleft =>
          exact .ended hended ((inv.cutOffIn_abandon_of_left arrived hleft).trans hcut)
            fun j x st' h => hgone j x st' h e
      | @goesOn j x htask hexecution hcut =>
          refine .cutOff (x := x) (not_ended_of_position htask) (not_fresh_of_position htask) ?_
            (inv.owned _ _ _ _ htask).2.2.2.1.symm fun j x st' h => hgone j x st' h e
          rw [inv.cutOffIn_abandon, hcut, attempt_phase, htask]
          simp [hexecution]
      | @cutOff x hopen hbegun hcut hnumber hleft =>
          exact .cutOff hopen hbegun ((inv.cutOffIn_abandon_of_left arrived hleft).trans hcut)
            hnumber fun j x st' h => hgone j x st' h e

/-! ### A job advances -/

@[simp] lemma cutOff_observe (s : Lifecycle) (act : WorkerAction) :
    (s.observe act).cutOff = s.cutOff := by
  cases act <;> rfl

@[simp] lemma stage_observe (s : Lifecycle) (act : WorkerAction) :
    (s.observe act).stage = s.stage := by
  cases act <;> rfl

lemma table_observe_of_ne {act : WorkerAction} (h : ∀ jobId, act ≠ .start jobId) :
    (s.observe act).table = s.table := by
  cases act with
  | start jobId => exact absurd rfl (h jobId)
  | _ => rfl

/-- A job that the step does not advance. -/
lemma Accounted.of_ne {w' : Worker} {job : ScheduledJob} (h : s.Accounted job)
    (x : CheckAttempt) (events : List AttemptEvent) {task : JobTask} (hne : x.party ≠ job.id)
    (htasks : w'.tasks = Function.update s.worker.tasks x.party task)
    (hexecutions : w'.executions job.id = s.worker.executions job.id)
    (hlog : w'.log = s.worker.log ++ events.map fun e => (x, e)) (act : WorkerAction) :
    ({ s.observe act with worker := w' } : Lifecycle).Accounted job := by
  refine h.congr ?_ hexecutions (fun e => ?_) (fun e => by simp)
  · rw [htasks, Function.update_of_ne hne.symm]
  · rw [hlog, executionLog_append_of_ne fun heq => hne heq.1]

/-- An execution that the job's task neither was in nor is in now. -/
lemma Standing.left {s' : Lifecycle} {jobId : String} {e : ℕ} {st : ExecutionState}
    (h : s.Standing jobId e st)
    (hbefore : ∀ job x st', (s.worker.tasks jobId).position = some (job, x, st') →
      x.execution ≠ e)
    (hafter : ∀ job x st', (s'.worker.tasks jobId).position = some (job, x, st') →
      x.execution ≠ e)
    (hcut : s'.cutOff = s.cutOff) : s'.Standing jobId e st := by
  cases h with
  | ended hended hnone _ => exact .ended hended (hcut ▸ hnone) hafter
  | goesOn htask hexecution _ => exact absurd hexecution (hbefore _ _ _ htask)
  | cutOff hopen hbegun hone hnumber _ => exact .cutOff hopen hbegun (hcut ▸ hone) hnumber hafter

/-- **A new execution** has one event, and the others stand where they stood. -/
lemma Accounted.begun_of (inv : Inv scheduler s) {job : ScheduledJob}
    (hjob : scheduler.jobWithId job.id = some job) (hdone : s.worker.tasks job.id = .done)
    {w' : Worker} (htasks : w'.tasks = Function.update s.worker.tasks job.id
      (.checking job ⟨job.id, s.worker.executions job.id, 1⟩))
    (hexecutions : w'.executions
      = Function.update s.worker.executions job.id (s.worker.executions job.id + 1))
    (hlog : w'.log
      = s.worker.log ++ [(⟨job.id, s.worker.executions job.id, 1⟩, .checkStarted)])
    (act : WorkerAction) :
    ({ s.observe act with worker := w' } : Lifecycle).Accounted job := by
  have hacc := inv.accounted job hjob
  have hposition : ({ s.observe act with worker := w' } : Lifecycle).worker.tasks job.id
      = .checking job ⟨job.id, s.worker.executions job.id, 1⟩ := by
    simp [htasks]
  have hnew : w'.executions job.id = s.worker.executions job.id + 1 := by
    simp [hexecutions]
  have hother : ∀ e, e ≠ s.worker.executions job.id →
      executionLog w'.log job.id e = executionLog s.worker.log job.id e := by
    intro e he
    rw [hlog]
    exact executionLog_append_of_ne (fun heq => he heq.2.symm) [.checkStarted]
  constructor
  · intro e he
    have hlt : s.worker.executions job.id + 1 ≤ e := hnew ▸ he
    rw [cutOff_observe]
    refine ⟨(hother e (by omega)).trans ?_, ?_⟩
    · exact (hacc.fresh e (by omega)).1
    · exact (hacc.fresh e (by omega)).2
  · intro e he
    have hle : e < s.worker.executions job.id + 1 := hnew ▸ he
    by_cases hlast : e = s.worker.executions job.id
    · obtain ⟨hnone, hcut⟩ := hacc.fresh e hlast.ge
      have htask : (({ s.observe act with worker := w' } : Lifecycle).worker.tasks
          job.id).position = some (job, ⟨job.id, s.worker.executions job.id, 1⟩, .started 1) := by
        rw [hposition]
        rfl
      refine ⟨.started 1, ?_, .goesOn htask hlast.symm (by rwa [cutOff_observe])⟩
      · have happend := executionLog_append s.worker.log
          ⟨job.id, s.worker.executions job.id, 1⟩ [.checkStarted] job.id e
        rw [hnone, if_pos ⟨rfl, hlast.symm⟩] at happend
        show ExecutionState.fresh.follow job.retry.maxAttempts (executionLog w'.log job.id e) = _
        rw [hlog]
        exact (congrArg _ happend).trans rfl
    · obtain ⟨st, hfollow, hstanding⟩ := hacc.begun e (by omega)
      refine ⟨st, ?_, hstanding.left ?_ ?_ (cutOff_observe s act)⟩
      · rw [← hfollow]
        exact congrArg _ (hother e hlast)
      · intro j x st' h
        rw [hdone] at h
        cases h
      · intro j x st' h
        rw [hposition] at h
        cases h
        exact fun heq => hlast heq.symm

/-- **A task that moves** takes the log of its execution along, and no other. -/
lemma Accounted.moved_of (inv : Inv scheduler s) {job : ScheduledJob}
    (hjob : scheduler.jobWithId job.id = some job) {x x' : CheckAttempt} {st st' : ExecutionState}
    (hposition : (s.worker.tasks job.id).position = some (job, x, st)) {w' : Worker}
    {task : JobTask} {events : List AttemptEvent}
    (h : s.worker.Moved w' job x st x' st' task events) (act : WorkerAction) :
    ({ s.observe act with worker := w' } : Lifecycle).Accounted job := by
  have hacc := inv.accounted job hjob
  obtain ⟨-, hparty, hlast, hnumber, hwithin⟩ := inv.owned job.id job x st hposition
  have htask : w'.tasks job.id = task := by
    rw [h.tasks, hparty, Function.update_self]
  have hother : ∀ e, e ≠ x.execution →
      executionLog w'.log job.id e = executionLog s.worker.log job.id e := by
    intro e he
    rw [h.log]
    exact executionLog_append_of_ne (fun heq => he (heq.2.symm.trans h.execution)) events
  have hexecutions : w'.executions job.id = s.worker.executions job.id := by
    rw [h.executions]
  constructor
  · intro e he
    have hle : s.worker.executions job.id ≤ e := hexecutions ▸ he
    rw [cutOff_observe]
    exact ⟨(hother e (by omega)).trans (hacc.fresh e hle).1, (hacc.fresh e hle).2⟩
  · intro e he
    have hlt : e < s.worker.executions job.id := hexecutions ▸ he
    obtain ⟨st₀, hfollow, hstanding⟩ := hacc.begun e hlt
    by_cases hcurrent : e = x.execution
    · -- the execution that the task is in
      have hsame : st₀ = st ∧ cutOffIn s.cutOff job.id e = [] := by
        cases hstanding with
        | ended _ _ hleft => exact absurd hcurrent.symm (hleft _ _ _ hposition)
        | cutOff _ _ _ _ hleft => exact absurd hcurrent.symm (hleft _ _ _ hposition)
        | goesOn htask' _ hcut =>
            rw [hposition] at htask'
            cases htask'
            exact ⟨rfl, hcut⟩
      obtain ⟨rfl, hcut⟩ := hsame
      refine ⟨st', ?_, ?_⟩
      · show ExecutionState.fresh.follow job.retry.maxAttempts (executionLog w'.log job.id e) = _
        rw [h.log, executionLog_append, if_pos ⟨h.party.trans hparty, h.execution.trans
          hcurrent.symm⟩, ExecutionState.follow_append hfollow]
        exact h.follows
      · have hnext : (({ s.observe act with worker := w' } : Lifecycle).worker.tasks
            job.id).position = if st'.ended then none else some (job, x', st') :=
          (congrArg JobTask.position htask).trans h.position
        split_ifs at hnext with hended
        · refine .ended hended (by rwa [cutOff_observe]) fun j y st'' hy => ?_
          rw [hnext] at hy
          cases hy
        · exact .goesOn hnext (h.execution.trans hcurrent.symm) (by rwa [cutOff_observe])
    · refine ⟨st₀, ?_, hstanding.left ?_ ?_ (cutOff_observe s act)⟩
      · rw [← hfollow]
        exact congrArg _ (hother e hcurrent)
      · intro j y st'' hy
        rw [hposition] at hy
        cases hy
        exact fun heq => hcurrent heq.symm
      · intro j y st'' hy
        have hnext := ((congrArg JobTask.position htask).trans h.position).symm.trans hy
        split_ifs at hnext
        cases hnext
        rw [h.execution]
        exact fun heq => hcurrent heq.symm

/-- A step in which the task stays where it is. -/
lemma Inv.quiet (inv : Inv scheduler s) {act : WorkerAction} {w' : Worker} {jobId : String}
    {task : JobTask} (hstage : s.stage ≠ .stopped) (hact : ∀ j, act ≠ .start j)
    (hbusy : (s.worker.tasks jobId).isDone = false)
    (htasks : w'.tasks = Function.update s.worker.tasks jobId task)
    (hposition : task.position = (s.worker.tasks jobId).position)
    (hexecutions : w'.executions = s.worker.executions) (hlog : w'.log = s.worker.log) :
    Inv scheduler { s.observe act with worker := w' } := by
  have hsame : ∀ j, (w'.tasks j).position = (s.worker.tasks j).position := by
    intro j
    rw [htasks]
    by_cases hj : j = jobId
    · subst hj
      rw [Function.update_self, hposition]
    · rw [Function.update_of_ne hj]
  have hkeeps : (s.observe act).table = s.table := table_observe_of_ne hact
  refine ⟨fun j job x st hj => ?_, hkeeps ▸ inv.nodup, fun j hj => ?_, hkeeps ▸ inv.configured,
    fun heq => absurd ((stage_observe s act).symm.trans heq) hstage, fun job hjob => ?_⟩
  · have hown := inv.owned j job x st ((hsame j).symm.trans hj)
    exact ⟨hown.1, hown.2.1, hown.2.2.1.trans (congrFun hexecutions j).symm, hown.2.2.2⟩
  · rw [hkeeps]
    by_cases heq : j = jobId
    · exact heq ▸ inv.tabled jobId hbusy
    · have htask : w'.tasks j = s.worker.tasks j := by
        rw [htasks, Function.update_of_ne heq]
      exact inv.tabled j ((congrArg JobTask.isDone htask).symm.trans hj)
  · exact (inv.accounted job hjob).congr (hsame job.id) (congrFun hexecutions job.id)
      (fun e => congrArg (executionLog · job.id e) hlog) fun e => by rw [cutOff_observe]

/-- A step in which an execution begins. -/
lemma Inv.begun (inv : Inv scheduler s) {w' : Worker} {job : ScheduledJob}
    (hstage : s.stage ≠ .stopped) (hjob : scheduler.jobWithId job.id = some job)
    (hdone : s.worker.tasks job.id = .done)
    (htasks : w'.tasks = Function.update s.worker.tasks job.id
      (.checking job ⟨job.id, s.worker.executions job.id, 1⟩))
    (hexecutions : w'.executions
      = Function.update s.worker.executions job.id (s.worker.executions job.id + 1))
    (hlog : w'.log
      = s.worker.log ++ [(⟨job.id, s.worker.executions job.id, 1⟩, .checkStarted)]) :
    Inv scheduler { s.observe (.start job.id) with worker := w' } := by
  have hother : ∀ j, j ≠ job.id → w'.tasks j = s.worker.tasks j ∧
      w'.executions j = s.worker.executions j := by
    intro j hj
    rw [htasks, hexecutions, Function.update_of_ne hj, Function.update_of_ne hj]
    exact ⟨rfl, rfl⟩
  have hfresh : job.id ∉ s.unfinished := by
    intro hmem
    rw [inv.mem_unfinished_iff, hdone] at hmem
    cases hmem
  refine ⟨fun j job' x st hj => ?_, ?_, fun j hj => ?_, fun j hj => ?_,
    fun heq => absurd ((stage_observe s _).symm.trans heq) hstage, fun job' hjob' => ?_⟩
  · by_cases heq : j = job.id
    · subst heq
      have htask : w'.tasks job.id = .checking job ⟨job.id, s.worker.executions job.id, 1⟩ := by
        simp [htasks]
      have hx := (congrArg JobTask.position htask).symm.trans hj
      cases hx
      refine ⟨hjob, rfl, ?_, rfl, job.retry.maxAttempts_pos⟩
      show _ = w'.executions job.id
      simp [hexecutions]
    · obtain ⟨htask, hexecution⟩ := hother j heq
      have hown := inv.owned j job' x st ((congrArg JobTask.position htask).symm.trans hj)
      exact ⟨hown.1, hown.2.1, hown.2.2.1.trans hexecution.symm, hown.2.2.2⟩
  · show (s.unfinished ++ [job.id]).Nodup
    exact List.nodup_append.mpr ⟨inv.nodup_unfinished, by simp,
      fun a ha b hb => by rintro rfl; exact hfresh (List.mem_singleton.mp hb ▸ ha)⟩
  · show j ∈ s.unfinished ++ [job.id]
    by_cases heq : j = job.id
    · simp [heq]
    · refine List.mem_append_left _ (inv.mem_unfinished_iff.mpr ?_)
      exact (congrArg JobTask.isDone (hother j heq).1).symm.trans hj
  · rcases List.mem_append.mp hj with hj | hj
    · exact inv.configured j (mem_unfinished.mp hj).1
    · rw [List.mem_singleton.mp hj, hjob]
      rfl
  · by_cases heq : job'.id = job.id
    · obtain rfl : job' = job := Option.some.inj (hjob'.symm.trans (heq ▸ hjob))
      exact Accounted.begun_of inv hjob hdone htasks hexecutions hlog _
    · exact (inv.accounted job' hjob').of_ne ⟨job.id, s.worker.executions job.id, 1⟩
        [.checkStarted] (Ne.symm heq) htasks (hother _ heq).2 hlog _

/-- A step in which the task moves on. -/
lemma Inv.moved (inv : Inv scheduler s) {act : WorkerAction} {w' : Worker} {job : ScheduledJob}
    {x x' : CheckAttempt} {st st' : ExecutionState} {task : JobTask} {events : List AttemptEvent}
    (hstage : s.stage ≠ .stopped) (hact : ∀ j, act ≠ .start j)
    (hposition : (s.worker.tasks job.id).position = some (job, x, st))
    (hmoved : s.worker.Moved w' job x st x' st' task events) :
    Inv scheduler { s.observe act with worker := w' } := by
  obtain ⟨hjob, hparty, hlast, hnumber, hwithin⟩ := inv.owned job.id job x st hposition
  have hkeeps : (s.observe act).table = s.table := table_observe_of_ne hact
  have hother : ∀ j, j ≠ job.id → w'.tasks j = s.worker.tasks j := by
    intro j hj
    rw [hmoved.tasks, hparty, Function.update_of_ne hj]
  have htask : w'.tasks job.id = task := by
    rw [hmoved.tasks, hparty, Function.update_self]
  refine ⟨fun j job' y st'' hj => ?_, hkeeps ▸ inv.nodup, fun j hj => ?_, hkeeps ▸ inv.configured,
    fun heq => absurd ((stage_observe s act).symm.trans heq) hstage, fun job' hjob' => ?_⟩
  · by_cases heq : j = job.id
    · subst heq
      have hnext := ((congrArg JobTask.position htask).trans hmoved.position).symm.trans hj
      split_ifs at hnext
      cases hnext
      refine ⟨hjob, hmoved.party.trans hparty, ?_, hmoved.number, hmoved.within hwithin⟩
      rw [hmoved.execution, hlast]
      exact (congrFun hmoved.executions _).symm
    · have hown := inv.owned j job' y st''
        ((congrArg JobTask.position (hother j heq)).symm.trans hj)
      exact ⟨hown.1, hown.2.1, hown.2.2.1.trans (congrFun hmoved.executions j).symm,
        hown.2.2.2⟩
  · rw [hkeeps]
    by_cases heq : j = job.id
    · exact heq ▸ inv.tabled job.id (isDone_of_position hposition)
    · exact inv.tabled j ((congrArg JobTask.isDone (hother j heq)).symm.trans hj)
  · by_cases heq : job'.id = job.id
    · obtain rfl : job' = job := Option.some.inj (hjob'.symm.trans (heq ▸ hjob))
      exact Accounted.moved_of inv hjob hposition hmoved act
    · have hne : x'.party ≠ job'.id := by
        rw [hmoved.party, hparty]
        exact Ne.symm heq
      exact (inv.accounted job' hjob').of_ne x' events hne
        (hmoved.party ▸ hmoved.tasks) (congrFun hmoved.executions _) hmoved.log act

/-- **A step of the worker** keeps every execution accounted for. -/
lemma Inv.advance (inv : Inv scheduler s) {act : WorkerAction} {w' : Worker} {jobId : String}
    (hstage : s.stage ≠ .stopped) (h : scheduler.Advance s.worker act w' jobId) :
    Inv scheduler { s.observe act with worker := w' } := by
  have hid {job : ScheduledJob} (hjob : scheduler.jobWithId jobId = some job) : job.id = jobId := by
    simpa using List.find?_some hjob
  cases h with
  | quiet hact hbusy htasks hposition hexecutions hlog =>
      exact inv.quiet hstage hact hbusy htasks hposition hexecutions hlog
  | begun hact hjob hdone htasks hexecutions hlog =>
      obtain rfl := hact
      obtain rfl := hid hjob
      exact inv.begun hstage hjob hdone htasks hexecutions hlog
  | moved hact hposition hmoved =>
      obtain rfl := hid (inv.owned jobId _ _ _ hposition).1
      exact inv.moved hstage hact hposition hmoved

/-! ### Every step -/

/-- The death between two transactions is that of a process in the same tasks. -/
lemma Inv.halfDispatched (inv : Inv scheduler s) (hstage : s.stage ≠ .stopped) {jobId : String}
    {job : ScheduledJob} {x : CheckAttempt} {pass : Pass PendingNotification Datetime StorageError}
    (htask : s.worker.tasks jobId = .dispatching job x pass) (n : Option PendingNotification)
    (db : Database) (pass' : Pass PendingNotification Datetime StorageError) :
    Inv scheduler (s.halfDispatched jobId job x n db pass') := by
  have hsame : ∀ j, ((s.halfDispatched jobId job x n db pass').worker.tasks j).position
        = (s.worker.tasks j).position ∧
      ((s.halfDispatched jobId job x n db pass').worker.tasks j).isDone
        = (s.worker.tasks j).isDone := by
    intro j
    by_cases hj : j = jobId
    · subst hj
      simp [Lifecycle.halfDispatched, Worker.setTask, htask, JobTask.position, JobTask.isDone]
    · simp [Lifecycle.halfDispatched, Worker.setTask, hj]
  exact inv.congr (fun j => (hsame j).1) (fun j => (hsame j).2) rfl rfl rfl rfl
    fun h => absurd h hstage

/-- **Every step keeps the invariant.** -/
lemma Inv.step (inv : Inv scheduler s) {s' : Lifecycle} {act : LifecycleAction}
    (h : scheduler.lifecycle.step s act = some s') : Inv scheduler s' := by
  cases Scheduler.lifecycleEffect_of_step h with
  | @stepped a w hstage heffect =>
      obtain ⟨jobId, hadvance⟩ := advance_of_effect inv.owned heffect
      refine inv.advance ?_ hadvance
      intro hstopped
      rw [hstopped] at hstage
      cases hstage
  | stopping hstage =>
      exact inv.congr (fun _ => rfl) (fun _ => rfl) rfl rfl rfl rfl (by simp)
  | drained hstage hdone =>
      have hall : ∀ j, s.worker.tasks j = .done := by
        intro j
        have hj : j ∉ s.unfinished := hdone ▸ List.not_mem_nil
        rw [inv.mem_unfinished_iff] at hj
        cases htask : s.worker.tasks j <;> simp [htask, JobTask.isDone] at hj ⊢
      refine ⟨inv.owned, List.nodup_nil, fun j hj => ?_, fun j hj => absurd hj List.not_mem_nil,
        fun _ => hall, fun job hjob => ?_⟩
      · have hj' : (s.worker.tasks j).isDone = false := hj
        rw [hall j] at hj'
        cases hj'
      · exact (inv.accounted job hjob).congr rfl rfl (fun _ => rfl) fun _ => rfl
  | @timedOut arrived hstage hpending =>
      exact (inv.abandon arrived).congr (fun _ => rfl) (fun _ => rfl) rfl rfl rfl rfl fun _ _ => rfl
  | died hstage => exact inv.abandon _
  | diedAfter hstage htask heffect => exact (inv.halfDispatched hstage htask _ _ _).abandon _
  | booted hstage =>
      exact inv.congr (fun _ => rfl) (fun _ => rfl) rfl rfl rfl rfl (by simp)
  | pruned => exact inv.congr (fun _ => rfl) (fun _ => rfl) rfl rfl rfl rfl inv.halted

/-- **The invariant holds in every run.** -/
theorem inv_run {db : Database} {acts : List LifecycleAction} {s' : Lifecycle}
    (hrun : scheduler.lifecycle.run (start db) acts = some s') : Inv scheduler s' :=
  Process.run_stable (fun _ _ _ inv h => Inv.step inv h) (inv_start scheduler db) hrun

end Inv

lemma Standing.not_fresh {s : Lifecycle} {jobId : String} {e : ℕ} {st : ExecutionState}
    (h : s.Standing jobId e st) : st ≠ .fresh := by
  cases h with
  | ended hended =>
      rintro rfl
      cases hended
  | goesOn htask => exact not_fresh_of_position htask
  | cutOff _ hbegun => exact hbegun

end Lifecycle

/-! ## The results -/

/-- **The protocol of an execution.**  In every life of a worker process, whatever the outcomes of
drivers and notifiers, the interleaving of the jobs, and the points at which the process is stopped,
dies and is started again: the log of every execution follows the retry protocol, with its starts as
its attempts and no more of them than its job allows; and the execution has ended, or goes on, or
was cut off once, in its last attempt. -/
theorem execution_protocol {scheduler : Scheduler} {job : ScheduledJob}
    (hjob : scheduler.jobWithId job.id = some job) {db : Database} {acts : List LifecycleAction}
    {s : Lifecycle} (hrun : scheduler.lifecycle.run (.start db) acts = some s) (e : ℕ) :
    (s.worker.executions job.id ≤ e → executionLog s.worker.log job.id e = []) ∧
      (e < s.worker.executions job.id → ∃ st : ExecutionState,
        ExecutionState.fresh.follow job.retry.maxAttempts (executionLog s.worker.log job.id e)
            = some st ∧
          (executionLog s.worker.log job.id e).countP (fun k => k.2 = .checkStarted)
            = st.attempts ∧
          1 ≤ st.attempts ∧ st.attempts ≤ job.retry.maxAttempts ∧ s.Standing job.id e st) := by
  have hacc := (Lifecycle.inv_run hrun).accounted job hjob
  refine ⟨fun he => (hacc.fresh e he).1, fun he => ?_⟩
  obtain ⟨st, hfollow, hstanding⟩ := hacc.begun e he
  have hmax := job.retry.maxAttempts_pos
  have hfresh : ExecutionState.fresh.Within job.retry.maxAttempts := Nat.zero_le _
  obtain ⟨hcount, hwithin⟩ := ExecutionState.follow_attempts hmax hfresh hfollow
  refine ⟨st, hfollow, ?_, ?_, hwithin.attempts_le, hstanding⟩
  · rw [hcount, ExecutionState.attempts, Nat.zero_add]
  · exact ExecutionState.one_le_attempts hmax hfollow hstanding.not_fresh

/-- The first attempt fails, the process is told to stop while the task sleeps, and the second
attempt is cancelled. -/
def cancelledLife : List LifecycleAction :=
  .boot :: (failOnce ⟨0, zero_mem_unit⟩).dropLast.map .task ++
    [.stop, .task (.wake "swim"), .timeout fun _ => false]

theorem execution_protocol_cancelled :
    ∃ job s, flaky.jobWithId job.id = some job ∧
      flaky.lifecycle.run (.start .empty) cancelledLife = some s ∧
      s.cancelled = ["swim"] ∧
      ∃ st : ExecutionState, ExecutionState.fresh.follow job.retry.maxAttempts
        (executionLog s.worker.log job.id 0) = some st ∧ s.Standing job.id 0 st := by
  have hlife : (flaky.lifecycle.run (.start .empty) cancelledLife).map (fun s =>
      (s.cancelled, s.worker.executions "swim")) = some (["swim"], 1) := by decide +kernel
  have hsome : (flaky.jobWithId "swim").isSome = true := by decide
  obtain ⟨job, hjob⟩ := Option.isSome_iff_exists.mp hsome
  have hid : job.id = "swim" := by simpa using List.find?_some hjob
  rw [← hid] at hjob
  obtain ⟨s, hs, hbooks⟩ := Option.map_eq_some_iff.mp hlife
  rw [Prod.mk.injEq] at hbooks
  obtain ⟨st, hfollow, _, _, _, hstanding⟩ :=
    (execution_protocol hjob hs 0).2 (by rw [hid, hbooks.2]; exact Nat.one_pos)
  exact ⟨job, s, hjob, hs, hbooks.1, st, hfollow, hstanding⟩

end WebChecker
