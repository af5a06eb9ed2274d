import Mathlib.Data.Rat.Floor
import WebChecker.Core.Scheduler
import WebChecker.Library.Cadence

/-!
# When a job is started

`Scheduler.tick` with exact time: for every due job it advances the due time by whole intervals
and then either starts an execution or, if the task in its table is not done, reports an overlap.
Executions belong to the event loop and complete between ticks; the scheduler's table of tasks
learns about it late, when a tick discards the tasks that are done.

`JobView` is what a scheduler's state shows of one job.  A run changes it by the ticks and by the
completions of that job's own executions only (`view_run`), so a job is scheduled as if it were
alone.  What is left is one job against the clock: its due time is that of a fixed cadence
(`Cadence.due`), and its table entry is the one execution that may still run (`Tracked`).
-/

namespace WebChecker

open Relational Runs

/-! ## The state -/

/-- What a tick does for a due job. -/
inductive TickEvent where
  /-- `asyncio.create_task(self._execute_with_retries(job))`. -/
  | started
  /-- The event `overlap_skipped`. -/
  | overlapSkipped
deriving DecidableEq, Repr

structure TickEntry where
  time : ℚ
  jobId : String
  event : TickEvent
deriving DecidableEq, Repr

/-- The scheduler's clock readings and tables, and the executions of the event loop. -/
structure Ticker where
  /-- The last reading of the monotonic clock. -/
  clock : ℚ
  /-- `_next_due`. -/
  nextDue : String → ℚ
  /-- `_tasks`: the number of the job's execution. -/
  tasks : String → Option ℕ
  /-- Of every execution of a job, in the order of their creation: whether it is done. -/
  executions : String → List Bool
  log : List TickEntry

namespace Ticker

/-- The constructor reads the clock once and makes every job due. -/
def start (startupTime : ℚ) : Ticker :=
  ⟨startupTime, fun _ => startupTime, fun _ => none, fun _ => [], []⟩

/-- `task.done()`. -/
def isDone (s : Ticker) (jobId : String) (task : ℕ) : Bool :=
  ((s.executions jobId)[task]?).getD true

/-- `_discard_completed_tasks`. -/
def discardCompletedTasks (s : Ticker) : Ticker :=
  { s with tasks := fun jobId => (s.tasks jobId).filter fun task => !s.isDone jobId task }

/-- `running is not None and not running.done()`. -/
def isRunning (s : Ticker) (jobId : String) : Bool :=
  (s.tasks jobId).any fun task => !s.isDone jobId task

def emit (s : Ticker) (entry : TickEntry) : Ticker := { s with log := s.log ++ [entry] }

/-- `asyncio.create_task`, and its entry in the table. -/
def startExecution (s : Ticker) (now : ℚ) (jobId : String) : Ticker :=
  { s with
    tasks := Function.update s.tasks jobId (some (s.executions jobId).length)
    executions := Function.update s.executions jobId (s.executions jobId ++ [false])
    log := s.log ++ [⟨now, jobId, .started⟩] }

/-- The body of the loop over the jobs. -/
def tickJob (now : ℚ) (s : Ticker) (job : ScheduledJob) : Ticker :=
  let dueAt := s.nextDue job.id
  if now < dueAt then s
  else
    let elapsedIntervals : ℤ := ⌊(now - dueAt) / job.timing.intervalSeconds⌋ + 1
    let s := { s with nextDue := Function.update s.nextDue job.id
                        (dueAt + elapsedIntervals * job.timing.intervalSeconds) }
    if s.isRunning job.id then s.emit ⟨now, job.id, .overlapSkipped⟩
    else s.startExecution now job.id

/-- An execution of a job completes. -/
def complete (s : Ticker) (jobId : String) (task : ℕ) : Ticker :=
  { s with executions := Function.update s.executions jobId ((s.executions jobId).set task true) }

end Ticker

/-- `tick`, with the reading of the clock. -/
def Scheduler.tick (scheduler : Scheduler) (s : Ticker) (now : ℚ) : Ticker :=
  { scheduler.jobs.foldl (Ticker.tickJob now) s.discardCompletedTasks with clock := now }

/-- A tick, or the completion of an execution between two ticks. -/
inductive TickerAction where
  | tick (now : ℚ)
  | complete (jobId : String) (task : ℕ)
deriving DecidableEq, Repr

/-- The runs of the scheduler's loop: the clock does not go back, and an execution that runs may
complete at any time. -/
def Scheduler.cadence (scheduler : Scheduler) : Process Ticker TickerAction where
  step s
    | .tick now => if s.clock ≤ now then some (scheduler.tick s now) else none
    | .complete jobId task =>
      if (s.executions jobId)[task]? = some false then some (s.complete jobId task) else none

/-- The job's definition: the first one with its id, which is the only one that ever starts. -/
def Scheduler.jobWithId (scheduler : Scheduler) (jobId : String) : Option ScheduledJob :=
  scheduler.jobs.find? fun job => job.id == jobId

/-! ## One job -/

/-- What the state shows of one job. -/
structure JobView where
  nextDue : ℚ
  task : Option ℕ
  executions : List Bool
  events : List TickEntry

/-- The part of the state that belongs to a job. -/
def Ticker.view (s : Ticker) (jobId : String) : JobView :=
  ⟨s.nextDue jobId, s.tasks jobId, s.executions jobId, s.log.filter fun e => e.jobId == jobId⟩

namespace JobView

def isDone (v : JobView) (task : ℕ) : Bool := (v.executions[task]?).getD true

/-- An execution of the job has not completed. -/
def Running (v : JobView) : Prop := false ∈ v.executions

instance (v : JobView) : Decidable v.Running := inferInstanceAs (Decidable (false ∈ v.executions))

/-- The job's part of discarding the completed tasks. -/
def discard (v : JobView) : JobView := { v with task := v.task.filter fun task => !v.isDone task }

/-- The job's part of the loop. -/
def tickJob (jobId : String) (interval now : ℚ) (v : JobView) : JobView :=
  if now < v.nextDue then v
  else if v.task.any fun task => !v.isDone task then
    { v with
      nextDue := Cadence.advance interval v.nextDue now
      events := v.events ++ [⟨now, jobId, .overlapSkipped⟩] }
  else
    { nextDue := Cadence.advance interval v.nextDue now
      task := some v.executions.length
      executions := v.executions ++ [false]
      events := v.events ++ [⟨now, jobId, .started⟩] }

/-- What an action does to the view of a job that it concerns. -/
def apply (jobId : String) (interval : ℚ) (v : JobView) : TickerAction → JobView
  | .tick now => v.discard.tickJob jobId interval now
  | .complete _ task => { v with executions := v.executions.set task true }

end JobView

/-- The action is a tick or completes an execution of the job. -/
def TickerAction.concerns (jobId : String) : TickerAction → Bool
  | .tick _ => true
  | .complete j _ => j == jobId

/-- The ticks of a run. -/
def tickTimes (actions : List TickerAction) : List ℚ :=
  actions.filterMap fun
    | .tick now => some now
    | .complete _ _ => none

/-! ## A job is scheduled as if it were alone -/

/-- The loop's body for another job. -/
lemma view_tickJob_of_ne (now : ℚ) (s : Ticker) {job : ScheduledJob} {jobId : String}
    (h : job.id ≠ jobId) : (s.tickJob now job).view jobId = s.view jobId := by
  rw [Ticker.tickJob]
  dsimp only
  split_ifs <;>
    simp [Ticker.view, Ticker.emit, Ticker.startExecution, Function.update_of_ne h.symm, h]

/-- The loop's body for the job itself. -/
lemma view_tickJob_self (now : ℚ) (s : Ticker) (job : ScheduledJob) :
    (s.tickJob now job).view job.id
      = (s.view job.id).tickJob job.id job.timing.intervalSeconds now := by
  rw [Ticker.tickJob, JobView.tickJob]
  dsimp only
  by_cases hdue : now < s.nextDue job.id
  · rw [if_pos hdue, if_pos (show now < (s.view job.id).nextDue from hdue)]
  · rw [if_neg hdue, if_neg (show ¬ now < (s.view job.id).nextDue from hdue)]
    by_cases hrunning : s.isRunning job.id = true
    · rw [if_pos (by exact hrunning), if_pos (by exact hrunning)]
      simp [Ticker.view, Ticker.emit, Cadence.advance]
    · rw [if_neg (by exact hrunning), if_neg (by exact hrunning)]
      simp [Ticker.view, Ticker.startExecution, Cadence.advance]

/-- After its turn a job is due in the future, so a second definition with its id does nothing. -/
lemma JobView.lt_nextDue_tickJob (jobId : String) {interval : ℚ} (h : 0 < interval) (now : ℚ)
    (v : JobView) : now < (v.tickJob jobId interval now).nextDue := by
  have hadvance : ¬ now < v.nextDue → now < Cadence.advance interval v.nextDue now := by
    intro _
    have hgrid := Cadence.advance_grid h v.nextDue 0 now
    rw [Int.cast_zero, mul_zero, add_zero] at hgrid
    rw [hgrid]
    exact (Cadence.slot_end h _ now).1
  rw [tickJob]
  split_ifs with hdue
  · exact hdue
  · exact hadvance hdue
  · exact hadvance hdue

/-- The loop over jobs whose ids are due in the future or belong to others. -/
lemma view_foldl_of_lt (now : ℚ) (jobId : String) (jobs : List ScheduledJob) {s : Ticker}
    (h : now < (s.view jobId).nextDue) :
    (jobs.foldl (Ticker.tickJob now) s).view jobId = s.view jobId := by
  induction jobs generalizing s with
  | nil => rfl
  | cons job jobs ih =>
      have hsame : (s.tickJob now job).view jobId = s.view jobId := by
        by_cases hj : job.id = jobId
        · subst hj
          rw [view_tickJob_self, JobView.tickJob, if_pos h]
        · exact view_tickJob_of_ne now s hj
      rw [List.foldl_cons, ih (by rw [hsame]; exact h), hsame]

/-- **A tick, seen from one job**: the turn of its definition. -/
lemma view_tick {scheduler : Scheduler} {job : ScheduledJob} {jobId : String}
    (hjob : scheduler.jobWithId jobId = some job) (s : Ticker) (now : ℚ) :
    (scheduler.tick s now).view jobId
      = (s.view jobId).discard.tickJob jobId job.timing.intervalSeconds now := by
  have hfold : ∀ (jobs : List ScheduledJob) (s : Ticker),
      (jobs.find? fun job => job.id == jobId) = some job →
      (jobs.foldl (Ticker.tickJob now) s).view jobId
        = (s.view jobId).tickJob jobId job.timing.intervalSeconds now := by
    intro jobs
    induction jobs with
    | nil => intro s h; simp at h
    | cons first jobs ih =>
        intro s h
        rw [List.foldl_cons]
        by_cases hj : first.id = jobId
        · subst hj
          rw [List.find?_cons_of_pos (by simp), Option.some.injEq] at h
          subst h
          rw [view_foldl_of_lt now _ jobs, view_tickJob_self]
          rw [view_tickJob_self]
          exact JobView.lt_nextDue_tickJob _ first.timing.interval_pos now _
        · rw [List.find?_cons_of_neg (by simpa using hj)] at h
          rw [ih _ h, view_tickJob_of_ne now s hj]
  exact hfold scheduler.jobs s.discardCompletedTasks hjob

/-- **One step, seen from one job.** -/
lemma view_step {scheduler : Scheduler} {job : ScheduledJob} {jobId : String}
    (hjob : scheduler.jobWithId jobId = some job) {s s' : Ticker} {a : TickerAction}
    (h : scheduler.cadence.step s a = some s') :
    s'.view jobId = if a.concerns jobId then
      (s.view jobId).apply jobId job.timing.intervalSeconds a else s.view jobId := by
  cases a with
  | tick now =>
      simp only [Scheduler.cadence, Option.ite_none_right_eq_some, Option.some.injEq] at h
      obtain ⟨_, rfl⟩ := h
      exact view_tick hjob s now
  | complete j task =>
      simp only [Scheduler.cadence, Option.ite_none_right_eq_some, Option.some.injEq] at h
      obtain ⟨_, rfl⟩ := h
      by_cases hj : j = jobId
      · subst hj
        simp [TickerAction.concerns, Ticker.complete, Ticker.view, JobView.apply]
      · simp [TickerAction.concerns, hj, Ticker.complete, Ticker.view,
          Function.update_of_ne (Ne.symm hj)]

/-- **A job's part of a run is what the ticks and its own completions make of it.** -/
theorem view_run {scheduler : Scheduler} {job : ScheduledJob} {jobId : String}
    (hjob : scheduler.jobWithId jobId = some job) {startupTime : ℚ} {as : List TickerAction}
    {s : Ticker} (h : scheduler.cadence.run (.start startupTime) as = some s) :
    s.view jobId = (as.filter (TickerAction.concerns jobId)).foldl
      (JobView.apply jobId job.timing.intervalSeconds) ((Ticker.start startupTime).view jobId) := by
  refine Process.run_induction (P := fun as s => s.view jobId
    = (as.filter (TickerAction.concerns jobId)).foldl
      (JobView.apply jobId job.timing.intervalSeconds) ((Ticker.start startupTime).view jobId))
    (by rfl) ?_ h
  intro past t a t' hpast hstep
  rw [view_step hjob hstep, List.filter_append, List.foldl_append, ← hpast, List.filter_singleton]
  cases a.concerns jobId <;> rfl

/-! ## At most one execution at a time -/

/-- An execution that still runs is the only one, and it is the one in the table. -/
structure JobView.Tracked (v : JobView) : Prop where
  one : v.executions.count false ≤ 1
  tracked : v.Running → ∃ task, v.task = some task ∧ v.executions[task]? = some false

namespace JobView

variable {v : JobView}

lemma isDone_eq_false {task : ℕ} :
    v.isDone task = false ↔ v.executions[task]? = some false := by
  rw [isDone]
  cases h : v.executions[task]? <;> simp

/-- The test of the loop's body finds out whether an execution of the job still runs. -/
lemma Tracked.any_iff (h : v.Tracked) :
    (v.task.any fun task => !v.isDone task) = true ↔ v.Running := by
  rw [Option.any_eq_true]
  constructor
  · rintro ⟨task, _, hnot⟩
    exact List.mem_of_getElem? (isDone_eq_false.mp (by simpa using hnot))
  · intro hrunning
    obtain ⟨task, htask, hfalse⟩ := h.tracked hrunning
    exact ⟨task, htask, by simp [isDone_eq_false.mpr hfalse]⟩

/-- Discarding completed tasks loses no execution that runs. -/
lemma Tracked.discard (h : v.Tracked) : v.discard.Tracked := by
  refine ⟨h.one, fun hrunning => ?_⟩
  obtain ⟨task, htask, hfalse⟩ := h.tracked hrunning
  refine ⟨task, ?_, hfalse⟩
  simp [JobView.discard, htask, isDone_eq_false.mpr hfalse]

/-- The job's turn keeps the invariant: a new execution is started only if none runs. -/
lemma Tracked.tickJob (h : v.Tracked) (jobId : String) (interval now : ℚ) :
    (v.tickJob jobId interval now).Tracked := by
  rw [JobView.tickJob]
  split_ifs with hdue hrunning
  · exact h
  · exact ⟨h.one, h.tracked⟩
  · have hnone : v.executions.count false = 0 :=
      List.count_eq_zero.mpr fun hmem => hrunning (h.any_iff.mpr hmem)
    refine ⟨?_, fun _ => ⟨v.executions.length, rfl, ?_⟩⟩
    · simp [hnone]
    · simp

/-- So does the completion of an execution that runs. -/
lemma Tracked.complete (h : v.Tracked) {task : ℕ} (hfalse : v.executions[task]? = some false) :
    ({ v with executions := v.executions.set task true } : JobView).Tracked := by
  obtain ⟨hlt, hget⟩ := List.getElem?_eq_some_iff.mp hfalse
  have hcount : (v.executions.set task true).count false = 0 := by
    rw [List.count_set hlt, hget]
    have := h.one
    simp
    omega
  exact ⟨hcount.le.trans (Nat.zero_le 1),
    fun hrunning => absurd hrunning (List.count_eq_zero.mp hcount)⟩

end JobView

/-! ## Along a run -/

/-- The job's state after the given actions: its due time is that of a fixed cadence looked at by
the ticks, and every slot with a tick has one event. -/
structure OnCadence (startupTime interval : ℚ) (as : List TickerAction) (v : JobView) : Prop where
  due : v.nextDue = Cadence.due startupTime interval (tickTimes as)
  tracked : v.Tracked
  events : ∀ k : ℤ, v.events.countP (fun e => Cadence.slot startupTime interval e.time = k)
    = if ∃ t ∈ tickTimes as, Cadence.slot startupTime interval t = k then 1 else 0

/-- The ticks of a run come in order, from startup to the clock's last reading. -/
structure InOrder (startupTime : ℚ) (as : List TickerAction) (clock : ℚ) : Prop where
  startup_le : startupTime ≤ clock
  ge : ∀ t ∈ tickTimes as, startupTime ≤ t
  le : ∀ t ∈ tickTimes as, t ≤ clock
  pairwise : (tickTimes as).Pairwise (· ≤ ·)

lemma tickTimes_snoc_tick (as : List TickerAction) (now : ℚ) :
    tickTimes (as ++ [.tick now]) = tickTimes as ++ [now] := by
  simp [tickTimes]

lemma tickTimes_snoc_complete (as : List TickerAction) (jobId : String) (task : ℕ) :
    tickTimes (as ++ [.complete jobId task]) = tickTimes as := by
  simp [tickTimes]

lemma InOrder.snoc {startupTime clock now : ℚ} {as : List TickerAction}
    (h : InOrder startupTime as clock) (hnow : clock ≤ now) :
    InOrder startupTime (as ++ [.tick now]) now := by
  constructor
  · exact h.startup_le.trans hnow
  · intro t ht
    rw [tickTimes_snoc_tick] at ht
    rcases List.mem_append.mp ht with ht | ht
    · exact h.ge t ht
    · rw [List.mem_singleton.mp ht]
      exact h.startup_le.trans hnow
  · intro t ht
    rw [tickTimes_snoc_tick] at ht
    rcases List.mem_append.mp ht with ht | ht
    · exact (h.le t ht).trans hnow
    · rw [List.mem_singleton.mp ht]
  · rw [tickTimes_snoc_tick]
    refine List.pairwise_append.mpr ⟨h.pairwise, List.pairwise_singleton _ _, ?_⟩
    intro a ha b hb
    rw [List.mem_singleton.mp hb]
    exact (h.le a ha).trans hnow

/-- A completion is no tick. -/
lemma InOrder.complete {startupTime clock : ℚ} {as : List TickerAction}
    (h : InOrder startupTime as clock) (jobId : String) (task : ℕ) :
    InOrder startupTime (as ++ [.complete jobId task]) clock := by
  constructor
  · exact h.startup_le
  · rw [tickTimes_snoc_complete]
    exact h.ge
  · rw [tickTimes_snoc_complete]
    exact h.le
  · rw [tickTimes_snoc_complete]
    exact h.pairwise

/-- It changes neither the due time of a job nor its events. -/
lemma OnCadence.complete {startupTime interval : ℚ} {as : List TickerAction} {v v' : JobView}
    (h : OnCadence startupTime interval as v) (jobId : String) (task : ℕ)
    (hdue : v'.nextDue = v.nextDue) (hevents : v'.events = v.events) (htracked : v'.Tracked) :
    OnCadence startupTime interval (as ++ [.complete jobId task]) v' := by
  constructor
  · rw [tickTimes_snoc_complete, hdue, h.due]
  · exact htracked
  · intro k
    rw [tickTimes_snoc_complete, hevents, h.events]

section Tick

variable {startupTime interval now : ℚ} {as : List TickerAction} {v : JobView} {jobId : String}

/-- **What a tick does for a job**: nothing, if the slot has had its tick already; otherwise it
moves the due time on and starts an execution, or reports an overlap if one still runs. -/
lemma OnCadence.tick_eq (h : OnCadence startupTime interval as v) (jobId : String)
    (hinterval : 0 < interval)
    (horder : InOrder startupTime (as ++ [.tick now]) now) :
    (v.discard.tickJob jobId interval now).events = v.events ++
        (if ∃ t ∈ tickTimes as,
          Cadence.slot startupTime interval t = Cadence.slot startupTime interval now then []
        else [⟨now, jobId, if v.Running then .overlapSkipped else .started⟩]) ∧
      (v.discard.tickJob jobId interval now).executions = v.executions ++
        (if (∃ t ∈ tickTimes as,
            Cadence.slot startupTime interval t = Cadence.slot startupTime interval now) ∨
          v.Running then [] else [false]) := by
  have hdue : v.nextDue ≤ now ↔ ∀ t ∈ tickTimes as,
      Cadence.slot startupTime interval t ≠ Cadence.slot startupTime interval now := by
    have hge := horder.ge
    have hpairwise := horder.pairwise
    rw [tickTimes_snoc_tick] at hge hpairwise
    rw [h.due, Cadence.due_le_iff hinterval hge hpairwise]
  have hrunning : (v.discard.task.any fun task => !v.discard.isDone task) = true ↔ v.Running :=
    h.tracked.discard.any_iff
  rw [JobView.tickJob]
  by_cases hticked : ∃ t ∈ tickTimes as,
      Cadence.slot startupTime interval t = Cadence.slot startupTime interval now
  · have hnot : now < v.discard.nextDue := by
      refine not_le.mp fun hle => ?_
      obtain ⟨t, ht, heq⟩ := hticked
      exact hdue.mp hle t ht heq
    rw [if_pos hnot, if_pos hticked, if_pos (Or.inl hticked)]
    simp [JobView.discard]
  · have hfires : ¬ now < v.discard.nextDue := by
      refine not_lt.mpr (hdue.mpr fun t ht heq => hticked ⟨t, ht, heq⟩)
    rw [if_neg hfires, if_neg hticked]
    by_cases hrun : v.Running
    · rw [if_pos (hrunning.mpr hrun)]
      simp [JobView.discard, hrun]
    · rw [if_neg (hrunning.not.mpr hrun)]
      simp [JobView.discard, hticked, hrun]

lemma OnCadence.tick (h : OnCadence startupTime interval as v) (hinterval : 0 < interval)
    (horder : InOrder startupTime (as ++ [.tick now]) now) :
    OnCadence startupTime interval (as ++ [.tick now])
      (v.discard.tickJob jobId interval now) := by
  constructor
  · have hsame : v.discard.nextDue = v.nextDue := rfl
    rw [tickTimes_snoc_tick, Cadence.due_append_singleton, ← h.due, JobView.tickJob, hsame]
    split_ifs <;> rfl
  · exact h.tracked.discard.tickJob jobId interval now
  · intro k
    rw [(h.tick_eq jobId hinterval horder).1, List.countP_append, h.events k, tickTimes_snoc_tick]
    simp only [List.mem_append, List.mem_singleton, or_and_right, exists_or, exists_eq_left]
    by_cases hticked : ∃ t ∈ tickTimes as,
        Cadence.slot startupTime interval t = Cadence.slot startupTime interval now
    · rw [if_pos hticked, List.countP_nil, Nat.add_zero]
      by_cases hk : Cadence.slot startupTime interval now = k
      · rw [if_pos (hk ▸ hticked), if_pos (Or.inl (hk ▸ hticked))]
      · simp only [hk, or_false]
    · rw [if_neg hticked, List.countP_singleton]
      by_cases hk : Cadence.slot startupTime interval now = k
      · rw [if_neg (hk ▸ hticked), if_pos (Or.inr hk)]
        simp [hk]
      · simp only [hk, or_false]
        simp

end Tick

/-- **Every run keeps a job on its cadence.** -/
lemma onCadence_run {scheduler : Scheduler} {job : ScheduledJob}
    (hjob : scheduler.jobWithId job.id = some job) {startupTime : ℚ} {as : List TickerAction}
    {s : Ticker} (h : scheduler.cadence.run (.start startupTime) as = some s) :
    InOrder startupTime as s.clock ∧
      OnCadence startupTime job.timing.intervalSeconds as (s.view job.id) := by
  refine Process.run_induction (P := fun as s => InOrder startupTime as s.clock ∧
    OnCadence startupTime job.timing.intervalSeconds as (s.view job.id)) ?_ ?_ h
  · refine ⟨⟨le_refl _, by simp [tickTimes], by simp [tickTimes], by simp [tickTimes]⟩, ?_⟩
    refine ⟨rfl, ⟨by simp [Ticker.view, Ticker.start], fun hr => ?_⟩, fun k => ?_⟩
    · simp [JobView.Running, Ticker.view, Ticker.start] at hr
    · simp [Ticker.view, Ticker.start, tickTimes]
  · rintro past t a t' ⟨horder, hcadence⟩ hstep
    have hview := view_step hjob hstep
    cases a with
    | tick now =>
        simp only [Scheduler.cadence, Option.ite_none_right_eq_some, Option.some.injEq] at hstep
        obtain ⟨hclock, rfl⟩ := hstep
        have hnext := horder.snoc hclock
        refine ⟨hnext, ?_⟩
        rw [hview]
        exact hcadence.tick job.timing.interval_pos hnext
    | complete jobId task =>
        simp only [Scheduler.cadence, Option.ite_none_right_eq_some, Option.some.injEq] at hstep
        obtain ⟨hfalse, rfl⟩ := hstep
        refine ⟨horder.complete jobId task, ?_⟩
        rw [hview]
        split_ifs with hj
        · have hj : jobId = job.id := by simpa [TickerAction.concerns] using hj
          subst hj
          exact hcadence.complete job.id task rfl rfl (hcadence.tracked.complete hfalse)
        · exact hcadence.complete jobId task rfl rfl hcadence.tracked

/-- **Cadence and serialisation.**  For every job and every run of the scheduler, with ticks in
order from startup and executions that complete at any time in between:

* at most one execution of the job runs;
* after the next tick the job is due at the next point of the startup grid, strictly later and by
  at most one interval;
* every slot of the grid with a tick has exactly one event of the job, and a slot without a tick
  has none; the event is that of the slot's first tick, and it starts an execution unless one of
  the job still runs;
* a run with the same ticks and the same completions of the job's executions gives the job the
  same events, whatever happens to other jobs. -/
theorem scheduler_cadence {scheduler : Scheduler} {job : ScheduledJob}
    (hjob : scheduler.jobWithId job.id = some job) {startupTime : ℚ} {as : List TickerAction}
    {s : Ticker} (h : scheduler.cadence.run (.start startupTime) as = some s) :
    let interval := job.timing.intervalSeconds
    let inSlot (k : ℤ) (t : ℚ) : Prop :=
      startupTime + interval * k ≤ t ∧ t < startupTime + interval * (k + 1)
    let events (s : Ticker) := s.log.filter fun e => e.jobId == job.id
    let ticked (k : ℤ) : Prop := ∃ t ∈ tickTimes as, inSlot k t
    (s.executions job.id).count false ≤ 1 ∧
      (∀ now s', scheduler.cadence.step s (.tick now) = some s' →
        let slot := ⌊(now - startupTime) / interval⌋
        s'.nextDue job.id = startupTime + interval * (slot + 1) ∧
          now < s'.nextDue job.id ∧ s'.nextDue job.id ≤ now + interval ∧
          events s' = events s ++ (if ticked slot then [] else
            [⟨now, job.id,
              if false ∈ s.executions job.id then .overlapSkipped else .started⟩]) ∧
          s'.executions job.id = s.executions job.id ++
            (if ticked slot ∨ false ∈ s.executions job.id then [] else [false])) ∧
      (∀ k : ℤ, (events s).countP (fun e => inSlot k e.time) = if ticked k then 1 else 0) ∧
      ∀ as' s', scheduler.cadence.run (.start startupTime) as' = some s' →
        as'.filter (TickerAction.concerns job.id) = as.filter (TickerAction.concerns job.id) →
        events s' = events s := by
  intro interval inSlot events ticked
  have hinterval : 0 < interval := job.timing.interval_pos
  have hslot : ∀ k t, Cadence.slot startupTime interval t = k ↔ inSlot k t :=
    fun k t => Cadence.slot_eq_iff hinterval
  have hticked : ∀ k, (∃ t ∈ tickTimes as, Cadence.slot startupTime interval t = k) ↔ ticked k :=
    fun k => by simp only [hslot, ticked]
  have hcadence : OnCadence startupTime interval as (s.view job.id) := (onCadence_run hjob h).2
  refine ⟨hcadence.tracked.one, ?_, ?_, ?_⟩
  · intro now s' hstep slot
    have hrun : scheduler.cadence.run (.start startupTime) (as ++ [.tick now]) = some s' :=
      Process.run_append h (Process.run_cons.mpr ⟨s', hstep, rfl⟩)
    obtain ⟨horder, hnext⟩ := onCadence_run hjob hrun
    have hclock : s'.clock = now := by
      simp only [Scheduler.cadence, Option.ite_none_right_eq_some, Option.some.injEq] at hstep
      rw [← hstep.2, Scheduler.tick]
    rw [hclock] at horder
    have hdue : s'.nextDue job.id = startupTime + interval * ((slot + 1 : ℤ) : ℚ) := by
      have hge := horder.ge
      have hpairwise := horder.pairwise
      rw [tickTimes_snoc_tick] at hge hpairwise
      rw [show s'.nextDue job.id = _ from hnext.due, tickTimes_snoc_tick,
        Cadence.due_snoc hinterval hge hpairwise, Cadence.slot]
    have hend := Cadence.slot_end hinterval startupTime now
    rw [Cadence.slot, ← hdue] at hend
    obtain ⟨hevents, hexecutions⟩ := hcadence.tick_eq job.id hinterval horder
    have hview := view_step hjob hstep
    simp only [TickerAction.concerns, if_true, JobView.apply] at hview
    rw [← hview] at hevents hexecutions
    simp only [hticked] at hevents hexecutions
    exact ⟨by rw [hdue]; push_cast; rfl, hend.1, hend.2, hevents, hexecutions⟩
  · intro k
    have hcount := hcadence.events k
    simp only [hslot] at hcount
    exact hcount
  · intro as' s' hrun hsame
    have hviews : s'.view job.id = s.view job.id := by
      rw [view_run hjob hrun, view_run hjob h, hsame]
    exact congrArg JobView.events hviews

/-- A job that is checked every minute. -/
def swimEveryMinute : ScheduledJob where
  id := "swim"
  schedule := some (.everyMinute .once)
  timing := .everyMinute .once
  enabled_eq := rfl
  schedule_eq := rfl

/-- A late tick finds the first execution running; the one after that starts the second. -/
theorem scheduler_cadence_overlap :
    let scheduler : Scheduler := ⟨[swimEveryMinute], .email, none, 3, ["console"]⟩
    ∃ s, scheduler.cadence.run (.start 0)
        [.tick 0, .tick 70, .complete "swim" 0, .tick 130] = some s ∧
      s.log.map TickEntry.event = [.started, .overlapSkipped, .started] ∧
      (s.executions "swim").count false ≤ 1 := by
  intro scheduler
  have hlog : (scheduler.cadence.run (.start 0)
      [.tick 0, .tick 70, .complete "swim" 0, .tick 130]).map
        (fun s => s.log.map TickEntry.event) = some [.started, .overlapSkipped, .started] := by
    decide +kernel
  obtain ⟨s, hs, hevents⟩ := Option.map_eq_some_iff.mp hlog
  exact ⟨s, hs, hevents, (@scheduler_cadence _ swimEveryMinute rfl _ _ _ hs).1⟩

end WebChecker
