import WebChecker.Core.Commits
import WebChecker.Core.Ticking

/-!
# The life of a worker process

`Scheduler.run` ticks until it is told to stop; `shutdown` then waits a bounded time for the
executions that are going on and cancels what is left of them.  The process can also die, at any
point, and a new one begins over the same database, which the maintenance process prunes meanwhile.

* `Lifecycle` — the worker, the stage of its process, the scheduler's table of tasks, and the books:
  what happened to attempts and to notifications that the database knows nothing of.
* `Scheduler.lifecycle` — the steps of all this, and `LifecycleEffect` what one step can do.
* `Tabled` — the table holds every task that is not done, and nothing runs in a stopped process.

A step of a task is one transaction of the database, with one exception: when a dispatch ends, the
outcome of its last send and the evaluation of the backlog are two.  `dieAfter` is the death of the
process between them.
-/

namespace WebChecker

open Relational Results Runs Dispatch

/-! ## The state -/

/-- The stages of a worker process. -/
inductive Stage where
  /-- `run` ticks. -/
  | running
  /-- `shutdown` waits for the tasks that are not done. -/
  | draining
  /-- The process has ended. -/
  | stopped
deriving DecidableEq, Repr

namespace JobTask

/-- `task.done()`. -/
def isDone : JobTask → Bool
  | done => true
  | _ => false

/-- Where the pass of a task over the notification outbox stands. -/
def pass : JobTask → Pass PendingNotification Datetime StorageError
  | dispatching _ _ pass => pass
  | _ => .idle

/-- The notification in whose send a task is suspended. -/
def sending (task : JobTask) : Option PendingNotification :=
  match task.pass with
  | .sending n _ _ => some n
  | _ => none

end JobTask

/-- A worker process, what it left behind, and the books. -/
structure Lifecycle where
  worker : Worker
  stage : Stage
  /-- The keys of `_tasks`, in the order of the dictionary. -/
  table : List String
  /-- The events `shutdown_cancelled`. -/
  cancelled : List String
  /-- The attempts that a cancellation or the death of the process cut off. -/
  cutOff : List CheckAttempt
  /-- The notifications whose send has returned. -/
  sent : List PendingNotification
  /-- Those among them that were delivered already when their send returned. -/
  late : List PendingNotification
  /-- The notifications that reached their recipient although their task was cut off in the send. -/
  interrupted : List PendingNotification

namespace Lifecycle

/-- Before the first process. -/
def start (db : Database) : Lifecycle := ⟨.start db, .stopped, [], [], [], [], [], []⟩

/-- The ids of the tasks that are not done, in the order of the table. -/
def unfinished (s : Lifecycle) : List String :=
  s.table.filter fun jobId => !(s.worker.tasks jobId).isDone

/-- A send has returned, of the notification if there is one. -/
def returned (s : Lifecycle) (n : Option PendingNotification) : Lifecycle :=
  { s with
    sent := s.sent ++ n.toList
    late := s.late ++ n.toList.filter fun n => decide (n.id ∉ pendingIds s.worker.db) }

/-- The books after a step of a task. -/
def observe (s : Lifecycle) : WorkerAction → Lifecycle
  -- `tick` discards the entries that are done before it adds one
  | .start jobId => { s with table := s.unfinished ++ [jobId] }
  | .dispatch jobId a _ => s.returned ((s.worker.tasks jobId).pass.delivers a)
  | _ => s

/-- All tasks are gone, and the process with them.  `arrived` says of a task that was in a send
whether the notification reached its recipient nevertheless. -/
def abandon (s : Lifecycle) (arrived : String → Bool) : Lifecycle :=
  { s with
    worker := { s.worker with tasks := fun _ => .done }
    stage := .stopped
    table := []
    cutOff := s.cutOff ++ s.unfinished.filterMap fun j => (s.worker.tasks j).phase.attempt
    interrupted := s.interrupted ++
      (s.unfinished.filter arrived).filterMap fun j => (s.worker.tasks j).sending }

/-- Only a step of the outbox is taken, without what follows it. -/
def halfDispatched (s : Lifecycle) (jobId : String) (job : ScheduledJob) (x : CheckAttempt)
    (n : Option PendingNotification) (db : Database)
    (pass : Pass PendingNotification Datetime StorageError) : Lifecycle :=
  { s.returned n with worker := { s.worker with db := db }.setTask jobId (.dispatching job x pass) }

end Lifecycle

/-! ## The steps -/

/-- What happens to a worker process and around it. -/
inductive LifecycleAction where
  /-- A step of a task, or `tick` starting one. -/
  | task (a : WorkerAction)
  /-- `stop_event.set()`. -/
  | stop
  /-- `asyncio.wait` returns without pending tasks. -/
  | idle
  /-- `asyncio.wait` returns with pending tasks, and these are cancelled. -/
  | timeout (arrived : String → Bool)
  | die (arrived : String → Bool)
  /-- The process dies after a step of a dispatch and before what the task does next. -/
  | dieAfter (jobId : String) (a : PassStep Datetime String) (arrived : String → Bool)
  /-- A new process. -/
  | boot
  /-- The maintenance process prunes the database. -/
  | prune (observationsBefore notificationsBefore : Datetime)

/-- `tick` is called only by `run`, and tasks go on until the process has ended. -/
def Stage.admits : Stage → WorkerAction → Bool
  | .running, _ => true
  | .draining, .start _ => false
  | .draining, _ => true
  | .stopped, _ => false

namespace Scheduler

variable (scheduler : Scheduler)

/-- **The life of a worker process**, with any outcome of drivers and notifiers. -/
def lifecycle : Process Lifecycle LifecycleAction where
  step s
    | .task a =>
      if s.stage.admits a then
        (scheduler.process.step s.worker a).map fun worker => { s.observe a with worker }
      else none
    | .stop => if s.stage = .running then some { s with stage := .draining } else none
    | .idle =>
      if s.stage = .draining ∧ s.unfinished = [] then
        some { s with stage := .stopped, table := [] }
      else none
    | .timeout arrived =>
      if s.stage = .draining ∧ s.unfinished ≠ [] then
        some { s.abandon arrived with cancelled := s.cancelled ++ s.unfinished }
      else none
    | .die arrived => if s.stage = .stopped then none else some (s.abandon arrived)
    | .dieAfter jobId a arrived =>
      if s.stage = .stopped then none
      else
        match s.worker.tasks jobId with
        | .dispatching job x pass =>
          ((notificationOutbox scheduler.notifiers dispatchLimit).step s.worker.db pass a).map
            fun r => (s.halfDispatched jobId job x (pass.delivers a) r.1 r.2).abandon arrived
        | _ => none
    | .boot => if s.stage = .stopped then some { s with stage := .running } else none
    | .prune observationsBefore notificationsBefore =>
      some { s with worker := { s.worker with
        db := (WebChecker.prune s.worker.db observationsBefore notificationsBefore).2 } }

/-- Everything a step can do. -/
inductive LifecycleEffect (s : Lifecycle) : LifecycleAction → Lifecycle → Prop
  | stepped {a w} (hstage : s.stage.admits a = true) (heffect : scheduler.Effect s.worker a w) :
      LifecycleEffect s (.task a) { s.observe a with worker := w }
  | stopping (hstage : s.stage = .running) :
      LifecycleEffect s .stop { s with stage := .draining }
  | drained (hstage : s.stage = .draining) (hdone : s.unfinished = []) :
      LifecycleEffect s .idle { s with stage := .stopped, table := [] }
  | timedOut {arrived} (hstage : s.stage = .draining) (hpending : s.unfinished ≠ []) :
      LifecycleEffect s (.timeout arrived)
        { s.abandon arrived with cancelled := s.cancelled ++ s.unfinished }
  | died {arrived} (hstage : s.stage ≠ .stopped) :
      LifecycleEffect s (.die arrived) (s.abandon arrived)
  | diedAfter {jobId a arrived job x pass db pass'} (hstage : s.stage ≠ .stopped)
      (htask : s.worker.tasks jobId = .dispatching job x pass)
      (heffect : (notificationOutbox scheduler.notifiers dispatchLimit).Effect s.worker.db pass a
        db pass') :
      LifecycleEffect s (.dieAfter jobId a arrived)
        ((s.halfDispatched jobId job x (pass.delivers a) db pass').abandon arrived)
  | booted (hstage : s.stage = .stopped) : LifecycleEffect s .boot { s with stage := .running }
  | pruned {observationsBefore notificationsBefore} :
      LifecycleEffect s (.prune observationsBefore notificationsBefore)
        { s with worker := { s.worker with
          db := (WebChecker.prune s.worker.db observationsBefore notificationsBefore).2 } }

variable {scheduler}

/-- **Every step has one of these effects.** -/
lemma lifecycleEffect_of_step {s s' : Lifecycle} {act : LifecycleAction}
    (h : scheduler.lifecycle.step s act = some s') : scheduler.LifecycleEffect s act s' := by
  cases act with
  | task a =>
      simp only [lifecycle, Option.ite_none_right_eq_some, Option.map_eq_some_iff] at h
      obtain ⟨hstage, w, hstep, rfl⟩ := h
      exact .stepped hstage (effect_of_step hstep)
  | stop =>
      simp only [lifecycle, Option.ite_none_right_eq_some, Option.some.injEq] at h
      exact h.2 ▸ .stopping h.1
  | idle =>
      simp only [lifecycle, Option.ite_none_right_eq_some, Option.some.injEq] at h
      exact h.2 ▸ .drained h.1.1 h.1.2
  | timeout arrived =>
      simp only [lifecycle, Option.ite_none_right_eq_some, Option.some.injEq] at h
      exact h.2 ▸ .timedOut h.1.1 h.1.2
  | die arrived =>
      simp only [lifecycle, Option.ite_none_left_eq_some, Option.some.injEq] at h
      exact h.2 ▸ .died h.1
  | dieAfter jobId a arrived =>
      simp only [lifecycle, Option.ite_none_left_eq_some] at h
      obtain ⟨hstage, h⟩ := h
      split at h
      next job x pass htask =>
        obtain ⟨⟨db, pass'⟩, hstep, rfl⟩ := Option.map_eq_some_iff.mp h
        exact .diedAfter hstage htask (Outbox.effect_of_step hstep)
      next => simp at h
  | boot =>
      simp only [lifecycle, Option.ite_none_right_eq_some, Option.some.injEq] at h
      exact h.2 ▸ .booted h.1
  | prune observationsBefore notificationsBefore =>
      exact Option.some.inj h ▸ .pruned

end Scheduler

/-! ## The log of one execution -/

/-- Where the log of an execution stands, with the number of attempts so far. -/
inductive ExecutionState where
  | fresh
  | started (attempts : ℕ)
  | recorded (attempts : ℕ)
  | waiting (attempts : ℕ)
  | succeeded (attempts : ℕ)
  | failed (attempts : ℕ) (error : String)
  | reported (attempts : ℕ)
deriving DecidableEq

namespace ExecutionState

def attempts : ExecutionState → ℕ
  | fresh => 0
  | started n => n
  | recorded n => n
  | waiting n => n
  | succeeded n => n
  | failed n _ => n
  | reported n => n

/-- The execution has ended. -/
def ended : ExecutionState → Bool
  | succeeded _ => true
  | failed _ _ => true
  | reported _ => true
  | _ => false

/-- The next event of an execution: attempts are numbered from one; a snapshot is recorded at most
once an attempt and before it succeeds; a failed attempt is followed by another exactly if there are
attempts left; and only the error that the execution failed with is reported. -/
def next (maxAttempts : ℕ) : ExecutionState → ℕ × AttemptEvent → Option ExecutionState
  | fresh, (k, .checkStarted) => if k = 1 then some (started 1) else none
  | waiting n, (k, .checkStarted) => if k = n + 1 then some (started k) else none
  | started n, (k, .snapshotRecorded) => if k = n then some (recorded n) else none
  | started n, (k, .retryScheduled _ _) =>
    if k = n ∧ n < maxAttempts then some (waiting n) else none
  | recorded n, (k, .retryScheduled _ _) =>
    if k = n ∧ n < maxAttempts then some (waiting n) else none
  | started n, (k, .checkFailed error) =>
    if k = n ∧ n = maxAttempts then some (failed n error) else none
  | recorded n, (k, .checkFailed error) =>
    if k = n ∧ n = maxAttempts then some (failed n error) else none
  | recorded n, (k, .checkSucceeded) => if k = n then some (succeeded n) else none
  | failed n error, (k, .failureReported reportedError) =>
    if k = n ∧ reportedError = error then some (reported n) else none
  | _, _ => none

/-- The state after some events, if each of them could come next. -/
def follow (maxAttempts : ℕ) (st : ExecutionState) (events : List (ℕ × AttemptEvent)) :
    Option ExecutionState :=
  events.foldlM (next maxAttempts) st

@[simp] lemma follow_nil (maxAttempts : ℕ) (st : ExecutionState) :
    follow maxAttempts st [] = some st := rfl

lemma follow_cons (maxAttempts : ℕ) (st : ExecutionState) (event : ℕ × AttemptEvent)
    (events : List (ℕ × AttemptEvent)) :
    follow maxAttempts st (event :: events)
      = (next maxAttempts st event).bind fun st' => follow maxAttempts st' events := by
  rw [follow, List.foldlM_cons]
  rfl

lemma follow_append {maxAttempts : ℕ} {st st' : ExecutionState} {as bs : List (ℕ × AttemptEvent)}
    (h : follow maxAttempts st as = some st') :
    follow maxAttempts st (as ++ bs) = follow maxAttempts st' bs := by
  induction as generalizing st with
  | nil =>
      cases h
      rfl
  | cons a as ih =>
      rw [follow_cons, Option.bind_eq_some_iff] at h
      obtain ⟨mid, hmid, hrest⟩ := h
      rw [List.cons_append, follow_cons, hmid, Option.bind_some, ih hrest]

/-- No more attempts than are allowed, and one fewer where another one is to come. -/
def Within (maxAttempts : ℕ) : ExecutionState → Prop
  | waiting n => n < maxAttempts
  | st => st.attempts ≤ maxAttempts

lemma Within.attempts_le {maxAttempts : ℕ} {st : ExecutionState} (h : st.Within maxAttempts) :
    st.attempts ≤ maxAttempts := by
  cases st with
  | waiting n => exact Nat.le_of_lt h
  | _ => exact h

/-- One event counts a start or none, and stays within the allowed attempts. -/
lemma next_attempts {maxAttempts : ℕ} (hmax : 1 ≤ maxAttempts) {st st' : ExecutionState}
    {event : ℕ × AttemptEvent} (hst : st.Within maxAttempts)
    (h : next maxAttempts st event = some st') :
    st'.attempts = st.attempts + (if event.2 = .checkStarted then 1 else 0) ∧
      st'.Within maxAttempts := by
  obtain ⟨k, event⟩ := event
  cases st <;> cases event <;> simp [next] at h <;> simp [Within, attempts] at hst <;>
    obtain ⟨hk, rfl⟩ := h <;> simp [attempts, Within] <;> omega

/-- **The attempts of an execution** are its starts, and no more than allowed. -/
lemma follow_attempts {maxAttempts : ℕ} (hmax : 1 ≤ maxAttempts) {st st' : ExecutionState}
    {events : List (ℕ × AttemptEvent)} (hst : st.Within maxAttempts)
    (h : follow maxAttempts st events = some st') :
    st'.attempts = st.attempts + events.countP (fun e => e.2 = .checkStarted) ∧
      st'.Within maxAttempts := by
  induction events generalizing st with
  | nil =>
      cases h
      exact ⟨rfl, hst⟩
  | cons event events ih =>
      rw [follow_cons, Option.bind_eq_some_iff] at h
      obtain ⟨mid, hmid, hrest⟩ := h
      obtain ⟨hattempts, hwithin⟩ := next_attempts hmax hst hmid
      obtain ⟨hcount, hend⟩ := ih hwithin hrest
      refine ⟨?_, hend⟩
      rw [hcount, hattempts, List.countP_cons]
      simp only [decide_eq_true_eq]
      omega

/-- An execution that has any event has an attempt. -/
lemma one_le_attempts {maxAttempts : ℕ} (hmax : 1 ≤ maxAttempts) {st : ExecutionState}
    {events : List (ℕ × AttemptEvent)} (h : follow maxAttempts fresh events = some st)
    (hst : st ≠ fresh) : 1 ≤ st.attempts := by
  cases events with
  | nil => exact absurd (Option.some.inj h).symm hst
  | cons event events =>
      have hfresh : Within maxAttempts fresh := Nat.zero_le maxAttempts
      have hcount := (follow_attempts hmax hfresh h).1
      rw [follow_cons, Option.bind_eq_some_iff] at h
      obtain ⟨mid, hmid, -⟩ := h
      obtain ⟨k, event⟩ := event
      -- only a start can come first
      cases event <;> simp [next] at hmid
      rw [hcount, List.countP_cons, if_pos (by simp)]
      omega

end ExecutionState

/-- The events of one execution, with the numbers of their attempts. -/
def executionLog (log : List (CheckAttempt × AttemptEvent)) (jobId : String) (execution : ℕ) :
    List (ℕ × AttemptEvent) :=
  log.filterMap fun e =>
    if e.1.party = jobId ∧ e.1.execution = execution then some (e.1.number, e.2) else none

/-! ## What a step of the worker means for the executions -/

/-- The job and the attempt a task is in, and where the log of its execution stands. -/
def JobTask.position : JobTask → Option (ScheduledJob × CheckAttempt × ExecutionState)
  | .checking job x => some (job, x, .started x.number)
  | .dispatching job x _ => some (job, x, .recorded x.number)
  | .sleeping job x => some (job, x, .waiting x.number)
  | .done => none
  | .alerting _ => none

/-- An execution goes on: the log takes some events of one attempt, and the task follows them. -/
structure Worker.Moved (w w' : Worker) (job : ScheduledJob) (x : CheckAttempt)
    (st : ExecutionState) (x' : CheckAttempt) (st' : ExecutionState) (task : JobTask)
    (events : List AttemptEvent) : Prop where
  party : x'.party = x.party
  execution : x'.execution = x.execution
  follows : st.follow job.retry.maxAttempts (events.map fun e => (x'.number, e)) = some st'
  tasks : w'.tasks = Function.update w.tasks x.party task
  position : task.position = if st'.ended then none else some (job, x', st')
  number : st'.attempts = x'.number
  executions : w'.executions = w.executions
  log : w'.log = w.log ++ events.map fun e => (x', e)

/-- What a step of a task means for the executions of its job. -/
inductive Scheduler.Advance (scheduler : Scheduler) (w : Worker) (act : WorkerAction) (w' : Worker)
    (jobId : String) : Prop
  | quiet {task} (hact : ∀ j, act ≠ .start j) (hbusy : (w.tasks jobId).isDone = false)
      (htasks : w'.tasks = Function.update w.tasks jobId task)
      (hposition : task.position = (w.tasks jobId).position)
      (hexecutions : w'.executions = w.executions) (hlog : w'.log = w.log)
  | begun {job} (hact : act = .start jobId) (hjob : scheduler.jobWithId jobId = some job)
      (hdone : w.tasks jobId = .done)
      (htasks : w'.tasks
        = Function.update w.tasks jobId (.checking job ⟨jobId, w.executions jobId, 1⟩))
      (hexecutions : w'.executions
        = Function.update w.executions jobId (w.executions jobId + 1))
      (hlog : w'.log = w.log ++ [(⟨jobId, w.executions jobId, 1⟩, .checkStarted)])
  | moved {job x st x' st' task events} (hact : ∀ j, act ≠ .start j)
      (hposition : (w.tasks jobId).position = some (job, x, st))
      (hmoved : w.Moved w' job x st x' st' task events)

/-- A task is in an attempt of the last execution of its own job, within the job's attempts. -/
def Scheduler.Owned (scheduler : Scheduler) (w : Worker) : Prop :=
  ∀ jobId job x st, (w.tasks jobId).position = some (job, x, st) →
    scheduler.jobWithId jobId = some job ∧ x.party = jobId ∧
      x.execution + 1 = w.executions jobId ∧ st.attempts = x.number ∧
      st.Within job.retry.maxAttempts

section Advance

variable (scheduler : Scheduler) (w : Worker) {job : ScheduledJob} {x : CheckAttempt}

lemma isDone_of_position {task : JobTask} {p} (h : task.position = some p) :
    task.isDone = false := by
  cases task <;> first | rfl | simp [JobTask.position] at h

variable {w} in
/-- The attempts of a log that goes on stay within those allowed. -/
lemma Worker.Moved.within {w' : Worker} {st st' : ExecutionState} {x' : CheckAttempt}
    {task : JobTask} {events : List AttemptEvent} (h : w.Moved w' job x st x' st' task events)
    (hst : st.Within job.retry.maxAttempts) : st'.Within job.retry.maxAttempts :=
  (ExecutionState.follow_attempts job.retry.maxAttempts_pos hst h.follows).2

variable {w} in
/-- The database plays no part. -/
lemma Worker.Moved.of_db {db : Database} {w' : Worker} {st st' : ExecutionState}
    {x' : CheckAttempt} {task : JobTask} {events : List AttemptEvent}
    (h : Worker.Moved { w with db := db } w' job x st x' st' task events) :
    w.Moved w' job x st x' st' task events :=
  ⟨h.party, h.execution, h.follows, h.tasks, h.position, h.number, h.executions, h.log⟩

/-- **A failure** continues the log of an attempt that has started, with or without a snapshot. -/
lemma moved_afterFailure {st : ExecutionState}
    (hst : st = .started x.number ∨ st = .recorded x.number)
    (hle : x.number ≤ job.retry.maxAttempts) (readings : Readings) (error : RaisedException) :
    ∃ st' task events,
      w.Moved (scheduler.afterFailure w job x readings error) job x st x st' task events := by
  have heffect := scheduler.afterFailure_effect w job x readings error
  generalize scheduler.afterFailure w job x readings error = w' at heffect ⊢
  cases heffect with
  | retried hmore =>
      have hlt : x.number < job.retry.maxAttempts := lt_of_le_of_ne hle hmore
      refine ⟨.waiting x.number, _, [_], rfl, rfl, ?_, rfl, rfl, rfl, rfl, rfl⟩
      rcases hst with rfl | rfl <;>
        simp [ExecutionState.follow_cons, ExecutionState.next, hlt]
  | gaveUp hlast =>
      refine ⟨.failed x.number error.formatted, _, [_], rfl, rfl, ?_, rfl, rfl, rfl, rfl, rfl⟩
      rcases hst with rfl | rfl <;>
        simp [ExecutionState.follow_cons, ExecutionState.next, hlast]
  | unrecorded hlast =>
      refine ⟨.reported x.number, .done,
        [.checkFailed error.formatted, .failureReported error.formatted], rfl, rfl, ?_, rfl, rfl,
        rfl, rfl, by simp [Worker.emit, Worker.setTask]⟩
      rcases hst with rfl | rfl <;>
        simp [ExecutionState.follow_cons, ExecutionState.next, hlast]
  | reported hlast hrecord =>
      refine ⟨.reported x.number, .alerting .idle,
        [.checkFailed error.formatted, .failureReported error.formatted], rfl, rfl, ?_, rfl, rfl,
        rfl, rfl, by simp [Worker.emit, Worker.setTask]⟩
      rcases hst with rfl | rfl <;>
        simp [ExecutionState.follow_cons, ExecutionState.next, hlast]

/-- **A success** continues the log of an attempt that has recorded its snapshot. -/
lemma moved_afterSuccess (readings : Readings) :
    ∃ task, w.Moved (scheduler.afterSuccess w x readings) job x (.recorded x.number) x
      (.succeeded x.number) task [.checkSucceeded] := by
  have heffect := scheduler.afterSuccess_effect w x readings
  generalize scheduler.afterSuccess w x readings = w' at heffect ⊢
  cases heffect with
  | ended =>
      exact ⟨_, rfl, rfl, by simp [ExecutionState.follow_cons, ExecutionState.next], rfl, rfl, rfl,
        rfl, rfl⟩
  | evaluated hraise =>
      exact ⟨_, rfl, rfl, by simp [ExecutionState.follow_cons, ExecutionState.next], rfl, rfl, rfl,
        rfl, rfl⟩

/-- **The driver's outcome** continues the log of an attempt that has started. -/
lemma moved_afterDriver (hle : x.number ≤ job.retry.maxAttempts) (readings : Readings)
    (outcome : Except RaisedException CheckResult) :
    ∃ st' task events, w.Moved (scheduler.afterDriver w job x readings outcome) job x
      (.started x.number) x st' task events := by
  cases outcome with
  | error e => exact moved_afterFailure scheduler w (Or.inl rfl) hle readings e
  | ok result =>
      rw [Scheduler.afterDriver]
      cases recordSuccess w.db job.id result job.notifications with
      | error e => exact moved_afterFailure scheduler w (Or.inl rfl) hle readings e.raised
      | ok out =>
          exact ⟨.recorded x.number, .dispatching job x .idle, [.snapshotRecorded], rfl, rfl,
            by simp [ExecutionState.follow_cons, ExecutionState.next], rfl, rfl, rfl, rfl, rfl⟩

lemma afterAlert_fields (w : Worker) (jobId : String)
    (pass : Pass OperationalAlert Datetime StorageError) :
    ∃ task, (Scheduler.afterAlert w jobId pass).tasks = Function.update w.tasks jobId task ∧
      task.position = none ∧ (Scheduler.afterAlert w jobId pass).executions = w.executions ∧
      (Scheduler.afterAlert w jobId pass).log = w.log := by
  cases pass with
  | running todo => cases todo <;> exact ⟨_, rfl, rfl, rfl, rfl⟩
  | _ => exact ⟨_, rfl, rfl, rfl, rfl⟩

variable {scheduler w} in
/-- **Every step of the worker advances one job.** -/
lemma advance_of_effect {w' : Worker} {act : WorkerAction} (hown : scheduler.Owned w)
    (h : scheduler.Effect w act w') : ∃ jobId, scheduler.Advance w act w' jobId := by
  cases h with
  | @started jobId job hjob htask => exact ⟨jobId, .begun rfl hjob htask rfl rfl rfl⟩
  | @returned jobId outcome readings job x htask =>
      have hposition : (w.tasks jobId).position = some (job, x, .started x.number) := by
        rw [htask]
        rfl
      obtain ⟨_, rfl, _, _, hle⟩ := hown jobId job x _ hposition
      obtain ⟨st', task, events, hmoved⟩ := moved_afterDriver scheduler w hle readings outcome
      exact ⟨x.party, .moved (by simp) hposition hmoved⟩
  | @dispatched jobId a readings job x pass db pass' htask heffect =>
      have hposition : (w.tasks jobId).position = some (job, x, .recorded x.number) := by
        rw [htask]
        rfl
      obtain ⟨_, rfl, _, _, hle⟩ := hown jobId job x _ hposition
      have hstays : scheduler.Advance w (.dispatch x.party a readings)
          (({ w with db := db } : Worker).setTask x.party (.dispatching job x pass')) x.party :=
        .quiet (by simp) (isDone_of_position hposition) rfl (by rw [hposition]; rfl) rfl rfl
      refine ⟨x.party, ?_⟩
      cases pass' with
      | idle => exact hstays
      | sending => exact hstays
      | raised e =>
          obtain ⟨st', task, events, hmoved⟩ :=
            moved_afterFailure scheduler { w with db := db } (Or.inr rfl) hle readings e.raised
          exact .moved (by simp) hposition hmoved.of_db
      | running todo =>
          cases todo with
          | cons => exact hstays
          | nil =>
              obtain ⟨task, hmoved⟩ := moved_afterSuccess scheduler { w with db := db } readings
              exact .moved (by simp) hposition hmoved.of_db
  | @woke jobId job x htask =>
      have hposition : (w.tasks jobId).position = some (job, x, .waiting x.number) := by
        rw [htask]
        rfl
      obtain ⟨_, rfl, _, _, hlt⟩ := hown jobId job x _ hposition
      have hmoved : w.Moved (Scheduler.beginAttempt w job x.next) job x (.waiting x.number) x.next
          (.started x.next.number) (.checking job x.next) [.checkStarted] := by
        refine ⟨rfl, rfl, ?_, rfl, rfl, rfl, rfl, rfl⟩
        simp [ExecutionState.follow_cons, ExecutionState.next, Retrying.Attempt.next]
      exact ⟨x.party, .moved (by simp) hposition hmoved⟩
  | @alerted jobId a registry pass db pass' hregistry htask heffect =>
      obtain ⟨task, htasks, hposition, hexecutions, hlog⟩ :=
        afterAlert_fields { w with db := db } jobId pass'
      refine ⟨jobId, .quiet (by simp) (by rw [htask]; rfl) htasks ?_ hexecutions hlog⟩
      rw [hposition, htask]
      rfl

end Advance

end WebChecker
