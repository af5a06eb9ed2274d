import WebChecker.Core.Ticking

/-!
# When the loop ticks

`Scheduler.run` ticks, asks `_seconds_until_next_due` how long to wait, and waits for the stop
event no longer than that.  The times of the ticks are not arbitrary any more: each one is the
scheduler's own choice, up to the delays of the machine.

* `Scheduler.runLoop` — the loop with its readings of the clock, beside executions that complete and
  a stop event that is set at any time.
* `scheduler_punctual` — what the delays leave of punctuality: no job waits for its slot longer than
  the delays of one round and a millisecond, and the loop does not spin.
-/

namespace WebChecker

open Runs

/-! ## The loop -/

/-- Where the loop stands. -/
inductive LoopPhase where
  /-- Before the condition of the loop, which it was to reach at the given time. -/
  | top (due : ℚ)
  /-- After the tick of the given time. -/
  | ticked (time : ℚ)
  /-- In `asyncio.wait_for`. -/
  | waiting (deadline : ℚ)
  /-- In the `finally` clause. -/
  | left
deriving DecidableEq

structure RunLoop where
  ticker : Ticker
  /-- The last reading of the clock, by the scheduler or by the event loop. -/
  clock : ℚ
  /-- `stop_event.is_set()`. -/
  stopped : Bool
  phase : LoopPhase

namespace RunLoop

def start (startupTime : ℚ) : RunLoop :=
  ⟨.start startupTime, startupTime, false, .top startupTime⟩

end RunLoop

/-- The shortest wait, in seconds. -/
def shortestWait : ℚ := 1 / 1000

/-- `_seconds_until_next_due`, with its reading of the clock. -/
def Scheduler.secondsUntilNextDue (scheduler : Scheduler) (s : Ticker) (now : ℚ) : ℚ :=
  match (scheduler.jobs.map fun job => s.nextDue job.id).min? with
  | none => 3600
  | some next => max shortestWait (next - now)

inductive LoopAction where
  | tick (now : ℚ)
  /-- The scheduler reads the clock, and then the event loop for the deadline of the wait. -/
  | wait (now loopTime : ℚ)
  | timeout (now : ℚ)
  | stop
  | leave
  | complete (jobId : String) (task : ℕ)
deriving DecidableEq

/-- `run`.  The event loop wakes a task at its deadline, or earlier by as much as its clock
resolves. -/
def Scheduler.runLoop (scheduler : Scheduler) (resolution : ℚ) : Process RunLoop LoopAction where
  step s
    | .tick now =>
      match s.phase with
      | .top _ =>
        if s.stopped = false ∧ s.clock ≤ now then
          some { s with ticker := scheduler.tick s.ticker now, clock := now, phase := .ticked now }
        else none
      | _ => none
    | .wait now loopTime =>
      match s.phase with
      | .ticked _ =>
        if s.clock ≤ now ∧ now ≤ loopTime then
          some { s with
            clock := loopTime
            phase := .waiting (loopTime + scheduler.secondsUntilNextDue s.ticker now) }
        else none
      | _ => none
    | .timeout now =>
      match s.phase with
      | .waiting deadline =>
        if s.clock ≤ now ∧ deadline - resolution ≤ now then
          some { s with clock := now, phase := .top deadline }
        else none
      | _ => none
    | .stop => some { s with stopped := true }
    | .leave =>
      match s.phase with
      | .top _ | .waiting _ => if s.stopped then some { s with phase := .left } else none
      | _ => none
    | .complete jobId task =>
      if (s.ticker.executions jobId)[task]? = some false then
        some { s with ticker := s.ticker.complete jobId task }
      else none

/-- A round is prompt: the tick comes at most `delay` after it was due, and the wait begins at most
`pause` after the tick. -/
def Prompt (delay pause : ℚ) (s : RunLoop) (a : LoopAction) : Prop :=
  match a, s.phase with
  | .tick now, .top due => now ≤ due + delay
  | .wait _ loopTime, .ticked time => loopTime ≤ time + pause
  | _, _ => True

instance (delay pause : ℚ) (s : RunLoop) (a : LoopAction) : Decidable (Prompt delay pause s a) := by
  unfold Prompt
  split <;> infer_instance

/-! ## The loop is one of the runs of its ticks -/

/-- What an action is for the ticks. -/
def LoopAction.onTicker : LoopAction → Option TickerAction
  | .tick now => some (.tick now)
  | .complete jobId task => some (.complete jobId task)
  | _ => none

/-- Everything that a step can be. -/
inductive LoopStep (scheduler : Scheduler) (resolution : ℚ) (s : RunLoop) :
    LoopAction → RunLoop → Prop
  | tick {due now} (hphase : s.phase = .top due) (hclock : s.clock ≤ now) :
      LoopStep scheduler resolution s (.tick now)
        { s with ticker := scheduler.tick s.ticker now, clock := now, phase := .ticked now }
  | wait {time now loopTime} (hphase : s.phase = .ticked time) (hclock : s.clock ≤ now)
      (hloop : now ≤ loopTime) :
      LoopStep scheduler resolution s (.wait now loopTime)
        { s with
          clock := loopTime
          phase := .waiting (loopTime + scheduler.secondsUntilNextDue s.ticker now) }
  | timeout {deadline now} (hphase : s.phase = .waiting deadline) (hclock : s.clock ≤ now)
      (hdeadline : deadline - resolution ≤ now) :
      LoopStep scheduler resolution s (.timeout now) { s with clock := now, phase := .top deadline }
  | stop : LoopStep scheduler resolution s .stop { s with stopped := true }
  | leave : LoopStep scheduler resolution s .leave { s with phase := .left }
  | complete {jobId task} (hrunning : (s.ticker.executions jobId)[task]? = some false) :
      LoopStep scheduler resolution s (.complete jobId task)
        { s with ticker := s.ticker.complete jobId task }

/-- **What a step is.** -/
lemma loopStep_of_step {scheduler : Scheduler} {resolution : ℚ} {s s' : RunLoop} {a : LoopAction}
    (h : (scheduler.runLoop resolution).step s a = some s') :
    LoopStep scheduler resolution s a s' := by
  cases a with
  | tick now =>
      simp only [Scheduler.runLoop] at h
      split at h
      · next hphase =>
        simp only [Option.ite_none_right_eq_some, Option.some.injEq] at h
        obtain ⟨⟨_, hclock⟩, rfl⟩ := h
        exact .tick hphase hclock
      · cases h
  | wait now loopTime =>
      simp only [Scheduler.runLoop] at h
      split at h
      · next hphase =>
        simp only [Option.ite_none_right_eq_some, Option.some.injEq] at h
        obtain ⟨⟨hclock, hloop⟩, rfl⟩ := h
        exact .wait hphase hclock hloop
      · cases h
  | timeout now =>
      simp only [Scheduler.runLoop] at h
      split at h
      · next hphase =>
        simp only [Option.ite_none_right_eq_some, Option.some.injEq] at h
        obtain ⟨⟨hclock, hdeadline⟩, rfl⟩ := h
        exact .timeout hphase hclock hdeadline
      · cases h
  | stop =>
      simp only [Scheduler.runLoop, Option.some.injEq] at h
      exact h ▸ .stop
  | leave =>
      simp only [Scheduler.runLoop] at h
      split at h
      · simp only [Option.ite_none_right_eq_some, Option.some.injEq] at h
        exact h.2 ▸ .leave
      · simp only [Option.ite_none_right_eq_some, Option.some.injEq] at h
        exact h.2 ▸ .leave
      · cases h
  | complete jobId task =>
      simp only [Scheduler.runLoop, Option.ite_none_right_eq_some, Option.some.injEq] at h
      obtain ⟨hrunning, rfl⟩ := h
      exact .complete hrunning

/-- **The loop is one of the runs of its ticks.** -/
lemma cadence_run_of_runLoop {scheduler : Scheduler} {resolution startupTime : ℚ}
    {acts : List LoopAction} {s : RunLoop}
    (hrun : (scheduler.runLoop resolution).run (.start startupTime) acts = some s) :
    scheduler.cadence.run (.start startupTime) (acts.filterMap LoopAction.onTicker)
      = some s.ticker := by
  refine (Process.run_induction (P := fun acts s => s.ticker.clock ≤ s.clock ∧
    scheduler.cadence.run (.start startupTime) (acts.filterMap LoopAction.onTicker)
      = some s.ticker) ⟨le_refl _, rfl⟩ ?_ hrun).2
  rintro past t a t' ⟨hbehind, hpast⟩ hstep
  rw [List.filterMap_append]
  cases loopStep_of_step hstep with
  | @tick due now hphase hclock =>
      refine ⟨le_refl _, Process.run_append hpast (Process.run_cons.mpr ⟨_, ?_, rfl⟩)⟩
      exact if_pos (hbehind.trans hclock)
  | wait hphase hclock hloop =>
      rw [List.filterMap_cons_none rfl, List.filterMap_nil, List.append_nil]
      exact ⟨hbehind.trans (hclock.trans hloop), hpast⟩
  | timeout hphase hclock hdeadline =>
      rw [List.filterMap_cons_none rfl, List.filterMap_nil, List.append_nil]
      exact ⟨hbehind.trans hclock, hpast⟩
  | stop =>
      rw [List.filterMap_cons_none rfl, List.filterMap_nil, List.append_nil]
      exact ⟨hbehind, hpast⟩
  | leave =>
      rw [List.filterMap_cons_none rfl, List.filterMap_nil, List.append_nil]
      exact ⟨hbehind, hpast⟩
  | @complete jobId task hrunning =>
      refine ⟨hbehind, Process.run_append hpast (Process.run_cons.mpr ⟨_, ?_, rfl⟩)⟩
      exact if_pos hrunning

/-! ## Punctuality of one job -/

/-- The due time is on the grid, and every point of the grid before it has had its event, later than
the point by less than `lateness`. -/
structure JobView.OnTime (startupTime interval lateness : ℚ) (v : JobView) : Prop where
  grid : ∃ c : ℕ, v.nextDue = startupTime + interval * c
  served : ∀ k : ℕ, startupTime + interval * k < v.nextDue →
    ∃ e ∈ v.events, startupTime + interval * k ≤ e.time ∧
      e.time < startupTime + interval * k + lateness

section Tick

variable {startupTime interval lateness now : ℚ} {v : JobView}

/-- A tick of a job that is due moves the due time on and leaves an event. -/
lemma JobView.tickJob_due (jobId : String) (interval : ℚ) (hdue : ¬ now < v.nextDue) :
    (v.discard.tickJob jobId interval now).nextDue = Cadence.advance interval v.nextDue now ∧
      ∃ event,
        (v.discard.tickJob jobId interval now).events = v.events ++ [⟨now, jobId, event⟩] := by
  rw [JobView.tickJob, if_neg (show ¬ now < v.discard.nextDue from hdue)]
  split_ifs
  · exact ⟨rfl, _, rfl⟩
  · exact ⟨rfl, _, rfl⟩

/-- **A tick that is not too late** keeps a job on time. -/
lemma JobView.OnTime.tickJob (h : v.OnTime startupTime interval lateness) (jobId : String)
    (hinterval : 0 < interval) (hnow : now < v.nextDue + lateness) :
    (v.discard.tickJob jobId interval now).OnTime startupTime interval lateness := by
  obtain ⟨c, hc⟩ := h.grid
  by_cases hdue : now < v.nextDue
  · have hsame : v.discard.tickJob jobId interval now = v.discard := by
      rw [JobView.tickJob, if_pos (show now < v.discard.nextDue from hdue)]
    rw [hsame]
    exact ⟨h.grid, h.served⟩
  · obtain ⟨hnext, event, hevents⟩ := JobView.tickJob_due jobId interval hdue
    have hreached : c ≤ Cadence.slot startupTime interval now := by
      rw [← not_lt, ← Cadence.lt_grid_iff hinterval, Int.cast_natCast, ← hc]
      exact hdue
    have hgrid := Cadence.advance_grid hinterval startupTime c now
    rw [Int.cast_natCast, ← hc] at hgrid
    refine ⟨⟨(Cadence.slot startupTime interval now + 1).toNat, ?_⟩, fun k hk => ?_⟩
    · have hcast : (((Cadence.slot startupTime interval now + 1).toNat : ℤ) : ℚ)
          = ((Cadence.slot startupTime interval now + 1 : ℤ) : ℚ) := by
        rw [Int.toNat_of_nonneg (by omega)]
      rw [hnext, hgrid, ← hcast, Int.cast_natCast]
    · rw [hevents]
      by_cases hold : startupTime + interval * k < v.nextDue
      · obtain ⟨e, he, hserved⟩ := h.served k hold
        exact ⟨e, List.mem_append_left _ he, hserved⟩
      · -- the points that this tick has reached have its own event
        refine ⟨⟨now, jobId, event⟩, List.mem_append_right _ (List.mem_singleton_self _), ?_, ?_⟩
        · rw [hnext, hgrid] at hk
          have hslot : ((k : ℤ) : ℚ) < ((Cadence.slot startupTime interval now + 1 : ℤ) : ℚ) := by
            rw [Int.cast_natCast]
            exact lt_of_mul_lt_mul_left (by linarith) hinterval.le
          have hle : (k : ℤ) ≤ Cadence.slot startupTime interval now :=
            Int.lt_add_one_iff.mp (Int.cast_lt.mp hslot)
          have hnot : ¬ now < startupTime + interval * ((k : ℤ) : ℚ) := by
            rw [Cadence.lt_grid_iff hinterval]
            exact not_lt.mpr hle
          rw [Int.cast_natCast] at hnot
          exact not_lt.mp hnot
        · have hpoint := not_lt.mp hold
          dsimp only
          linarith

end Tick

/-! ## Any number of rounds -/

/-- The wait ends in time for every job. -/
lemma secondsUntilNextDue_le {scheduler : Scheduler} {job : ScheduledJob}
    (hjob : job ∈ scheduler.jobs) (s : Ticker) (now : ℚ) :
    scheduler.secondsUntilNextDue s now ≤ max shortestWait (s.nextDue job.id - now) := by
  have hmem : s.nextDue job.id ∈ scheduler.jobs.map fun job => s.nextDue job.id :=
    List.mem_map_of_mem hjob
  rw [Scheduler.secondsUntilNextDue]
  cases hmin : (scheduler.jobs.map fun job => s.nextDue job.id).min? with
  | none =>
      rw [List.min?_eq_none_iff] at hmin
      rw [hmin] at hmem
      simp at hmem
  | some next =>
      have hle : next ≤ s.nextDue job.id := (List.min?_eq_some_iff.mp hmin).2 _ hmem
      exact max_le_max_left _ (by linarith)

lemma shortestWait_le (scheduler : Scheduler) (s : Ticker) (now : ℚ) :
    shortestWait ≤ scheduler.secondsUntilNextDue s now := by
  rw [Scheduler.secondsUntilNextDue]
  split
  · norm_num [shortestWait]
  · exact le_max_left _ _

/-- Where the loop stands, it is not late for a job. -/
def RunLoop.InTime (pause due : ℚ) (s : RunLoop) : Prop :=
  match s.phase with
  | .top time => time < due + pause + shortestWait
  | .ticked time => time ≤ s.clock ∧ time < due
  | .waiting deadline => deadline < due + pause + shortestWait
  | .left => True

section Loop

variable {scheduler : Scheduler} {job : ScheduledJob} {resolution delay pause startupTime : ℚ}

/-- **One step of a prompt round.** -/
lemma inTime_step (hjob : scheduler.jobWithId job.id = some job) {s s' : RunLoop} {a : LoopAction}
    (h : (s.ticker.view job.id).OnTime startupTime job.timing.intervalSeconds
        (delay + pause + shortestWait) ∧ s.InTime pause (s.ticker.nextDue job.id))
    (hprompt : Prompt delay pause s a) (hstep : (scheduler.runLoop resolution).step s a = some s') :
    (s'.ticker.view job.id).OnTime startupTime job.timing.intervalSeconds
        (delay + pause + shortestWait) ∧ s'.InTime pause (s'.ticker.nextDue job.id) := by
  obtain ⟨hontime, hintime⟩ := h
  cases loopStep_of_step hstep with
  | @tick due now hphase hclock =>
      simp only [Prompt, hphase] at hprompt
      rw [RunLoop.InTime, hphase] at hintime
      have hview := view_tick hjob s.ticker now
      refine ⟨?_, le_refl _, ?_⟩
      · dsimp only
        rw [hview]
        refine hontime.tickJob job.id job.timing.interval_pos ?_
        have hsame : (s.ticker.view job.id).nextDue = s.ticker.nextDue job.id := rfl
        rw [hsame]
        dsimp only at hintime hprompt
        linarith
      · have hlt := JobView.lt_nextDue_tickJob job.id job.timing.interval_pos now
          (s.ticker.view job.id).discard
        rw [← hview] at hlt
        exact hlt
  | @wait time now loopTime hphase hclock hloop =>
      simp only [Prompt, hphase] at hprompt
      rw [RunLoop.InTime, hphase] at hintime
      have hseconds := secondsUntilNextDue_le (List.mem_of_find?_eq_some hjob) s.ticker now
      refine ⟨hontime, ?_⟩
      rw [RunLoop.InTime]
      dsimp only at hintime hprompt ⊢
      rcases le_total (s.ticker.nextDue job.id - now) shortestWait with hshort | hlong
      · rw [max_eq_left hshort] at hseconds
        linarith [hintime.1, hintime.2]
      · rw [max_eq_right hlong] at hseconds
        have hpositive : (0 : ℚ) < shortestWait := by norm_num [shortestWait]
        linarith [hintime.1, hintime.2]
  | timeout hphase hclock hdeadline =>
      rw [RunLoop.InTime, hphase] at hintime
      exact ⟨hontime, hintime⟩
  | stop => exact ⟨hontime, hintime⟩
  | leave => exact ⟨hontime, trivial⟩
  | complete hrunning => exact ⟨⟨hontime.grid, hontime.served⟩, hintime⟩

/-- The number of ticks. -/
def tickCount (acts : List LoopAction) : ℕ :=
  (tickTimes (acts.filterMap LoopAction.onTicker)).length

lemma tickCount_snoc (acts : List LoopAction) (a : LoopAction) :
    tickCount (acts ++ [a]) = tickCount acts +
      match a with
      | .tick _ => 1
      | _ => 0 := by
  rw [tickCount, tickCount, List.filterMap_append, tickTimes, List.filterMap_append,
    List.length_append]
  cases a <;> rfl

/-- The clock has gone on by at least the spacing from tick to tick. -/
def RunLoop.Paced (startupTime resolution : ℚ) (count : ℕ) (s : RunLoop) : Prop :=
  startupTime + count * (shortestWait - resolution) ≤ s.clock + (shortestWait - resolution) ∧
    match s.phase with
    | .top _ => startupTime + count * (shortestWait - resolution) ≤ s.clock
    | .waiting deadline =>
      startupTime + count * (shortestWait - resolution) ≤ deadline - resolution
    | _ => True

/-- **The loop does not spin**, at any speed of the machine. -/
lemma paced_run (hresolution : resolution ≤ shortestWait) {acts : List LoopAction} {s : RunLoop}
    (hrun : (scheduler.runLoop resolution).run (.start startupTime) acts = some s) :
    s.Paced startupTime resolution (tickCount acts) := by
  refine Process.run_induction (P := fun acts s => s.Paced startupTime resolution (tickCount acts))
    ?_ ?_ hrun
  · simp [RunLoop.Paced, RunLoop.start, tickCount, tickTimes, hresolution]
  · rintro past t a t' ⟨hclock, hphase⟩ hstep
    rw [tickCount_snoc]
    cases loopStep_of_step hstep with
    | @tick due now htop hnow =>
        rw [htop] at hphase
        refine ⟨?_, trivial⟩
        dsimp only at hphase ⊢
        push_cast
        linarith
    | @wait time now loopTime hticked hnow hloop =>
        have hwait := shortestWait_le scheduler t.ticker now
        refine ⟨?_, ?_⟩
        · dsimp only
          rw [Nat.add_zero]
          linarith
        · dsimp only
          rw [Nat.add_zero]
          linarith
    | @timeout deadline now hwaiting hnow hdeadline =>
        rw [hwaiting] at hphase
        refine ⟨?_, ?_⟩
        · dsimp only
          rw [Nat.add_zero]
          linarith
        · dsimp only at hphase ⊢
          rw [Nat.add_zero]
          linarith
    | stop => exact ⟨hclock, hphase⟩
    | leave => exact ⟨hclock, trivial⟩
    | complete hrunning => exact ⟨hclock, hphase⟩

/-- **The loop is punctual up to the delays of the machine.**  Where every tick comes at most
`delay` after it was due, and every wait begins at most `pause` after its tick: every point of a
job's grid before its next due time has had an event of the job, less than `delay`, `pause` and a
millisecond later; right after a tick, that time lies in the future; the loop never waits for more
than `pause` and a millisecond past it; and ticks are as far apart as the shortest wait, up to the
resolution of the clock. -/
theorem scheduler_punctual (hjob : scheduler.jobWithId job.id = some job) (hpause : 0 ≤ pause)
    (hresolution : resolution ≤ shortestWait) {acts : List LoopAction} {s : RunLoop}
    (hprompt : (scheduler.runLoop resolution).AllSteps (Prompt delay pause) (.start startupTime)
      acts)
    (hrun : (scheduler.runLoop resolution).run (.start startupTime) acts = some s) :
    let interval := job.timing.intervalSeconds
    let nextDue := s.ticker.nextDue job.id
    (∀ k : ℕ, startupTime + interval * k < nextDue →
        ∃ e ∈ s.ticker.log, e.jobId = job.id ∧ startupTime + interval * k ≤ e.time ∧
          e.time < startupTime + interval * k + (delay + pause + shortestWait)) ∧
      (∀ time, s.phase = .ticked time → time < nextDue) ∧
      (∀ deadline, s.phase = .waiting deadline → deadline < nextDue + pause + shortestWait) ∧
      tickCount acts * (shortestWait - resolution)
        ≤ s.clock - startupTime + (shortestWait - resolution) := by
  intro interval nextDue
  have hpositive : (0 : ℚ) < shortestWait := by norm_num [shortestWait]
  have hstart : ((RunLoop.start startupTime).ticker.view job.id).OnTime startupTime interval
        (delay + pause + shortestWait) ∧
      (RunLoop.start startupTime).InTime pause
        ((RunLoop.start startupTime).ticker.nextDue job.id) := by
    refine ⟨⟨⟨0, by simp [RunLoop.start, Ticker.view, Ticker.start]⟩, fun k hk => ?_⟩, ?_⟩
    · have hnonneg : 0 ≤ interval * k := mul_nonneg job.timing.interval_pos.le (Nat.cast_nonneg k)
      have hfirst : startupTime + interval * k < startupTime := hk
      exact absurd hfirst (by linarith)
    · rw [RunLoop.InTime]
      simp only [RunLoop.start, Ticker.start]
      linarith
  obtain ⟨hontime, hintime⟩ := Process.run_invariant
    (fun s a s' h hp hstep => inTime_step hjob h hp hstep) hstart hprompt hrun
  refine ⟨fun k hk => ?_, fun time hphase => ?_, fun deadline hphase => ?_, ?_⟩
  · obtain ⟨e, he, hserved⟩ := hontime.served k hk
    obtain ⟨hlog, hid⟩ := List.mem_filter.mp he
    exact ⟨e, hlog, by simpa using hid, hserved⟩
  · rw [RunLoop.InTime, hphase] at hintime
    exact hintime.2
  · rw [RunLoop.InTime, hphase] at hintime
    exact hintime
  · have hpaced := (paced_run hresolution hrun).1
    linarith

end Loop

/-- Two rounds of a loop whose second tick is 20 milliseconds late. -/
def lateLoop : List LoopAction :=
  [.tick 0, .wait (1 / 100) (1 / 100), .complete "swim" 0, .timeout 60, .tick (6002 / 100)]

/-- The point at 60 seconds has its event before 60.031 seconds. -/
theorem scheduler_punctual_late :
    let scheduler : Scheduler := ⟨[swimEveryMinute], .email, none, 3, ["console"]⟩
    ∃ s, (scheduler.runLoop 0).run (.start 0) lateLoop = some s ∧
      ∃ e ∈ s.ticker.log, 60 ≤ e.time ∧ e.time < 60 + 31 / 1000 := by
  intro scheduler
  have hlate : ((scheduler.runLoop 0).run (.start 0) lateLoop).map
      (fun s => s.ticker.nextDue "swim") = some 120 := by decide +kernel
  obtain ⟨s, hs, hdue⟩ := Option.map_eq_some_iff.mp hlate
  have hprompt : (scheduler.runLoop 0).AllSteps (Prompt (2 / 100) (1 / 100)) (.start 0)
      lateLoop := by decide +kernel
  obtain ⟨hserved, -⟩ := @scheduler_punctual scheduler swimEveryMinute 0 (2 / 100) (1 / 100) 0 rfl
    (by norm_num) (by norm_num [shortestWait]) lateLoop s hprompt hs
  have hdue : s.ticker.nextDue swimEveryMinute.id = 120 := hdue
  have hinterval : swimEveryMinute.timing.intervalSeconds = 60 := rfl
  obtain ⟨e, he, -, hafter, hbefore⟩ := hserved 1 (by rw [hdue, hinterval]; norm_num)
  rw [hinterval] at hafter hbefore
  refine ⟨s, hs, e, he, ?_, ?_⟩
  · norm_num at hafter
    exact hafter
  · norm_num [shortestWait] at hbefore ⊢
    exact hbefore

end WebChecker
