import WebChecker.Core.Executions

/-!
# Graceful shutdown

What happens from the stop of a worker process to its end.  `Settling` compares a state with the
one in which the waiting began: nothing has been started since, and what was cancelled had been
going on.
`shutdown_settles` puts it together with the accounts of the executions.
-/

namespace WebChecker

open Relational Results Runs Dispatch

namespace Lifecycle

/-- What has happened since a state in which `shutdown` waits, without a new process. -/
structure Settling (s t : Lifecycle) : Prop where
  not_running : t.stage ≠ .running
  executions : t.worker.executions = s.worker.executions
  /-- No task has been started. -/
  tasks : ∀ j, (t.worker.tasks j).isDone = false → (s.worker.tasks j).isDone = false
  waiting : t.stage = .draining → t.cancelled = s.cancelled
  cancelled : ∃ cancelled, t.cancelled = s.cancelled ++ cancelled ∧ cancelled.Nodup ∧
    ∀ j ∈ cancelled, (s.worker.tasks j).isDone = false

variable {scheduler : Scheduler} {s t t' : Lifecycle}

lemma Settling.refl (h : s.stage = .draining) : Settling s s :=
  ⟨by simp [h], rfl, fun _ h => h, fun _ => rfl, [], by simp⟩

/-- A step that starts no task and cancels none. -/
lemma Settling.quiet (h : Settling s t) (hrunning : t'.stage ≠ .running)
    (hstage : t'.stage = .draining → t.stage = .draining)
    (hexecutions : t'.worker.executions = t.worker.executions)
    (htasks : ∀ j, (t'.worker.tasks j).isDone = false → (t.worker.tasks j).isDone = false)
    (hcancelled : t'.cancelled = t.cancelled) : Settling s t' where
  not_running := hrunning
  executions := hexecutions.trans h.executions
  tasks j hj := h.tasks j (htasks j hj)
  waiting hdraining := hcancelled.trans (h.waiting (hstage hdraining))
  cancelled := hcancelled ▸ h.cancelled

@[simp] lemma cancelled_observe (s : Lifecycle) (act : WorkerAction) :
    (s.observe act).cancelled = s.cancelled := by
  cases act <;> rfl

/-- A step of a task that is not a start. -/
lemma advance_settles {w w' : Worker} {act : WorkerAction} {jobId : String}
    (hown : scheduler.Owned w) (h : scheduler.Advance w act w' jobId)
    (hact : ∀ j, act ≠ .start j) : w'.executions = w.executions ∧
      ∀ j, (w'.tasks j).isDone = false → (w.tasks j).isDone = false := by
  cases h with
  | @quiet task _ hbusy htasks hposition hexecutions hlog =>
      refine ⟨hexecutions, fun j hj => ?_⟩
      by_cases heq : j = jobId
      · exact heq ▸ hbusy
      · rwa [htasks, Function.update_of_ne heq] at hj
  | begun hstart => exact absurd hstart (hact jobId)
  | @moved job x st x' st' task events _ hposition hmoved =>
      refine ⟨hmoved.executions, fun j hj => ?_⟩
      by_cases heq : j = jobId
      · exact heq ▸ isDone_of_position hposition
      · have hx : j ≠ x.party := (hown jobId job x st hposition).2.1 ▸ heq
        rwa [hmoved.tasks, Function.update_of_ne hx] at hj

/-- **A step during the shutdown**, or after it. -/
lemma Settling.step (h : Settling s t) (inv : Inv scheduler t) {act : LifecycleAction}
    (hact : act ≠ .boot) (hstep : scheduler.lifecycle.step t act = some t') : Settling s t' := by
  cases Scheduler.lifecycleEffect_of_step hstep with
  | @stepped a w hstage heffect =>
      obtain ⟨jobId, hadvance⟩ := advance_of_effect inv.owned heffect
      have hstart : ∀ j, a ≠ .start j := by
        rintro j rfl
        cases ht : t.stage
        · exact h.not_running ht
        · simp [ht, Stage.admits] at hstage
        · simp [ht, Stage.admits] at hstage
      obtain ⟨hexecutions, htasks⟩ := advance_settles inv.owned hadvance hstart
      exact h.quiet (by simpa using h.not_running) (by simp) hexecutions htasks
        (cancelled_observe t a)
  | stopping hstage => exact absurd hstage h.not_running
  | drained hstage hdone =>
      exact h.quiet (by simp) (by simp) rfl (fun _ hj => hj) rfl
  | @timedOut arrived hstage hpending =>
      refine ⟨by simp [Lifecycle.abandon], h.executions, fun j hj => ?_, fun hdraining => ?_,
        t.unfinished, by rw [h.waiting hstage], inv.nodup_unfinished, fun j hj => ?_⟩
      · simp [Lifecycle.abandon, JobTask.isDone] at hj
      · simp [Lifecycle.abandon] at hdraining
      · exact h.tasks j (inv.mem_unfinished_iff.mp hj)
  | died hstage =>
      refine h.quiet (by simp [Lifecycle.abandon]) (by simp [Lifecycle.abandon]) rfl
        (fun j hj => ?_) rfl
      simp [Lifecycle.abandon, JobTask.isDone] at hj
  | diedAfter hstage htask heffect =>
      refine h.quiet (by simp [Lifecycle.abandon]) (by simp [Lifecycle.abandon]) rfl
        (fun j hj => ?_) rfl
      simp [Lifecycle.abandon, JobTask.isDone] at hj
  | booted hstage => exact absurd rfl hact
  | pruned => exact h.quiet h.not_running (fun hstage => hstage) rfl (fun _ hj => hj) rfl

/-- The job of an unfinished task has its execution ended or cut off once the process is over. -/
lemma Inv.settled (inv : Inv scheduler s) (hstage : s.stage = .stopped) {job : ScheduledJob}
    (hjob : scheduler.jobWithId job.id = some job) {e : ℕ}
    (he : e < s.worker.executions job.id) : ∃ st : ExecutionState,
      ExecutionState.fresh.follow job.retry.maxAttempts (executionLog s.worker.log job.id e)
          = some st ∧
        (st.ended = true ↔ cutOffIn s.cutOff job.id e = []) := by
  obtain ⟨st, hfollow, hstanding⟩ := (inv.accounted job hjob).begun e he
  refine ⟨st, hfollow, ?_⟩
  cases hstanding with
  | ended hended hcut => exact iff_of_true hended hcut
  | goesOn htask =>
      rw [inv.halted hstage] at htask
      cases htask
  | cutOff hopen _ hcut => simp [hopen, hcut]

end Lifecycle

/-- **Shutdown settles every execution.**  While `shutdown` waits, exactly one of its two ends is
open: that no task is left, or that what is left is cancelled.  From then on until a new process,
and in every order of what else happens:

* no execution begins;
* `shutdown_cancelled` is logged at most once for a job, and only for a job whose execution was
  going on when the waiting began; it is logged for none unless the waiting times out;
* in the end no task is left, and every execution has ended in the log or, if one was cut off, has
  no end there: it counts neither as a success nor as a failure. -/
theorem shutdown_settles {scheduler : Scheduler} {db : Database} {acts : List LifecycleAction}
    {s : Lifecycle} (hrun : scheduler.lifecycle.run (.start db) acts = some s)
    (hstage : s.stage = .draining) :
    (∀ arrived, (scheduler.lifecycle.step s .idle).isSome = true ↔
      (scheduler.lifecycle.step s (.timeout arrived)).isSome = false) ∧
    ∀ {acts' : List LifecycleAction} {s' : Lifecycle}, (∀ act ∈ acts', act ≠ .boot) →
      scheduler.lifecycle.run s acts' = some s' →
      s'.worker.executions = s.worker.executions ∧
      (∃ cancelled, s'.cancelled = s.cancelled ++ cancelled ∧ cancelled.Nodup ∧
        (∀ j ∈ cancelled, (s.worker.tasks j).isDone = false) ∧
        ((∀ arrived, .timeout arrived ∉ acts') → cancelled = [])) ∧
      (s'.stage = .stopped → (∀ j, s'.worker.tasks j = .done) ∧
        ∀ job, scheduler.jobWithId job.id = some job → ∀ e < s'.worker.executions job.id,
          ∃ st : ExecutionState, ExecutionState.fresh.follow job.retry.maxAttempts
              (executionLog s'.worker.log job.id e) = some st ∧
            (st.ended = true ↔ cutOffIn s'.cutOff job.id e = [])) := by
  have inv := Lifecycle.inv_run hrun
  refine ⟨fun arrived => ?_, fun hboot hrun' => ?_⟩
  · by_cases hdone : s.unfinished = [] <;> simp [Scheduler.lifecycle, hstage, hdone]
  · have hkept := Process.run_induction (p := scheduler.lifecycle)
      (P := fun as t => (∀ act ∈ as, act ≠ .boot) → Lifecycle.Inv scheduler t ∧
        Lifecycle.Settling s t ∧
        ((∀ arrived, .timeout arrived ∉ as) → t.cancelled = s.cancelled))
      (fun _ => ⟨inv, .refl hstage, fun _ => rfl⟩)
      (fun as t act t' ih hstep hnoBoot => by
        obtain ⟨ht, hsettling, hquiet⟩ := ih fun a ha => hnoBoot a (List.mem_append_left _ ha)
        have hact : act ≠ .boot := hnoBoot act (by simp)
        refine ⟨ht.step hstep, hsettling.step ht hact hstep, fun hnone => ?_⟩
        rw [← hquiet fun arrived harrived => hnone arrived (List.mem_append_left _ harrived)]
        cases Scheduler.lifecycleEffect_of_step hstep with
        | timedOut => exact absurd (List.mem_append_right _ (List.mem_singleton_self _)) (hnone _)
        | stepped => exact Lifecycle.cancelled_observe t _
        | _ => rfl) hrun' hboot
    obtain ⟨inv', hsettling, hquiet⟩ := hkept
    refine ⟨hsettling.executions, ?_, fun hstopped => ⟨inv'.halted hstopped, ?_⟩⟩
    · obtain ⟨cancelled, heq, hnodup, hbusy⟩ := hsettling.cancelled
      refine ⟨cancelled, heq, hnodup, hbusy, fun hnone => ?_⟩
      exact List.append_right_eq_self.mp (heq.symm.trans (hquiet hnone))
    · exact fun job hjob e he => inv'.settled hstopped hjob he

theorem shutdown_settles_cancelled :
    ∃ s s', flaky.lifecycle.run (.start .empty) cancelledLife.dropLast = some s ∧
      s.stage = .draining ∧
      flaky.lifecycle.run s [.timeout fun _ => false] = some s' ∧
      s'.worker.executions = s.worker.executions ∧ ∀ j, s'.worker.tasks j = .done := by
  have hlife : (flaky.lifecycle.run (.start .empty) cancelledLife.dropLast).map (fun s =>
      (s.stage, (flaky.lifecycle.run s [.timeout fun _ => false]).map Lifecycle.stage))
      = some (.draining, some .stopped) := by decide +kernel
  obtain ⟨s, hs, hbooks⟩ := Option.map_eq_some_iff.mp hlife
  rw [Prod.mk.injEq] at hbooks
  obtain ⟨s', hs', hstopped⟩ := Option.map_eq_some_iff.mp hbooks.2
  obtain ⟨hexecutions, _, hsettled⟩ :=
    (shutdown_settles hs hbooks.1).2 (by simp) hs'
  exact ⟨s, s', hs, hbooks.1, hs', hexecutions, (hsettled hstopped).1⟩

end WebChecker
