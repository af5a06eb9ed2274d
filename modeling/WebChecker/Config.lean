import Mathlib.Data.Rat.Cast.Order
import WebChecker.Notifications.Models

/-!
# Jobs and their schedules

The parts of a job's definition that the worker reads.  `RetryPolicy` and `ScheduleDefinition`
carry what their constructors check; seconds and fractions are exact numbers here.
-/

namespace WebChecker

/-- Bounded retry policy applied after failed checks. -/
structure RetryPolicy where
  maxAttempts : ℕ := 3
  initialDelaySeconds : ℚ := 5
  maxDelaySeconds : ℚ := 60
  jitterFraction : ℚ := 1 / 5
  maxAttempts_pos : 1 ≤ maxAttempts
  maxAttempts_le : maxAttempts ≤ 10
  initialDelay_nonneg : 0 ≤ initialDelaySeconds
  maxDelay_nonneg : 0 ≤ maxDelaySeconds
  jitter_nonneg : 0 ≤ jitterFraction
  jitter_le : jitterFraction ≤ 1
  initialDelay_le : initialDelaySeconds ≤ maxDelaySeconds
  initialDelay_ne : 1 < maxAttempts → initialDelaySeconds ≠ 0

/-- `delay_after_failure`: capped exponential delay with symmetric jitter. -/
def RetryPolicy.delayAfterFailure (retry : RetryPolicy) (failedAttempt : ℕ) (randomUnit : ℚ) : ℚ :=
  let baseDelay := min (retry.initialDelaySeconds * 2 ^ (failedAttempt - 1)) retry.maxDelaySeconds
  let jitterMultiplier := 1 + retry.jitterFraction * (2 * randomUnit - 1)
  min retry.maxDelaySeconds (max 0 (baseDelay * jitterMultiplier))

/-- A policy without a second attempt. -/
def RetryPolicy.once : RetryPolicy where
  maxAttempts := 1
  maxAttempts_pos := by norm_num
  maxAttempts_le := by norm_num
  initialDelay_nonneg := by norm_num
  maxDelay_nonneg := by norm_num
  jitter_nonneg := by norm_num
  jitter_le := by norm_num
  initialDelay_le := by norm_num
  initialDelay_ne := by norm_num

/-- Interval schedule of one job. -/
structure ScheduleDefinition where
  intervalSeconds : ℚ
  retry : RetryPolicy
  interval_pos : 0 < intervalSeconds

/-- A schedule of one check a minute. -/
def ScheduleDefinition.everyMinute (retry : RetryPolicy) : ScheduleDefinition :=
  ⟨60, retry, by norm_num⟩

/-- Configuration of one check job, without its driver and the driver's configuration: what a
driver does is taken from the surroundings of a check. -/
structure JobDefinition where
  id : String
  enabled : Bool := true
  notifications : NotificationPlan := .none
  schedule : Option ScheduleDefinition := none

/-- An enabled job that has a schedule. -/
structure ScheduledJob extends JobDefinition where
  timing : ScheduleDefinition
  enabled_eq : enabled = true
  schedule_eq : schedule = some timing

/-- `job.enabled and job.schedule is not None`. -/
def JobDefinition.scheduled (job : JobDefinition) : Option ScheduledJob :=
  if henabled : job.enabled = true then
    match hschedule : job.schedule with
    | some timing => some ⟨job, timing, henabled, hschedule⟩
    | none => none
  else none

/-- The policy of a scheduled job. -/
def ScheduledJob.retry (job : ScheduledJob) : RetryPolicy := job.timing.retry

end WebChecker
