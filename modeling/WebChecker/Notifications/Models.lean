import WebChecker.Core.Transitions

/-!
# Notification values

The plan of a job (which transitions go to which channels) and the two kinds of item an adapter
delivers: a pending notification of the outbox, and an operational alert.
-/

namespace WebChecker

/-- Channels and transition types selected for one job, with the checks of the constructor. -/
structure NotificationPlan where
  channels : List String
  on : List TransitionType
  channels_nodup : channels.Nodup
  channels_ne : ∀ c ∈ channels, strip c ≠ ""

/-- `NotificationPlan()`. -/
def NotificationPlan.none : NotificationPlan := ⟨[], [], List.nodup_nil, by simp⟩

/-- A plan that sends two kinds of transition to one channel. -/
def NotificationPlan.email : NotificationPlan :=
  ⟨["email"], [.initiallyAvailable, .becameAvailable], List.nodup_singleton _, by decide⟩

/-- One durable outbox item ready for a delivery adapter. -/
structure PendingNotification where
  id : ℕ
  channel : String
  jobId : String
  transitionType : TransitionType
  opportunityId : String
  opportunityTitle : String
  currentAvailability : Option Availability
  bookingUrl : Option String
  checkedAt : Datetime
  attempts : ℕ
deriving DecidableEq, Repr

/-- Aggregate result of one dispatch pass. -/
structure DeliverySummary where
  delivered : ℕ := 0
  failed : ℕ := 0
deriving DecidableEq, Repr

/-- One operational alert awaiting delivery. -/
structure OperationalAlert where
  id : ℕ
  channel : String
  key : String
  jobId : Option String
  title : String
  detail : String
  createdAt : Datetime
  attempts : ℕ
deriving DecidableEq, Repr

end WebChecker
