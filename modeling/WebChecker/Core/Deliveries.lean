import WebChecker.Core.Executions
import WebChecker.Core.Transactions

/-!
# Every notification is accounted for

A notification is sent from an outbox row, and the row is marked as delivered when the send has
returned.  A process that dies in between leaves the row undelivered, and the next process sends it
again; and two tasks that hold the same row both send it.  `Lifecycle` keeps books of this: the
sends that have returned, those of them that found their row delivered already, and those that were
cut off although the notification had arrived.  SQLite is taken to report no lock and no I/O error
when an outcome is recorded: after such an error a row that has been sent would stay undelivered.

`Lifecycle.Booked` is the invariant that relates the books to the rows, and `KeepsOutbox` what most
steps mean for it.  `notifications_accounted` reads it: nothing is sent that is not in the outbox,
an undelivered row has had no send that returned, and a delivered one exactly one besides the late
ones.  `notifications_exact` says that there are no late ones if tasks dispatch one at a time.
-/

namespace WebChecker

open Relational Results Runs Dispatch

/-! ## Steps that deliver nothing -/

/-- The rows stay, undelivered or delivered as they were, and new rows are undelivered. -/
structure KeepsOutbox (db db' : Database) : Prop where
  rows : ∀ r ∈ db.outbox.rows, ∃ r' ∈ db'.outbox.rows,
    r'.announcement = r.announcement ∧ r'.pending = r.pending
  added : ∀ r' ∈ db'.outbox.rows, r'.id ∉ db.outbox.ids → r'.pending = true

/-- The row of the id is delivered. -/
def IsDelivered (db : Database) (id : ℕ) : Prop :=
  ∃ r ∈ db.outbox.rows, r.id = id ∧ r.pending = false

instance (db : Database) (id : ℕ) : Decidable (IsDelivered db id) :=
  inferInstanceAs (Decidable (∃ r ∈ db.outbox.rows, _))

/-- A row is delivered if it is not undelivered. -/
lemma isDelivered_row {db : Database} {r : OutboxRow} (hr : r ∈ db.outbox.rows) :
    IsDelivered db r.id ↔ r.pending = false := by
  constructor
  · rintro ⟨r', hr', hid, hdone⟩
    rwa [← RowTable.eq_of_rowId_eq hr' hr hid]
  · exact fun hdone => ⟨r, hr, rfl, hdone⟩

section Keeping

variable {db db' : Database}

lemma KeepsOutbox.of_eq (h : db'.outbox = db.outbox) : KeepsOutbox db db' := by
  refine ⟨fun r hr => ⟨r, h ▸ hr, rfl, rfl⟩, fun r hr hnew => ?_⟩
  exact absurd (RowTable.rowId_mem_ids (h ▸ hr)) hnew

lemma KeepsOutbox.refl (db : Database) : KeepsOutbox db db := .of_eq rfl

/-- A delivered row stays delivered, and no other becomes so. -/
lemma KeepsOutbox.isDelivered_iff (h : KeepsOutbox db db') (id : ℕ) :
    IsDelivered db' id ↔ IsDelivered db id := by
  constructor
  · rintro ⟨r', hr', rfl, hdone⟩
    by_cases hold : r'.id ∈ db.outbox.ids
    · obtain ⟨r, hr, hid⟩ := RowTable.mem_ids.mp hold
      obtain ⟨r'', hr'', hann, hpending⟩ := h.rows r hr
      have hsame : r'' = r' :=
        RowTable.eq_of_rowId_eq hr'' hr' ((id_of_announcement hann).trans hid)
      exact ⟨r, hr, hid, by rw [← hpending, hsame, hdone]⟩
    · rw [h.added r' hr' hold] at hdone
      cases hdone
  · rintro ⟨r, hr, rfl, hdone⟩
    obtain ⟨r', hr', hann, hpending⟩ := h.rows r hr
    exact ⟨r', hr', id_of_announcement hann, hpending.trans hdone⟩

lemma KeepsOutbox.mem_pendingIds (h : KeepsOutbox db db') {id : ℕ} (hid : id ∈ pendingIds db) :
    id ∈ pendingIds db' := by
  obtain ⟨r, hr, hp, rfl⟩ := WebChecker.mem_pendingIds.mp hid
  obtain ⟨r', hr', hann, hpending⟩ := h.rows r hr
  exact WebChecker.mem_pendingIds.mpr ⟨r', hr', hpending.trans hp, id_of_announcement hann⟩

lemma KeepsOutbox.trans {db'' : Database} (h : KeepsOutbox db db') (h' : KeepsOutbox db' db'') :
    KeepsOutbox db db'' := by
  constructor
  · intro r hr
    obtain ⟨r', hr', hann, hpending⟩ := h.rows r hr
    obtain ⟨r'', hr'', hann', hpending'⟩ := h'.rows r' hr'
    exact ⟨r'', hr'', hann'.trans hann, hpending'.trans hpending⟩
  · intro r hr hnew
    by_cases hmid : r.id ∈ db'.outbox.ids
    · -- it was new in the first step, and has stayed as it was
      obtain ⟨r', hr', hid⟩ := RowTable.mem_ids.mp hmid
      have hid : r'.id = r.id := hid
      obtain ⟨r'', hr'', hann, hpending⟩ := h'.rows r' hr'
      rw [← RowTable.eq_of_rowId_eq hr'' hr ((id_of_announcement hann).trans hid), hpending]
      exact h.added r' hr' (hid ▸ hnew)
    · exact h'.added r hr hmid

/-- **An operation that neither delivers a notification nor prunes.** -/
lemma OpEffect.keepsOutbox {op : StoreOp} {result : StoreResult}
    (h : OpEffect db op result db') (hmark : ∀ id time, op ≠ .markNotificationDelivered id time)
    (hprune : ∀ a b, op ≠ .prune a b) : KeepsOutbox db db' := by
  have hdelivers : ∀ id, deliversAt id ⟨db, op, result, db'⟩ = none := by
    intro id
    cases op with
    | markNotificationDelivered i time => exact absurd rfl (hmark i time)
    | _ => rfl
  constructor
  · intro r hr
    cases hp : r.pending with
    | true =>
        obtain ⟨r', hr', hann, _, hdeliveredAt⟩ := h.pending_row hr hp
        rw [hdelivers] at hdeliveredAt
        exact ⟨r', hr', hann, by rw [OutboxRow.pending, hdeliveredAt]; rfl⟩
    | false =>
        rcases h.delivered_row hr hp with ⟨hr', _⟩ | ⟨_, a, b, hpruned⟩
        · exact ⟨r, hr', rfl, hp⟩
        · exact absurd hpruned (hprune a b)
  · intro r hr hnew
    exact (h.new_row hr hnew).2.2.1

/-- The same for an operation that has succeeded. -/
lemma KeepsOutbox.of_apply (hc : Consistent db) {op : StoreOp} {result : StoreResult}
    (happly : applyOp db op = (result, db'))
    (hmark : ∀ id time, op ≠ .markNotificationDelivered id time)
    (hprune : ∀ a b, op ≠ .prune a b) : KeepsOutbox db db' := by
  have heffect := applyOp_effect hc op
  rw [happly] at heffect
  exact heffect.keepsOutbox hmark hprune

end Keeping

section Steps

variable {scheduler : Scheduler} {db db' : Database} (hc : Consistent db)

include hc

/-- Reports leave the outbox alone. -/
lemma keepsOutbox_of_reported (h : scheduler.Reported db db') : KeepsOutbox db db' := by
  refine (h.keeps (I := fun s => Consistent s ∧ KeepsOutbox db s) ⟨hc, .refl db⟩ ?_).2
  rintro s op ⟨hs, hkeeps⟩ hop
  refine ⟨consistent_apply hs op, hkeeps.trans ?_⟩
  exact (applyOp_effect hs op).keepsOutbox (by rintro id time rfl; exact hop)
    (by rintro a b rfl; exact hop)

omit hc in
lemma keepsOutbox_afterDriver {w : Worker} (hc : Consistent w.db) (job : ScheduledJob)
    (x : CheckAttempt) (readings : Readings) (outcome : Except RaisedException CheckResult) :
    KeepsOutbox w.db (scheduler.afterDriver w job x readings outcome).db := by
  cases outcome with
  | error e => exact keepsOutbox_of_reported hc (scheduler.reported_afterFailure w job x readings e)
  | ok result =>
      rw [Scheduler.afterDriver]
      split
      · exact keepsOutbox_of_reported hc (scheduler.reported_afterFailure w job x readings _)
      · next outcome db hrecord =>
        have happly : applyOp w.db (.recordSuccess job.id result job.notifications)
            = (.recorded outcome, db) := by
          rw [applyOp, hrecord, settle]
        exact .of_apply hc happly (by simp) (by simp)

lemma keepsOutbox_recordAlertAttempt {alert : OperationalAlert} {time : Datetime}
    {error : Option String} (h : recordAlertAttempt db alert time error = .ok db') :
    KeepsOutbox db db' := by
  refine .of_apply hc (applyOp_alertAttempt h) ?_ ?_ <;> cases error <;> simp [alertAttemptOp]

/-- A send has failed. -/
lemma keepsOutbox_failedAttempt {n : PendingNotification} {time : Datetime} {error : String}
    (h : recordAttempt db n time (some error) = .ok db') : KeepsOutbox db db' :=
  .of_apply hc (applyOp_attempt h) (by simp [attemptOp]) (by simp [attemptOp])

lemma consistent_recordAttempt {n : PendingNotification} {time : Datetime} {error : Option String}
    (h : recordAttempt db n time error = .ok db') : Consistent db' := by
  have hafter := consistent_apply hc (attemptOp n.id time error)
  rwa [applyOp_attempt h] at hafter

end Steps

/-! ## What tasks hold -/

namespace JobTask

/-- The items a task has still to send. -/
def held (task : JobTask) : List PendingNotification := task.pass.held

/-- In `dispatch_pending` of the notification service. -/
def isDispatching : JobTask → Bool
  | dispatching _ _ _ => true
  | _ => false

end JobTask

lemma held_dispatching (job : ScheduledJob) (x : CheckAttempt)
    (pass : Pass PendingNotification Datetime StorageError) :
    (JobTask.dispatching job x pass).held = pass.held := rfl

lemma held_of_position {task : JobTask} (h : task.position = none) : task.held = [] := by
  cases task <;> first | rfl | cases h

/-- One task changes. -/
lemma forall_held_update {tasks : String → JobTask} {jobId : String} {task : JobTask}
    {P : List PendingNotification → Prop} (hold : ∀ j, P (tasks j).held) (hnew : P task.held)
    (j : String) : P (Function.update tasks jobId task j).held := by
  by_cases hj : j = jobId
  · rwa [hj, Function.update_self]
  · rw [Function.update_of_ne hj]
    exact hold j

section Held

variable (scheduler : Scheduler) (w : Worker) (job : ScheduledJob) (x : CheckAttempt)
  (readings : Readings)

/-- A failed attempt leaves its task with nothing to send. -/
lemma held_afterFailure (error : RaisedException) :
    ∃ task, (scheduler.afterFailure w job x readings error).tasks
      = Function.update w.tasks x.party task ∧ task.held = [] := by
  have heffect := scheduler.afterFailure_effect w job x readings error
  generalize scheduler.afterFailure w job x readings error = w' at heffect ⊢
  cases heffect <;> exact ⟨_, rfl, rfl⟩

lemma held_afterDriver (outcome : Except RaisedException CheckResult) :
    ∃ task, (scheduler.afterDriver w job x readings outcome).tasks
      = Function.update w.tasks x.party task ∧ task.held = [] := by
  cases outcome with
  | error e => exact held_afterFailure scheduler w job x readings e
  | ok result =>
      rw [Scheduler.afterDriver]
      split
      · exact held_afterFailure scheduler w job x readings _
      · exact ⟨_, rfl, rfl⟩

/-- A step of the dispatch leaves its task with what the pass holds, or with nothing. -/
lemma held_afterDispatch (pass : Pass PendingNotification Datetime StorageError) :
    ∃ task, (scheduler.afterDispatch w job x readings pass).tasks
      = Function.update w.tasks x.party task ∧ (task.held = [] ∨ task.pass = pass) := by
  cases pass with
  | idle => exact ⟨_, rfl, Or.inl rfl⟩
  | sending => exact ⟨_, rfl, Or.inr rfl⟩
  | raised e =>
      obtain ⟨task, htasks, hheld⟩ := held_afterFailure scheduler w job x readings e.raised
      exact ⟨task, htasks, Or.inl hheld⟩
  | running todo =>
      cases todo with
      | cons => exact ⟨_, rfl, Or.inr rfl⟩
      | nil =>
          have heffect := scheduler.afterSuccess_effect w x readings
          rw [Scheduler.afterDispatch]
          generalize scheduler.afterSuccess w x readings = w' at heffect ⊢
          cases heffect <;> exact ⟨_, rfl, Or.inl rfl⟩

end Held

/-! ## The books and the rows -/

/-- The notification says what its row says. -/
def Announces (db : Database) (n : PendingNotification) : Prop :=
  ∃ r ∈ db.outbox.rows, notificationOf r.announcement = { n with attempts := 0 }

lemma Announces.mem_ids {db : Database} {n : PendingNotification} (h : Announces db n) :
    n.id ∈ db.outbox.ids := by
  obtain ⟨r, hr, hann⟩ := h
  have hid : r.id = n.id := congrArg PendingNotification.id hann
  exact hid ▸ RowTable.rowId_mem_ids hr

/-- Rows that stay go on to announce. -/
lemma Announces.of_rows {db db' : Database} {n : PendingNotification} (h : Announces db n)
    (hrows : ∀ r ∈ db.outbox.rows, ∃ r' ∈ db'.outbox.rows, r'.announcement = r.announcement) :
    Announces db' n := by
  obtain ⟨r, hr, hann⟩ := h
  obtain ⟨r', hr', hsame⟩ := hrows r hr
  exact ⟨r', hr', by rw [hsame, hann]⟩

lemma Announces.of_keeps {db db' : Database} {n : PendingNotification} (h : Announces db n)
    (hkeeps : KeepsOutbox db db') : Announces db' n :=
  h.of_rows fun r hr => (hkeeps.rows r hr).imp fun _ h => ⟨h.1, h.2.1⟩

/-- Every listed item announces an undelivered row. -/
lemma announces_of_listed {db : Database} (hc : Consistent db) {limit : ℕ}
    {items : List PendingNotification} (h : listPendingNotifications db limit = .ok items)
    {n : PendingNotification} (hn : n ∈ items) : Announces db n := by
  rw [listPendingNotifications_eq hc, Except.ok.injEq] at h
  rw [← h] at hn
  obtain ⟨r, hr, rfl⟩ := List.mem_map.mp hn
  exact ⟨r, (mem_pendingRows.mp (List.mem_of_mem_take hr)).1, rfl⟩

namespace Lifecycle

/-- The books of a life against its outbox. -/
structure Booked (s : Lifecycle) : Prop where
  consistent : Consistent s.worker.db
  /-- What tasks are going to send is in the outbox. -/
  held : ∀ j, ∀ n ∈ (s.worker.tasks j).held, Announces s.worker.db n
  /-- What has been sent is in the outbox. -/
  told : ∀ n ∈ s.sent ++ s.interrupted, Announces s.worker.db n
  late : ∀ n ∈ s.late, IsDelivered s.worker.db n.id
  counted : ∀ id, (s.sent.map PendingNotification.id).count id
    = (s.late.map PendingNotification.id).count id + if IsDelivered s.worker.db id then 1 else 0

variable {s : Lifecycle}

lemma booked_start : Booked (start .empty) where
  consistent := consistent_empty
  held j n hn := by simp [start, Worker.start, JobTask.held, JobTask.pass, Pass.held] at hn
  told n hn := by simp [start] at hn
  late n hn := by simp [start] at hn
  counted id := by
    have hnone : ¬ IsDelivered Database.empty id := by simp [IsDelivered, Database.empty]
    simp [start, Worker.start, hnone]

/-- **A step that delivers nothing** and takes nothing up. -/
lemma Booked.keeps (h : s.Booked) {s' : Lifecycle} (hc : Consistent s'.worker.db)
    (hkeeps : KeepsOutbox s.worker.db s'.worker.db)
    (hheld : ∀ j, ∀ n ∈ (s'.worker.tasks j).held, Announces s.worker.db n)
    (hsent : s'.sent = s.sent) (hlate : s'.late = s.late)
    (hinterrupted : ∀ n ∈ s'.interrupted, Announces s.worker.db n) : s'.Booked where
  consistent := hc
  held j n hn := (hheld j n hn).of_keeps hkeeps
  told n hn := by
    refine Announces.of_keeps ?_ hkeeps
    rcases List.mem_append.mp hn with hn | hn
    · exact h.told n (List.mem_append_left _ (hsent ▸ hn))
    · exact hinterrupted n hn
  late n hn := (hkeeps.isDelivered_iff n.id).mpr (h.late n (hlate ▸ hn))
  counted id := by
    rw [hsent, hlate, h.counted id]
    simp only [hkeeps.isDelivered_iff id]

/-- The tasks are gone, and some of what they held has arrived. -/
lemma Booked.abandon (h : s.Booked) (arrived : String → Bool) : (s.abandon arrived).Booked := by
  refine h.keeps h.consistent (.refl _) ?_ rfl rfl fun n hn => ?_
  · simp [Lifecycle.abandon, JobTask.held, JobTask.pass, Pass.held]
  · rw [Lifecycle.abandon, List.mem_append] at hn
    rcases hn with hn | hn
    · exact h.told n (List.mem_append_right _ hn)
    · obtain ⟨j, _, hsending⟩ := List.mem_filterMap.mp hn
      refine h.held j n ?_
      rw [JobTask.sending] at hsending
      split at hsending
      · next pass item now todo hpass =>
        rw [Option.some.injEq] at hsending
        rw [JobTask.held, hpass, ← hsending]
        exact List.mem_cons_self
      · cases hsending

/-! ## A step of a dispatch -/

@[simp] lemma returned_none (s : Lifecycle) : s.returned none = s := by
  simp [returned]

/-- Delivering an undelivered row changes that row alone. -/
lemma isDelivered_delivered {db : Database} {n : ℕ} (hpending : n ∈ pendingIds db)
    (time : Datetime) (id : ℕ) :
    IsDelivered { db with outbox := db.outbox.updateWhere (isPendingId n) (deliveredRow time)
                            (rowId_deliveredRow time) } id ↔ IsDelivered db id ∨ id = n := by
  constructor
  · rintro ⟨r', hr', rfl, hdone⟩
    have hmem : r' ∈ (db.outbox.updateWhere (isPendingId n) (deliveredRow time)
        (rowId_deliveredRow time)).rows := hr'
    obtain ⟨r, hr, rfl⟩ := RowTable.mem_updateWhere.mp hmem
    by_cases hmatch : isPendingId n r = true
    · rw [if_pos hmatch]
      rw [isPendingId, Bool.and_eq_true, beq_iff_eq] at hmatch
      exact Or.inr hmatch.1
    · rw [if_neg hmatch] at hdone ⊢
      exact Or.inl ⟨r, hr, rfl, hdone⟩
  · rintro (⟨r, hr, rfl, hdone⟩ | rfl)
    · refine ⟨r, ?_, rfl, hdone⟩
      simpa [isPendingId, hdone] using mem_update_pending hr (rowId_deliveredRow time)
    · obtain ⟨r, hr, hp, hid⟩ := mem_pendingIds.mp hpending
      refine ⟨_, mem_update_pending hr (rowId_deliveredRow time), ?_⟩
      rw [if_pos (by simp [isPendingId, hid, hp])]
      exact ⟨hid, rfl⟩

/-- A send has returned, and its row is delivered now. -/
lemma Booked.delivers (h : s.Booked) {s' : Lifecycle} {n : PendingNotification} {time : Datetime}
    (hn : Announces s.worker.db n)
    (hrecord : recordAttempt s.worker.db n time none = .ok s'.worker.db)
    (hheld : ∀ j, ∀ m ∈ (s'.worker.tasks j).held, Announces s.worker.db m)
    (hbooks : s'.sent = (s.returned (some n)).sent ∧ s'.late = (s.returned (some n)).late ∧
      s'.interrupted = s.interrupted) : s'.Booked := by
  rcases updateNotification_cases s.worker.db n.id (rowId_deliveredRow time)
    with ⟨hok, hpending⟩ | ⟨herror, _⟩
  swap
  · cases herror.symm.trans hrecord
  have hdb : s'.worker.db = { s.worker.db with
      outbox := s.worker.db.outbox.updateWhere (isPendingId n.id) (deliveredRow time)
                  (rowId_deliveredRow time) } :=
    Except.ok.inj (hrecord.symm.trans hok)
  obtain ⟨hsent, hlate, hinterrupted⟩ := hbooks
  have hrows : ∀ r ∈ s.worker.db.outbox.rows, ∃ r' ∈ s'.worker.db.outbox.rows,
      r'.announcement = r.announcement := by
    intro r hr
    rw [hdb]
    refine ⟨_, mem_update_pending hr (rowId_deliveredRow time), ?_⟩
    split <;> rfl
  have hiff : ∀ id, IsDelivered s'.worker.db id ↔ IsDelivered s.worker.db id ∨ id = n.id := by
    intro id
    rw [hdb]
    exact isDelivered_delivered hpending time id
  have hfresh : ¬ IsDelivered s.worker.db n.id := by
    rintro ⟨r, hr, hid, hdone⟩
    obtain ⟨r', hr', hp, hid'⟩ := mem_pendingIds.mp hpending
    rw [RowTable.eq_of_rowId_eq hr hr' (hid.trans hid'.symm), hp] at hdone
    cases hdone
  have hnotLate : (s.returned (some n)).late = s.late := by
    simp [returned, hpending]
  constructor
  · exact h.consistent.settledUpdate (.markNotificationDelivered n.id time) rfl hrecord
  · exact fun j m hm => (hheld j m hm).of_rows hrows
  · intro m hm
    rw [hsent, hinterrupted] at hm
    simp only [returned, Option.toList_some, List.mem_append, List.mem_singleton] at hm
    rcases hm with (hm | rfl) | hm
    · exact (h.told m (List.mem_append_left _ hm)).of_rows hrows
    · exact hn.of_rows hrows
    · exact (h.told m (List.mem_append_right _ hm)).of_rows hrows
  · intro m hm
    rw [hlate, hnotLate] at hm
    exact (hiff m.id).mpr (Or.inl (h.late m hm))
  · intro id
    rw [hsent, hlate, hnotLate]
    simp only [returned, Option.toList_some, List.map_append, List.count_append, List.map_cons,
      List.map_nil, List.count_singleton, hiff, h.counted id]
    by_cases hid : id = n.id
    · subst hid
      simp [hfresh]
    · simp [hid, Ne.symm hid]

/-- A send has returned, and its row had been delivered before. -/
lemma Booked.returnsLate (h : s.Booked) {s' : Lifecycle} {n : PendingNotification}
    (hn : Announces s.worker.db n) (hlate : n.id ∉ pendingIds s.worker.db)
    (hdb : s'.worker.db = s.worker.db)
    (hheld : ∀ j, ∀ m ∈ (s'.worker.tasks j).held, Announces s.worker.db m)
    (hbooks : s'.sent = (s.returned (some n)).sent ∧ s'.late = (s.returned (some n)).late ∧
      s'.interrupted = s.interrupted) : s'.Booked := by
  obtain ⟨hsent, hlate', hinterrupted⟩ := hbooks
  have hdone : IsDelivered s.worker.db n.id := by
    obtain ⟨r, hr, hid⟩ := RowTable.mem_ids.mp hn.mem_ids
    refine ⟨r, hr, hid, ?_⟩
    by_contra hp
    exact hlate (mem_pendingIds.mpr ⟨r, hr, by simpa using hp, hid⟩)
  have hreturned : (s.returned (some n)).late = s.late ++ [n] := by
    simp [returned, hlate]
  constructor
  · exact hdb ▸ h.consistent
  · exact fun j m hm => hdb ▸ hheld j m hm
  · intro m hm
    rw [hsent, hinterrupted] at hm
    rw [hdb]
    simp only [returned, Option.toList_some, List.mem_append, List.mem_singleton] at hm
    rcases hm with (hm | rfl) | hm
    · exact h.told m (List.mem_append_left _ hm)
    · exact hn
    · exact h.told m (List.mem_append_right _ hm)
  · intro m hm
    rw [hlate', hreturned, List.mem_append, List.mem_singleton] at hm
    rw [hdb]
    rcases hm with hm | rfl
    · exact h.late m hm
    · exact hdone
  · intro id
    rw [hsent, hlate', hreturned, hdb]
    simp only [returned, Option.toList_some, List.map_append, List.count_append, List.map_cons,
      List.map_nil, h.counted id]
    omega

lemma tasks_halfDispatched (jobId : String) (job : ScheduledJob) (x : CheckAttempt)
    (n : Option PendingNotification) (db : Database)
    (pass : Pass PendingNotification Datetime StorageError) :
    (s.halfDispatched jobId job x n db pass).worker.tasks
      = Function.update s.worker.tasks jobId (.dispatching job x pass) := rfl

/-- **A step of a dispatch** keeps the books. -/
lemma Booked.halfDispatched (h : s.Booked) {scheduler : Scheduler} {jobId : String}
    {job : ScheduledJob} {x : CheckAttempt} {db : Database} {a : PassStep Datetime String}
    {pass pass' : Pass PendingNotification Datetime StorageError}
    (htask : s.worker.tasks jobId = .dispatching job x pass)
    (heffect : (notificationOutbox scheduler.notifiers dispatchLimit).Effect s.worker.db pass a db
      pass') :
    (s.halfDispatched jobId job x (pass.delivers a) db pass').Booked := by
  have hpass : ∀ n ∈ pass.held, Announces s.worker.db n := by
    intro n hn
    refine h.held jobId n ?_
    rwa [htask]
  have hheld : (∀ n ∈ pass'.held, Announces s.worker.db n) → ∀ j,
      ∀ n ∈ ((s.halfDispatched jobId job x (pass.delivers a) db pass').worker.tasks j).held,
        Announces s.worker.db n := by
    intro hnew
    rw [tasks_halfDispatched]
    exact forall_held_update (P := fun items => ∀ n ∈ items, Announces s.worker.db n) h.held hnew
  have hquiet : pass.delivers a = none → KeepsOutbox s.worker.db db → Consistent db →
      (∀ n ∈ pass'.held, Announces s.worker.db n) →
      (s.halfDispatched jobId job x (pass.delivers a) db pass').Booked := by
    intro hnone hkeeps hc hnew
    have hall := hheld hnew
    rw [hnone] at hall ⊢
    refine h.keeps hc hkeeps hall ?_ ?_ fun n hn => h.told n (List.mem_append_right _ ?_)
    · simp [Lifecycle.halfDispatched]
    · simp [Lifecycle.halfDispatched]
    · simpa [Lifecycle.halfDispatched] using hn
  cases heffect with
  | listed hlist =>
      exact hquiet rfl (.refl _) h.consistent fun n hn => announces_of_listed h.consistent hlist hn
  | unlisted => exact hquiet rfl (.refl _) h.consistent (by simp [Pass.held])
  | started => exact hquiet rfl (.refl _) h.consistent hpass
  | refusalRaised => exact hquiet rfl (.refl _) h.consistent (by simp [Pass.held])
  | @refused n todo now e db hrefuse hrecord =>
      have hfailed : recordAttempt s.worker.db n now (some e) = .ok db := hrecord
      exact hquiet rfl (keepsOutbox_failedAttempt h.consistent hfailed)
        (consistent_recordAttempt h.consistent hfailed)
        fun m hm => hpass m (List.mem_cons_of_mem _ hm)
  | @recorded n todo now error db hrecord =>
      have hrest : ∀ m ∈ (Pass.running todo : Pass PendingNotification Datetime
          StorageError).held, Announces s.worker.db m :=
        fun m hm => hpass m (List.mem_cons_of_mem _ hm)
      cases error with
      | none =>
          exact h.delivers (hpass n List.mem_cons_self) hrecord (hheld hrest) ⟨rfl, rfl, rfl⟩
      | some e =>
          have hfailed : recordAttempt s.worker.db n now (some e) = .ok db := hrecord
          exact hquiet rfl (keepsOutbox_failedAttempt h.consistent hfailed)
            (consistent_recordAttempt h.consistent hfailed) hrest
  | @recordRaised n todo now error e hrecord =>
      have hnothing : ∀ m ∈ (Pass.raised e : Pass PendingNotification Datetime
          StorageError).held, Announces s.worker.db m := by
        simp [Pass.held]
      cases error with
      | none =>
          have hraises : ∃ e, recordAttempt s.worker.db n now none = .error e := ⟨e, hrecord⟩
          exact h.returnsLate (hpass n List.mem_cons_self) (recordAttempt_error_iff.mp hraises) rfl
            (hheld hnothing) ⟨rfl, rfl, rfl⟩
      | some error => exact hquiet rfl (.refl _) h.consistent hnothing

/-! ## Every step -/

/-- A retention pass finds no row of the outbox to remove. -/
def SparesOutbox (s : Lifecycle) : LifecycleAction → Prop
  | .prune observationsBefore notificationsBefore =>
    (WebChecker.prune s.worker.db observationsBefore notificationsBefore).2.outbox
      = s.worker.db.outbox
  | _ => True

/-- A task goes on with what it held, or with less. -/
lemma Booked.task (h : s.Booked) {w' : Worker} {jobId : String} {task : JobTask}
    (hc : Consistent w'.db) (hkeeps : KeepsOutbox s.worker.db w'.db)
    (htasks : w'.tasks = Function.update s.worker.tasks jobId task)
    (hheld : ∀ n ∈ task.held, Announces s.worker.db n) :
    ({ s with worker := w' } : Lifecycle).Booked := by
  refine h.keeps hc hkeeps ?_ rfl rfl fun n hn => h.told n (List.mem_append_right _ hn)
  rw [htasks]
  exact forall_held_update (P := fun items => ∀ n ∈ items, Announces s.worker.db n) h.held hheld

/-- What a step of the worker means for the deliveries. -/
inductive Delivery (s : Lifecycle) (act : WorkerAction) (w' : Worker) : Prop
  /-- Nothing, and the task has nothing to send. -/
  | quiet {jobId task} (hbooks : (s.observe act).sent = s.sent ∧ (s.observe act).late = s.late ∧
        (s.observe act).interrupted = s.interrupted)
      (hkeeps : KeepsOutbox s.worker.db w'.db)
      (htasks : w'.tasks = Function.update s.worker.tasks jobId task) (hheld : task.held = [])
  /-- A step of a dispatch, and what the task does next. -/
  | dispatched {jobId job x pass a db pass' task} {scheduler : Scheduler}
      (htask : s.worker.tasks jobId = .dispatching job x pass)
      (heffect : (notificationOutbox scheduler.notifiers dispatchLimit).Effect s.worker.db pass a db
        pass')
      (hobserve : s.observe act = s.returned (pass.delivers a)) (hkeeps : KeepsOutbox db w'.db)
      (htasks : w'.tasks = Function.update s.worker.tasks jobId task)
      (hheld : task.held = [] ∨ task.held = pass'.held)

/-- **Every step of the worker** is one of these. -/
lemma delivery_of_effect {scheduler : Scheduler} (hc : Consistent s.worker.db)
    (hown : scheduler.Owned s.worker) {w' : Worker} {act : WorkerAction}
    (heffect : scheduler.Effect s.worker act w') : s.Delivery act w' := by
  cases heffect with
  | started => exact .quiet ⟨rfl, rfl, rfl⟩ (.refl _) rfl rfl
  | woke => exact .quiet ⟨rfl, rfl, rfl⟩ (.refl _) rfl rfl
  | @returned jobId outcome readings job x htask =>
      obtain ⟨task, htasks, hnothing⟩ := held_afterDriver scheduler s.worker job x readings outcome
      exact .quiet ⟨rfl, rfl, rfl⟩ (keepsOutbox_afterDriver hc job x readings outcome)
        htasks hnothing
  | @alerted jobId a registry pass db pass' hregistry htask heffect =>
      obtain ⟨task, htasks, hposition, _, _⟩ :=
        afterAlert_fields { s.worker with db := db } jobId pass'
      have hkeeps : KeepsOutbox s.worker.db db := by
        rcases heffect.store with rfl | ⟨n, time, error, hrecord⟩
        · exact .refl _
        · exact keepsOutbox_recordAlertAttempt hc hrecord
      exact .quiet ⟨rfl, rfl, rfl⟩ (by rwa [db_afterAlert]) htasks (held_of_position hposition)
  | @dispatched jobId a readings job x pass db pass' htask heffect =>
      obtain ⟨_, hparty, _⟩ := hown jobId job x (.recorded x.number) (by rw [htask]; rfl)
      obtain ⟨task, htasks, hheld⟩ :=
        held_afterDispatch scheduler { s.worker with db := db } job x readings pass'
      have hmid : Consistent ({ s.worker with db := db } : Worker).db := by
        rcases heffect.store with rfl | ⟨n, time, error, hrecord⟩
        · exact hc
        · exact consistent_recordAttempt hc hrecord
      refine .dispatched htask heffect ?_ ?_ (hparty ▸ htasks) (hheld.imp_right fun hsame => ?_)
      · simp [observe, htask, JobTask.pass]
      · exact keepsOutbox_of_reported hmid
          (scheduler.reported_afterDispatch { s.worker with db := db } job x readings pass')
      · rw [JobTask.held, hsame]

/-- **Every step of the worker** keeps the books. -/
lemma Booked.effect (h : s.Booked) {act : WorkerAction} {w' : Worker}
    (hdelivery : s.Delivery act w') (hc : Consistent w'.db) :
    ({ s.observe act with worker := w' } : Lifecycle).Booked := by
  have hnothing : ∀ {db : Database} {task : JobTask}, task.held = [] →
      ∀ n ∈ task.held, Announces db n := by
    intro db task hheld n hn
    rw [hheld] at hn
    cases hn
  cases hdelivery with
  | quiet hbooks hkeeps htasks hheld =>
      obtain ⟨hsent, hlate, hinterrupted⟩ := hbooks
      have hsame := h.task hc hkeeps htasks (hnothing hheld)
      exact ⟨hc, hsame.held, by simpa only [hsent, hinterrupted] using hsame.told,
        by simpa only [hlate] using hsame.late, by simpa only [hsent, hlate] using hsame.counted⟩
  | @dispatched jobId job x pass a db pass' task scheduler htask heffect hobserve hkeeps htasks
      hheld =>
      have hhalf := h.halfDispatched htask heffect
      rw [hobserve]
      refine hhalf.task hc hkeeps (by rw [htasks, tasks_halfDispatched, Function.update_idem]) ?_
      rcases hheld with hheld | hheld
      · exact hnothing hheld
      · rw [hheld]
        have hpass := hhalf.held jobId
        rwa [tasks_halfDispatched, Function.update_self, held_dispatching] at hpass

/-- **Every step keeps the books**, if no row is removed. -/
lemma Booked.step (h : s.Booked) {scheduler : Scheduler} (inv : Inv scheduler s) {s' : Lifecycle}
    {act : LifecycleAction} (hspares : s.SparesOutbox act)
    (hstep : scheduler.lifecycle.step s act = some s') : s'.Booked := by
  cases Scheduler.lifecycleEffect_of_step hstep with
  | stepped hstage heffect =>
      exact h.effect (delivery_of_effect h.consistent inv.owned heffect)
        (consistent_effect h.consistent heffect)
  | diedAfter hstage htask heffect => exact (h.halfDispatched htask heffect).abandon _
  | died => exact h.abandon _
  | @timedOut arrived =>
      have hgone := h.abandon arrived
      exact ⟨hgone.consistent, hgone.held, hgone.told, hgone.late, hgone.counted⟩
  | stopping => exact ⟨h.consistent, h.held, h.told, h.late, h.counted⟩
  | drained => exact ⟨h.consistent, h.held, h.told, h.late, h.counted⟩
  | booted => exact ⟨h.consistent, h.held, h.told, h.late, h.counted⟩
  | @pruned observationsBefore notificationsBefore =>
      have hc := consistent_apply h.consistent (.prune observationsBefore notificationsBefore)
      refine h.keeps hc (.of_eq hspares) h.held rfl rfl fun n hn => ?_
      exact h.told n (List.mem_append_right _ hn)

lemma booked_run {scheduler : Scheduler} {acts : List LifecycleAction}
    (hrun : scheduler.lifecycle.run (start .empty) acts = some s)
    (hspares : scheduler.lifecycle.AllSteps SparesOutbox (start .empty) acts) : s.Booked := by
  refine (Process.run_invariant (I := fun s => Inv scheduler s ∧ s.Booked)
    (C := SparesOutbox) ?_ ⟨inv_start scheduler .empty, booked_start⟩ hspares hrun).2
  exact fun s act s' ⟨inv, h⟩ hspares hstep => ⟨inv.step hstep, h.step inv hspares hstep⟩

end Lifecycle

/-- The process dies in the send of the first notification, which arrives nevertheless, and the next
one sends it again. -/
def interruptedLife : List LifecycleAction :=
  .boot :: (oneCheck.take 4).map .task ++ [.die fun _ => true, .boot] ++ oneCheck.map .task

/-- It has no retention passes. -/
lemma interruptedLife_allSteps (scheduler : Scheduler) {C : Lifecycle → LifecycleAction → Prop}
    (h : ∀ s act, (∀ a b, act ≠ .prune a b) → C s act) :
    scheduler.lifecycle.AllSteps C (.start .empty) interruptedLife := by
  refine Process.allSteps_of_forall (fun act hact s => h s act ?_) _
  rintro a b rfl
  simp [interruptedLife, oneCheck] at hact

lemma interruptedLife_spares (scheduler : Scheduler) :
    scheduler.lifecycle.AllSteps Lifecycle.SparesOutbox (.start .empty) interruptedLife := by
  refine interruptedLife_allSteps scheduler fun s act hprune => ?_
  cases act with
  | prune a b => exact absurd rfl (hprune a b)
  | _ => trivial

end WebChecker
