import WebChecker.Library.Dispatch
import WebChecker.Notifications.Registry
import WebChecker.Storage.Effects

/-!
# Dispatching operational alerts

`OperationalAlertService.dispatch_pending` has the shape of the notification dispatcher, over an
outbox whose rows do not stay: a recorded success deletes the alerts of the job's failures, and a
cleared backlog those of its backlog, delivered or not.  The id of a deleted row is assigned again,
because it is `max(id) + 1`.  A pass that is suspended in a send holds the id it has listed, so its
mark can hit an alert that was never sent (`alert_lost`).

`alert_delivered_sent` says that this is the only way to lose an alert: as long as no write inserts
an alert under an id that a pass still holds for another alert, an alert is marked delivered only
after it has been sent.
-/

namespace WebChecker

open Relational Results Runs Dispatch

/-! ## The outbox of alerts -/

/-- What `dispatch_pending` writes about an attempt. -/
def recordAlertAttempt (db : Database) (alert : OperationalAlert) (attemptedAt : Datetime) :
    Option String → Except StorageError Database
  | none => markOperationalAlertDelivered db alert.id attemptedAt
  | some error => recordOperationalAlertFailure db alert.id attemptedAt error

/-- The alert outbox as `dispatch_pending` uses it. -/
def alertOutbox (registry : NotifierRegistry) (limit : ℕ) :
    Outbox Database OperationalAlert Datetime String StorageError where
  list db := listPendingOperationalAlerts db limit
  refuse alert := registry.get alert.channel
  record := recordAlertAttempt

/-- The operations that record the outcome of an alert's send. -/
def StoreOp.marksAlert : StoreOp → Bool
  | .markOperationalAlertDelivered .. => true
  | .recordOperationalAlertFailure .. => true
  | _ => false

/-- Everything else that is done to the store: failures, successes, backlog evaluations,
notifications and retention. -/
def OtherOp : Type := { op : StoreOp // op.marksAlert = false }

def writtenBy (db : Database) (op : OtherOp) : Database := (applyOp db op.val).2

/-- **The alerting worker**: any number of passes over the alerts, in any interleaving with each
other and with everything else that is done to the store. -/
def alertDispatchers (registry : NotifierRegistry) (limit : ℕ) :
    Process (System Database ℕ OperationalAlert Datetime StorageError)
      (Action ℕ Datetime String OtherOp) :=
  (alertOutbox registry limit).process writtenBy

/-! ## What an alert says -/

/-- What makes an alert the alert it is. -/
structure AlertContent where
  key : String
  channel : String
  detail : String
deriving DecidableEq, Repr

def OperationalAlert.content (alert : OperationalAlert) : AlertContent :=
  ⟨alert.key, alert.channel, alert.detail⟩

def AlertRow.content (r : AlertRow) : AlertContent := ⟨r.alertKey, r.channel, r.detail⟩

@[simp] lemma content_attemptedAlert (time : Datetime) (error : Option String) (r : AlertRow) :
    (attemptedAlert time error r).content = r.content := by
  cases error <;> rfl

/-- There is an undelivered, or a delivered, alert with this id and content. -/
def HasAlert (pending : Bool) (db : Database) (id : ℕ) (content : AlertContent) : Prop :=
  ∃ r ∈ db.alerts.rows, r.id = id ∧ r.pending = pending ∧ r.content = content

/-- The operation inserts an alert with this id and content. -/
def Inserts (db : Database) (op : OtherOp) (id : ℕ) (content : AlertContent) : Prop :=
  ∃ r ∈ (writtenBy db op).alerts.rows, r ∉ db.alerts.rows ∧ r.id = id ∧ r.content = content

/-- What an operation inserts is undelivered, and nothing else it leaves is new. -/
lemma mem_alerts_written {db : Database} {op : OtherOp} {r : AlertRow}
    (hr : r ∈ (writtenBy db op).alerts.rows) : r ∈ db.alerts.rows ∨ r.pending = true := by
  obtain ⟨op, hop⟩ := op
  replace hr : r ∈ (applyOp db op).2.alerts.rows := hr
  cases op with
  | recordSuccess jobId result plan =>
      rw [applyOp] at hr
      cases hrecord : recordSuccess db jobId result plan with
      | error e =>
          rw [hrecord] at hr
          exact Or.inl hr
      | ok out =>
          obtain ⟨outcome, db'⟩ := out
          rw [hrecord] at hr
          dsimp only [settle] at hr
          rw [(recordSuccess_outboxes hrecord).2] at hr
          exact Or.inl (RowTable.mem_deleteWhere.mp hr).1
  | recordCheckFailure jobId error failedAt now alertAfter channels =>
      rw [applyOp] at hr
      cases hrecord : recordCheckFailure db jobId error failedAt now alertAfter channels with
      | error e =>
          rw [hrecord] at hr
          exact Or.inl hr
      | ok out =>
          obtain ⟨raised, db'⟩ := out
          rw [hrecord] at hr
          dsimp only [settle] at hr
          rcases recordCheckFailure_eq_ok.mp hrecord with ⟨_, _, _, _, rfl⟩ | ⟨_, _, rfl⟩
          · dsimp only [raisedAlerts] at hr
            rw [RowTable.rows_insertAll] at hr
            rcases List.mem_append.mp hr with hr | hr
            · exact Or.inl hr
            · obtain ⟨⟨c, i⟩, _, rfl⟩ := List.mem_map.mp hr
              exact Or.inr rfl
          · exact Or.inl hr
  | raiseDeliveryBacklogAlerts alertAfter channels now =>
      rw [applyOp, raiseDeliveryBacklogAlerts] at hr
      cases hevaluate : evaluateBacklogs alertAfter channels now (backlogRows db) db.jobStatus
          db.alerts with
      | error e =>
          rw [hevaluate] at hr
          exact Or.inl hr
      | ok out =>
          rw [hevaluate, evaluateBacklogs_eq_ok hevaluate] at hr
          exact (mem_allEvaluatedAlerts hr).imp_right And.right
  | markNotificationDelivered id time =>
      rw [applyOp, markNotificationDelivered, updateNotification] at hr
      split at hr <;> exact Or.inl hr
  | recordNotificationFailure id time error =>
      rw [applyOp, recordNotificationFailure, updateNotification] at hr
      split at hr <;> exact Or.inl hr
  | markOperationalAlertDelivered => simp [StoreOp.marksAlert] at hop
  | recordOperationalAlertFailure => simp [StoreOp.marksAlert] at hop
  | prune => exact Or.inl hr

/-- The rows after a recorded attempt: only an undelivered one with the id has changed. -/
lemma mem_alerts_recorded {db db' : Database} {alert : OperationalAlert} {time : Datetime}
    {error : Option String} (h : recordAlertAttempt db alert time error = .ok db') {r : AlertRow}
    (hr : r ∈ db'.alerts.rows) :
    ∃ r' ∈ db.alerts.rows,
      (if isPendingAlertId alert.id r' then attemptedAlert time error r' else r') = r := by
  have hupdate : updateOperationalAlert db alert.id time error = .ok db' := by
    cases error <;> exact h
  rw [updateOperationalAlert] at hupdate
  split_ifs at hupdate
  cases hupdate
  exact List.mem_map.mp hr

/-- Every listed alert is an undelivered row. -/
lemma hasAlert_of_listed {db : Database} {limit : ℕ} {alerts : List OperationalAlert}
    (h : listPendingOperationalAlerts db limit = .ok alerts) :
    ∀ a ∈ alerts, HasAlert true db a.id a.content := by
  intro a ha
  rw [listPendingOperationalAlerts, raiseAs_eq_ok] at h
  obtain ⟨r, hr, hdecode⟩ := mem_of_mapM_eq_ok h a ha
  simp only [decodeAlert, bind_eq_ok, pure_eq_ok, Except.ok.injEq] at hdecode
  obtain ⟨createdAt, _, rfl⟩ := hdecode
  obtain ⟨hr, hp⟩ := List.mem_filter.mp (List.mem_of_mem_take hr)
  exact ⟨r, hr, rfl, hp, rfl⟩

/-- **The alert outbox recycles its ids.** -/
lemma alertOutbox_recycling (registry : NotifierRegistry) (limit : ℕ) :
    Recycling (alertOutbox registry limit) writtenBy OperationalAlert.id OperationalAlert.content
      (HasAlert true) (HasAlert false) Inserts where
  unique := by
    rintro db id d d' ⟨r, hr, hid, _, rfl⟩ ⟨r', hr', hid', _, rfl⟩
    rw [RowTable.eq_of_rowId_eq hr hr' (hid.trans hid'.symm)]
  listed := hasAlert_of_listed
  recorded := by
    intro db a time error db' h id d
    constructor
    · rintro ⟨r, hr, rfl, hp, rfl⟩
      obtain ⟨r', hr', rfl⟩ := mem_alerts_recorded h hr
      split_ifs at hp ⊢ with hit
      · simp only [isPendingAlertId, Bool.and_eq_true] at hit
        exact ⟨r', hr', (rowId_attemptedAlert time error r').symm, hit.2, by simp⟩
      · exact ⟨r', hr', rfl, hp, rfl⟩
    · rintro ⟨r, hr, rfl, hp, rfl⟩
      obtain ⟨r', hr', rfl⟩ := mem_alerts_recorded h hr
      split_ifs at hp ⊢ with hit
      · simp only [isPendingAlertId, Bool.and_eq_true, beq_iff_eq] at hit
        have hid : (attemptedAlert time error r').id = r'.id := rowId_attemptedAlert time error r'
        refine Or.inr ⟨?_, hid.trans hit.1, r', hr', hid.symm, hit.2, by simp⟩
        -- a failed attempt leaves the alert undelivered
        cases error with
        | none => rfl
        | some e =>
            have hkept : (attemptedAlert time (some e) r').pending = r'.pending := rfl
            rw [hkept, hit.2] at hp
            simp at hp
      · exact Or.inl ⟨r', hr', rfl, hp, rfl⟩
  written := by
    intro db op id d
    constructor
    · rintro ⟨r, hr, hid, hp, hd⟩
      by_cases hold : r ∈ db.alerts.rows
      · exact Or.inl ⟨r, hold, hid, hp, hd⟩
      · exact Or.inr ⟨r, hr, hold, hid, hd⟩
    · rintro ⟨r, hr, hid, hp, hd⟩
      rcases mem_alerts_written hr with hold | hnew
      · exact ⟨r, hold, hid, hp, hd⟩
      · simp [hnew] at hp

/-! ## No alert is lost -/

/-- No alert is inserted under an id that a pass still holds for another alert. -/
def SparesHeldIds (s : System Database ℕ OperationalAlert Datetime StorageError)
    (act : Action ℕ Datetime String OtherOp) : Prop :=
  ∀ op, act = .write op → ∀ p, ∀ alert ∈ (s.passes p).held, ∀ content,
    Inserts s.store op alert.id content → content = alert.content

/-- **Only a sent alert is marked delivered.**  In every interleaving of passes and other
operations in which no alert is inserted under an id that a pass still holds for another alert: an
alert that is delivered at the end and was not at the start has been sent successfully. -/
theorem alert_delivered_sent (registry : NotifierRegistry) (limit : ℕ) {db : Database}
    {acts : List (Action ℕ Datetime String OtherOp)}
    {s' : System Database ℕ OperationalAlert Datetime StorageError}
    (hrun : (alertDispatchers registry limit).run (System.start db) acts = some s')
    (hspares : (alertDispatchers registry limit).AllSteps SparesHeldIds (System.start db) acts)
    {r : AlertRow} (hr : r ∈ s'.store.alerts.rows) (hdelivered : r.pending = false) :
    HasAlert false db r.id r.content ∨ r.content ∈ s'.sent.map OperationalAlert.content :=
  (alertOutbox_recycling registry limit).delivered_sent hspares hrun
    ⟨r, hr, rfl, hdelivered, rfl⟩

/-- **A mark hits whatever has the id it holds**: a pass that completes a send marks the
undelivered alert that has the id by then, whether it is the alert it sent or not. -/
lemma marks_reassigned (registry : NotifierRegistry) (limit : ℕ)
    {s : System Database ℕ OperationalAlert Datetime StorageError} {p : ℕ}
    {alert : OperationalAlert} {now : Datetime} {todo : List OperationalAlert}
    (hpass : s.passes p = .sending alert now todo) {r : AlertRow}
    (hr : r ∈ s.store.alerts.rows) (hid : r.id = alert.id) (hp : r.pending = true) :
    ∃ s', (alertDispatchers registry limit).step s (.pass p (.complete none)) = some s' ∧
      HasAlert false s'.store r.id r.content ∧ s'.sent = s.sent ++ [alert] := by
  have hone : s.store.alerts.rows.countP (isPendingAlertId alert.id) = 1 :=
    hid ▸ RowTable.countP_rowId_eq hr hp
  have hmarked : markOperationalAlertDelivered s.store alert.id now
      = .ok { s.store with alerts := s.store.alerts.updateWhere (isPendingAlertId alert.id)
                            (attemptedAlert now none) (rowId_attemptedAlert now none) } := by
    rw [markOperationalAlertDelivered, updateOperationalAlert, if_pos hone]
  have hstep : (alertDispatchers registry limit).step s (.pass p (.complete none))
      = some ⟨{ s.store with alerts := s.store.alerts.updateWhere (isPendingAlertId alert.id)
                              (attemptedAlert now none) (rowId_attemptedAlert now none) },
          Function.update s.passes p (.running todo), s.sent ++ [alert]⟩ := by
    simp [alertDispatchers, Outbox.process, Outbox.step, hpass, alertOutbox, recordAlertAttempt,
      hmarked, Outbox.resume, Pass.delivers]
  refine ⟨_, hstep, ⟨attemptedAlert now none r, ?_, rfl, rfl, rfl⟩, rfl⟩
  rw [RowTable.mem_updateWhere]
  exact ⟨r, hr, by simp [isPendingAlertId, hid, hp]⟩

/-- A failure of a job, with an alert on `email` at once. -/
def failingCheck (jobId : String) : OtherOp :=
  ⟨.recordCheckFailure jobId "timeout" none .epoch 1 ["email"], rfl⟩

/-- Only these passes take part, and what is inserted spares what they hold. -/
def sparesHeld (ps : List ℕ) (s : System Database ℕ OperationalAlert Datetime StorageError) :
    Action ℕ Datetime String OtherOp → Bool
  | .pass p _ => p ∈ ps
  | .write op => ps.all fun p => (s.passes p).held.all fun alert =>
      (writtenBy s.store op).alerts.rows.all fun r =>
        r ∈ s.store.alerts.rows || r.id ≠ alert.id || r.content = alert.content

/-- A pass that does not take part holds nothing. -/
lemma sparesHeldIds_of_sparesHeld {registry : NotifierRegistry} {limit : ℕ} {ps : List ℕ}
    {db : Database} {acts : List (Action ℕ Datetime String OtherOp)}
    (h : (alertDispatchers registry limit).AllSteps (fun s act => sparesHeld ps s act = true)
      (System.start db) acts) :
    (alertDispatchers registry limit).AllSteps SparesHeldIds (System.start db) acts := by
  refine h.of_invariant (I := fun s => ∀ p ∉ ps, (s.passes p).held = []) ?_ ?_ fun _ _ => rfl
  · intro s act s' inv hspares hstep p hp
    rcases Outbox.process_cases hstep with ⟨q, a, store, pass, rfl, _, rfl⟩ | ⟨op, rfl, rfl⟩
    · have hq : q ∈ ps := of_decide_eq_true hspares
      have hne : p ≠ q := fun heq => hp (heq ▸ hq)
      show (Function.update s.passes q pass p).held = []
      rw [Function.update_of_ne hne]
      exact inv p hp
    · exact inv p hp
  · rintro s act inv hspares op rfl p alert halert content ⟨r, hr, hnew, hid, rfl⟩
    have hp : p ∈ ps := by
      by_contra hnot
      rw [inv p hnot] at halert
      cases halert
    simp only [sparesHeld, List.all_eq_true] at hspares
    have hrow := hspares p hp alert halert r hr
    simpa [hnew, hid] using hrow

/-- While one pass is sending the alert of `swim`, that of `sauna` is inserted; another pass sends
it. -/
def twoAlertsRun : List (Action ℕ Datetime String OtherOp) :=
  [.write (failingCheck "swim"), .pass 0 .list, .pass 0 (.send .epoch),
    .write (failingCheck "sauna"), .pass 0 (.complete none),
    .pass 1 .list, .pass 1 (.send .epoch), .pass 1 (.complete none)]

theorem alert_delivered_sent_twoAlerts :
    ∃ s', (alertDispatchers .email 100).run (System.start .empty) twoAlertsRun = some s' ∧
      s'.store.alerts.rows.length = 2 ∧ ∀ r ∈ s'.store.alerts.rows,
        r.pending = false ∧ r.content ∈ s'.sent.map OperationalAlert.content := by
  have hdelivered : ((alertDispatchers .email 100).run (System.start .empty) twoAlertsRun).map
      (fun s => decide (s.store.alerts.rows.length = 2 ∧
        ∀ r ∈ s.store.alerts.rows, r.pending = false)) = some true := by decide +kernel
  have hspares : (alertDispatchers .email 100).AllSteps
      (fun s act => sparesHeld [0, 1] s act = true) (System.start .empty) twoAlertsRun := by
    decide +kernel
  obtain ⟨s', hs', hrows⟩ := Option.map_eq_some_iff.mp hdelivered
  obtain ⟨htwo, hall⟩ := of_decide_eq_true hrows
  refine ⟨s', hs', htwo, fun r hr => ⟨hall r hr, ?_⟩⟩
  refine (alert_delivered_sent .email 100 hs' (sparesHeldIds_of_sparesHeld hspares) hr
    (hall r hr)).resolve_left ?_
  simp [HasAlert, Database.empty]

/-- The alert of job `swim` stays undelivered because its first send fails.  While another pass is
sending it again, `swim` succeeds and `sauna` fails; the new alert gets the id of the old one. -/
def reassignedRun : List (Action ℕ Datetime String OtherOp) :=
  [.write (failingCheck "swim"), .pass 0 .list, .pass 0 (.send .epoch),
    .pass 0 (.complete (some "refused")), .pass 1 .list, .pass 1 (.send .epoch),
    .write ⟨.recordSuccess "swim" (.onFirst .available) .none, rfl⟩,
    .write (failingCheck "sauna"), .pass 2 .list, .pass 2 (.send .epoch),
    .pass 1 (.complete none), .pass 2 (.complete (some "refused"))]

/-- **An alert is lost.**  The pass that sent the alert of `swim` marks the alert of `sauna`
delivered, whose only send fails. -/
theorem alert_lost :
    ∃ s', (alertDispatchers .email 100).run (System.start .empty) reassignedRun = some s' ∧
      ∃ r ∈ s'.store.alerts.rows, r.pending = false ∧
        r.content ∉ s'.sent.map OperationalAlert.content := by
  have hlost : ((alertDispatchers .email 100).run (System.start .empty) reassignedRun).map
      (fun s => s.store.alerts.rows.any fun r =>
        !r.pending && decide (r.content ∉ s.sent.map OperationalAlert.content)) = some true := by
    decide +kernel
  obtain ⟨s', hs', hany⟩ := Option.map_eq_some_iff.mp hlost
  obtain ⟨r, hr, hp⟩ := List.any_eq_true.mp hany
  simp only [Bool.and_eq_true, Bool.not_eq_true', decide_eq_true_eq] at hp
  exact ⟨s', hs', r, hr, hp.1, hp.2⟩

end WebChecker
