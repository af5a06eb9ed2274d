import WebChecker.Library.Dispatch
import WebChecker.Notifications.Registry
import WebChecker.Storage.Delivery

/-!
# Dispatching notifications

`NotificationService.dispatch_pending` lists the oldest undelivered rows of the outbox and sends
them one after the other.  `dispatchPending` is one call that nothing interrupts;
`notificationOutbox` is what the call looks like to the other tasks of the worker, which run
whenever it is suspended in a send.  `dispatchPending_alone` says that the two agree.

The guarantee that a row is sent once does not survive two calls that overlap
(`sends_overlapping`): the second works through a list that the first has made stale.
`sends_atMostOnce_iff` gives the exact condition under which it holds.
-/

namespace WebChecker

open Relational Results Runs Dispatch

/-! ## One call -/

/-- What a call meets outside the database: the clock when an item's turn comes, and the text of
the exception that sending it raises, if any. -/
structure Surroundings where
  now : PendingNotification → Datetime
  send : PendingNotification → Option String

/-- The text of the exception that looking up an item's channel or sending it raises. -/
def attempt (registry : NotifierRegistry) (around : Surroundings) (n : PendingNotification) :
    Option String := (registry.get n.channel).or (around.send n)

/-- What a call writes about an attempt. -/
def recordAttempt (db : Database) (n : PendingNotification) (attemptedAt : Datetime) :
    Option String → Except StorageError Database
  | none => markNotificationDelivered db n.id attemptedAt
  | some error => recordNotificationFailure db n.id attemptedAt error

/-- `failed += 1` or `delivered += 1`. -/
def DeliverySummary.count (summary : DeliverySummary) : Option String → DeliverySummary
  | some _ => { summary with failed := summary.failed + 1 }
  | none => { summary with delivered := summary.delivered + 1 }

/-- The loop of a call.  What was committed before an exception stays. -/
def dispatchItems (registry : NotifierRegistry) (around : Surroundings) :
    List PendingNotification → DeliverySummary → Database →
      Except StorageError DeliverySummary × Database
  | [], summary, db => (.ok summary, db)
  | n :: ns, summary, db =>
    let error := attempt registry around n
    match recordAttempt db n (around.now n) error with
    | .error e => (.error e, db)
    | .ok db => dispatchItems registry around ns (summary.count error) db

/-- `dispatch_pending`. -/
def dispatchPending (registry : NotifierRegistry) (around : Surroundings) (limit : ℕ)
    (db : Database) : Except StorageError DeliverySummary × Database :=
  match listPendingNotifications db limit with
  | .error e => (.error e, db)
  | .ok items => dispatchItems registry around items {} db

/-! ## Overlapping calls -/

/-- The outbox as the calls of the worker's tasks use it. -/
def notificationOutbox (registry : NotifierRegistry) (limit : ℕ) :
    Outbox Database PendingNotification Datetime String StorageError where
  list db := listPendingNotifications db limit
  refuse n := registry.get n.channel
  record := recordAttempt

/-- A snapshot that some job records. -/
structure Recording where
  jobId : String
  result : CheckResult
  plan : NotificationPlan

/-- The database after `record_success`; a failed one is rolled back. -/
def recordedBy (db : Database) (r : Recording) : Database :=
  (applyOp db (.recordSuccess r.jobId r.result r.plan)).2

/-- **The dispatching worker**: any number of calls over one database, in any interleaving with
each other and with the recordings of other jobs. -/
def dispatchers (registry : NotifierRegistry) (limit : ℕ) :
    Process (System Database ℕ PendingNotification Datetime StorageError)
      (Action ℕ Datetime String Recording) :=
  (notificationOutbox registry limit).process recordedBy

/-! ## A call that runs alone -/

/-- The steps that take a call from one item to the next. -/
def itemSteps (registry : NotifierRegistry) (around : Surroundings) (n : PendingNotification) :
    List (PassStep Datetime String) :=
  match registry.get n.channel with
  | none => [.send (around.now n), .complete (around.send n)]
  | some _ => [.send (around.now n)]

/-- **One item.** -/
lemma run_itemSteps (registry : NotifierRegistry) (around : Surroundings) (limit p : ℕ)
    {s : System Database ℕ PendingNotification Datetime StorageError} {n : PendingNotification}
    {ns : List PendingNotification} (h : s.passes p = .running (n :: ns)) :
    let r := Outbox.resume s.store ns
      (recordAttempt s.store n (around.now n) (attempt registry around n))
    (dispatchers registry limit).run s ((itemSteps registry around n).map (.pass p)) =
      some ⟨r.1, Function.update s.passes p r.2,
        s.sent ++ if attempt registry around n = none then [n] else []⟩ := by
  intro r
  cases hget : registry.get n.channel with
  | some e =>
      have hattempt : attempt registry around n = some e := by simp [attempt, hget]
      simp [itemSteps, hget, Process.run, dispatchers, Outbox.process, Outbox.step, h,
        notificationOutbox, Pass.delivers, hattempt, r]
  | none =>
      have hattempt : attempt registry around n = around.send n := by simp [attempt, hget]
      cases hsend : around.send n with
      | none =>
          simp [itemSteps, hget, Process.run, dispatchers, Outbox.process, Outbox.step, h,
            notificationOutbox, Pass.delivers, hattempt, hsend, r]
      | some e =>
          simp [itemSteps, hget, Process.run, dispatchers, Outbox.process, Outbox.step, h,
            notificationOutbox, Pass.delivers, hattempt, hsend, r]

/-- Where a call stands at the end of its loop. -/
def outcomeOf : Except StorageError DeliverySummary → Pass PendingNotification Datetime StorageError
  | .ok _ => .running []
  | .error e => .raised e

/-- The loop, as steps of a pass. -/
lemma run_dispatchItems (registry : NotifierRegistry) (around : Surroundings) (limit p : ℕ)
    {items : List PendingNotification} :
    ∀ {s : System Database ℕ PendingNotification Datetime StorageError} (summary : DeliverySummary),
      s.passes p = .running items →
      let out := dispatchItems registry around items summary s.store
      ∃ (steps : List (PassStep Datetime String)) (s' : _),
        (dispatchers registry limit).run s (steps.map (.pass p)) = some s' ∧
        s'.store = out.2 ∧ s'.passes p = outcomeOf out.1 ∧
        ∀ summary', out.1 = .ok summary' →
          s'.sent.length + summary.delivered = s.sent.length + summary'.delivered := by
  induction items with
  | nil =>
      intro s summary h out
      refine ⟨[], s, rfl, rfl, h, fun summary' hok => ?_⟩
      rw [show summary = summary' from Except.ok.inj hok]
  | cons n ns ih =>
      intro s summary h out
      have hitem := run_itemSteps registry around limit p h
      cases hrecord : recordAttempt s.store n (around.now n) (attempt registry around n) with
      | error e =>
          -- the exception ends the loop
          have hout : out = (.error e, s.store) := by simp [out, dispatchItems, hrecord]
          simp only [hrecord, Outbox.resume] at hitem
          exact ⟨_, _, hitem, by simp [hout], by simp [hout, outcomeOf], by simp [hout]⟩
      | ok db =>
          simp only [hrecord, Outbox.resume] at hitem
          have hout : out = dispatchItems registry around ns
              (summary.count (attempt registry around n)) db := by
            simp only [out, dispatchItems, hrecord]
          obtain ⟨steps, s', hrun, hstore, hpass, hcount⟩ := ih
            (s := ⟨db, Function.update s.passes p (.running ns),
              s.sent ++ if attempt registry around n = none then [n] else []⟩)
            (summary.count (attempt registry around n)) (Function.update_self ..)
          refine ⟨itemSteps registry around n ++ steps, s', ?_, by rw [hout, hstore],
            by rw [hout, hpass], fun summary' hok => ?_⟩
          · rw [List.map_append]
            exact Process.run_append hitem hrun
          · have hlength := hcount summary' (hout ▸ hok)
            cases hattempt : attempt registry around n with
            | none =>
                simp [hattempt, DeliverySummary.count] at hlength
                omega
            | some e =>
                simp [hattempt, DeliverySummary.count] at hlength
                omega

/-- **A call that nothing interrupts** is `dispatchPending`: it leaves the same database, raises
what it raises, and reports as delivered the sends that completed successfully. -/
theorem dispatchPending_alone (registry : NotifierRegistry) (around : Surroundings)
    (limit p : ℕ) (db : Database) :
    let out := dispatchPending registry around limit db
    ∃ (steps : List (PassStep Datetime String)) (s' : _),
      (dispatchers registry limit).run (System.start db) (steps.map (.pass p)) = some s' ∧
      s'.store = out.2 ∧ s'.passes p = outcomeOf out.1 ∧
      ∀ summary, out.1 = .ok summary → s'.sent.length = summary.delivered := by
  intro out
  cases hlist : listPendingNotifications db limit with
  | error e =>
      have hout : out = (.error e, db) := by simp [out, dispatchPending, hlist]
      refine ⟨[.list], ⟨db, Function.update (fun _ => .idle) p (.raised e), []⟩, ?_, by simp [hout],
        by simp [hout, outcomeOf], by simp [hout]⟩
      simp [Process.run, dispatchers, Outbox.process, Outbox.step, System.start, notificationOutbox,
        hlist, Pass.delivers]
  | ok items =>
      have hout : out = dispatchItems registry around items {} db := by
        simp [out, dispatchPending, hlist]
      have hstep : (dispatchers registry limit).run (System.start db) [.pass p .list]
          = some ⟨db, Function.update (fun _ => .idle) p (.running items), []⟩ := by
        simp [Process.run, dispatchers, Outbox.process, Outbox.step, System.start,
          notificationOutbox, hlist, Pass.delivers]
      have hlisted : (⟨db, Function.update (fun _ => .idle) p (.running items), []⟩ :
          System Database ℕ PendingNotification Datetime StorageError).passes p
            = .running items := by
        simp
      obtain ⟨steps, s', hrun, hstore, hpass, hcount⟩ :=
        run_dispatchItems registry around limit p {} hlisted
      refine ⟨.list :: steps, s', ?_, by rw [hout, hstore], by rw [hout, hpass],
        fun summary hok => ?_⟩
      · exact Process.run_append hstep hrun
      · simpa using hcount summary (hout ▸ hok)

/-! ## What the calls do to the outbox -/

/-- What an attempt leaves of a row. -/
def attemptedWith (time : Datetime) (error : Option String) (r : OutboxRow) : OutboxRow :=
  match error with
  | none => deliveredRow time r
  | some e => failedRow time e r

@[simp] lemma rowId_attemptedWith (time : Datetime) (error : Option String) (r : OutboxRow) :
    rowId (attemptedWith time error r) = rowId r := by
  cases error <;> rfl

lemma recordAttempt_eq (db : Database) (n : PendingNotification) (time : Datetime)
    (error : Option String) :
    recordAttempt db n time error
      = updateNotification db n.id (attemptedWith time error) (rowId_attemptedWith time error) := by
  cases error <;> rfl

/-- The ids of the undelivered rows. -/
def pendingIds (db : Database) : List ℕ := (pendingRows db).map OutboxRow.id

lemma nodup_pendingIds (db : Database) : (pendingIds db).Nodup :=
  List.pairwise_map.mpr ((pendingRows_increasing db).imp Nat.ne_of_lt)

lemma mem_pendingIds {db : Database} {id : ℕ} :
    id ∈ pendingIds db ↔ ∃ r ∈ db.outbox.rows, r.pending = true ∧ r.id = id := by
  simp [pendingIds, mem_pendingRows, and_assoc]

lemma mem_ids_of_mem_pendingIds {db : Database} {id : ℕ} (h : id ∈ pendingIds db) :
    id ∈ db.outbox.ids := by
  obtain ⟨r, hr, _, rfl⟩ := mem_pendingIds.mp h
  exact RowTable.rowId_mem_ids hr

/-- Every listed item is an undelivered row. -/
lemma mem_pendingIds_of_listed {db : Database} {limit : ℕ} {items : List PendingNotification}
    (h : listPendingNotifications db limit = .ok items) :
    ∀ n ∈ items, n.id ∈ pendingIds db := by
  intro n hn
  rw [listPendingNotifications, raiseAs_eq_ok] at h
  obtain ⟨r, hr, hdecode⟩ := mem_of_mapM_eq_ok h n hn
  simp only [decodeNotification, bind_eq_ok, pure_eq_ok, Except.ok.injEq] at hdecode
  obtain ⟨checkedAt, _, rfl⟩ := hdecode
  exact List.mem_map_of_mem (List.mem_of_mem_take hr)

/-- **A call on an id** succeeds exactly if the row is undelivered. -/
lemma updateNotification_cases (db : Database) (id : ℕ) {f : OutboxRow → OutboxRow}
    (hf : ∀ r, rowId (f r) = rowId r) :
    (updateNotification db id f hf
        = .ok { db with outbox := db.outbox.updateWhere (isPendingId id) f hf } ∧
      id ∈ pendingIds db) ∨
    (updateNotification db id f hf = .error ⟨s!"pending notification {id} was not found"⟩ ∧
      id ∉ pendingIds db) := by
  by_cases h : db.outbox.rows.countP (isPendingId id) = 1
  · refine Or.inl ⟨by rw [updateNotification, if_pos h], ?_⟩
    obtain ⟨r, hr, hid⟩ := exists_of_countP_eq_one h
    simp only [isPendingId, Bool.and_eq_true, beq_iff_eq] at hid
    exact mem_pendingIds.mpr ⟨r, hr, hid.2, hid.1⟩
  · refine Or.inr ⟨by rw [updateNotification, if_neg h], fun hid => h (countP_isPendingId hid)⟩

/-- **Recording an attempt** raises exactly if the row is not undelivered any more. -/
lemma recordAttempt_error_iff {db : Database} {n : PendingNotification} {time : Datetime}
    {error : Option String} :
    (∃ e, recordAttempt db n time error = .error e) ↔ n.id ∉ pendingIds db := by
  rw [recordAttempt_eq]
  rcases updateNotification_cases db n.id (rowId_attemptedWith time error)
    with ⟨hok, hpending⟩ | ⟨herror, hsettled⟩
  · simp [hok, hpending]
  · simp [herror, hsettled]

lemma pendingIds_delivered (db : Database) (id : ℕ) (time : Datetime) (k : ℕ) :
    k ∈ pendingIds { db with outbox := db.outbox.updateWhere (isPendingId id) (deliveredRow time)
                              (rowId_deliveredRow time) } ↔ k ∈ pendingIds db ∧ k ≠ id := by
  rw [pendingIds, pendingRows_delivered, pendingIds]
  simp only [List.mem_map, List.mem_filter, bne_iff_ne]
  constructor
  · rintro ⟨r, ⟨hr, hne⟩, rfl⟩
    exact ⟨⟨r, hr, rfl⟩, hne⟩
  · rintro ⟨⟨r, hr, rfl⟩, hne⟩
    exact ⟨r, ⟨hr, hne⟩, rfl⟩

lemma pendingIds_attempted (db : Database) (id : ℕ) (time : Datetime) (error : String) :
    pendingIds { db with outbox := db.outbox.updateWhere (isPendingId id) (failedRow time error)
                              (rowId_failedRow time error) } = pendingIds db := by
  rw [pendingIds, pendingRows_attempted, pendingIds, List.map_map]
  refine List.map_congr_left fun r _ => ?_
  rw [Function.comp_apply]
  split <;> rfl

/-- Rows with new ids leave the old ones undelivered, or not, as they were. -/
lemma Grows.pendingIds {db db' : Database} (h : Grows db.outbox db'.outbox) {k : ℕ}
    (hk : k ∈ db.outbox.ids) :
    k ∈ db'.outbox.ids ∧ (k ∈ pendingIds db' ↔ k ∈ pendingIds db) := by
  obtain ⟨added, hrows, hnew⟩ := h
  constructor
  · simp only [RowTable.ids, hrows, List.map_append, List.mem_append]
    exact Or.inl hk
  · simp only [mem_pendingIds, hrows, List.mem_append]
    constructor
    · rintro ⟨r, hr | hr, hp, rfl⟩
      · exact ⟨r, hr, hp, rfl⟩
      · exact absurd hk (hnew r hr)
    · rintro ⟨r, hr, hp, rfl⟩
      exact ⟨r, Or.inl hr, hp, rfl⟩

/-- **The notification outbox is durable**: no call and no recording removes a row or makes a
delivered one undelivered. -/
lemma notificationOutbox_durable (registry : NotifierRegistry) (limit : ℕ) :
    Durable (notificationOutbox registry limit) recordedBy PendingNotification.id
      (fun db id => id ∈ db.outbox.ids) (fun db id => id ∈ pendingIds db) where
  listed h n hn :=
    ⟨mem_ids_of_mem_pendingIds (mem_pendingIds_of_listed h n hn), mem_pendingIds_of_listed h n hn⟩
  delivered {db n time db'} h k hk := by
    rcases updateNotification_cases db n.id (rowId_deliveredRow time)
      with ⟨hok, _⟩ | ⟨herror, _⟩
    · cases hok.symm.trans h
      refine ⟨?_, pendingIds_delivered db n.id time k⟩
      rwa [RowTable.ids_updateWhere]
    · cases herror.symm.trans h
  refused {db n time e} h := by
    rcases updateNotification_cases db n.id (rowId_deliveredRow time)
      with ⟨hok, _⟩ | ⟨_, hsettled⟩
    · cases hok.symm.trans h
    · exact hsettled
  failed {db n time error db'} h k hk := by
    rcases updateNotification_cases db n.id (rowId_failedRow time error)
      with ⟨hok, _⟩ | ⟨herror, _⟩
    · cases hok.symm.trans h
      refine ⟨?_, by rw [pendingIds_attempted]⟩
      rwa [RowTable.ids_updateWhere]
    · cases herror.symm.trans h
  written db r k hk := by
    rw [recordedBy, applyOp]
    cases hrecord : recordSuccess db r.jobId r.result r.plan with
    | error e => exact ⟨hk, Iff.rfl⟩
    | ok out =>
        obtain ⟨outcome, db'⟩ := out
        exact (recordSuccess_outboxes hrecord).1.pendingIds hk

/-! ## At most once -/

/-- The row of a send that completes successfully is still undelivered. -/
def FindsUndelivered (s : System Database ℕ PendingNotification Datetime StorageError)
    (act : Action ℕ Datetime String Recording) : Prop :=
  ∀ n, s.delivers act = some n → n.id ∈ pendingIds s.store

/-- **When a row is sent at most once.**  For every registry, every outbox and every interleaving
of calls of `dispatch_pending` with recorded successes: no row has two sends that complete
successfully if and only if every send that completes successfully finds its row still
undelivered. -/
theorem sends_atMostOnce_iff (registry : NotifierRegistry) (limit : ℕ) (db : Database)
    {acts : List (Action ℕ Datetime String Recording)}
    {s' : System Database ℕ PendingNotification Datetime StorageError}
    (hrun : (dispatchers registry limit).run (System.start db) acts = some s') :
    (∀ id, (s'.sent.map PendingNotification.id).count id ≤ 1) ↔
      (dispatchers registry limit).AllSteps FindsUndelivered (System.start db) acts := by
  rw [← List.nodup_iff_count_le_one]
  exact (notificationOutbox_durable registry limit).sent_nodup_iff hrun

/-- An outbox with one row, for channel `email`. -/
def oneRow : Database :=
  (applyOp .empty (.recordSuccess "swim" (.onFirst .available) .email)).2

/-- Two calls, one after the other: the second finds nothing to send. -/
def successiveCalls : List (Action ℕ Datetime String Recording) :=
  [.pass 0 .list, .pass 0 (.send .epoch), .pass 0 (.complete none), .pass 1 .list]

theorem sends_atMostOnce_successive :
    ∃ s', (dispatchers .email 100).run (System.start oneRow) successiveCalls = some s' ∧
      ((∀ id, (s'.sent.map PendingNotification.id).count id ≤ 1) ↔
        (dispatchers .email 100).AllSteps FindsUndelivered (System.start oneRow)
          successiveCalls) := by
  have hrun : ((dispatchers .email 100).run (System.start oneRow) successiveCalls).isSome
      = true := by decide +kernel
  obtain ⟨s', hs'⟩ := Option.isSome_iff_exists.mp hrun
  exact ⟨s', hs', sends_atMostOnce_iff .email 100 oneRow hs'⟩

/-- The second call lists the row while the first is suspended in sending it. -/
def overlappingCalls : List (Action ℕ Datetime String Recording) :=
  [.pass 0 .list, .pass 0 (.send .epoch), .pass 1 .list, .pass 1 (.send .epoch),
    .pass 0 (.complete none), .pass 1 (.complete none)]

/-- **Two calls send one row twice**; the second then raises, because the row is delivered. -/
theorem sends_overlapping :
    ∃ s', (dispatchers .email 100).run (System.start oneRow) overlappingCalls = some s' ∧
      ¬ ∀ id, (s'.sent.map PendingNotification.id).count id ≤ 1 := by
  have hsent : ((dispatchers .email 100).run (System.start oneRow) overlappingCalls).map
      (fun s => s.sent.map PendingNotification.id) = some [1, 1] := by decide +kernel
  obtain ⟨s', hs', hids⟩ := Option.map_eq_some_iff.mp hsent
  refine ⟨s', hs', fun h => ?_⟩
  have := h 1
  simp [hids] at this

end WebChecker
