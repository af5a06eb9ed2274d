import WebChecker.Storage.Episodes

/-!
# The life of an outbox row

A row of the notification outbox is inserted by a recorded success, is listed until it is
delivered, and may be deleted after that.  Its id alone does not name it, because the id of a
deleted row can be assigned again; it names it for as long as it `Stays` in the table.

The step lemmas say what one operation does to an undelivered row (`OpEffect.pending_row`), to a
delivered one (`OpEffect.delivered_row`) and which rows are new (`OpEffect.new_row`).
`RowLife` is what they add up to over a run.
-/

namespace WebChecker

open Relational Results Runs

/-! ## Listing -/

/-- The item an outbox row is listed as. -/
def notificationOf (r : OutboxRow) : PendingNotification :=
  ⟨r.id, r.channel, r.jobId, r.transitionType, r.opportunityId, r.opportunityTitle,
    r.currentAvailability, r.bookingUrl, (fromisoformat r.checkedAt).getD .epoch, r.attempts⟩

/-- The undelivered rows, by id. -/
def pendingRows (db : Database) : List OutboxRow := db.outbox.rows.filter OutboxRow.pending

lemma mem_pendingRows {db : Database} {r : OutboxRow} :
    r ∈ pendingRows db ↔ r ∈ db.outbox.rows ∧ r.pending = true := List.mem_filter

lemma pendingRows_increasing (db : Database) :
    (pendingRows db).Pairwise fun a b => a.id < b.id := db.outbox.increasing.filter _

lemma decodeNotification_eq {r : OutboxRow} (h : Readable r.checkedAt) :
    decodeNotification r = .ok (notificationOf r) := by
  obtain ⟨d, hd⟩ := h
  have hread : fromisoformat r.checkedAt = some d.detached := hd ▸ fromisoformat_isoformat d
  simp [decodeNotification, parseTime, hread, notificationOf]

/-- **The list of pending notifications** is the oldest `limit` undelivered rows: reading it
cannot fail. -/
lemma listPendingNotifications_eq {db : Database} (hc : Consistent db) (limit : ℕ) :
    listPendingNotifications db limit = .ok (((pendingRows db).take limit).map notificationOf) := by
  have hmap : ((pendingRows db).take limit).mapM decodeNotification
      = .ok (((pendingRows db).take limit).map notificationOf) := by
    refine mapM_eq_ok fun r hr => decodeNotification_eq (hc.outbox_readable r ?_)
    exact (mem_pendingRows.mp (List.mem_of_mem_take hr)).1
  rw [listPendingNotifications, raiseAs_eq_ok]
  exact hmap

/-! ## What happens to a row -/

/-- A successful `mark_notification_delivered` or `record_notification_failure` on the row. -/
def attemptsOn (id : ℕ) (e : StoreEvent) : Bool :=
  match e.op, e.result with
  | .markNotificationDelivered i _, .updated => i == id
  | .recordNotificationFailure i _ _, .updated => i == id
  | _, _ => false

/-- The time a successful `mark_notification_delivered` on the row was called with. -/
def deliversAt (id : ℕ) (e : StoreEvent) : Option Datetime :=
  match e.op, e.result with
  | .markNotificationDelivered i time, .updated => if i = id then some time else none
  | _, _ => none

/-- The columns of a row that are written once. -/
def OutboxRow.announcement (r : OutboxRow) : OutboxRow :=
  { r with attempts := 0, lastAttemptAt := none, lastError := none, deliveredAt := none }

lemma id_of_announcement {r r' : OutboxRow} (h : r'.announcement = r.announcement) :
    r'.id = r.id := by simpa [OutboxRow.announcement] using congrArg OutboxRow.id h

lemma mem_recorded_of_mem {db : Database} {jobId : String} {result : CheckResult}
    {plan : NotificationPlan} {ts : List OpportunityTransition} {rows : List Observation}
    {n : OutboxRow} (hn : n ∈ db.outbox.rows) :
    n ∈ (recorded db jobId result plan ts rows).outbox.rows := by
  simp only [recorded]
  rw [RowTable.rows_insertAll]
  exact List.mem_append_left _ hn

lemma mem_of_mem_prune {db : Database} {observationsBefore notificationsBefore : Datetime}
    {n : OutboxRow} (hn : n ∈ (prune db observationsBefore notificationsBefore).2.outbox.rows) :
    n ∈ db.outbox.rows := by
  rw [prune_snd] at hn
  exact (RowTable.mem_deleteWhere.mp hn).1

/-- The row an update of an outbox row leaves. -/
lemma mem_update_pending {db : Database} {r : OutboxRow} (hr : r ∈ db.outbox.rows) {id : ℕ}
    {f : OutboxRow → OutboxRow} (hf : ∀ r, rowId (f r) = rowId r) :
    (if isPendingId id r then f r else r) ∈ (db.outbox.updateWhere (isPendingId id) f hf).rows :=
  RowTable.mem_updateWhere.mpr ⟨r, hr, rfl⟩

/-- The undelivered rows after a recorded success. -/
lemma pendingRows_recorded (db : Database) (jobId : String) (result : CheckResult)
    (plan : NotificationPlan) (ts : List OpportunityTransition) (rows : List Observation) :
    pendingRows (recorded db jobId result plan ts rows)
      = pendingRows db ++ ((outboxEntries plan db.transitions.nextId ts).zipIdx
          db.outbox.nextId).map fun p => entryRow jobId result.checkedAt p.1 p.2 := by
  rw [pendingRows, recorded]
  dsimp only
  rw [RowTable.rows_insertAll, List.filter_append, pendingRows]
  refine congrArg _ (List.filter_eq_self.mpr fun n hn => ?_)
  obtain ⟨p, _, rfl⟩ := List.mem_map.mp hn
  rfl

/-- An undelivered row is the one row a call on its id finds. -/
lemma countP_isPendingId {db : Database} {id : ℕ}
    (h : id ∈ (pendingRows db).map OutboxRow.id) :
    db.outbox.rows.countP (isPendingId id) = 1 := by
  obtain ⟨r, hr, rfl⟩ := List.mem_map.mp h
  obtain ⟨hr, hp⟩ := mem_pendingRows.mp hr
  exact RowTable.countP_rowId_eq hr hp

/-- The undelivered rows after a successful delivery. -/
lemma pendingRows_delivered (db : Database) (id : ℕ) (time : Datetime) :
    pendingRows { db with outbox := db.outbox.updateWhere (isPendingId id) (deliveredRow time)
                            (rowId_deliveredRow time) }
      = (pendingRows db).filter fun r => r.id != id := by
  rw [pendingRows, RowTable.rows_updateWhere, pendingRows, List.filter_filter, List.filter_map]
  have hfilter : ∀ r ∈ db.outbox.rows, (OutboxRow.pending ∘ fun r =>
      if isPendingId id r then deliveredRow time r else r) r = (r.id != id && r.pending) := by
    intro r _
    rw [Function.comp_apply, isPendingId, bne]
    cases r.id == id with
    | false => simp
    | true =>
        cases hp : r.pending with
        | false => simp [hp]
        | true => rfl
  rw [List.filter_congr hfilter]
  refine (List.map_congr_left fun r hr => ?_).trans (List.map_id _)
  have hid : r.id ≠ id := by simpa using (Bool.and_eq_true_iff.mp (List.mem_filter.mp hr).2).1
  simp [isPendingId, hid]

/-- The undelivered rows after a failed attempt. -/
lemma pendingRows_attempted (db : Database) (id : ℕ) (time : Datetime) (error : String) :
    pendingRows { db with outbox := db.outbox.updateWhere (isPendingId id) (failedRow time error)
                            (rowId_failedRow time error) }
      = (pendingRows db).map fun r => if r.id = id then failedRow time error r else r := by
  rw [pendingRows, RowTable.rows_updateWhere, pendingRows, List.filter_map]
  have hfilter : ∀ r ∈ db.outbox.rows, (OutboxRow.pending ∘ fun r =>
      if isPendingId id r then failedRow time error r else r) r = r.pending := by
    intro r _
    simp only [Function.comp_apply]
    split <;> rfl
  rw [List.filter_congr hfilter]
  refine List.map_congr_left fun r hr => ?_
  simp [isPendingId, (List.mem_filter.mp hr).2]

/-- **An undelivered row** survives every operation.  A successful call on it counts an attempt,
and only a successful delivery sets `delivered_at`. -/
lemma OpEffect.pending_row {db db' : Database} {op : StoreOp} {result : StoreResult}
    (h : OpEffect db op result db') {r : OutboxRow} (hr : r ∈ db.outbox.rows)
    (hp : r.pending = true) :
    ∃ r' ∈ db'.outbox.rows, r'.announcement = r.announcement ∧
      r'.attempts = r.attempts + (if attemptsOn r.id ⟨db, op, result, db'⟩ then 1 else 0) ∧
      r'.deliveredAt = (deliversAt r.id ⟨db, op, result, db'⟩).map Datetime.isoformat := by
  have hnone : r.deliveredAt = none := Option.isNone_iff_eq_none.mp hp
  cases h with
  | failed => exact ⟨r, hr, rfl, by cases op <;> rfl, by cases op <;> exact hnone⟩
  | recorded => exact ⟨r, mem_recorded_of_mem hr, rfl, rfl, hnone⟩
  | alerted => exact ⟨r, hr, rfl, rfl, hnone⟩
  | counted => exact ⟨r, hr, rfl, rfl, hnone⟩
  | evaluated => exact ⟨r, hr, rfl, rfl, hnone⟩
  | @delivered id time =>
      refine ⟨_, mem_update_pending hr (rowId_deliveredRow time), ?_⟩
      by_cases hid : r.id = id
      · simp [isPendingId, hid, hp, attemptsOn, deliversAt, deliveredRow, OutboxRow.announcement]
      · simp [isPendingId, hid, Ne.symm hid, attemptsOn, deliversAt, hnone]
  | @attempted id time error =>
      refine ⟨_, mem_update_pending hr (rowId_failedRow time error), ?_⟩
      by_cases hid : r.id = id
      · simp [isPendingId, hid, hp, attemptsOn, deliversAt, failedRow, OutboxRow.announcement,
          hnone]
      · simp [isPendingId, hid, Ne.symm hid, attemptsOn, deliversAt, hnone]
  | alertDelivered => exact ⟨r, hr, rfl, rfl, hnone⟩
  | alertAttempted => exact ⟨r, hr, rfl, rfl, hnone⟩
  | pruned =>
      refine ⟨r, ?_, rfl, rfl, hnone⟩
      rw [prune_snd]
      refine RowTable.mem_deleteWhere.mpr ⟨hr, ?_⟩
      rw [completedBefore_of_pending hp, decide_eq_false (pending_not_expired hr hp),
        Bool.or_self]

/-- A call that found an undelivered row with an id did not find a delivered one. -/
lemma ne_of_isPendingId {db : Database} {r : OutboxRow} (hr : r ∈ db.outbox.rows)
    (hd : r.pending = false) {id : ℕ} (hpending : ∃ n ∈ db.outbox.rows, isPendingId id n) :
    id ≠ r.id := by
  rintro rfl
  obtain ⟨n, hn, hid⟩ := hpending
  rw [isPendingId, Bool.and_eq_true, beq_iff_eq] at hid
  rw [RowTable.eq_of_rowId_eq hn hr hid.1, hd] at hid
  exact absurd hid.2 Bool.false_ne_true

/-- **A delivered row** is never changed: it stays as it is until a retention pass deletes it, and
no call on its id succeeds. -/
lemma OpEffect.delivered_row {db db' : Database} {op : StoreOp} {result : StoreResult}
    (h : OpEffect db op result db') {r : OutboxRow} (hr : r ∈ db.outbox.rows)
    (hd : r.pending = false) :
    (r ∈ db'.outbox.rows ∧ attemptsOn r.id ⟨db, op, result, db'⟩ = false) ∨
      (r.id ∉ db'.outbox.ids ∧ ∃ a b, op = .prune a b) := by
  cases h with
  | failed => exact Or.inl ⟨hr, by cases op <;> rfl⟩
  | recorded => exact Or.inl ⟨mem_recorded_of_mem hr, rfl⟩
  | alerted => exact Or.inl ⟨hr, rfl⟩
  | counted => exact Or.inl ⟨hr, rfl⟩
  | evaluated => exact Or.inl ⟨hr, rfl⟩
  | @delivered id time hpending =>
      have hne := ne_of_isPendingId hr hd hpending
      refine Or.inl ⟨?_, by simp [attemptsOn, hne]⟩
      simpa [isPendingId, hd] using mem_update_pending hr (rowId_deliveredRow time)
  | @attempted id time error hpending =>
      have hne := ne_of_isPendingId hr hd hpending
      refine Or.inl ⟨?_, by simp [attemptsOn, hne]⟩
      simpa [isPendingId, hd] using mem_update_pending hr (rowId_failedRow time error)
  | alertDelivered => exact Or.inl ⟨hr, rfl⟩
  | alertAttempted => exact Or.inl ⟨hr, rfl⟩
  | @pruned observationsBefore notificationsBefore =>
      by_cases hmem : r ∈ (prune db observationsBefore notificationsBefore).2.outbox.rows
      · exact Or.inl ⟨hmem, rfl⟩
      · refine Or.inr ⟨fun hid => hmem ?_, _, _, rfl⟩
        obtain ⟨r', hr', hid'⟩ := RowTable.mem_ids.mp hid
        rwa [← RowTable.eq_of_rowId_eq (mem_of_mem_prune hr') hr hid']

/-- **New rows** come from recorded successes only; they are undelivered, have no attempts, and
their ids are above those of all rows that were there. -/
lemma OpEffect.new_row {db db' : Database} {op : StoreOp} {result : StoreResult}
    (h : OpEffect db op result db') {r : OutboxRow} (hr : r ∈ db'.outbox.rows)
    (hnew : r.id ∉ db.outbox.ids) :
    (∃ jobId snapshot plan, op = .recordSuccess jobId snapshot plan) ∧
      db.outbox.nextId ≤ r.id ∧ r.pending = true ∧ r.attempts = 0 := by
  have hold : r ∉ db.outbox.rows := fun hmem => hnew (RowTable.rowId_mem_ids hmem)
  cases h with
  | recorded =>
      rcases mem_outbox_recorded hr with hmem | ⟨hid, hp, ha, _⟩
      · exact absurd hmem hold
      · exact ⟨⟨_, _, _, rfl⟩, hid, hp, ha⟩
  | delivered =>
      have hid := RowTable.rowId_mem_ids hr
      rw [RowTable.ids_updateWhere] at hid
      exact absurd hid hnew
  | attempted =>
      have hid := RowTable.rowId_mem_ids hr
      rw [RowTable.ids_updateWhere] at hid
      exact absurd hid hnew
  | pruned => exact absurd (mem_of_mem_prune hr) hold
  | failed => exact absurd hr hold
  | alerted => exact absurd hr hold
  | counted => exact absurd hr hold
  | evaluated => exact absurd hr hold
  | alertDelivered => exact absurd hr hold
  | alertAttempted => exact absurd hr hold

/-! ## Over a run -/

/-- The row with this id has been in the table after every operation. -/
def Stays (id : ℕ) (history : List StoreEvent) : Prop :=
  ∀ e ∈ history, id ∈ e.after.outbox.ids

instance (id : ℕ) (history : List StoreEvent) : Decidable (Stays id history) :=
  inferInstanceAs (Decidable (∀ e ∈ history, _))

/-- The time of the first successful `mark_notification_delivered` on the row. -/
def firstDelivery (id : ℕ) (history : List StoreEvent) : Option Datetime :=
  history.findSome? (deliversAt id)

lemma stays_snoc {id : ℕ} {history : List StoreEvent} {e : StoreEvent} :
    Stays id (history ++ [e]) ↔ Stays id history ∧ id ∈ e.after.outbox.ids := by
  simp [Stays, or_imp, forall_and]

lemma firstDelivery_snoc (id : ℕ) (history : List StoreEvent) (e : StoreEvent) :
    firstDelivery id (history ++ [e]) = (firstDelivery id history).or (deliversAt id e) := by
  simp [firstDelivery, List.findSome?_append]

/-- The row `r` of the start of a history against its end. -/
structure RowLife (r : OutboxRow) (history : List StoreEvent) (db : Database) : Prop where
  /-- Until it is delivered, it stays. -/
  undelivered : firstDelivery r.id history = none → Stays r.id history
  /-- As long as it stays, it says what it said, its `delivered_at` is that of the first
  delivery, and `attempts` counts the calls. -/
  there : Stays r.id history → ∃ r' ∈ db.outbox.rows, r'.announcement = r.announcement ∧
    r'.deliveredAt = (firstDelivery r.id history).map Datetime.isoformat ∧
    r'.attempts = r.attempts + history.countP (attemptsOn r.id)

/-- **One operation continues the life of a row.** -/
lemma RowLife.step {r : OutboxRow} {history : List StoreEvent} {db db' : Database}
    (inv : RowLife r history db) {op : StoreOp} {result : StoreResult}
    (h : OpEffect db op result db') : RowLife r (history ++ [⟨db, op, result, db'⟩]) db' := by
  -- an undelivered row of the table before the operation, seen after it
  have hpending : firstDelivery r.id history = none → Stays r.id history →
      ∃ r' ∈ db'.outbox.rows, r'.announcement = r.announcement ∧
        r'.deliveredAt = (deliversAt r.id ⟨db, op, result, db'⟩).map Datetime.isoformat ∧
        r'.attempts = r.attempts + history.countP (attemptsOn r.id)
          + if attemptsOn r.id ⟨db, op, result, db'⟩ then 1 else 0 := by
    intro hnone hstays
    obtain ⟨r', hr', hann, hdel, hatt⟩ := inv.there hstays
    have hid : r'.id = r.id := id_of_announcement hann
    have hp : r'.pending = true := by simp [OutboxRow.pending, hdel, hnone]
    obtain ⟨r'', hr'', hann', hatt', hdel'⟩ := h.pending_row hr' hp
    rw [hid] at hatt' hdel'
    exact ⟨r'', hr'', hann'.trans hann, hdel', by rw [hatt', hatt]⟩
  constructor
  · intro hnone
    rw [firstDelivery_snoc, Option.or_eq_none_iff] at hnone
    have hstays := inv.undelivered hnone.1
    obtain ⟨r', hr', hann, _⟩ := hpending hnone.1 hstays
    exact stays_snoc.mpr ⟨hstays, id_of_announcement hann ▸ RowTable.rowId_mem_ids hr'⟩
  · intro hstays
    obtain ⟨hstays, hhere⟩ := stays_snoc.mp hstays
    rw [firstDelivery_snoc, List.countP_append, List.countP_singleton]
    cases hfirst : firstDelivery r.id history with
    | none =>
        obtain ⟨r', hr', hann, hdel, hatt⟩ := hpending hfirst hstays
        exact ⟨r', hr', hann, by simpa using hdel, by omega⟩
    | some time =>
        obtain ⟨r', hr', hann, hdel, hatt⟩ := inv.there hstays
        have hid : r'.id = r.id := id_of_announcement hann
        have hd : r'.pending = false := by simp [OutboxRow.pending, hdel, hfirst]
        rcases h.delivered_row hr' hd with ⟨hkeep, hno⟩ | ⟨hgone, _⟩
        · rw [hid] at hno
          refine ⟨r', hkeep, hann, by simpa [hfirst] using hdel, ?_⟩
          simp [hno, hatt]
        · exact absurd (hid ▸ hhere) hgone

lemma rowLife_run {db : Database} (hc : Consistent db) {r : OutboxRow} (hr : r ∈ db.outbox.rows)
    (hp : r.pending = true) (ops : List StoreOp) :
    RowLife r (Store.history db ops) (Store.exec db ops) := by
  refine effect_induction_all (P := RowLife r) hc ?_ ?_ ops
  · refine ⟨fun _ => by simp [Stays], fun _ => ⟨r, hr, rfl, ?_, rfl⟩⟩
    exact Option.isNone_iff_eq_none.mp hp
  · exact fun inv _ heffect => inv.step heffect

/-- **No pending notification is lost, and delivered is final.**  A row inserted by a recorded
success stays in the table until it is delivered.  As long as it stays, it says what it said when
it was inserted; its `delivered_at` is the time of the first successful delivery, its `attempts`
the number of successful calls on it; it is listed, by increasing id, exactly until it is
delivered; only a retention pass after its delivery deletes it; and rows inserted meanwhile have
larger ids. -/
theorem outboxRow_life {db : Database} (hdb : Reachable db) {jobId : String}
    {result : CheckResult} {plan : NotificationPlan} {r : OutboxRow}
    (hr : r ∈ (applyOp db (.recordSuccess jobId result plan)).2.outbox.rows)
    (hnew : r.id ∉ db.outbox.ids) (ops : List StoreOp) :
    let start := (applyOp db (.recordSuccess jobId result plan)).2
    let history := Store.history start ops
    let db' := Store.exec start ops
    (firstDelivery r.id history = none → Stays r.id history) ∧
      (Stays r.id history →
        (∃ r' ∈ db'.outbox.rows, r'.announcement = r.announcement ∧
          r'.deliveredAt = (firstDelivery r.id history).map Datetime.isoformat ∧
          r'.attempts = history.countP (attemptsOn r.id) ∧
          ∀ limit, ∃ items, listPendingNotifications db' limit = .ok items ∧
            (items.Pairwise fun a b => a.id < b.id) ∧
            (r.id ∈ items.map PendingNotification.id → firstDelivery r.id history = none) ∧
            ((pendingRows db').length ≤ limit → firstDelivery r.id history = none →
              notificationOf r' ∈ items)) ∧
        ∀ op,
          (r.id ∉ (applyOp db' op).2.outbox.ids →
            (firstDelivery r.id history).isSome ∧ ∃ a b, op = .prune a b) ∧
          ∀ r₂ ∈ (applyOp db' op).2.outbox.rows, r₂.id ∉ db'.outbox.ids → r.id < r₂.id) := by
  intro start history db'
  have hstart := applyOp_effect hdb.consistent (.recordSuccess jobId result plan)
  obtain ⟨_, _, hp, hzero⟩ := hstart.new_row hr hnew
  have hc : Consistent start := hstart.consistent hdb.consistent
  have hc' : Consistent db' :=
    Store.exec_invariant (I := Consistent) (fun _ op h => consistent_apply h op) hc ops
  have life : RowLife r history db' := rowLife_run hc hr hp ops
  refine ⟨life.undelivered, fun hstays => ?_⟩
  obtain ⟨r', hr', hann, hdel, hatt⟩ := life.there hstays
  have hid : r'.id = r.id := id_of_announcement hann
  have hpending : r'.pending = true ↔ firstDelivery r.id history = none := by
    rw [OutboxRow.pending, hdel, Option.isNone_map, Option.isNone_iff_eq_none]
  refine ⟨⟨r', hr', hann, hdel, by rw [hatt, hzero, Nat.zero_add], fun limit => ?_⟩, fun op => ?_⟩
  · refine ⟨_, listPendingNotifications_eq hc' limit, ?_, ?_, ?_⟩
    · exact List.pairwise_map.mpr ((pendingRows_increasing db').sublist (List.take_sublist _ _))
    · rw [List.map_map]
      intro hlisted
      obtain ⟨x, hx, hxid⟩ := List.mem_map.mp hlisted
      obtain ⟨hx, hxp⟩ := mem_pendingRows.mp (List.mem_of_mem_take hx)
      have hsame : x = r' := RowTable.eq_of_rowId_eq hx hr' (hxid.trans hid.symm)
      exact hpending.mp (hsame ▸ hxp)
    · intro hlimit hnone
      rw [List.take_of_length_le hlimit]
      exact List.mem_map_of_mem (mem_pendingRows.mpr ⟨hr', hpending.mpr hnone⟩)
  · have heffect := applyOp_effect hc' op
    refine ⟨fun hgone => ?_, fun r₂ hr₂ hnew₂ => ?_⟩
    · by_cases hp' : r'.pending = true
      · obtain ⟨r'', hr'', hann', _⟩ := heffect.pending_row hr' hp'
        refine absurd (RowTable.rowId_mem_ids hr'') ?_
        rwa [rowId_outboxRow, id_of_announcement hann', hid]
      · rcases heffect.delivered_row hr' (Bool.not_eq_true _ ▸ hp') with ⟨hkeep, _⟩ | ⟨_, hprune⟩
        · exact absurd (hid ▸ RowTable.rowId_mem_ids hkeep) hgone
        · refine ⟨Option.isSome_iff_ne_none.mpr fun hnone => hp' (hpending.mpr hnone), hprune⟩
    · obtain ⟨_, hlt, _, _⟩ := heffect.new_row hr₂ hnew₂
      exact hid ▸ lt_of_lt_of_le (RowTable.rowId_lt_nextId hr') hlt

/-- **The row of a first snapshot**, after one failed and one successful delivery and a failed check
of the job. -/
theorem outboxRow_life_delivered :
    let first := StoreOp.recordSuccess "job" (.single 1 .available [] (by decide)) .email
    let db := Store.exec (applyOp .empty first).2
      [.recordNotificationFailure 1 .epoch "refused", .markNotificationDelivered 1 .epoch,
        .recordCheckFailure "job" "timeout" none .epoch 1 ["email"]]
    ∃ r ∈ (applyOp .empty first).2.outbox.rows, r.deliveredAt = none ∧ r.attempts = 0 ∧
      ∃ r' ∈ db.outbox.rows, r'.announcement = r.announcement ∧
        r'.deliveredAt = some Datetime.epoch.isoformat ∧ r'.attempts = 2 := by
  intro first db
  have hrow : ∃ r ∈ (applyOp .empty first).2.outbox.rows,
      r.id = 1 ∧ r.deliveredAt = none ∧ r.attempts = 0 := by decide +kernel
  obtain ⟨r, hr, hid, hdelivered, hattempts⟩ := hrow
  have hnew : r.id ∉ Database.empty.outbox.ids := by simp [Database.empty, RowTable.ids]
  obtain ⟨-, hlife⟩ := outboxRow_life (Store.reachable_refl _) hr hnew
    [.recordNotificationFailure 1 .epoch "refused", .markNotificationDelivered 1 .epoch,
      .recordCheckFailure "job" "timeout" none .epoch 1 ["email"]]
  rw [hid] at hlife
  obtain ⟨⟨r', hr', hann, hdel, hatt, -⟩, -⟩ := hlife (by decide +kernel)
  refine ⟨r, hr, hdelivered, hattempts, r', hr', hann, hdel.trans ?_, hatt.trans ?_⟩
  · decide +kernel
  · decide +kernel

end WebChecker
