import WebChecker.Storage.Integrity

/-!
# What the alert rows of a job follow

The alerts of a job carry one of two keys: that of its failure episode and that of its delivery
backlog.  `alertChannels` reads the channels of a key's rows, and the lemmas of the first half say
for each statement what it does to them: an alert of one key never disturbs another.

The second half is the same for the two flags and the counter in `job_status`.  Together they say
what one operation does to everything an episode consists of, which is all the two inductions of
the episode modules need.
-/

namespace WebChecker

open Relational Results

/-! ## Keys -/

lemma checkFailureKey_inj {a b : String} : checkFailureKey a = checkFailureKey b ↔ a = b :=
  String.append_right_inj _

lemma deliveryBacklogKey_inj {a b : String} : deliveryBacklogKey a = deliveryBacklogKey b ↔ a = b :=
  String.append_right_inj _

/-- The two kinds of key differ in their first character. -/
lemma checkFailureKey_ne_deliveryBacklogKey (a b : String) :
    checkFailureKey a ≠ deliveryBacklogKey b := by
  intro h
  have hc : "check-failure:".toList.head? = some 'c' := by decide
  have hd : "delivery-backlog:".toList.head? = some 'd' := by decide
  have hhead : ("check-failure:".toList ++ a.toList).head?
      = ("delivery-backlog:".toList ++ b.toList).head? := by
    rw [← String.toList_append, ← String.toList_append]
    exact congrArg (fun s => s.toList.head?) h
  rw [List.head?_append, List.head?_append, hc, hd, Option.some_or, Option.some_or] at hhead
  exact absurd hhead (by decide)

/-! ## Channels of a key -/

/-- The channels of the alerts with a key. -/
def alertChannels (alerts : RowTable AlertRow) (alertKey : String) : List String :=
  (alerts.rows.filter fun a => a.alertKey == alertKey).map AlertRow.channel

lemma alertChannels_eq_nil {alerts : RowTable AlertRow} {alertKey : String} :
    alertChannels alerts alertKey = [] ↔ ∀ a ∈ alerts.rows, a.alertKey ≠ alertKey := by
  simp [alertChannels, List.filter_eq_nil_iff]

lemma alertChannels_deleteAlerts_self (alerts : RowTable AlertRow) (alertKey : String) :
    alertChannels (deleteAlerts alerts alertKey) alertKey = [] := by
  refine alertChannels_eq_nil.mpr fun a ha => ?_
  simpa using (RowTable.mem_deleteWhere.mp ha).2

lemma alertChannels_deleteAlerts_of_ne (alerts : RowTable AlertRow) {alertKey other : String}
    (h : other ≠ alertKey) :
    alertChannels (deleteAlerts alerts other) alertKey = alertChannels alerts alertKey := by
  rw [alertChannels, deleteAlerts, RowTable.deleteWhere, List.filter_filter, alertChannels]
  refine congrArg _ (List.filter_congr fun a _ => ?_)
  by_cases ha : a.alertKey = alertKey
  · simp [ha, h.symm]
  · simp [ha]

section Insertion

variable (alerts : RowTable AlertRow) (key jobId title detail : String) (createdAt : Datetime)
  (channels : List String)

/-- The rows an enqueued alert adds. -/
lemma filter_enqueued (alertKey : String) (n : ℕ) :
    (((channels.zipIdx n).map fun p => alertRow key jobId title detail createdAt p.1 p.2).filter
        fun a => a.alertKey == alertKey).map AlertRow.channel
      = if key = alertKey then channels else [] := by
  by_cases h : key = alertKey
  · have hall : ∀ a ∈ (channels.zipIdx n).map fun p =>
        alertRow key jobId title detail createdAt p.1 p.2, (a.alertKey == alertKey) = true := by
      intro a ha
      obtain ⟨p, _, rfl⟩ := List.mem_map.mp ha
      simpa [alertRow] using h
    rw [if_pos h, List.filter_eq_self.mpr hall, List.map_map]
    exact List.zipIdx_map_fst n channels
  · rw [if_neg h, List.map_eq_nil_iff, List.filter_eq_nil_iff]
    intro a ha
    obtain ⟨p, _, rfl⟩ := List.mem_map.mp ha
    simpa [alertRow] using h

lemma alertChannels_insertAll (alertKey : String) :
    alertChannels (alerts.insertAll channels (alertRow key jobId title detail createdAt)
        (rowId_newAlert key jobId title detail createdAt)) alertKey
      = alertChannels alerts alertKey ++ if key = alertKey then channels else [] := by
  rw [alertChannels, RowTable.rows_insertAll, List.filter_append, List.map_append, filter_enqueued,
    alertChannels]

end Insertion

/-- An attempt on an alert changes neither its key nor its channel. -/
lemma alertChannels_attempted (alerts : RowTable AlertRow) (p : AlertRow → Bool) (time : Datetime)
    (error : Option String) (alertKey : String) :
    alertChannels (alerts.updateWhere p (attemptedAlert time error)
        (rowId_attemptedAlert time error)) alertKey
      = alertChannels alerts alertKey := by
  have hkey : ∀ a : AlertRow,
      (if p a then attemptedAlert time error a else a).alertKey = a.alertKey := by
    intro a
    split
    · cases error <;> rfl
    · rfl
  have hchannel : ∀ a : AlertRow,
      (if p a then attemptedAlert time error a else a).channel = a.channel := by
    intro a
    split
    · cases error <;> rfl
    · rfl
  rw [alertChannels, RowTable.rows_updateWhere, List.filter_map, List.map_map, alertChannels]
  simp only [Function.comp_def, hkey, hchannel]

/-! ## Channels after an evaluation -/

/-- What evaluating one job does to a key: to its own key, what `evaluateBacklog` says. -/
lemma alertChannels_evaluatedAlerts (alertAfter : ℤ) (channels : List String)
    (now : String → Datetime) (row : BacklogRow) (alerts : RowTable AlertRow) (alertKey : String) :
    alertChannels (evaluatedAlerts alertAfter channels now row alerts) alertKey
      = if deliveryBacklogKey row.jobId = alertKey then
          if row.active alertAfter ∧ ¬ row.deliveryAlertActive then
            alertChannels alerts alertKey ++ channels
          else if ¬ row.active alertAfter ∧ row.deliveryAlertActive then []
          else alertChannels alerts alertKey
        else alertChannels alerts alertKey := by
  rw [evaluatedAlerts]
  by_cases hkey : deliveryBacklogKey row.jobId = alertKey
  · rw [if_pos hkey]
    split_ifs
    · rw [alertChannels_insertAll, if_pos hkey]
    · rw [hkey, alertChannels_deleteAlerts_self]
    · rfl
  · rw [if_neg hkey]
    split_ifs
    · rw [alertChannels_insertAll, if_neg hkey, List.append_nil]
    · rw [alertChannels_deleteAlerts_of_ne _ hkey]
    · rfl

/-- An evaluation leaves a key alone that belongs to none of the evaluated jobs. -/
lemma alertChannels_allEvaluated_of_ne {alertAfter : ℤ} {channels : List String}
    {now : String → Datetime} {rows : List BacklogRow} {alerts : RowTable AlertRow}
    {alertKey : String} (h : ∀ row ∈ rows, deliveryBacklogKey row.jobId ≠ alertKey) :
    alertChannels (allEvaluatedAlerts alertAfter channels now rows alerts) alertKey
      = alertChannels alerts alertKey := by
  induction rows generalizing alerts with
  | nil => rfl
  | cons row rows ih =>
      rw [allEvaluatedAlerts_cons,
        ih fun r hr => h r (List.mem_cons_of_mem _ hr), alertChannels_evaluatedAlerts,
        if_neg (h row List.mem_cons_self)]

/-- The key of an evaluated job sees its own row only. -/
lemma alertChannels_allEvaluated {alertAfter : ℤ} {channels : List String}
    {now : String → Datetime} {rows : List BacklogRow} {alerts : RowTable AlertRow}
    (hnodup : (rows.map BacklogRow.jobId).Nodup) {row : BacklogRow} (hrow : row ∈ rows) :
    alertChannels (allEvaluatedAlerts alertAfter channels now rows alerts)
        (deliveryBacklogKey row.jobId)
      = alertChannels (evaluatedAlerts alertAfter channels now row alerts)
          (deliveryBacklogKey row.jobId) := by
  induction rows generalizing alerts with
  | nil => simp at hrow
  | cons r rows ih =>
      rw [List.map_cons, List.nodup_cons] at hnodup
      rw [allEvaluatedAlerts_cons]
      rcases List.mem_cons.mp hrow with rfl | hrow
      · refine alertChannels_allEvaluated_of_ne fun r' hr' hkey => hnodup.1 ?_
        exact deliveryBacklogKey_inj.mp hkey ▸ List.mem_map_of_mem hr'
      · have hne : deliveryBacklogKey r.jobId ≠ deliveryBacklogKey row.jobId := fun hkey =>
          hnodup.1 (deliveryBacklogKey_inj.mp hkey ▸ List.mem_map_of_mem hrow)
        rw [ih hnodup.2 hrow, alertChannels_evaluatedAlerts, alertChannels_evaluatedAlerts,
          alertChannels_evaluatedAlerts, if_neg hne]

/-- **An evaluation cannot fail** on distinct channels, as long as no job whose flag is off has an
alert. -/
lemma evaluateBacklogs_ok {alertAfter : ℤ} {channels : List String} {now : String → Datetime}
    (hchannels : channels.Nodup) :
    ∀ {rows : List BacklogRow} {status : KeyTable String JobStatusRow}
      {alerts : RowTable AlertRow}, (rows.map BacklogRow.jobId).Nodup →
      (∀ row ∈ rows, row.deliveryAlertActive = false →
        alertChannels alerts (deliveryBacklogKey row.jobId) = []) →
      evaluateBacklogs alertAfter channels now rows status alerts =
        .ok (raisedJobs alertAfter rows, evaluatedStatus alertAfter rows status,
          allEvaluatedAlerts alertAfter channels now rows alerts)
  | [], _, _, _, _ => rfl
  | row :: rows, status, alerts, hnodup, hfree => by
      rw [List.map_cons, List.nodup_cons] at hnodup
      have hfirst : evaluateBacklog alertAfter channels now row alerts
          = .ok (evaluatedAlerts alertAfter channels now row alerts) := by
        refine evaluateBacklog_eq_ok.mpr ⟨fun hraise => ⟨hchannels, fun a ha hkey => ?_⟩, rfl⟩
        have hnone := hfree row List.mem_cons_self (by simpa using hraise.2)
        exact absurd hkey (alertChannels_eq_nil.mp hnone a ha)
      have hrest : ∀ r ∈ rows, r.deliveryAlertActive = false →
          alertChannels (evaluatedAlerts alertAfter channels now row alerts)
            (deliveryBacklogKey r.jobId) = [] := by
        intro r hr hoff
        have hne : deliveryBacklogKey row.jobId ≠ deliveryBacklogKey r.jobId := fun hkey =>
          hnodup.1 (deliveryBacklogKey_inj.mp hkey ▸ List.mem_map_of_mem hr)
        rw [alertChannels_evaluatedAlerts, if_neg hne]
        exact hfree r (List.mem_cons_of_mem _ hr) hoff
      have hok : ∃ out, evaluateBacklogs alertAfter channels now (row :: rows) status alerts
          = .ok out := by
        rw [evaluateBacklogs, hfirst]
        simp only [ok_bind, evaluateBacklogs_ok hchannels hnodup.2 hrest, pure_eq_ok]
        exact ⟨_, rfl⟩
      obtain ⟨out, hout⟩ := hok
      rw [hout, evaluateBacklogs_eq_ok hout]

/-! ## Flags and counters -/

/-- A job's failures in a row, by its status row. -/
def consecutiveFailures (status : KeyTable String JobStatusRow) (jobId : String) : ℕ :=
  (status.lookup jobId).elim 0 JobStatusRow.consecutiveFailures

/-- A job's check-failure flag, by its status row. -/
def failureAlertActive (status : KeyTable String JobStatusRow) (jobId : String) : Bool :=
  (status.lookup jobId).elim false JobStatusRow.failureAlertActive

/-- A job's delivery-backlog flag, by its status row. -/
def deliveryAlertActive (status : KeyTable String JobStatusRow) (jobId : String) : Bool :=
  (status.lookup jobId).elim false JobStatusRow.deliveryAlertActive

/-- The status row after a success. -/
lemma lookup_statusAfterSuccess_self (status : KeyTable String JobStatusRow) (jobId : String)
    (checkedAt : Datetime) :
    ∃ s, (statusAfterSuccess status jobId checkedAt).lookup jobId = some s ∧
      s.consecutiveFailures = 0 ∧ s.failureAlertActive = false ∧
      s.deliveryAlertActive = deliveryAlertActive status jobId := by
  refine ⟨_, KeyTable.lookup_upsert_self status, ?_⟩
  cases h : status.lookup jobId <;> simp [deliveryAlertActive, h]

lemma lookup_statusAfterSuccess_of_ne (status : KeyTable String JobStatusRow)
    {jobId other : String} (checkedAt : Datetime) (h : jobId ≠ other) :
    (statusAfterSuccess status other checkedAt).lookup jobId = status.lookup jobId :=
  KeyTable.lookup_upsert_of_ne status h

lemma lookup_statusAfterFailure_of_ne (status : KeyTable String JobStatusRow)
    {jobId other : String} (error : String) (occurredAt : Datetime) (h : jobId ≠ other) :
    (statusAfterFailure status other error occurredAt).lookup jobId = status.lookup jobId :=
  KeyTable.lookup_upsert_of_ne status h

/-- The status row after a failure: one more failure, and the flags as they were. -/
lemma failedStatus_fields (status : KeyTable String JobStatusRow) (jobId error : String)
    (occurredAt : Datetime) :
    (failedStatus status jobId error occurredAt).consecutiveFailures
        = consecutiveFailures status jobId + 1 ∧
      (failedStatus status jobId error occurredAt).failureAlertActive
        = failureAlertActive status jobId ∧
      (failedStatus status jobId error occurredAt).deliveryAlertActive
        = deliveryAlertActive status jobId := by
  cases h : status.lookup jobId <;>
    simp [failedStatus, consecutiveFailures, failureAlertActive, deliveryAlertActive, h]

/-- Setting the failure flag of a job. -/
lemma lookup_setFailureAlert (status : KeyTable String JobStatusRow) (jobId other : String) :
    (setFailureAlert status other).lookup jobId = (status.lookup jobId).map fun s =>
      if s.jobId = other then { s with failureAlertActive := true } else s :=
  KeyTable.lookup_update status _ _ jobId

lemma lookup_setDeliveryAlert (status : KeyTable String JobStatusRow) (jobId other : String)
    (active : Bool) :
    (setDeliveryAlert status other active).lookup jobId = (status.lookup jobId).map fun s =>
      if s.jobId = other then { s with deliveryAlertActive := active } else s :=
  KeyTable.lookup_update status _ _ jobId

lemma jobId_of_lookup {status : KeyTable String JobStatusRow} {jobId : String} {s : JobStatusRow}
    (h : status.lookup jobId = some s) : s.jobId = jobId := (KeyTable.lookup_eq_some.mp h).2

/-- The status row of a job after a failure that has raised its alert. -/
lemma lookup_alerted_self (status : KeyTable String JobStatusRow) (jobId error : String)
    (occurredAt : Datetime) :
    (setFailureAlert (statusAfterFailure status jobId error occurredAt) jobId).lookup jobId
      = some { failedStatus status jobId error occurredAt with failureAlertActive := true } := by
  have hrow := lookup_statusAfterFailure status jobId error occurredAt
  rw [lookup_setFailureAlert, hrow, Option.map_some, if_pos (jobId_of_lookup hrow)]

/-- A failure of another job. -/
lemma lookup_alerted_of_ne (status : KeyTable String JobStatusRow) {jobId other : String}
    (error : String) (occurredAt : Datetime) (h : jobId ≠ other) :
    (setFailureAlert (statusAfterFailure status other error occurredAt) other).lookup jobId
      = status.lookup jobId := by
  rw [lookup_setFailureAlert, lookup_statusAfterFailure_of_ne _ _ _ h]
  cases hs : status.lookup jobId with
  | none => rfl
  | some s => rw [Option.map_some, jobId_of_lookup hs, if_neg h]

/-- An evaluation leaves the status of a job alone that it has no row for. -/
lemma lookup_evaluatedStatus_of_ne {alertAfter : ℤ} {rows : List BacklogRow} {jobId : String}
    {status : KeyTable String JobStatusRow} (h : ∀ row ∈ rows, row.jobId ≠ jobId) :
    (evaluatedStatus alertAfter rows status).lookup jobId = status.lookup jobId := by
  induction rows generalizing status with
  | nil => rfl
  | cons row rows ih =>
      rw [evaluatedStatus_cons,
        ih fun r hr => h r (List.mem_cons_of_mem _ hr), lookup_setDeliveryAlert]
      cases hs : status.lookup jobId with
      | none => rfl
      | some s =>
          rw [Option.map_some, jobId_of_lookup hs, if_neg (h row List.mem_cons_self).symm]

/-- **An evaluation sets a job's flag to what its row says** and nothing else. -/
lemma lookup_evaluatedStatus {alertAfter : ℤ} {rows : List BacklogRow} {row : BacklogRow}
    {status : KeyTable String JobStatusRow} (hnodup : (rows.map BacklogRow.jobId).Nodup)
    (hrow : row ∈ rows) :
    (evaluatedStatus alertAfter rows status).lookup row.jobId
      = (status.lookup row.jobId).map fun s =>
          { s with deliveryAlertActive := row.active alertAfter } := by
  induction rows generalizing status with
  | nil => simp at hrow
  | cons r rows ih =>
      rw [List.map_cons, List.nodup_cons] at hnodup
      rw [evaluatedStatus_cons]
      rcases List.mem_cons.mp hrow with rfl | hrow
      · have hne : ∀ r' ∈ rows, r'.jobId ≠ row.jobId := fun r' hr' hj =>
          hnodup.1 (List.mem_map.mpr ⟨r', hr', hj⟩)
        rw [lookup_evaluatedStatus_of_ne hne, lookup_setDeliveryAlert]
        cases hs : status.lookup row.jobId with
        | none => rfl
        | some s => rw [Option.map_some, Option.map_some, if_pos (jobId_of_lookup hs)]
      · rw [ih hnodup.2 hrow, lookup_setDeliveryAlert]
        cases hs : status.lookup row.jobId with
        | none => rfl
        | some s =>
            have hne : s.jobId ≠ r.jobId := by
              rw [jobId_of_lookup hs]
              exact fun hj => hnodup.1 (hj ▸ List.mem_map_of_mem hrow)
            rw [Option.map_some, Option.map_some, Option.map_some, if_neg hne]

/-! ## The rows of the backlog query -/

@[simp] lemma backlogRow_jobId (outbox : RowTable OutboxRow) (s : JobStatusRow) :
    (backlogRow outbox s).jobId = s.jobId := rfl

@[simp] lemma backlogRow_deliveryAlertActive (outbox : RowTable OutboxRow) (s : JobStatusRow) :
    (backlogRow outbox s).deliveryAlertActive = s.deliveryAlertActive := rfl

lemma mem_backlogRows {db : Database} {row : BacklogRow} :
    row ∈ backlogRows db ↔ ∃ s ∈ db.jobStatus.rows, backlogRow db.outbox s = row := by
  rw [backlogRows, List.mem_map]
  exact exists_congr fun s => and_congr_left fun _ => List.mem_insertionSort _

lemma nodup_backlogRows (db : Database) : ((backlogRows db).map BacklogRow.jobId).Nodup := by
  rw [backlogRows, List.map_map]
  exact ((List.perm_insertionSort _ db.jobStatus.rows).map _).nodup_iff.mpr db.jobStatus.nodup

/-- What an evaluation leaves of the status of a job. -/
lemma lookup_evaluatedStatus_job (db : Database) (alertAfter : ℤ) (jobId : String) :
    (evaluatedStatus alertAfter (backlogRows db) db.jobStatus).lookup jobId
      = (db.jobStatus.lookup jobId).map fun s =>
          { s with deliveryAlertActive := (backlogRow db.outbox s).active alertAfter } := by
  cases hlookup : db.jobStatus.lookup jobId with
  | none =>
      have hno : ∀ row ∈ backlogRows db, row.jobId ≠ jobId := by
        intro row hrow hjob
        obtain ⟨s, hmem, rfl⟩ := mem_backlogRows.mp hrow
        exact KeyTable.lookup_eq_none.mp hlookup s hmem hjob
      rw [lookup_evaluatedStatus_of_ne hno, hlookup, Option.map_none]
  | some s =>
      obtain ⟨hmem, rfl⟩ := KeyTable.lookup_eq_some.mp hlookup
      have hrow : backlogRow db.outbox s ∈ backlogRows db := mem_backlogRows.mpr ⟨s, hmem, rfl⟩
      have hstatus : (evaluatedStatus alertAfter (backlogRows db) db.jobStatus).lookup s.jobId
          = (db.jobStatus.lookup s.jobId).map fun s' =>
              { s' with deliveryAlertActive := (backlogRow db.outbox s).active alertAfter } :=
        lookup_evaluatedStatus (nodup_backlogRows db) hrow
      rw [key_jobStatusRow, hstatus, show db.jobStatus.lookup s.jobId = some s from hlookup,
        Option.map_some, Option.map_some]

/-- What an evaluation leaves of the backlog alerts of a job. -/
lemma alertChannels_evaluated_job (db : Database) (alertAfter : ℤ) (channels : List String)
    (now : String → Datetime) (jobId : String) :
    alertChannels (allEvaluatedAlerts alertAfter channels now (backlogRows db) db.alerts)
        (deliveryBacklogKey jobId)
      = (db.jobStatus.lookup jobId).elim (alertChannels db.alerts (deliveryBacklogKey jobId))
          fun s =>
            if (backlogRow db.outbox s).active alertAfter ∧ ¬ s.deliveryAlertActive then
              alertChannels db.alerts (deliveryBacklogKey jobId) ++ channels
            else if ¬ (backlogRow db.outbox s).active alertAfter ∧ s.deliveryAlertActive then []
            else alertChannels db.alerts (deliveryBacklogKey jobId) := by
  cases hlookup : db.jobStatus.lookup jobId with
  | none =>
      rw [Option.elim_none, alertChannels_allEvaluated_of_ne]
      intro row hrow hkey
      obtain ⟨s, hmem, rfl⟩ := mem_backlogRows.mp hrow
      exact KeyTable.lookup_eq_none.mp hlookup s hmem (deliveryBacklogKey_inj.mp hkey)
  | some s =>
      obtain ⟨hmem, rfl⟩ := KeyTable.lookup_eq_some.mp hlookup
      have hrow : backlogRow db.outbox s ∈ backlogRows db := mem_backlogRows.mpr ⟨s, hmem, rfl⟩
      have hchannels : alertChannels
          (allEvaluatedAlerts alertAfter channels now (backlogRows db) db.alerts)
          (deliveryBacklogKey s.jobId) = _ := alertChannels_allEvaluated (nodup_backlogRows db) hrow
      rw [key_jobStatusRow, hchannels, alertChannels_evaluatedAlerts, backlogRow_jobId, if_pos rfl,
        backlogRow_deliveryAlertActive, Option.elim_some]

/-- A job's backlog is active: some undelivered row of it has been attempted `alertAfter` times. -/
def BacklogActive (outbox : RowTable OutboxRow) (alertAfter : ℤ) (jobId : String) : Prop :=
  ∃ n ∈ outbox.rows, n.jobId = jobId ∧ n.pending ∧ alertAfter ≤ n.attempts

instance (outbox : RowTable OutboxRow) (alertAfter : ℤ) (jobId : String) :
    Decidable (BacklogActive outbox alertAfter jobId) :=
  inferInstanceAs (Decidable (∃ n ∈ outbox.rows, _))

/-- **The aggregate decides it**: `COUNT` and `MAX` of the joined rows say that the backlog is
active exactly if it is, `NULL` included. -/
lemma backlogRow_active {outbox : RowTable OutboxRow} {alertAfter : ℤ} {s : JobStatusRow} :
    (backlogRow outbox s).active alertAfter = true ↔ BacklogActive outbox alertAfter s.jobId := by
  have hmem : ∀ n, n ∈ pendingOf outbox s.jobId ↔
      n ∈ outbox.rows ∧ n.jobId = s.jobId ∧ n.pending := by
    intro n
    rw [pendingOf, List.mem_filter, Bool.and_eq_true, beq_iff_eq]
  simp only [BacklogRow.active, backlogRow, Bool.and_eq_true, Option.any_eq_true,
    decide_eq_true_iff]
  constructor
  · rintro ⟨_, m, hm, hle⟩
    obtain ⟨n, hn, rfl⟩ := List.mem_map.mp (List.max?_mem hm)
    obtain ⟨hn, hj, hp⟩ := (hmem n).mp hn
    exact ⟨n, hn, hj, hp, hle⟩
  · rintro ⟨n, hn, hj, hp, hle⟩
    have hn' : n ∈ pendingOf outbox s.jobId := (hmem n).mpr ⟨hn, hj, hp⟩
    have hn'' : n.attempts ∈ (pendingOf outbox s.jobId).map OutboxRow.attempts :=
      List.mem_map_of_mem hn'
    refine ⟨decide_eq_true (List.length_pos_of_mem hn'), ?_⟩
    cases hmax : ((pendingOf outbox s.jobId).map OutboxRow.attempts).max? with
    | none => simp [List.max?_eq_none_iff.mp hmax] at hn''
    | some m =>
        have := (List.max?_eq_some_iff.mp hmax).2 _ hn''
        exact ⟨m, rfl, by omega⟩

end WebChecker
