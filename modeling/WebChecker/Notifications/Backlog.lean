import WebChecker.Library.Batches
import WebChecker.Notifications.Service

/-!
# Working off a backlog

What consecutive calls of `dispatch_pending` do to an outbox with more rows than one call takes.
A call attempts the oldest undelivered rows, and those whose delivery fails stay the oldest: the
outbox is worked off as a queue in `Batches` (`pendingIds_calls`).  So channels that fail can keep
the rows of a working channel from being attempted at all (`starved`), and
`attempted_iff` says how many failures that takes.
-/

namespace WebChecker

open Relational Results Runs Dispatch

/-! ## One call -/

@[simp] lemma attempts_attemptedWith (time : Datetime) (error : Option String) (r : OutboxRow) :
    (attemptedWith time error r).attempts = r.attempts + 1 := by
  cases error <;> rfl

@[simp] lemma announcement_attemptedWith (time : Datetime) (error : Option String)
    (r : OutboxRow) : (attemptedWith time error r).announcement = r.announcement := by
  cases error <;> rfl

lemma pending_attemptedWith (time : Datetime) (error : Option String) {r : OutboxRow}
    (h : r.pending = true) : (attemptedWith time error r).pending = error.isSome := by
  cases error with
  | none => rfl
  | some e => exact h

section Call

variable (registry : NotifierRegistry) (around : Surroundings)

/-- The error of a row's attempt in a call. -/
def failure (r : OutboxRow) : Option String := attempt registry around (notificationOf r)

/-- The row after its attempt in a call. -/
def attemptedRow (r : OutboxRow) : OutboxRow :=
  attemptedWith (around.now (notificationOf r)) (failure registry around r) r

lemma rowId_attemptedRow (r : OutboxRow) : rowId (attemptedRow registry around r) = rowId r :=
  rowId_attemptedWith _ _ r

/-- The database after the attempt of one row. -/
def attemptedOne (n : OutboxRow) (db : Database) : Database :=
  { db with outbox := db.outbox.updateWhere (isPendingId n.id)
                        (attemptedWith (around.now (notificationOf n)) (failure registry around n))
                        (rowId_attemptedWith _ _) }

/-- The database after the attempts of a list of rows. -/
def attemptedAll (todo : List OutboxRow) (db : Database) : Database :=
  { db with outbox := db.outbox.updateWhere (fun r => decide (r ∈ todo))
                        (attemptedRow registry around) (rowId_attemptedRow registry around) }

lemma attemptedAll_nil (db : Database) : attemptedAll registry around [] db = db := by
  have hrows : db.outbox.updateWhere (fun r => decide (r ∈ ([] : List OutboxRow)))
      (attemptedRow registry around) (rowId_attemptedRow registry around) = db.outbox :=
    RowTable.ext_rows (by simp [RowTable.updateWhere])
  rw [attemptedAll, hrows]

/-- What a row becomes. -/
lemma mem_attemptedAll (todo : List OutboxRow) {db : Database} {r : OutboxRow}
    (hr : r ∈ db.outbox.rows) : (if r ∈ todo then attemptedRow registry around r else r)
      ∈ (attemptedAll registry around todo db).outbox.rows := by
  rw [attemptedAll, RowTable.mem_updateWhere]
  exact ⟨r, hr, by simp⟩

/-- **The record of one attempt** succeeds on an undelivered row. -/
lemma recordAttempt_pending {db : Database} {n : OutboxRow} (hn : n ∈ pendingRows db) :
    recordAttempt db (notificationOf n) (around.now (notificationOf n))
        (attempt registry around (notificationOf n))
      = .ok (attemptedOne registry around n db) := by
  rw [recordAttempt_eq]
  rcases updateNotification_cases db n.id
    (rowId_attemptedWith (around.now (notificationOf n)) (failure registry around n))
    with ⟨hok, _⟩ | ⟨_, hnot⟩
  · exact hok
  · exact absurd (List.mem_map_of_mem hn) hnot

/-- One attempt after the other is all of them. -/
lemma attemptedAll_cons {db : Database} {n : OutboxRow} {ns : List OutboxRow}
    (hn : n ∈ pendingRows db) (hnodup : ((n :: ns).map OutboxRow.id).Nodup) :
    attemptedAll registry around ns (attemptedOne registry around n db)
      = attemptedAll registry around (n :: ns) db := by
  obtain ⟨hmem, hp⟩ := mem_pendingRows.mp hn
  rw [List.map_cons, List.nodup_cons] at hnodup
  have hrows : ∀ r ∈ db.outbox.rows,
      ((fun x => if decide (x ∈ ns) then attemptedRow registry around x else x) ∘ fun x =>
        if isPendingId n.id x then
          attemptedWith (around.now (notificationOf n)) (failure registry around n) x else x) r
      = if decide (r ∈ n :: ns) then attemptedRow registry around r else r := by
    intro r hr
    rw [Function.comp_apply]
    by_cases hrn : r = n
    · -- the row itself, which the rest of the list does not contain
      subst hrn
      have hnot : attemptedRow registry around r ∉ ns := fun h =>
        hnodup.1 (List.mem_map.mpr ⟨_, h, rowId_attemptedRow registry around r⟩)
      have hself : isPendingId r.id r = true := by simp [isPendingId, hp]
      rw [if_pos hself, ← attemptedRow]
      simp [hnot]
    · have hid : r.id ≠ n.id := fun h => hrn (RowTable.eq_of_rowId_eq hr hmem h)
      simp [isPendingId, hid, hrn]
  have houtbox : (db.outbox.updateWhere (isPendingId n.id)
        (attemptedWith (around.now (notificationOf n)) (failure registry around n))
        (rowId_attemptedWith _ _)).updateWhere (fun r => decide (r ∈ ns))
          (attemptedRow registry around) (rowId_attemptedRow registry around)
      = db.outbox.updateWhere (fun r => decide (r ∈ n :: ns)) (attemptedRow registry around)
          (rowId_attemptedRow registry around) := by
    refine RowTable.ext_rows ?_
    rw [RowTable.rows_updateWhere, RowTable.rows_updateWhere, RowTable.rows_updateWhere,
      List.map_map]
    exact List.map_congr_left hrows
  simp only [attemptedAll, attemptedOne, houtbox]

/-- **The loop attempts every row of its list**, and no record can fail. -/
lemma dispatchItems_eq {todo : List OutboxRow} :
    ∀ {db : Database} (summary : DeliverySummary), (∀ r ∈ todo, r ∈ pendingRows db) →
      (todo.map OutboxRow.id).Nodup →
      dispatchItems registry around (todo.map notificationOf) summary db
        = (.ok (todo.foldl (fun s r => s.count (failure registry around r)) summary),
          attemptedAll registry around todo db) := by
  induction todo with
  | nil =>
      intro db summary _ _
      simp [dispatchItems, attemptedAll_nil]
  | cons n ns ih =>
      intro db summary hpending hnodup
      have hn : n ∈ pendingRows db := hpending n List.mem_cons_self
      rw [List.map_cons, dispatchItems, recordAttempt_pending registry around hn]
      dsimp only
      rw [ih, attemptedAll_cons registry around hn hnodup]
      · rfl
      · -- the rows that are left are still undelivered
        intro r hr
        have hr' := mem_pendingRows.mp (hpending r (List.mem_cons_of_mem _ hr))
        have hid : r.id ≠ n.id := by
          rintro heq
          rw [List.map_cons, List.nodup_cons] at hnodup
          exact hnodup.1 (heq ▸ List.mem_map_of_mem hr)
        refine mem_pendingRows.mpr ⟨?_, hr'.2⟩
        rw [attemptedOne, RowTable.mem_updateWhere]
        exact ⟨r, hr'.1, by simp [isPendingId, hid]⟩
      · rw [List.map_cons, List.nodup_cons] at hnodup
        exact hnodup.2

/-- **One call** attempts the oldest `limit` undelivered rows, and completes. -/
lemma dispatchPending_eq {db : Database} (hc : Consistent db) (limit : ℕ) :
    dispatchPending registry around limit db
      = (.ok (((pendingRows db).take limit).foldl
            (fun s r => s.count (failure registry around r)) {}),
          attemptedAll registry around ((pendingRows db).take limit) db) := by
  rw [dispatchPending, listPendingNotifications_eq hc]
  refine dispatchItems_eq registry around _ (fun r hr => List.mem_of_mem_take hr) ?_
  have hnodup : ((pendingRows db).map OutboxRow.id).Nodup :=
    List.pairwise_map.mpr ((pendingRows_increasing db).imp Nat.ne_of_lt)
  exact hnodup.sublist ((List.take_sublist _ _).map _)

lemma consistent_attemptedAll {db : Database} (hc : Consistent db) (todo : List OutboxRow) :
    Consistent (attemptedAll registry around todo db) := by
  refine hc.update (fun n hn => ?_) hc.alert_readable
  obtain ⟨n', hn', rfl⟩ := RowTable.mem_updateWhere.mp hn
  have hann : ∀ x, (attemptedRow registry around x).announcement = x.announcement :=
    fun x => announcement_attemptedWith _ _ x
  refine ⟨n', hn', ?_, ?_⟩
  · split
    · exact (congrArg OutboxRow.transitionId (hann n')).symm
    · rfl
  · split
    · exact (congrArg OutboxRow.checkedAt (hann n')).symm
    · rfl

/-- The delivery of the row with this id fails in a call. -/
def heldBack (db : Database) (id : ℕ) : Bool :=
  (pendingRows db).any fun r => r.id == id && (failure registry around r).isSome

lemma heldBack_id {db : Database} {r : OutboxRow} (hr : r ∈ pendingRows db) :
    heldBack registry around db r.id = (failure registry around r).isSome := by
  rw [Bool.eq_iff_iff, heldBack, List.any_eq_true]
  constructor
  · rintro ⟨x, hx, hfail⟩
    simp only [Bool.and_eq_true, beq_iff_eq] at hfail
    have hsame : x = r :=
      RowTable.eq_of_rowId_eq (mem_pendingRows.mp hx).1 (mem_pendingRows.mp hr).1
      hfail.1
    exact hsame ▸ hfail.2
  · intro h
    exact ⟨r, hr, by simp [h]⟩

lemma nodup_pendingRows (db : Database) : (pendingRows db).Nodup :=
  .of_map _ (nodup_pendingIds db)

/-- The undelivered rows after a call, before their attempts are written. -/
lemma filter_pending_attempted (db : Database) (limit : ℕ) :
    db.outbox.rows.filter (OutboxRow.pending ∘ fun r =>
        if decide (r ∈ (pendingRows db).take limit) then attemptedRow registry around r else r)
      = ((pendingRows db).take limit).filter (fun r => (failure registry around r).isSome)
        ++ (pendingRows db).drop limit := by
  have hrows : ∀ r ∈ db.outbox.rows, (OutboxRow.pending ∘ fun r =>
        if decide (r ∈ (pendingRows db).take limit) then attemptedRow registry around r else r) r
      = ((decide (r ∉ (pendingRows db).take limit) || (failure registry around r).isSome)
        && r.pending) := by
    intro r _
    rw [Function.comp_apply]
    by_cases hr : r ∈ (pendingRows db).take limit
    · have hp : r.pending = true := (mem_pendingRows.mp (List.mem_of_mem_take hr)).2
      simp [hr, hp, attemptedRow, pending_attemptedWith _ _ hp]
    · simp [hr]
  have hdisjoint := List.disjoint_take_drop (nodup_pendingRows db) (le_refl limit)
  rw [List.filter_congr hrows, ← List.filter_filter, ← pendingRows,
    ← List.take_append_drop limit (pendingRows db), List.filter_append]
  simp only [List.take_append_drop]
  congr 1
  · exact List.filter_congr fun r hr => by simp [hr]
  · refine List.filter_eq_self.mpr fun r hr => ?_
    have hnot : r ∉ (pendingRows db).take limit := fun h => hdisjoint h hr
    simp [hnot]

/-- **A call is a round** on the queue of the undelivered rows. -/
lemma pendingIds_attemptedAll (db : Database) (limit : ℕ) :
    pendingIds (attemptedAll registry around ((pendingRows db).take limit) db)
      = Batches.round limit (heldBack registry around db) (pendingIds db) := by
  have hids : ∀ todo : List OutboxRow, OutboxRow.id ∘ (fun r =>
      if decide (r ∈ todo) then attemptedRow registry around r else r) = OutboxRow.id := by
    intro todo
    funext r
    rw [Function.comp_apply]
    split
    · exact rowId_attemptedRow registry around r
    · rfl
  have hheld : ∀ r ∈ (pendingRows db).take limit, (failure registry around r).isSome
      = (heldBack registry around db ∘ OutboxRow.id) r := fun r hr =>
    (heldBack_id registry around (List.mem_of_mem_take hr)).symm
  rw [pendingIds, pendingRows, attemptedAll, RowTable.rows_updateWhere, List.filter_map,
    List.map_map, hids, filter_pending_attempted, List.map_append, List.filter_congr hheld,
    Batches.round, pendingIds, ← List.map_take, ← List.map_drop, List.filter_map]

end Call

/-! ## Consecutive calls -/

section Calls

variable (registry : NotifierRegistry) (around : ℕ → Surroundings) (limit : ℕ) (db : Database)

/-- The database after consecutive complete calls, with nothing enqueued in between. -/
def calls : ℕ → Database
  | 0 => db
  | k + 1 => (dispatchPending registry (around k) limit (calls k)).2

/-- The number of failed attempts of a call. -/
def failedAttempts (k : ℕ) : ℕ :=
  ((pendingRows (calls registry around limit db k)).take limit).countP fun r =>
    (failure registry (around k) r).isSome

variable {db}

lemma consistent_calls (hc : Consistent db) (k : ℕ) :
    Consistent (calls registry around limit db k) := by
  induction k with
  | zero => exact hc
  | succ k ih =>
      rw [calls, dispatchPending_eq registry (around k) ih]
      exact consistent_attemptedAll registry (around k) ih _

lemma calls_succ (hc : Consistent db) (k : ℕ) : calls registry around limit db (k + 1)
    = attemptedAll registry (around k) ((pendingRows (calls registry around limit db k)).take limit)
        (calls registry around limit db k) := by
  rw [calls, dispatchPending_eq registry (around k) (consistent_calls registry around limit hc k)]

/-- Every one of the calls completes. -/
lemma calls_complete (hc : Consistent db) (k : ℕ) :
    ∃ summary, (dispatchPending registry (around k) limit
      (calls registry around limit db k)).1 = .ok summary := by
  rw [dispatchPending_eq registry (around k) (consistent_calls registry around limit hc k)]
  exact ⟨_, rfl⟩

/-- **The outbox is worked off in batches.** -/
lemma pendingIds_calls (hc : Consistent db) (k : ℕ) :
    pendingIds (calls registry around limit db k)
      = Batches.rounds limit
          (fun j => heldBack registry (around j) (calls registry around limit db j))
          (pendingIds db) k := by
  induction k with
  | zero => rfl
  | succ k ih =>
      rw [calls_succ registry around limit hc, pendingIds_attemptedAll, ih, Batches.rounds]

lemma failures_eq (hc : Consistent db) (k : ℕ) :
    Batches.failures limit
        (fun j => heldBack registry (around j) (calls registry around limit db j))
        (pendingIds db) k
      = failedAttempts registry around limit db k := by
  rw [Batches.failures, ← pendingIds_calls registry around limit hc, pendingIds, ← List.map_take,
    List.countP_map, failedAttempts]
  refine List.countP_congr fun r hr => ?_
  rw [Function.comp_apply, heldBack_id _ _ (List.mem_of_mem_take hr)]

/-- **A row over consecutive calls**: it stays, and its attempts go up exactly if one of the calls
has taken it. -/
lemma row_calls (hc : Consistent db) {r : OutboxRow} (hr : r ∈ db.outbox.rows) (k : ℕ) :
    ∃ r' ∈ (calls registry around limit db k).outbox.rows, r'.announcement = r.announcement ∧
      r.attempts ≤ r'.attempts ∧ (r.attempts < r'.attempts ↔
        ∃ j < k, r.id ∈ (pendingIds (calls registry around limit db j)).take limit) := by
  induction k with
  | zero => exact ⟨r, hr, rfl, le_refl _, by simp⟩
  | succ k ih =>
      obtain ⟨r', hr', hann, hle, hiff⟩ := ih
      have hid : r'.id = r.id := id_of_announcement hann
      have htaken : r' ∈ (pendingRows (calls registry around limit db k)).take limit ↔
          r.id ∈ (pendingIds (calls registry around limit db k)).take limit := by
        rw [pendingIds, ← List.map_take, ← hid]
        constructor
        · exact List.mem_map_of_mem
        · intro h
          obtain ⟨x, hx, hxid⟩ := List.mem_map.mp h
          have hxrow := (mem_pendingRows.mp (List.mem_of_mem_take hx)).1
          rwa [← RowTable.eq_of_rowId_eq hxrow hr' hxid]
      have hnext := mem_attemptedAll registry (around k)
        ((pendingRows (calls registry around limit db k)).take limit) hr'
      rw [← calls_succ registry around limit hc] at hnext
      refine ⟨_, hnext, ?_⟩
      by_cases hmem : r' ∈ (pendingRows (calls registry around limit db k)).take limit
      · have hnow := htaken.mp hmem
        rw [if_pos hmem, attemptedRow]
        refine ⟨(announcement_attemptedWith _ _ r').trans hann, by simp; omega, ?_⟩
        refine iff_of_true (by simp; omega) ⟨k, by omega, hnow⟩
      · have hlater := mt htaken.mpr hmem
        rw [if_neg hmem]
        refine ⟨hann, hle, hiff.trans ⟨?_, ?_⟩⟩
        · rintro ⟨j, hj, hmem⟩
          exact ⟨j, by omega, hmem⟩
        · rintro ⟨j, hj, hmem⟩
          refine ⟨j, ?_, hmem⟩
          by_contra hjk
          rw [show j = k by omega] at hmem
          exact hlater hmem

/-- **After `k` calls**, every row that was undelivered has been attempted if and only if the rows
and the failures of the first `k - 1` calls together fit into `k` calls. -/
lemma attempted_iff (hc : Consistent db) (k : ℕ) :
    (∀ r ∈ pendingRows db, ∃ r' ∈ (calls registry around limit db k).outbox.rows,
        r'.id = r.id ∧ r.attempts < r'.attempts) ↔
      (pendingRows db).length
        + ∑ j ∈ Finset.range (k - 1), failedAttempts registry around limit db j ≤ limit * k := by
  have hturn : ∀ r ∈ pendingRows db,
      (∃ r' ∈ (calls registry around limit db k).outbox.rows,
        r'.id = r.id ∧ r.attempts < r'.attempts) ↔
      ∃ j < k, r.id ∈ (pendingIds (calls registry around limit db j)).take limit := by
    intro r hr
    obtain ⟨r', hr', hann, _, hiff⟩ :=
      row_calls registry around limit hc (mem_pendingRows.mp hr).1 k
    rw [← hiff]
    constructor
    · rintro ⟨x, hx, hid, hlt⟩
      rwa [RowTable.eq_of_rowId_eq hx hr' (hid.trans (id_of_announcement hann).symm)] at hlt
    · exact fun hlt => ⟨r', hr', id_of_announcement hann, hlt⟩
  have hqueue := Batches.reached_iff limit
    (fun j => heldBack registry (around j) (calls registry around limit db j))
    (nodup_pendingIds db) k
  simp only [← pendingIds_calls registry around limit hc, failures_eq registry around limit hc]
    at hqueue
  rw [show (pendingRows db).length = (pendingIds db).length from List.length_map _ |>.symm,
    ← hqueue, pendingIds, List.forall_mem_map]
  exact forall₂_congr hturn

/-- A channel that always works: it has an adapter, and no send to it raises. -/
def Works (channel : String) : Prop :=
  registry.get channel = none ∧ ∀ j n, n.channel = channel → (around j).send n = none

/-- The attempt of a row of a working channel delivers it for good. -/
lemma delivered_of_attempted (hc : Consistent db) {r : OutboxRow} (hr : r ∈ db.outbox.rows)
    (hworks : Works registry around r.channel) {j k : ℕ} (hjk : j < k)
    (hturn : r.id ∈ (pendingIds (calls registry around limit db j)).take limit) :
    ∃ r' ∈ (calls registry around limit db k).outbox.rows,
      r'.id = r.id ∧ r'.deliveredAt.isSome = true := by
  -- the attempt does not fail
  have hkeep : heldBack registry (around j) (calls registry around limit db j) r.id = false := by
    obtain ⟨x, hx, hann, _, _⟩ := row_calls registry around limit hc hr j
    have hid : x.id = r.id := id_of_announcement hann
    have hchannel : x.channel = r.channel := by
      simpa [OutboxRow.announcement] using congrArg OutboxRow.channel hann
    obtain ⟨y, hy, hyid⟩ := List.mem_map.mp (List.mem_of_mem_take hturn)
    have hsame : y = x := RowTable.eq_of_rowId_eq (mem_pendingRows.mp hy).1 hx (hyid.trans hid.symm)
    have hfailure : failure registry (around j) x = none := by
      simp [failure, attempt, notificationOf, hchannel, hworks.1, hworks.2 j]
    rw [← hid, heldBack_id _ _ (hsame ▸ hy), hfailure]
    rfl
  -- so the row is no longer in the queue
  have hgone : r.id ∉ pendingIds (calls registry around limit db k) := by
    rw [pendingIds_calls registry around limit hc] at hturn ⊢
    exact fun h => Batches.notMem_rounds_succ (nodup_pendingIds db) hturn hkeep
      (Batches.mem_of_mem_rounds hjk h)
  obtain ⟨r', hr', hann, _, _⟩ := row_calls registry around limit hc hr k
  have hid : r'.id = r.id := id_of_announcement hann
  refine ⟨r', hr', hid, ?_⟩
  by_contra hnone
  refine hgone (mem_pendingIds.mpr ⟨r', hr', ?_, hid⟩)
  simpa [OutboxRow.pending] using hnone

end Calls

/-- **When a backlog is worked off.**  For every reachable outbox with `n` undelivered rows, every
registry and every behaviour of the adapters: after `⌈n / 100⌉` consecutive complete calls every
row has been attempted if and only if the calls before the last have at most `100 * ⌈n / 100⌉ - n`
failures; and then every row of a working channel has been delivered. -/
theorem backlog_attempted_iff (registry : NotifierRegistry) (around : ℕ → Surroundings)
    {db : Database} (hdb : Reachable db) :
    let n := (pendingRows db).length
    let k := (n + 99) / 100
    let few := n + ∑ j ∈ Finset.range (k - 1), failedAttempts registry around 100 db j ≤ 100 * k
    let rows := (calls registry around 100 db k).outbox.rows
    ((∀ r ∈ pendingRows db, ∃ r' ∈ rows, r'.id = r.id ∧ r.attempts < r'.attempts) ↔ few) ∧
      (few → ∀ r ∈ pendingRows db, Works registry around r.channel →
        ∃ r' ∈ rows, r'.id = r.id ∧ r'.deliveredAt.isSome = true) := by
  intro n k few rows
  have hc : Consistent db := hdb.consistent
  have hiff := attempted_iff registry around 100 hc k
  refine ⟨hiff, fun hfew r hr hworks => ?_⟩
  have hrow := (mem_pendingRows.mp hr).1
  obtain ⟨r', hr', hid, hlt⟩ := hiff.mpr hfew r hr
  obtain ⟨x, hx, hann, _, hturn⟩ := row_calls registry around 100 hc hrow k
  have hsame : r' = x := RowTable.eq_of_rowId_eq hr' hx (hid.trans (id_of_announcement hann).symm)
  obtain ⟨j, hj, htaken⟩ := hturn.mp (hsame ▸ hlt)
  exact delivered_of_attempted registry around 100 hc hrow hworks hj htaken

/-- No send raises. -/
def quiet : ℕ → Surroundings := fun _ => ⟨fun _ => .epoch, fun _ => none⟩

/-- A channel without an adapter. -/
def deadChannel (i : ℕ) : String := String.ofList (List.replicate (i + 1) 'p')

lemma deadChannel_injective : Function.Injective deadChannel := by
  intro i j h
  have hlist : List.replicate (i + 1) 'p' = List.replicate (j + 1) 'p' := String.ofList_injective h
  simpa using congrArg List.length hlist

lemma strip_deadChannel (i : ℕ) : strip (deadChannel i) = deadChannel i := by
  have hdrop : (List.replicate (i + 1) 'p').dropWhile isSpace = List.replicate (i + 1) 'p' := by
    have hspace : isSpace 'p' = false := by decide
    simp [List.replicate_succ, hspace]
  rw [strip, deadChannel, String.toList_ofList, stripChars, hdrop, List.rdropWhile,
    List.reverse_replicate, hdrop, List.reverse_replicate]

lemma deadChannel_ne (i : ℕ) : deadChannel i ≠ "" ∧ deadChannel i ≠ "email" := by
  constructor
  · simp [deadChannel]
  · intro h
    have hlist : List.replicate (i + 1) 'p' = "email".toList := by simp [← h, deadChannel]
    simp [List.replicate_succ] at hlist

/-- A plan with a hundred dead channels and `email`. -/
def crowdedPlan : NotificationPlan where
  channels := (List.range 100).map deadChannel ++ ["email"]
  on := [.initiallyAvailable]
  channels_nodup := by
    refine List.nodup_append.mpr
      ⟨List.nodup_range.map deadChannel_injective, List.nodup_singleton _, ?_⟩
    simp [(deadChannel_ne _).2]
  channels_ne := by
    intro c hc
    rcases List.mem_append.mp hc with hc | hc
    · obtain ⟨i, _, rfl⟩ := List.mem_map.mp hc
      rw [strip_deadChannel]
      exact (deadChannel_ne i).1
    · rw [List.mem_singleton.mp hc]
      decide

/-- The first snapshot of a job with this plan. -/
def crowdedOp : StoreOp := .recordSuccess "swim" (.onFirst .available) crowdedPlan

def crowded : Database := Store.exec .empty [crowdedOp]

lemma reachable_crowded : Reachable crowded := ⟨[crowdedOp], rfl⟩

/-- The rows of a first snapshot with one available opportunity: one for each channel. -/
lemma channels_crowded : (pendingRows crowded).map OutboxRow.channel = crowdedPlan.channels := by
  have hrecord : recordSuccess .empty "swim" (.onFirst .available) crowdedPlan
      = .ok (⟨true, _⟩, recorded .empty "swim" (.onFirst .available) crowdedPlan
          (transitionsSince none (.onFirst .available)) _) :=
    (recordSuccess_eq_ok consistent_empty).mpr ⟨none, _, rfl, rfl, rfl, rfl⟩
  have hchannel : OutboxRow.channel ∘ (fun p => entryRow "swim"
      (CheckResult.onFirst .available).checkedAt p.1 p.2)
        = (fun e : ℕ × OpportunityTransition × String => e.2.2) ∘ Prod.fst := rfl
  have hentries : ∀ n, (outboxEntries crowdedPlan n
      (transitionsSince none (.onFirst .available))).map (fun e => e.2.2)
        = crowdedPlan.channels := by
    intro n
    have hone : outboxEntries crowdedPlan n
        (transitionsSince none (.onFirst .available))
          = crowdedPlan.channels.map (fun c => (n, _, c)) ++ [] := rfl
    rw [hone, List.append_nil, List.map_map]
    exact List.map_id _
  rw [crowded, Machine.exec_cons, Machine.exec_nil, Store]
  dsimp only
  rw [crowdedOp, applyOp, hrecord, settle, pendingRows_recorded, List.map_append,
    List.map_map, hchannel, ← List.map_map, List.zipIdx_map_fst, hentries]
  rfl

lemma length_crowded : (pendingRows crowded).length = 101 := by
  rw [← List.length_map OutboxRow.channel, channels_crowded]
  simp [crowdedPlan]

/-- A registry in which these channels have adapters after all. -/
def crowdedRegistry : NotifierRegistry where
  channels := crowdedPlan.channels
  channels_nodup := crowdedPlan.channels_nodup
  channels_strip := by
    intro c hc
    rcases List.mem_append.mp hc with hc | hc
    · obtain ⟨i, _, rfl⟩ := List.mem_map.mp hc
      exact strip_deadChannel i
    · rw [List.mem_singleton.mp hc]
      decide
  channels_ne := by
    intro c hc hblank
    refine crowdedPlan.channels_ne c hc ?_
    rw [hblank]
    decide

/-- One of them is out of order. -/
def oneDown : ℕ → Surroundings := fun _ =>
  ⟨fun _ => .epoch, fun n => if n.channel = deadChannel 0 then some "timed out" else none⟩

/-- **Of 101 rows one fails in the first call**, and two calls attempt them all. -/
theorem backlog_attempted_iff_oneDown :
    (pendingRows crowded).length = 101 ∧
      failedAttempts crowdedRegistry oneDown 100 crowded 0 = 1 ∧
      ∀ r ∈ pendingRows crowded, ∃ r' ∈ (calls crowdedRegistry oneDown 100 crowded
        (((pendingRows crowded).length + 99) / 100)).outbox.rows,
        r'.id = r.id ∧ r.attempts < r'.attempts := by
  have hfails : ∀ r ∈ (pendingRows crowded).take 100,
      (failure crowdedRegistry (oneDown 0) r).isSome = decide (r.channel = deadChannel 0) := by
    intro r hr
    have hregistered : (notificationOf r).channel ∈ crowdedRegistry.channels := by
      rw [show crowdedRegistry.channels = _ from channels_crowded.symm]
      exact List.mem_map_of_mem (List.mem_of_mem_take hr)
    have hsend : (oneDown 0).send (notificationOf r) =
        if r.channel = deadChannel 0 then some "timed out" else none := rfl
    rw [failure, attempt, NotifierRegistry.get_eq_none.mpr hregistered, Option.none_or, hsend]
    split_ifs with hdown <;> simp [hdown]
  have hone : failedAttempts crowdedRegistry oneDown 100 crowded 0 = 1 := by
    have hcount : ((pendingRows crowded).take 100).countP (fun r => r.channel = deadChannel 0) =
        (crowdedPlan.channels.take 100).count (deadChannel 0) := by
      rw [← channels_crowded, ← List.map_take, List.count, List.countP_map]
      rfl
    rw [failedAttempts, calls, List.countP_congr fun r hr => by rw [hfails r hr], hcount,
      crowdedPlan, List.take_left' (by simp), List.count_map_of_injective _ _ deadChannel_injective]
    decide
  refine ⟨length_crowded, hone, (backlog_attempted_iff _ _ reachable_crowded).1.mpr ?_⟩
  rw [length_crowded]
  simp [hone]

/-- **A working channel is starved.**  Of 101 undelivered rows the first hundred go to channels
without an adapter.  Each of two calls attempts those hundred, and never the row of `email`. -/
theorem email_starved :
    Reachable crowded ∧ (pendingRows crowded).length = 101 ∧
      (∃ r ∈ pendingRows crowded, r.channel = "email") ∧ Works .email quiet "email" ∧
      ¬ ∀ r ∈ pendingRows crowded, ∃ r' ∈ (calls .email quiet 100 crowded 2).outbox.rows,
          r'.id = r.id ∧ r.attempts < r'.attempts := by
  have hdead : ∀ r ∈ (pendingRows crowded).take 100,
      (failure .email (quiet 0) r).isSome = true := by
    intro r hr
    have hchannel : r.channel ∈ crowdedPlan.channels.take 100 := by
      rw [← channels_crowded, ← List.map_take]
      exact List.mem_map_of_mem hr
    have hne : r.channel ≠ "email" := by
      rw [crowdedPlan, List.take_left' (by simp)] at hchannel
      have hnodup := crowdedPlan.channels_nodup
      exact (List.nodup_append.mp hnodup).2.2 _ hchannel _ (List.mem_singleton_self _)
    have hdead : NotifierRegistry.email.get r.channel ≠ none := fun h =>
      hne (List.mem_singleton.mp (NotifierRegistry.get_eq_none.mp h))
    simpa [failure, attempt, notificationOf, Option.isSome_iff_ne_none] using Or.inl hdead
  have hfailed : failedAttempts .email quiet 100 crowded 0 = 100 := by
    rw [failedAttempts, calls, List.countP_eq_length.mpr hdead, List.length_take, length_crowded]
    rfl
  have hemail : ∃ r ∈ pendingRows crowded, r.channel = "email" := by
    rw [← List.mem_map, channels_crowded]
    exact List.mem_append_right _ (List.mem_singleton_self _)
  refine ⟨reachable_crowded, length_crowded, hemail, ?_, fun h => ?_⟩
  · exact ⟨NotifierRegistry.get_eq_none.mpr (List.mem_singleton_self _), fun _ _ _ => rfl⟩
  · have hfew := (attempted_iff .email quiet 100 reachable_crowded.consistent 2).mp h
    simp [length_crowded, hfailed] at hfew

end WebChecker
