import WebChecker.Python.Ordering
import WebChecker.Storage.Integrity

/-!
# Two age thresholds and one cascade

A retention pass has a threshold for runs and one for delivered notifications.  Delivered rows go
by two routes, though: the pass deletes those older than their own threshold, and the deletion of
a run takes the outbox rows of its transitions along, whatever their age.  The count the pass
returns is taken on the first route only.

`prune_independent_iff` is the exact condition under which the thresholds are independent after
all: no delivered row that its own threshold keeps belongs to an expired run, and for no delivery
does the threshold lie between its instant and its wall clock reading (`Straddles`).
-/

namespace WebChecker

open Relational Runs

/-- The time the row was delivered at is earlier than the threshold. -/
def deliveredEarlier (before : Datetime) (n : OutboxRow) : Bool :=
  n.deliveredAt.any fun t => (fromisoformat t).any fun d => decide (d.earlier before)

/-- The text of the row's delivery time compares with the threshold as the time does. -/
def Comparable (before : Datetime) (n : OutboxRow) : Prop :=
  completedBefore before n = deliveredEarlier before n

/-- The threshold, a time in UTC, lies between the instant and the wall clock reading of a time. -/
def Straddles (before d : Datetime) : Prop :=
  (d.utcInstant < before.utcInstant ∧ before.utcInstant ≤ d.wall) ∨
    (d.wall < before.utcInstant ∧ before.utcInstant ≤ d.utcInstant)

instance (before d : Datetime) : Decidable (Straddles before d) :=
  inferInstanceAs (Decidable (_ ∨ _))

/-- The time at which a row was delivered. -/
def OutboxRow.deliveryTime (n : OutboxRow) : Datetime :=
  (n.deliveredAt.bind fromisoformat).getD .epoch

/-- The number of outbox rows that a retention pass removes. -/
def removedRows (db : Database) (observationsBefore notificationsBefore : Datetime) : ℕ :=
  db.outbox.rows.countP fun n =>
    n ∉ (prune db observationsBefore notificationsBefore).2.outbox.rows

/-- The pass removes a delivered row exactly if its own threshold says so, and returns how many
rows it removed. -/
structure IndependentThresholds (db : Database)
    (observationsBefore notificationsBefore : Datetime) : Prop where
  removed_iff : ∀ n ∈ db.outbox.rows, n.pending = false →
    (n ∉ (prune db observationsBefore notificationsBefore).2.outbox.rows ↔
      deliveredEarlier notificationsBefore n = true)
  counted : (prune db observationsBefore notificationsBefore).1.completedNotificationsDeleted
    = removedRows db observationsBefore notificationsBefore

/-! ## The two routes -/

/-- **A row is removed by its own threshold or with its run.** -/
lemma removed_by_prune {db : Database} (observationsBefore notificationsBefore : Datetime)
    {n : OutboxRow} (hn : n ∈ db.outbox.rows) :
    n ∉ (prune db observationsBefore notificationsBefore).2.outbox.rows ↔
      completedBefore notificationsBefore n = true ∨
        n.transitionId ∈ expiredTransitionIds db observationsBefore := by
  rw [prune_snd]
  simp only [RowTable.mem_deleteWhere, hn, true_and, Bool.not_eq_false, Bool.or_eq_true,
    decide_eq_true_eq]

/-- A count grows with its condition unless the condition adds nothing. -/
lemma countP_eq_iff_of_imp {α : Type} {l : List α} {p q : α → Bool}
    (h : ∀ a ∈ l, p a = true → q a = true) :
    l.countP p = l.countP q ↔ ∀ a ∈ l, q a = true → p a = true := by
  induction l with
  | nil => simp
  | cons a l ih =>
      have ih := ih fun x hx => h x (List.mem_cons_of_mem _ hx)
      have hle : l.countP p ≤ l.countP q :=
        List.countP_mono_left fun x hx => h x (List.mem_cons_of_mem _ hx)
      have ha := h a List.mem_cons_self
      rw [List.forall_mem_cons, ← ih, List.countP_cons, List.countP_cons]
      cases hp : p a <;> cases hq : q a <;> simp_all
      omega

/-- The returned count covers every removed row exactly if no row goes with its run alone. -/
lemma counted_iff {db : Database} (observationsBefore notificationsBefore : Datetime) :
    (prune db observationsBefore notificationsBefore).1.completedNotificationsDeleted
        = removedRows db observationsBefore notificationsBefore ↔
      ∀ n ∈ db.outbox.rows, n.transitionId ∈ expiredTransitionIds db observationsBefore →
        completedBefore notificationsBefore n = true := by
  have hremoved := fun n hn => @removed_by_prune db observationsBefore notificationsBefore n hn
  rw [removedRows, prune, countP_eq_iff_of_imp]
  · refine forall₂_congr fun n hn => ?_
    rw [decide_eq_true_eq]
    constructor
    · intro h hcascade
      exact h ((hremoved n hn).mpr (Or.inr hcascade))
    · intro h hgone
      exact ((hremoved n hn).mp hgone).elim id h
  · intro n hn hown
    exact decide_eq_true ((hremoved n hn).mpr (Or.inl hown))

/-! ## Times and their texts -/

/-- The reading and the instant are on the same side of the threshold unless it is between them. -/
lemma wall_iff_instant {before d : Datetime} :
    ((d.wall : ℤ) < before.utcInstant ↔ d.utcInstant < before.utcInstant) ↔
      ¬ Straddles before d := by
  rw [Straddles]
  omega

/-- The offset of the time is known. -/
def Datetime.Aware (d : Datetime) : Prop := d.utcoffset.isSome = true

def Datetime.InUtc (d : Datetime) : Prop := d.utcoffset = some .utc

lemma Datetime.InUtc.aware {d : Datetime} (h : d.InUtc) : d.Aware := by
  rw [Aware, h]
  rfl

/-- Every delivered row was marked at a time of some kind. -/
def DeliveredAt (kind : Datetime → Prop) (db : Database) : Prop :=
  ∀ n ∈ db.outbox.rows, ∀ t ∈ n.deliveredAt, ∃ d : Datetime, kind d ∧ d.isoformat = t

/-- What the notification service records: deliveries at `datetime.now(UTC)`; any other caller may
have an aware time of its own. -/
def MarksAt (kind : Datetime → Prop) : StoreOp → Prop
  | .markNotificationDelivered _ time => kind time
  | _ => True

section Marked

variable {kind : Datetime → Prop}

/-- The text of an aware time compares with the threshold as the time does, unless the threshold
lies between the two. -/
lemma comparable_iff {before d : Datetime} (hutc : before.utcoffset = some .utc) (haware : d.Aware)
    {n : OutboxRow} (hn : n.deliveredAt = some d.isoformat) :
    n.deliveryTime = d.detached ∧
      (deliveredEarlier before n = true ↔ n.deliveryTime.utcInstant < before.utcInstant) ∧
        (Comparable before n ↔ ¬ Straddles before n.deliveryTime) := by
  have htime : n.deliveryTime = d.detached := by
    rw [OutboxRow.deliveryTime, hn, Option.bind_some, fromisoformat_isoformat, Option.getD_some]
  have hawareBefore : before.utcoffset.isSome = true := by rw [hutc]; rfl
  have hearlier : deliveredEarlier before n = true ↔
      n.deliveryTime.utcInstant < before.utcInstant := by
    rw [deliveredEarlier, hn, Option.any_some, fromisoformat_isoformat, Option.any_some,
      decide_eq_true_eq, Datetime.earlier_detached, Datetime.earlier_iff_utcInstant haware
        hawareBefore, htime, Datetime.utcInstant_detached]
  refine ⟨htime, hearlier, ?_⟩
  have hwall : n.deliveryTime.wall = d.wall := by
    rw [htime]
    rfl
  rw [Comparable, Bool.eq_iff_iff, hearlier, completedBefore, hn, Option.any_some,
    decide_eq_true_eq, isoformat_lt_iff_wall haware hutc, ← wall_iff_instant, hwall]

lemma DeliveredAt.step {db db' : Database} {op : StoreOp} {result : StoreResult}
    (h : DeliveredAt kind db) (hop : MarksAt kind op) (heffect : OpEffect db op result db') :
    DeliveredAt kind db' := by
  cases heffect with
  | failed => exact h
  | recorded =>
      intro n hn
      rcases mem_outbox_recorded hn with hn | ⟨_, hp, _⟩
      · exact h n hn
      · rw [Option.isNone_iff_eq_none.mp hp]
        simp
  | alerted => exact h
  | counted => exact h
  | evaluated => exact h
  | @delivered id time =>
      refine RowTable.forall_mem_updateWhere (h := rowId_deliveredRow time) fun n hn => ?_
      split_ifs
      · intro t ht
        simp only [deliveredRow, Option.mem_def, Option.some.injEq] at ht
        exact ⟨time, hop, ht⟩
      · exact h n hn
  | @attempted id time error =>
      refine RowTable.forall_mem_updateWhere (h := rowId_failedRow time error) fun n hn => ?_
      split_ifs <;> exact h n hn
  | alertDelivered => exact h
  | alertAttempted => exact h
  | pruned =>
      intro n hn
      rw [prune_snd] at hn
      exact h n (RowTable.mem_deleteWhere.mp hn).1

lemma deliveredAt_run {ops : List StoreOp} (hops : ∀ op ∈ ops, MarksAt kind op) :
    DeliveredAt kind (Store.exec .empty ops) := by
  have start : DeliveredAt kind Database.empty := by
    intro n hn
    simp [Database.empty] at hn
  exact effect_induction (P := fun _ db => DeliveredAt kind db) consistent_empty start
    (fun h hop _ heffect => h.step hop heffect) hops

/-- A delivered row of a run that marks deliveries at aware times. -/
lemma DeliveredAt.comparable_iff {db : Database} (h : DeliveredAt kind db)
    (haware : ∀ d, kind d → d.Aware) {before : Datetime} (hutc : before.utcoffset = some .utc)
    {n : OutboxRow} (hn : n ∈ db.outbox.rows) (hdelivered : n.pending = false) :
    ∃ d, kind d ∧ n.deliveryTime = d.detached ∧
      (deliveredEarlier before n = true ↔ n.deliveryTime.utcInstant < before.utcInstant) ∧
        (Comparable before n ↔ ¬ Straddles before n.deliveryTime) := by
  rw [OutboxRow.pending, Option.isNone_eq_false_iff, Option.isSome_iff_exists] at hdelivered
  obtain ⟨t, ht⟩ := hdelivered
  obtain ⟨d, hkind, rfl⟩ := h n hn t ht
  exact ⟨d, hkind, WebChecker.comparable_iff hutc (haware d hkind) ht⟩

end Marked

/-- A time in UTC is its wall clock reading, so no threshold lies between the two. -/
lemma not_straddles_of_inUtc {before d : Datetime} (h : d.InUtc) :
    ¬ Straddles before d.detached := by
  have hdetached : d.detached.utcoffset = some .utc := (Datetime.utcoffset_detached d).trans h
  rw [← wall_iff_instant, Datetime.utcInstant_eq_wall hdetached]

/-! ## When the thresholds are independent -/

/-- **The thresholds are independent exactly if no delivered row that its own threshold keeps
belongs to an expired run** — and if, on top of that, the texts of delivery times compare with the
threshold as the times do.  In a run that marks deliveries at aware times they do unless the
threshold lies between the instant of a delivery and its wall clock reading, which it never does if
deliveries are marked in UTC. -/
theorem prune_independent_iff (observationsBefore notificationsBefore : Datetime)
    (hutc : notificationsBefore.utcoffset = some .utc) :
    (∀ db, IndependentThresholds db observationsBefore notificationsBefore ↔
      ∀ n ∈ db.outbox.rows, n.pending = false →
        Comparable notificationsBefore n ∧
          (n.transitionId ∈ expiredTransitionIds db observationsBefore →
            deliveredEarlier notificationsBefore n = true)) ∧
    (∀ ops, (∀ op ∈ ops, MarksAt Datetime.Aware op) →
      (IndependentThresholds (Store.exec .empty ops) observationsBefore notificationsBefore ↔
        ∀ n ∈ (Store.exec .empty ops).outbox.rows, n.pending = false →
          ¬ Straddles notificationsBefore n.deliveryTime ∧
            (n.transitionId ∈ expiredTransitionIds (Store.exec .empty ops) observationsBefore →
              n.deliveryTime.utcInstant < notificationsBefore.utcInstant))) ∧
    ∀ ops, (∀ op ∈ ops, MarksAt Datetime.InUtc op) →
      (IndependentThresholds (Store.exec .empty ops) observationsBefore notificationsBefore ↔
        ∀ n ∈ (Store.exec .empty ops).outbox.rows, n.pending = false →
          n.transitionId ∈ expiredTransitionIds (Store.exec .empty ops) observationsBefore →
            deliveredEarlier notificationsBefore n = true) := by
  have general : ∀ db, IndependentThresholds db observationsBefore notificationsBefore ↔
      ∀ n ∈ db.outbox.rows, n.pending = false →
        Comparable notificationsBefore n ∧
          (n.transitionId ∈ expiredTransitionIds db observationsBefore →
            deliveredEarlier notificationsBefore n = true) := by
    intro db
    constructor
    · rintro ⟨hremoved, hcounted⟩ n hn hp
      have hremoved := hremoved n hn hp
      rw [removed_by_prune _ _ hn] at hremoved
      have hcascade := (counted_iff _ _).mp hcounted n hn
      refine ⟨?_, fun hex => hremoved.mp (Or.inr hex)⟩
      rw [Comparable, Bool.eq_iff_iff, ← hremoved]
      exact ⟨Or.inl, fun h => h.elim id hcascade⟩
    · intro h
      refine ⟨fun n hn hp => ?_, (counted_iff _ _).mpr fun n hn hex => ?_⟩
      · obtain ⟨hcmp, hcascade⟩ := h n hn hp
        rw [removed_by_prune _ _ hn, hcmp]
        exact ⟨fun h => h.elim id hcascade, Or.inl⟩
      · cases hp : n.pending with
        | true => exact absurd hex (pending_not_expired hn hp)
        | false =>
            obtain ⟨hcmp, hcascade⟩ := h n hn hp
            exact hcmp.trans (hcascade hex)
  refine ⟨general, fun ops hops => (general _).trans ?_, fun ops hops => (general _).trans ?_⟩
  · refine forall₂_congr fun n hn => forall_congr' fun hp => ?_
    obtain ⟨d, -, -, hearlier, hcomparable⟩ :=
      (deliveredAt_run hops).comparable_iff (fun _ h => h) hutc hn hp
    rw [hcomparable, hearlier]
  · refine forall₂_congr fun n hn => forall_congr' fun hp => ?_
    obtain ⟨d, hd, htime, -, hcomparable⟩ :=
      (deliveredAt_run hops).comparable_iff (fun _ h => h.aware) hutc hn hp
    rw [hcomparable, htime]
    exact and_iff_right (not_straddles_of_inUtc hd)

/-! ## A late delivery -/

/-- A notification of January 2 is delivered on January 10; a later run is the latest one. -/
def lateDelivery : List StoreOp := [
  .recordSuccess "job" (.onFirst .unavailable) .email,
  .recordSuccess "job" (.onSecond .available) .email,
  .recordSuccess "job" (.onThird .available) .email,
  .markNotificationDelivered 1 (january 10 (by decide))]

/-- With a threshold after the delivery the notification is due anyway. -/
theorem prune_independent_lateDelivery :
    IndependentThresholds (Store.exec .empty lateDelivery) (january 5 (by decide))
      (january 11 (by decide)) := by
  have hmarks : ∀ op ∈ lateDelivery, MarksAt Datetime.InUtc op := by
    simp only [lateDelivery, List.forall_mem_cons]
    exact ⟨trivial, trivial, trivial, rfl, List.forall_mem_nil _⟩
  refine ((prune_independent_iff (january 5 (by decide)) (january 11 (by decide)) rfl).2.2
    lateDelivery hmarks).mpr ?_
  decide +kernel

/-- **A row younger than its threshold is removed**, and not counted: its run is older than the
threshold for runs. -/
theorem prune_removes_lateDelivery :
    let db := Store.exec .empty lateDelivery
    let pruned := prune db (january 5 (by decide)) (january 8 (by decide))
    Reachable db ∧
      ¬ IndependentThresholds db (january 5 (by decide)) (january 8 (by decide)) ∧
      (∃ n ∈ db.outbox.rows, n.deliveredAt = some (january 10 (by decide)).isoformat ∧
        n ∉ pruned.2.outbox.rows) ∧
      pruned.1.completedNotificationsDeleted = 0 := by
  intro db pruned
  refine ⟨⟨lateDelivery, rfl⟩, fun h => absurd h.counted ?_, ?_, ?_⟩
  · decide +kernel
  · decide +kernel
  · decide +kernel

end WebChecker
