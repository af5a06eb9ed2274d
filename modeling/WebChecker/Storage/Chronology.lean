import Mathlib.Data.Prod.Lex
import Mathlib.Data.String.Basic
import WebChecker.Python.Ordering
import WebChecker.Storage.Thresholds

/-!
# Age by text and age by time

A run is expired if the text of its time is smaller than that of the threshold, and the oldest
observation is the smallest text.  Texts compare by the wall clock and only then by the offset, and
the snapshot may come from a clock of any zone, so both answers can be wrong about the instant.

`chronologicalAge_iff` says exactly when they are right: no threshold lies between the instant of a
run and its wall clock reading (`Straddles`), and the run that is written as the first is the first
(`OldestFirst`).  Where every time is recorded in UTC, both hold (`chronologicalAge_of_utc`).
-/

namespace WebChecker

open Relational Runs

/-! ## The status of the store -/

/-- `MIN` of a text column; `NULL` of no rows. -/
def minText : List String → Option String
  | [] => none
  | s :: ss => some (ss.foldl (fun a b => if b < a then b else a) s)

structure StorageStatus where
  databaseBytes : ℕ
  oldestObservation : Option Datetime
  checkRuns : ℕ
  pendingNotifications : ℕ

/-- `status`; the size of the file is that of the file system. -/
def status (databaseBytes : ℕ) (db : Database) : Except StorageError StorageStatus :=
  raiseAs "could not inspect database status" do
    let oldestObservation ← parseOptionalTime (minText (db.checkRuns.rows.map CheckRun.checkedAt))
    return ⟨databaseBytes, oldestObservation, db.checkRuns.rows.length,
      db.outbox.rows.countP OutboxRow.pending⟩

/-! ## Instants -/

/-- The place of a time among written times. -/
def Datetime.written (d : Datetime) : ℕ ×ₗ ℕ := toLex (d.wall, (d.utcoffset.getD .utc).rank)

/-- The time of a run. -/
def CheckRun.time (run : CheckRun) : Datetime := (fromisoformat run.checkedAt).getD .epoch

/-- The time denotes the earliest instant of the runs; there is none if there are no runs. -/
def Earliest (runs : List CheckRun) : Option Datetime → Prop
  | none => runs = []
  | some d => (∃ run ∈ runs, run.time.utcInstant = d.utcInstant) ∧
      ∀ run ∈ runs, d.utcInstant ≤ run.time.utcInstant

/-- The retention pass deletes what is older than the threshold, among the runs that it may delete,
and the oldest observation is the oldest one. -/
structure ChronologicalAge (db : Database) (observationsBefore notificationsBefore : Datetime)
    (databaseBytes : ℕ) : Prop where
  deleted_iff : ∀ run ∈ db.checkRuns.rows, run.id ∉ latestRunIds db → holdsPending db run = false →
    (run ∉ (prune db observationsBefore notificationsBefore).2.checkRuns.rows ↔
      run.time.utcInstant < observationsBefore.utcInstant)
  oldest : ∃ s, status databaseBytes db = .ok s ∧ Earliest db.checkRuns.rows s.oldestObservation

/-- A run that is written as the first one is the first one. -/
def OldestFirst (runs : List CheckRun) : Prop :=
  runs = [] ∨ ∃ run ∈ runs, ∀ other ∈ runs,
    run.time.written ≤ other.time.written ∧ run.time.utcInstant ≤ other.time.utcInstant

instance (runs : List CheckRun) : Decidable (OldestFirst runs) :=
  inferInstanceAs (Decidable (_ ∨ _))

/-! ## Written times -/

/-- The run's time is aware and is what its column says. -/
def CheckRun.Written (run : CheckRun) : Prop :=
  run.time.utcoffset.isSome = true ∧ run.time.isoformat = run.checkedAt

lemma Datetime.isoformat_detached (d : Datetime) : d.detached.isoformat = d.isoformat := by
  rw [isoformat, isoformat, utcoffset_detached]
  rfl

lemma written_checkRunRow (jobId : String) {checkedAt : Datetime}
    (haware : checkedAt.tzinfo.isSome = true) (id : ℕ) :
    (checkRunRow jobId checkedAt id).Written := by
  have htime : (checkRunRow jobId checkedAt id).time = checkedAt.detached := by
    simp [CheckRun.time, checkRunRow, fromisoformat_isoformat]
  rw [CheckRun.Written, htime, Datetime.utcoffset_detached, Datetime.isoformat_detached]
  refine ⟨?_, rfl⟩
  simpa [Datetime.utcoffset] using haware

/-- **Every run has been written by an aware time.** -/
def RunsWritten (db : Database) : Prop := ∀ run ∈ db.checkRuns.rows, run.Written

lemma RunsWritten.step {db db' : Database} {op : StoreOp} {result : StoreResult}
    (h : RunsWritten db) (heffect : OpEffect db op result db') : RunsWritten db' := by
  cases heffect with
  | @recorded jobId result =>
      intro run hrun
      simp only [recorded, RowTable.rows_insert, List.mem_append, List.mem_singleton] at hrun
      rcases hrun with hrun | rfl
      · exact h run hrun
      · exact written_checkRunRow jobId result.checkedAt_aware _
  | pruned =>
      intro run hrun
      rw [prune_snd] at hrun
      exact h run (RowTable.mem_deleteWhere.mp hrun).1
  | _ => exact h

lemma Reachable.runsWritten {db : Database} (h : Reachable db) : RunsWritten db := by
  obtain ⟨ops, rfl⟩ := h
  have start : RunsWritten Database.empty := by
    intro run hrun
    simp [Database.empty] at hrun
  exact effect_induction_all (P := fun _ db => RunsWritten db) consistent_empty start
    (fun h _ heffect => h.step heffect) ops

/-- **The texts of two runs** compare as their places among written times. -/
lemma CheckRun.Written.lt_iff {a b : CheckRun} (ha : a.Written) (hb : b.Written) :
    a.checkedAt < b.checkedAt ↔ a.time.written < b.time.written := by
  obtain ⟨o, ho⟩ := Option.isSome_iff_exists.mp ha.1
  obtain ⟨o', ho'⟩ := Option.isSome_iff_exists.mp hb.1
  rw [← ha.2, ← hb.2, isoformat_lt_isoformat ho ho', Datetime.written, Datetime.written,
    Prod.Lex.toLex_lt_toLex, ho, ho']
  rfl

/-- The place determines the instant. -/
lemma Datetime.utcInstant_of_written {d e : Datetime} (h : d.written = e.written) :
    d.utcInstant = e.utcInstant := by
  rw [written, written, EmbeddingLike.apply_eq_iff_eq, Prod.mk.injEq] at h
  rw [utcInstant, utcInstant, instant_eq, instant_eq, h.1, UtcOffset.rank_injective h.2]

/-! ## Expired runs -/

/-- **The text of a run is smaller than that of the threshold** if its wall clock reading is. -/
lemma CheckRun.Written.lt_threshold {run : CheckRun} (h : run.Written) {before : Datetime}
    (hutc : before.utcoffset = some .utc) :
    run.checkedAt < before.isoformat ↔ (run.time.wall : ℤ) < before.utcInstant := by
  rw [← h.2, isoformat_lt_iff_wall h.1 hutc]

/-- **A run is deleted for its age**, if nothing else keeps it, exactly if its wall clock reading is
before the threshold. -/
lemma deleted_iff_wall {db : Database} (hwritten : RunsWritten db)
    {observationsBefore : Datetime} (hutc : observationsBefore.utcoffset = some .utc)
    (notificationsBefore : Datetime) {run : CheckRun} (hrun : run ∈ db.checkRuns.rows)
    (hlatest : run.id ∉ latestRunIds db) (hpending : holdsPending db run = false) :
    run ∉ (prune db observationsBefore notificationsBefore).2.checkRuns.rows ↔
      (run.time.wall : ℤ) < observationsBefore.utcInstant := by
  rw [prune_snd, RowTable.mem_deleteWhere, ← (hwritten run hrun).lt_threshold hutc]
  simp [hrun, expiredRun, hlatest, hpending]

/-! ## The oldest observation -/

/-- The least text of a list that has begun with `s`. -/
lemma foldl_least (l : List String) (s : String) :
    (l.foldl (fun a b => if b < a then b else a) s) ∈ s :: l ∧
      ∀ t ∈ s :: l, l.foldl (fun a b => if b < a then b else a) s ≤ t := by
  induction l generalizing s with
  | nil => simp
  | cons b l ih =>
      rw [List.foldl_cons]
      by_cases hb : b < s
      · obtain ⟨hmem, hle⟩ := ih b
        rw [if_pos hb]
        refine ⟨List.mem_cons_of_mem _ hmem, ?_⟩
        rintro t (_ | ⟨_, ht⟩)
        · exact (hle b List.mem_cons_self).trans hb.le
        · exact hle t ht
      · obtain ⟨hmem, hle⟩ := ih s
        rw [if_neg hb]
        refine ⟨?_, ?_⟩
        · rcases List.mem_cons.mp hmem with hs | hl
          · exact List.mem_cons.mpr (Or.inl hs)
          · exact List.mem_cons_of_mem _ (List.mem_cons_of_mem _ hl)
        · intro t ht
          rcases List.mem_cons.mp ht with rfl | ht
          · exact hle t List.mem_cons_self
          · rcases List.mem_cons.mp ht with rfl | ht
            · exact (hle s List.mem_cons_self).trans (not_lt.mp hb)
            · exact hle t (List.mem_cons_of_mem _ ht)

/-- What is read from the column of a run is its time. -/
lemma CheckRun.Written.fromisoformat_eq {run : CheckRun} (h : run.Written) :
    fromisoformat run.checkedAt = some run.time := by
  have hread := fromisoformat_isoformat run.time
  rw [h.2] at hread
  rw [CheckRun.time, hread, Option.getD_some]

/-- **The run whose time is reported** is the one that is written as the first. -/
lemma exists_oldest {db : Database} (hwritten : RunsWritten db) (hne : db.checkRuns.rows ≠ [])
    (databaseBytes : ℕ) :
    ∃ run ∈ db.checkRuns.rows,
      (∀ other ∈ db.checkRuns.rows, run.time.written ≤ other.time.written) ∧
      ∃ s, status databaseBytes db = .ok s ∧ s.oldestObservation = some run.time := by
  obtain ⟨first, rest, hrows⟩ := List.exists_cons_of_ne_nil hne
  obtain ⟨hmem, hle⟩ := foldl_least (rest.map CheckRun.checkedAt) first.checkedAt
  generalize htext : (rest.map CheckRun.checkedAt).foldl (fun a b => if b < a then b else a)
    first.checkedAt = text at hmem hle
  rw [← List.map_cons (f := CheckRun.checkedAt), ← hrows] at hmem hle
  obtain ⟨run, hrun, rfl⟩ := List.mem_map.mp hmem
  have hmin : minText (db.checkRuns.rows.map CheckRun.checkedAt) = some run.checkedAt := by
    rw [hrows, List.map_cons, minText, htext]
  refine ⟨run, hrun, fun other hother => ?_, ⟨databaseBytes, some run.time,
    db.checkRuns.rows.length, db.outbox.rows.countP OutboxRow.pending⟩, ?_, rfl⟩
  · rw [← not_lt, ← (hwritten other hother).lt_iff (hwritten run hrun), not_lt]
    exact hle _ (List.mem_map_of_mem hother)
  · rw [status, hmin, parseOptionalTime, parseTime, (hwritten run hrun).fromisoformat_eq]
    rfl

/-- **The oldest observation is the oldest one** exactly if the run written as the first is. -/
lemma earliest_iff {db : Database} (hwritten : RunsWritten db) (databaseBytes : ℕ) :
    (∃ s, status databaseBytes db = .ok s ∧ Earliest db.checkRuns.rows s.oldestObservation) ↔
      OldestFirst db.checkRuns.rows := by
  by_cases hrows : db.checkRuns.rows = []
  · rw [status, hrows]
    exact iff_of_true ⟨_, rfl, rfl⟩ (Or.inl rfl)
  · obtain ⟨run, hrun, hfirst, s, hs, holdest⟩ := exists_oldest hwritten hrows databaseBytes
    rw [hs, OldestFirst, or_iff_right hrows]
    simp only [Except.ok.injEq, exists_eq_left', holdest]
    constructor
    · rintro ⟨_, hleast⟩
      exact ⟨run, hrun, fun other hother => ⟨hfirst other hother, hleast other hother⟩⟩
    · rintro ⟨first, hmem, hleast⟩
      have hwritten : run.time.written = first.time.written :=
        le_antisymm (hfirst first hmem) (hleast run hrun).1
      refine ⟨⟨run, hrun, rfl⟩, fun other hother => ?_⟩
      rw [Datetime.utcInstant_of_written hwritten]
      exact (hleast other hother).2

/-! ## The equivalence -/

/-- **Age is chronological** exactly if no threshold lies between the instant and the wall clock
reading of a run that may be deleted, and the run that is written as the first one is the first. -/
theorem chronologicalAge_iff {db : Database} (hreach : Reachable db)
    {observationsBefore : Datetime} (hutc : observationsBefore.utcoffset = some .utc)
    (notificationsBefore : Datetime) (databaseBytes : ℕ) :
    ChronologicalAge db observationsBefore notificationsBefore databaseBytes ↔
      (∀ run ∈ db.checkRuns.rows, run.id ∉ latestRunIds db → holdsPending db run = false →
        ¬ Straddles observationsBefore run.time) ∧ OldestFirst db.checkRuns.rows := by
  have hwritten := hreach.runsWritten
  have hdeleted : ∀ run ∈ db.checkRuns.rows, run.id ∉ latestRunIds db →
      holdsPending db run = false →
      ((run ∉ (prune db observationsBefore notificationsBefore).2.checkRuns.rows ↔
        run.time.utcInstant < observationsBefore.utcInstant) ↔
        ¬ Straddles observationsBefore run.time) := by
    intro run hrun hlatest hpending
    rw [deleted_iff_wall hwritten hutc notificationsBefore hrun hlatest hpending, wall_iff_instant]
  rw [← earliest_iff hwritten databaseBytes]
  constructor
  · rintro ⟨hruns, holdest⟩
    refine ⟨fun run hrun hlatest hpending => ?_, holdest⟩
    exact (hdeleted run hrun hlatest hpending).mp (hruns run hrun hlatest hpending)
  · rintro ⟨hruns, holdest⟩
    refine ⟨fun run hrun hlatest hpending => ?_, holdest⟩
    exact (hdeleted run hrun hlatest hpending).mpr (hruns run hrun hlatest hpending)

/-- **Where every time is recorded in UTC**, age is chronological. -/
theorem chronologicalAge_of_utc {db : Database} (hreach : Reachable db)
    (hruns : ∀ run ∈ db.checkRuns.rows, run.time.utcoffset = some .utc)
    {observationsBefore : Datetime} (hutc : observationsBefore.utcoffset = some .utc)
    (notificationsBefore : Datetime) (databaseBytes : ℕ) :
    ChronologicalAge db observationsBefore notificationsBefore databaseBytes := by
  have hwritten := hreach.runsWritten
  constructor
  · intro run hrun hlatest hpending
    rw [Datetime.utcInstant_eq_wall (hruns run hrun)]
    exact deleted_iff_wall hwritten hutc notificationsBefore hrun hlatest hpending
  · rw [earliest_iff hwritten databaseBytes]
    by_cases hrows : db.checkRuns.rows = []
    · exact Or.inl hrows
    · obtain ⟨run, hrun, hfirst, _⟩ := exists_oldest hwritten hrows databaseBytes
      refine Or.inr ⟨run, hrun, fun other hother => ⟨hfirst other hother, ?_⟩⟩
      have hwall := hfirst other hother
      rw [Datetime.written, Datetime.written, Prod.Lex.toLex_le_toLex] at hwall
      rw [Datetime.utcInstant_eq_wall (hruns run hrun),
        Datetime.utcInstant_eq_wall (hruns other hother)]
      omega

/-! ## Times east of UTC -/

/-- The offset of a zone five hours east. -/
def fiveHoursEast : UtcOffset := ⟨18000000000, by decide⟩

/-- A snapshot that was taken at midnight of January 2 five hours east, on January 1 in UTC. -/
def eastOfUtc : CheckResult :=
  let snapshot := CheckResult.onSecond .unavailable
  { snapshot with
    checkedAt := { snapshot.checkedAt with tzinfo := some (.fixed fiveHoursEast) }
    checkedAt_aware := rfl }

/-- The snapshot and a later one. -/
def eastHistory : List StoreOp := [
  .recordSuccess "job" eastOfUtc .email,
  .recordSuccess "job" (.onThird .unavailable) .email]

/-- Eight in the evening of January 1. -/
def newYearEvening : Datetime :=
  { Datetime.epoch with time := { Time.min with hour := 20, hour_lt := by decide } }

/-- With a threshold two days later the age is right. -/
theorem chronologicalAge_laterThreshold :
    ChronologicalAge (Store.exec .empty eastHistory) (january 3 (by decide)) (january 3 (by decide))
      4096 := by
  refine (chronologicalAge_iff ⟨eastHistory, rfl⟩ rfl (january 3 (by decide)) 4096).mpr ?_
  decide +kernel

/-- **A run that is older than the threshold is kept**: its wall clock is ahead of UTC. -/
theorem eastOfUtc_kept :
    Reachable (Store.exec .empty eastHistory) ∧ newYearEvening.utcoffset = some .utc ∧
      ¬ ChronologicalAge (Store.exec .empty eastHistory) newYearEvening newYearEvening 4096 := by
  refine ⟨⟨eastHistory, rfl⟩, rfl, fun h => absurd h.deleted_iff ?_⟩
  decide +kernel

end WebChecker
