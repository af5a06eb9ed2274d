import WebChecker.Storage.Integrity

/-!
# What a snapshot comes back as

Every comparison of snapshots is against the one the store reads back.  `StoredAs` says what an
opportunity comes back as: its start time at a fixed offset, its attributes in JSON form, and
everything else as it was.  `encodeObservations_decode` is the round trip through the rows of a
run.

`latestSnapshot` reads a job's latest run, and the rest of the file says what moves it: a
recorded success of the job, and nothing else.  In particular a retention pass does not
(`latestSnapshot_prune`), because it spares the latest run of every job together with its
observations.
-/

namespace WebChecker

open Relational Results

/-! ## Stored forms -/

/-- The opportunity comes back from the store as `o'`. -/
def StoredAs (o o' : Opportunity) : Prop :=
  ∃ attributes, jsonForm o.attributes = .ok attributes ∧
    o' = o.represented (o.startsAt.map Datetime.detached) attributes

lemma StoredAs.id_eq {o o' : Opportunity} (h : StoredAs o o') : o'.id = o.id := by
  obtain ⟨_, _, rfl⟩ := h
  rfl

lemma StoredAs.availability_eq {o o' : Opportunity} (h : StoredAs o o') :
    o'.availability = o.availability := by
  obtain ⟨_, _, rfl⟩ := h
  rfl

/-- The snapshot comes back from the store as `s'`. -/
structure SnapshotStoredAs (s s' : CheckResult) : Prop where
  checkedAt : s'.checkedAt = s.checkedAt.detached
  opportunities : List.Forall₂ StoredAs s.opportunities s'.opportunities

/-- There is one stored form. -/
lemma StoredAs.unique {o a b : Opportunity} (ha : StoredAs o a) (hb : StoredAs o b) : a = b := by
  obtain ⟨as, has, rfl⟩ := ha
  obtain ⟨bs, hbs, rfl⟩ := hb
  rw [has, Except.ok.injEq] at hbs
  rw [hbs]

lemma SnapshotStoredAs.unique {s a b : CheckResult} (ha : SnapshotStoredAs s a)
    (hb : SnapshotStoredAs s b) : a = b := by
  have hlist : ∀ {os as bs : List Opportunity}, List.Forall₂ StoredAs os as →
      List.Forall₂ StoredAs os bs → as = bs := by
    intro os as bs has
    induction has generalizing bs with
    | nil => intro hbs; cases hbs; rfl
    | cons ho _ ih => intro hbs; cases hbs with | cons ho' hos' => rw [ho.unique ho', ih hos']
  cases a
  cases b
  obtain ⟨hta, hla⟩ := ha
  obtain ⟨htb, hlb⟩ := hb
  simp only at hta htb hla hlb
  obtain rfl := hlist hla hlb
  subst hta htb
  rfl

/-- Looking an identifier up commutes with storing. -/
lemma SnapshotStoredAs.byId {s s' : CheckResult} (h : SnapshotStoredAs s s') (id : String) :
    Option.Rel StoredAs (s.byId id) (s'.byId id) := by
  have hfind : ∀ {os os' : List Opportunity}, List.Forall₂ StoredAs os os' →
      Option.Rel StoredAs (os.find? fun o => o.id == id) (os'.find? fun o => o.id == id) := by
    intro os os' hos
    induction hos with
    | nil => exact Option.Rel.none
    | @cons o o' os os' ho _ ih =>
        rw [List.find?_cons, List.find?_cons, ho.id_eq]
        cases o.id == id with
        | true => exact Option.Rel.some ho
        | false => exact ih
  exact hfind h.opportunities

/-! ## The round trip through rows -/

lemma decodeObservation_encode {runId position : ℕ} {o : Opportunity} {row : Observation}
    (h : encodeObservation runId position o = .ok row) :
    ∃ o', StoredAs o o' ∧ decodeObservation row = .ok o' := by
  obtain ⟨json, hjson, rfl⟩ := encodeObservation_eq_ok.mp h
  have htime : parseOptionalTime (o.startsAt.map Datetime.isoformat)
      = .ok (o.startsAt.map Datetime.detached) := by
    cases o.startsAt with
    | none => rfl
    | some d => simp [parseOptionalTime, parseTime, fromisoformat_isoformat]
  refine ⟨_, ⟨loadsAttributes json, ?_, rfl⟩, ?_⟩
  · rw [jsonForm, hjson, map_ok]
  · rw [decodeObservation, htime, ok_bind, Opportunity.create_ok]

/-- **The rows of a snapshot decode to its stored form.** -/
lemma encodeObservations_decode {runId : ℕ} {os : List Opportunity} {position : ℕ}
    {rows : List Observation} (h : encodeObservations runId position os = .ok rows) :
    ∃ os', List.Forall₂ StoredAs os os' ∧ rows.mapM decodeObservation = .ok os' := by
  induction os generalizing position rows with
  | nil =>
      rw [encodeObservations, Except.ok.injEq] at h
      exact ⟨[], .nil, by rw [← h]; rfl⟩
  | cons o os ih =>
      obtain ⟨row, hrow, rest, hrest, rfl⟩ := encodeObservations_cons_eq_ok.mp h
      obtain ⟨o', ho', hdecode⟩ := decodeObservation_encode hrow
      obtain ⟨os', hos', hdecodes⟩ := ih hrest
      refine ⟨o' :: os', .cons ho' hos', ?_⟩
      simp [hdecode, hdecodes]

lemma encodeObservations_increasing {runId : ℕ} {os : List Opportunity} {position : ℕ}
    {rows : List Observation} (h : encodeObservations runId position os = .ok rows) :
    rows.Pairwise fun a b => a.position ≤ b.position := by
  induction os generalizing position rows with
  | nil =>
      rw [encodeObservations, Except.ok.injEq] at h
      exact h ▸ .nil
  | cons o os ih =>
      obtain ⟨row, hrow, rest, hrest, rfl⟩ := encodeObservations_cons_eq_ok.mp h
      obtain ⟨json, _, rfl⟩ := encodeObservation_eq_ok.mp hrow
      refine List.pairwise_cons.mpr ⟨fun x hx => ?_, ih hrest⟩
      have := (encodeObservations_mem hrest x hx).2
      dsimp only
      omega

lemma ids_of_storedAs {os os' : List Opportunity} (h : List.Forall₂ StoredAs os os') :
    os'.map Opportunity.id = os.map Opportunity.id := by
  induction h with
  | nil => rfl
  | cons ho _ ih => rw [List.map_cons, List.map_cons, ho.id_eq, ih]

/-- The constructor accepts what a snapshot's rows decode to. -/
lemma create_of_storedAs (s : CheckResult) {os' : List Opportunity}
    (h : List.Forall₂ StoredAs s.opportunities os') :
    ∃ s', SnapshotStoredAs s s' ∧ CheckResult.create s.checkedAt.detached os' = .ok s' := by
  have haware : s.checkedAt.detached.tzinfo.isSome := by
    rw [Datetime.tzinfo_isSome_detached]
    exact s.checkedAt_aware
  have hids : (os'.map Opportunity.id).Nodup := by
    rw [ids_of_storedAs h]
    exact s.ids_nodup
  exact ⟨⟨_, os', haware, hids⟩, ⟨rfl, h⟩, by rw [CheckResult.create, dif_pos haware, dif_pos hids]⟩

/-! ## The latest run -/

/-- The latest run of a job is one of its runs, and no run of the job has a larger id. -/
lemma latestRun_eq_some {db : Database} {jobId : String} {run : CheckRun}
    (h : latestRun db jobId = some run) : run ∈ db.checkRuns.rows ∧ run.jobId = jobId := by
  have hmem := List.mem_filter.mp (List.mem_of_getLast? h)
  exact ⟨hmem.1, by simpa using hmem.2⟩

lemma latestRun_recorded_self (db : Database) (jobId : String) (result : CheckResult)
    (plan : NotificationPlan) (ts : List OpportunityTransition) (rows : List Observation) :
    latestRun (recorded db jobId result plan ts rows) jobId
      = some (checkRunRow jobId result.checkedAt db.checkRuns.nextId) := by
  simp [latestRun, recorded, RowTable.rows_insert, List.filter_append, checkRunRow]

lemma latestRun_recorded_of_ne (db : Database) {jobId other : String} (h : other ≠ jobId)
    (result : CheckResult) (plan : NotificationPlan) (ts : List OpportunityTransition)
    (rows : List Observation) :
    latestRun (recorded db other result plan ts rows) jobId = latestRun db jobId := by
  simp [latestRun, recorded, RowTable.rows_insert, List.filter_append, checkRunRow, h]

/-- A deletion that spares the last element with a property leaves it the last one. -/
lemma getLast?_filter_of_kept {α : Type} {l : List α} {p q : α → Bool} {x : α}
    (h : (l.filter p).getLast? = some x) (hq : q x = true) :
    ((l.filter q).filter p).getLast? = some x := by
  obtain ⟨front, hfront⟩ := List.getLast?_eq_some_iff.mp h
  have hcomm : (l.filter q).filter p = (l.filter p).filter q := by
    simp only [List.filter_filter, Bool.and_comm]
  rw [hcomm, hfront, List.filter_append, List.filter_singleton, hq]
  exact List.getLast?_concat

lemma latestRun_prune (db : Database) (observationsBefore notificationsBefore : Datetime)
    (jobId : String) :
    latestRun (prune db observationsBefore notificationsBefore).2 jobId = latestRun db jobId := by
  rw [prune_snd, latestRun, RowTable.deleteWhere]
  cases h : latestRun db jobId with
  | none =>
      have hnone := List.getLast?_eq_none_iff.mp h
      rw [List.getLast?_eq_none_iff, List.filter_filter, List.filter_eq_nil_iff]
      intro run hrun hp
      rw [Bool.and_eq_true] at hp
      exact absurd hp.1 (List.filter_eq_nil_iff.mp hnone run hrun)
  | some run =>
      refine getLast?_filter_of_kept h ?_
      -- the latest run of a job is among the spared ones
      have hspared : run.id ∈ latestRunIds db := by
        obtain ⟨hmem, rfl⟩ := latestRun_eq_some h
        exact List.mem_filterMap.mpr ⟨run.jobId, List.mem_map_of_mem hmem, by rw [h]; rfl⟩
      simp [expiredRun, hspared]

/-! ## The latest snapshot -/

/-- Reading a snapshot looks at the job's latest run and that run's observations. -/
lemma latestSnapshot_congr {db db' : Database} {jobId : String}
    (hrun : latestRun db' jobId = latestRun db jobId)
    (hobs : ∀ run, latestRun db jobId = some run →
      observationsOf db' run.id = observationsOf db run.id) :
    latestSnapshot db' jobId = latestSnapshot db jobId := by
  rw [latestSnapshot, latestSnapshot, hrun]
  cases h : latestRun db jobId with
  | none => rfl
  | some run =>
      dsimp only
      rw [hobs run h]

/-- A job with a run has a snapshot to compare with. -/
lemma latestSnapshot_isSome {db : Database} {jobId : String} (hrun : (latestRun db jobId).isSome)
    {previous : Option CheckResult} (h : latestSnapshot db jobId = .ok previous) :
    previous.isSome := by
  obtain ⟨run, hr⟩ := Option.isSome_iff_exists.mp hrun
  rw [latestSnapshot, hr] at h
  simp only [bind_eq_ok, pure_eq_ok, Except.ok.injEq] at h
  obtain ⟨_, _, _, _, _, _, rfl⟩ := h
  rfl

/-- **A retention pass leaves the latest snapshot of every job alone.** -/
theorem latestSnapshot_prune (db : Database) (observationsBefore notificationsBefore : Datetime)
    (jobId : String) :
    latestSnapshot (prune db observationsBefore notificationsBefore).2 jobId
      = latestSnapshot db jobId := by
  have hrun := latestRun_prune db observationsBefore notificationsBefore jobId
  refine latestSnapshot_congr hrun fun run h => ?_
  have hkept : run ∈ (prune db observationsBefore notificationsBefore).2.checkRuns.rows :=
    (latestRun_eq_some (hrun.trans h)).1
  have hspared : run.id ∉ expiredRunIds db observationsBefore := by
    rw [prune_snd] at hkept
    exact (RowTable.mem_ids_deleteWhere.mp (RowTable.rowId_mem_ids hkept)).2
  rw [prune_snd, observationsOf, observationsOf, List.filter_filter]
  refine congrArg _ (List.filter_congr fun o _ => ?_)
  by_cases ho : o.runId = run.id
  · simp [ho, hspared]
  · simp [ho]

/-- A success of another job leaves it alone too. -/
lemma latestSnapshot_recorded_of_ne {db : Database} {jobId other : String}
    (h : other ≠ jobId) {result : CheckResult} (plan : NotificationPlan)
    (ts : List OpportunityTransition) {rows : List Observation}
    (hrows : encodeObservations db.checkRuns.nextId 0 result.opportunities = .ok rows) :
    latestSnapshot (recorded db other result plan ts rows) jobId = latestSnapshot db jobId := by
  refine latestSnapshot_congr (latestRun_recorded_of_ne db h result plan ts rows) fun run hrun => ?_
  have hold : run.id < db.checkRuns.nextId :=
    RowTable.rowId_lt_nextId (latestRun_eq_some hrun).1
  have hnone : (rows.filter fun o => o.runId == run.id) = [] := by
    refine List.filter_eq_nil_iff.mpr fun o ho => ?_
    rw [(encodeObservations_mem hrows o ho).1]
    simp
    omega
  rw [observationsOf, recorded, List.filter_append, hnone, List.append_nil, observationsOf]

/-- **After a recorded success the latest snapshot is the recorded one, in stored form.** -/
theorem latestSnapshot_recorded_self {db : Database} (hc : Consistent db) (jobId : String)
    (result : CheckResult) (plan : NotificationPlan) (ts : List OpportunityTransition)
    {rows : List Observation}
    (hrows : encodeObservations db.checkRuns.nextId 0 result.opportunities = .ok rows) :
    ∃ s', SnapshotStoredAs result s' ∧
      latestSnapshot (recorded db jobId result plan ts rows) jobId = .ok (some s') := by
  have hobs :
      observationsOf (recorded db jobId result plan ts rows) db.checkRuns.nextId = rows := by
    have hold : (db.observations.filter fun o => o.runId == db.checkRuns.nextId) = [] := by
      refine List.filter_eq_nil_iff.mpr fun o ho hid => ?_
      rw [beq_iff_eq] at hid
      exact absurd (hid ▸ hc.observation_run o ho) db.checkRuns.nextId_notMem_ids
    have hnew : (rows.filter fun o => o.runId == db.checkRuns.nextId) = rows := by
      refine List.filter_eq_self.mpr fun o ho => ?_
      rw [(encodeObservations_mem hrows o ho).1, beq_self_eq_true]
    rw [observationsOf, recorded, List.filter_append, hold, hnew, List.nil_append]
    exact (encodeObservations_increasing hrows).insertionSort_eq
  obtain ⟨os', hos', hdecode⟩ := encodeObservations_decode hrows
  obtain ⟨s', hs', hcreate⟩ := create_of_storedAs result hos'
  refine ⟨s', hs', ?_⟩
  have htime : parseTime result.checkedAt.isoformat = .ok result.checkedAt.detached := by
    rw [parseTime, fromisoformat_isoformat]
  rw [latestSnapshot, latestRun_recorded_self]
  dsimp only [checkRunRow]
  rw [hobs, hdecode, ok_bind, htime, ok_bind, hcreate]
  rfl

end WebChecker
