import WebChecker.Storage.Delivery
import WebChecker.Storage.Snapshots

/-!
# The outbox against the history of snapshots

`committed` lists, from a history, the snapshots recorded for a job with their plans.  The
invariant `LatestCommitted` ties the latest run of a job to the last of them: whatever else has
happened, reading the job's latest snapshot gives that one in stored form.

A commit compares the new snapshot with what it reads, that is with the stored form.  That makes
no difference to the rows it writes (`recorded_congr`) and to the returned transitions none but
the representation of the opportunity before the change (`SameTransition`).
-/

namespace WebChecker

open Relational Results Runs

/-! ## Comparing against a stored form -/

/-- The transitions agree, up to how the opportunity before the change is represented. -/
structure SameTransition (t t' : OpportunityTransition) : Prop where
  type_eq : t'.type = t.type
  id_eq : t'.opportunityId = t.opportunityId
  current_eq : t'.current = t.current
  previous_rel : Option.Rel StoredAs t.previous t'.previous

lemma SameTransition.of_previous_none {t : OpportunityTransition} (h : t.previous = none) :
    SameTransition t t := ⟨rfl, rfl, rfl, h ▸ Option.Rel.none⟩

lemma currentTransition_stored {p p' : CheckResult} (h : SnapshotStoredAs p p')
    (o : Opportunity) :
    Option.Rel SameTransition (currentTransition p o) (currentTransition p' o) := by
  rw [currentTransition, currentTransition]
  rcases rel_cases (h.byId o.id) with ⟨hp, hp'⟩ | ⟨old, old', hp, hp', hrel⟩
  · rw [hp, hp']
    exact Option.Rel.some (.of_previous_none rfl)
  · rw [hp, hp']
    dsimp only
    rw [hrel.availability_eq]
    split
    · exact Option.Rel.none
    · exact Option.Rel.some ⟨rfl, rfl, rfl, Option.Rel.some hrel⟩

lemma previousTransition_stored (c : CheckResult) {o o' : Opportunity} (h : StoredAs o o') :
    Option.Rel SameTransition (previousTransition c o) (previousTransition c o') := by
  rw [previousTransition, previousTransition, h.id_eq]
  cases c.byId o.id with
  | none => exact Option.Rel.some ⟨rfl, h.id_eq, rfl, Option.Rel.some h⟩
  | some x => exact Option.Rel.none

/-- **Comparing against the stored form** finds the same transitions. -/
theorem transitionsSince_stored {previous previous' : Option CheckResult}
    (h : Option.Rel SnapshotStoredAs previous previous') (c : CheckResult) :
    List.Forall₂ SameTransition (transitionsSince previous c) (transitionsSince previous' c) := by
  cases h with
  | none =>
      refine List.forall₂_same.mpr fun t ht => .of_previous_none ?_
      obtain ⟨o, _, rfl⟩ := List.mem_map.mp ht
      rfl
  | @some p p' hp =>
      refine List.rel_append ?_ ?_
      · refine List.rel_filterMap (R := (· = ·)) ?_ (List.forall₂_eq_eq_eq ▸ rfl)
        rintro o _ rfl
        exact currentTransition_stored hp o
      · exact List.rel_filterMap (fun o o' ho => previousTransition_stored c ho) hp.opportunities

lemma SameTransition.transitionRow_eq {t t' : OpportunityTransition} (h : SameTransition t t')
    (runId : ℕ) : transitionRow runId t = transitionRow runId t' := by
  have hprev : t'.previous.map Opportunity.availability
      = t.previous.map Opportunity.availability := by
    rcases rel_cases h.previous_rel with ⟨hp, hp'⟩ | ⟨o, o', hp, hp', hrel⟩
    · rw [hp, hp']
    · rw [hp, hp', Option.map_some, Option.map_some, hrel.availability_eq]
  funext id
  rw [transitionRow, transitionRow, h.type_eq, h.id_eq, h.current_eq, hprev]

/-- The opportunity a transition is about is written with the same title and URL. -/
lemma SameTransition.opportunity_eq {t t' : OpportunityTransition} (h : SameTransition t t') :
    t'.opportunity.title = t.opportunity.title ∧
      t'.opportunity.bookingUrl = t.opportunity.bookingUrl := by
  cases hc : t.current with
  | some o =>
      have hc' : t'.current = some o := h.current_eq.trans hc
      simp [OpportunityTransition.opportunity, hc, hc']
  | none =>
      have hc' : t'.current = none := h.current_eq.trans hc
      rcases rel_cases h.previous_rel with ⟨hp, _⟩ | ⟨o, o', hp, hp', _, _, rfl⟩
      · exact absurd t.state_ok (by simp [hc, hp])
      · simp [OpportunityTransition.opportunity, hc, hc', hp, hp', Opportunity.represented]

lemma SameTransition.outboxRow_eq {t t' : OpportunityTransition} (h : SameTransition t t')
    (jobId : String) (checkedAt : Datetime) (transitionId : ℕ) (channel : String) :
    outboxRow jobId checkedAt transitionId t channel
      = outboxRow jobId checkedAt transitionId t' channel := by
  obtain ⟨htitle, hurl⟩ := h.opportunity_eq
  funext id
  rw [outboxRow, outboxRow, h.type_eq, h.id_eq, h.current_eq, htitle, hurl]

/-- Entries of the outbox that lead to the same row. -/
def SameEntry (e e' : ℕ × OpportunityTransition × String) : Prop :=
  e'.1 = e.1 ∧ SameTransition e.2.1 e'.2.1 ∧ e'.2.2 = e.2.2

lemma outboxEntries_stored {ts ts' : List OpportunityTransition}
    (h : List.Forall₂ SameTransition ts ts') (plan : NotificationPlan) (n : ℕ) :
    List.Forall₂ SameEntry (outboxEntries plan n ts) (outboxEntries plan n ts') := by
  induction h generalizing n with
  | nil => exact .nil
  | @cons t t' ts ts' ht _ ih =>
      rw [outboxEntries, outboxEntries, ht.type_eq]
      refine List.rel_append ?_ (ih (n + 1))
      split
      · refine List.rel_map (R := (· = ·)) ?_ (List.forall₂_eq_eq_eq ▸ rfl)
        rintro c _ rfl
        exact ⟨rfl, ht, rfl⟩
      · exact .nil

/-- **What is written does not depend on the representation.** -/
lemma recorded_congr {ts ts' : List OpportunityTransition}
    (h : List.Forall₂ SameTransition ts ts') (db : Database) (jobId : String)
    (result : CheckResult) (plan : NotificationPlan) (rows : List Observation) :
    recorded db jobId result plan ts' rows = recorded db jobId result plan ts rows := by
  have htransitions := RowTable.insertAll_congr (h := rowId_newTransition db.checkRuns.nextId)
    (fun t t' ht => ht.transitionRow_eq db.checkRuns.nextId) h db.transitions
  have houtbox := RowTable.insertAll_congr (h := rowId_entryRow jobId result.checkedAt)
    (fun e e' (he : SameEntry e e') => by
      funext id
      rw [entryRow, entryRow, he.1, he.2.2, he.2.1.outboxRow_eq])
    (outboxEntries_stored h plan db.transitions.nextId) db.outbox
  rw [recorded, recorded, htransitions, houtbox]

/-! ## Committed snapshots -/

/-- The snapshot and plan of a recorded success of the job. -/
def committedBy (jobId : String) (e : StoreEvent) : Option (CheckResult × NotificationPlan) :=
  match e.op, e.result with
  | .recordSuccess j result plan, .recorded _ => if j = jobId then some (result, plan) else none
  | _, _ => none

/-- The snapshots committed for a job, in commit order, with their plans. -/
def committed (jobId : String) (history : List StoreEvent) :
    List (CheckResult × NotificationPlan) := history.filterMap (committedBy jobId)

/-- The snapshots alone. -/
def snapshots (jobId : String) (history : List StoreEvent) : List CheckResult :=
  (committed jobId history).map Prod.fst

lemma snapshots_snoc (jobId : String) (history : List StoreEvent) (e : StoreEvent) :
    snapshots jobId (history ++ [e])
      = snapshots jobId history ++ ((committedBy jobId e).map Prod.fst).toList := by
  rw [snapshots, committed, List.filterMap_append, List.map_append, snapshots, committed]
  cases h : committedBy jobId e <;> simp [h]

/-- **The latest run of every job holds its last committed snapshot**, in stored form. -/
def LatestCommitted (history : List StoreEvent) (db : Database) : Prop :=
  ∀ jobId, ∃ stored, latestSnapshot db jobId = .ok stored ∧
    Option.Rel SnapshotStoredAs (snapshots jobId history).getLast? stored

/-- An event that commits nothing and leaves runs and observations alone. -/
lemma LatestCommitted.quiet {history : List StoreEvent} {db : Database}
    (inv : LatestCommitted history db) {e : StoreEvent}
    (hcommitted : ∀ jobId, committedBy jobId e = none)
    (hsnapshot : ∀ jobId, latestSnapshot e.after jobId = latestSnapshot db jobId) :
    LatestCommitted (history ++ [e]) e.after := by
  intro jobId
  rw [snapshots_snoc, hcommitted, Option.map_none, Option.toList_none, List.append_nil, hsnapshot]
  exact inv jobId

/-- **One operation keeps the latest runs and the history together.** -/
lemma LatestCommitted.step {history : List StoreEvent} {db db' : Database} (hc : Consistent db)
    (inv : LatestCommitted history db) {op : StoreOp} {result : StoreResult}
    (h : OpEffect db op result db') : LatestCommitted (history ++ [⟨db, op, result, db'⟩]) db' := by
  cases h with
  | failed => exact inv.quiet (fun _ => by cases op <;> rfl) fun _ => rfl
  | @recorded j result plan previous rows hprevious hrows =>
      intro jobId
      rw [snapshots_snoc]
      by_cases hj : j = jobId
      · subst hj
        obtain ⟨s', hs', hlatest⟩ := latestSnapshot_recorded_self hc j result plan
          (transitionsSince previous result) hrows
        refine ⟨some s', hlatest, ?_⟩
        simpa [committedBy] using Option.Rel.some hs'
      · obtain ⟨stored, hstored, hrel⟩ := inv jobId
        refine ⟨stored, ?_, ?_⟩
        · rw [latestSnapshot_recorded_of_ne hj plan _ hrows, hstored]
        · simpa [committedBy, hj] using hrel
  | alerted => exact inv.quiet (fun _ => rfl) fun _ => rfl
  | counted => exact inv.quiet (fun _ => rfl) fun _ => rfl
  | evaluated => exact inv.quiet (fun _ => rfl) fun _ => rfl
  | delivered => exact inv.quiet (fun _ => rfl) fun _ => rfl
  | attempted => exact inv.quiet (fun _ => rfl) fun _ => rfl
  | alertDelivered => exact inv.quiet (fun _ => rfl) fun _ => rfl
  | alertAttempted => exact inv.quiet (fun _ => rfl) fun _ => rfl
  | pruned => exact inv.quiet (fun _ => rfl) fun jobId => latestSnapshot_prune db _ _ jobId

lemma latestCommitted_run (ops : List StoreOp) :
    LatestCommitted (Store.history .empty ops) (Store.exec .empty ops) := by
  refine effect_induction_all (P := LatestCommitted) consistent_empty ?_ ?_ ops
  · exact fun jobId => ⟨none, rfl, Option.Rel.none⟩
  · exact fun inv hs heffect => inv.step hs heffect

/-! ## Enqueued rows -/

/-- The outbox rows an operation created. -/
def enqueued (e : StoreEvent) : List OutboxRow :=
  e.after.outbox.rows.filter fun n => n.id ∉ e.before.outbox.ids

/-- The row announces that an opportunity of the job became available. -/
def announcesAvailable (jobId channel id : String) (n : OutboxRow) : Bool :=
  n.jobId == jobId && n.channel == channel && n.transitionType == .becameAvailable &&
    n.opportunityId == id

/-- The rows a recorded success created. -/
lemma enqueued_recorded (db : Database) (op : StoreOp) (res : StoreResult) (jobId : String)
    (result : CheckResult) (plan : NotificationPlan) (ts : List OpportunityTransition)
    (rows : List Observation) :
    enqueued ⟨db, op, res, recorded db jobId result plan ts rows⟩
      = ((outboxEntries plan db.transitions.nextId ts).zipIdx db.outbox.nextId).map fun p =>
          entryRow jobId result.checkedAt p.1 p.2 := by
  have hold : (db.outbox.rows.filter fun n => n.id ∉ db.outbox.ids) = [] :=
    List.filter_eq_nil_iff.mpr fun n hn => by simpa using RowTable.rowId_mem_ids hn
  rw [enqueued]
  dsimp only [recorded]
  rw [RowTable.rows_insertAll, List.filter_append, hold, List.nil_append]
  refine List.filter_eq_self.mpr fun n hn => ?_
  have hge := RowTable.rowId_ge_of_mem_inserted (rowId_entryRow jobId result.checkedAt) hn
  refine decide_eq_true fun hmem => ?_
  obtain ⟨r, hr, hid⟩ := RowTable.mem_ids.mp hmem
  have := RowTable.rowId_lt_nextId hr
  simp only [rowId_outboxRow] at *
  omega

/-- Of one selected transition, one row goes to a channel. -/
lemma countP_entries {plan : NotificationPlan} {channel : String}
    (hchannel : channel ∈ plan.channels) {q : OpportunityTransition → Bool}
    (hq : ∀ t, q t = true → t.type ∈ plan.on) (ts : List OpportunityTransition) (n : ℕ) :
    (outboxEntries plan n ts).countP (fun e => e.2.2 == channel && q e.2.1) = ts.countP q := by
  induction ts generalizing n with
  | nil => rfl
  | cons t ts ih =>
      rw [outboxEntries, List.countP_append, ih, List.countP_cons, Nat.add_comm]
      congr 1
      by_cases ht : q t = true
      · rw [if_pos (hq t ht), List.countP_map, if_pos ht]
        have hcount : plan.channels.countP (· == channel) = 1 :=
          List.count_eq_one_of_mem plan.channels_nodup hchannel
        simpa [Function.comp_def, ht] using hcount
      · rw [if_neg ht]
        split
        · rw [List.countP_map, List.countP_eq_zero]
          intro c _ hc
          exact ht (Bool.and_eq_true_iff.mp hc).2
        · rfl

/-- Identifiers do not repeat, so a list of transitions counts what is about one of them once. -/
lemma countP_transitions {ts : List OpportunityTransition} {id : String}
    {p : TransitionType → Bool} (hnodup : (ts.map OpportunityTransition.opportunityId).Nodup) :
    (ts.countP fun t => p t.type && t.opportunityId == id)
      = if ∃ t ∈ ts, p t.type = true ∧ t.opportunityId = id then 1 else 0 := by
  induction ts with
  | nil => simp
  | cons t ts ih =>
      rw [List.map_cons, List.nodup_cons] at hnodup
      rw [List.countP_cons, ih hnodup.2]
      by_cases ht : p t.type = true ∧ t.opportunityId = id
      · have hrest : ¬ ∃ t' ∈ ts, p t'.type = true ∧ t'.opportunityId = id := by
          rintro ⟨t', ht', _, hid⟩
          exact hnodup.1 (List.mem_map.mpr ⟨t', ht', hid.trans ht.2.symm⟩)
        simp [ht, hrest]
      · have ht' : (p t.type && t.opportunityId == id) = false := by
          simpa [Bool.and_eq_false_iff, not_and_or] using ht
        simp [ht, ht']

lemma nodup_transitionsSince (previous : Option CheckResult) (c : CheckResult) :
    ((transitionsSince previous c).map OpportunityTransition.opportunityId).Nodup := by
  cases previous with
  | none => exact nodup_detectInitialTransitions c
  | some p => exact nodup_detectTransitions p c

lemma exists_becameAvailable_since {previous : Option CheckResult} {c : CheckResult}
    {id : String} :
    (∃ t ∈ transitionsSince previous c, t.type = .becameAvailable ∧ t.opportunityId = id) ↔
      previous.any (becomesAvailable id · c) = true := by
  cases previous with
  | none =>
      simp only [transitionsSince, Option.any_none, Bool.false_eq_true, iff_false]
      rintro ⟨t, ht, htype, _⟩
      obtain ⟨o, _, rfl⟩ := List.mem_map.mp ht
      exact absurd htype (by simp [initialTransition])
  | some p => rw [Option.any_some, becomesAvailable_iff, transitionsSince]

/-- **The rows of a commit for one channel and opportunity**, of the selected types that `p`
admits: one if there is such a transition, and none otherwise. -/
lemma countP_enqueued_of_type (db : Database) (op : StoreOp) (res : StoreResult)
    (jobId : String) {channel : String} (id : String) (result : CheckResult)
    {plan : NotificationPlan} (previous : Option CheckResult) (rows : List Observation)
    (hchannel : channel ∈ plan.channels)
    {p : TransitionType → Bool} (hp : ∀ type, p type = true → type ∈ plan.on) :
    (enqueued ⟨db, op, res, recorded db jobId result plan (transitionsSince previous result)
        rows⟩).countP
        (fun n => n.jobId == jobId && n.channel == channel && p n.transitionType &&
          n.opportunityId == id)
      = if ∃ t ∈ transitionsSince previous result, p t.type = true ∧ t.opportunityId = id then 1
        else 0 := by
  have hfst : ∀ (q : ℕ × OpportunityTransition × String → Bool) (n : ℕ)
      (l : List (ℕ × OpportunityTransition × String)),
      (l.zipIdx n).countP (fun p => q p.1) = l.countP q := by
    intro q n l
    conv_rhs => rw [← List.zipIdx_map_fst n l, List.countP_map]
    rfl
  rw [enqueued_recorded, List.countP_map]
  simp only [Function.comp_def, entryRow, outboxRow, beq_self_eq_true, Bool.true_and,
    Bool.and_assoc]
  rw [hfst fun e => e.2.2 == channel && (p e.2.1.type && e.2.1.opportunityId == id),
    countP_entries hchannel (q := fun t => p t.type && t.opportunityId == id),
    countP_transitions (nodup_transitionsSince previous result)]
  intro t ht
  exact hp t.type (Bool.and_eq_true_iff.mp ht).1

/-- **A commit enqueues one row for an edge to available**, per selected channel, and none if the
opportunity has not become available. -/
lemma countP_enqueued_recorded (db : Database) (op : StoreOp) (res : StoreResult)
    {jobId channel : String} (id : String) (result : CheckResult) {plan : NotificationPlan}
    (previous : Option CheckResult) (rows : List Observation) (hchannel : channel ∈ plan.channels)
    (hon : TransitionType.becameAvailable ∈ plan.on) :
    (enqueued ⟨db, op, res, recorded db jobId result plan (transitionsSince previous result)
        rows⟩).countP (announcesAvailable jobId channel id)
      = if previous.any (becomesAvailable id · result) then 1 else 0 := by
  have hcount := countP_enqueued_of_type db op res jobId id result previous rows hchannel
    (p := fun type => type == .becameAvailable) fun type htype => beq_iff_eq.mp htype ▸ hon
  simp only [beq_iff_eq, exists_becameAvailable_since] at hcount
  exact hcount

/-- A commit of another job enqueues nothing for this one. -/
lemma countP_enqueued_of_ne (db : Database) (op : StoreOp) (res : StoreResult)
    {jobId other : String} (channel id : String) (h : other ≠ jobId) (result : CheckResult)
    (plan : NotificationPlan) (ts : List OpportunityTransition) (rows : List Observation) :
    (enqueued ⟨db, op, res, recorded db other result plan ts rows⟩).countP
      (announcesAvailable jobId channel id) = 0 := by
  rw [enqueued_recorded, List.countP_map, List.countP_eq_zero]
  intro p _
  simp [announcesAvailable, entryRow, outboxRow, h]

/-- Only a recorded success creates outbox rows. -/
lemma enqueued_eq_nil {db db' : Database} {op : StoreOp} {result : StoreResult}
    (h : OpEffect db op result db') (hop : ∀ j s p, op ≠ .recordSuccess j s p) :
    enqueued ⟨db, op, result, db'⟩ = [] := by
  refine List.filter_eq_nil_iff.mpr fun n hn hnew => ?_
  obtain ⟨⟨j, s, p, rfl⟩, _⟩ := h.new_row hn (of_decide_eq_true hnew)
  exact hop j s p rfl

/-- The announcements of a history that an opportunity became available. -/
def announced (jobId channel id : String) (history : List StoreEvent) : ℕ :=
  (history.flatMap enqueued).countP (announcesAvailable jobId channel id)

lemma announced_snoc (jobId channel id : String) (history : List StoreEvent) (e : StoreEvent) :
    announced jobId channel id (history ++ [e])
      = announced jobId channel id history
        + (enqueued e).countP (announcesAvailable jobId channel id) := by
  simp [announced]

/-- **One operation keeps announcements and edges equal in number.** -/
lemma announced_step {history : List StoreEvent} {db db' : Database} {jobId channel id : String}
    (inv : LatestCommitted history db)
    (heq : announced jobId channel id history = availableEdges id (snapshots jobId history))
    {op : StoreOp} {result : StoreResult}
    (hop : ∀ s plan, op = .recordSuccess jobId s plan →
      channel ∈ plan.channels ∧ TransitionType.becameAvailable ∈ plan.on)
    (h : OpEffect db op result db') :
    announced jobId channel id (history ++ [⟨db, op, result, db'⟩])
      = availableEdges id (snapshots jobId (history ++ [⟨db, op, result, db'⟩])) := by
  have hquiet : committedBy jobId ⟨db, op, result, db'⟩ = none →
      (enqueued ⟨db, op, result, db'⟩).countP (announcesAvailable jobId channel id) = 0 →
      announced jobId channel id (history ++ [⟨db, op, result, db'⟩])
        = availableEdges id (snapshots jobId (history ++ [⟨db, op, result, db'⟩])) := by
    intro hnone hzero
    rw [announced_snoc, hzero, snapshots_snoc, hnone, Option.map_none, Option.toList_none,
      List.append_nil, Nat.add_zero, heq]
  have hnil : (∀ j s p, op ≠ .recordSuccess j s p) →
      (enqueued ⟨db, op, result, db'⟩).countP (announcesAvailable jobId channel id) = 0 :=
    fun hne => by rw [enqueued_eq_nil h hne, List.countP_nil]
  cases h with
  | failed =>
      refine hquiet (by cases op <;> rfl) ?_
      rw [enqueued, List.filter_eq_nil_iff.mpr fun n hn => by
        simpa using RowTable.rowId_mem_ids hn, List.countP_nil]
  | @recorded j result plan previous rows hprevious hrows =>
      by_cases hj : j = jobId
      · subst hj
        obtain ⟨hchannel, hon⟩ := hop result plan rfl
        -- the snapshot read back is the stored form of the last one committed
        obtain ⟨stored, hstored, hrel⟩ := inv j
        obtain rfl : stored = previous := by
          rw [hprevious] at hstored
          exact (Except.ok.inj hstored).symm
        rw [recorded_congr (transitionsSince_stored hrel result), announced_snoc, heq,
          countP_enqueued_recorded db _ _ id result _ rows hchannel hon, snapshots_snoc]
        simp [committedBy, availableEdges_snoc]
      · exact hquiet (by simp [committedBy, hj])
          (countP_enqueued_of_ne db _ _ channel id hj result plan _ rows)
  | alerted => exact hquiet rfl (hnil (by simp))
  | counted => exact hquiet rfl (hnil (by simp))
  | evaluated => exact hquiet rfl (hnil (by simp))
  | delivered => exact hquiet rfl (hnil (by simp))
  | attempted => exact hquiet rfl (hnil (by simp))
  | alertDelivered => exact hquiet rfl (hnil (by simp))
  | alertAttempted => exact hquiet rfl (hnil (by simp))
  | pruned => exact hquiet rfl (hnil (by simp))

lemma announced_run {ops : List StoreOp} {jobId channel : String} (id : String)
    (hops : ∀ s plan, StoreOp.recordSuccess jobId s plan ∈ ops →
      channel ∈ plan.channels ∧ TransitionType.becameAvailable ∈ plan.on) :
    announced jobId channel id (Store.history .empty ops)
      = availableEdges id (snapshots jobId (Store.history .empty ops)) := by
  have hadm : ∀ op ∈ ops, ∀ s plan, op = .recordSuccess jobId s plan →
      channel ∈ plan.channels ∧ TransitionType.becameAvailable ∈ plan.on :=
    fun op hmem s plan heq => hops s plan (heq ▸ hmem)
  refine (effect_induction
    (P := fun h s => LatestCommitted h s ∧
      announced jobId channel id h = availableEdges id (snapshots jobId h))
    consistent_empty ⟨fun jobId => ⟨none, rfl, Option.Rel.none⟩, rfl⟩ ?_ hadm).2
  exact fun ⟨inv, heq⟩ hop hs heffect => ⟨inv.step hs heffect, announced_step inv heq hop heffect⟩

/-! ## The outbox receives the selected edges -/

/-- The two nested loops visit the pairs of a selected transition and a channel. -/
lemma outboxEntries_eq_flatMap (plan : NotificationPlan) (n : ℕ)
    (ts : List OpportunityTransition) :
    outboxEntries plan n ts = (ts.zipIdx n).flatMap fun p =>
      if p.1.type ∈ plan.on then plan.channels.map fun c => (p.2, p.1, c) else [] := by
  induction ts generalizing n with
  | nil => rfl
  | cons t ts ih => rw [outboxEntries, ih, List.zipIdx_cons, List.flatMap_cons]

/-- Every row of a commit is of a selected type. -/
lemma enqueued_recorded_type (db : Database) (op : StoreOp) (res : StoreResult) (jobId : String)
    (result : CheckResult) (plan : NotificationPlan) (ts : List OpportunityTransition)
    (rows : List Observation) :
    ∀ n ∈ enqueued ⟨db, op, res, recorded db jobId result plan ts rows⟩,
      n.transitionType ∈ plan.on := by
  intro n hn
  rw [enqueued_recorded, List.mem_map] at hn
  obtain ⟨p, hp, rfl⟩ := hn
  have hentry := List.fst_mem_of_mem_zipIdx hp
  rw [outboxEntries_eq_flatMap, List.mem_flatMap] at hentry
  obtain ⟨q, _, hq⟩ := hentry
  split_ifs at hq with hon
  · obtain ⟨channel, _, heq⟩ := List.mem_map.mp hq
    simpa [← heq, entryRow, outboxRow] using hon
  · simp at hq

/-- A commit that succeeds, read against the history. -/
lemma recorded_history {history : List StoreEvent} {db db' : Database}
    (inv : LatestCommitted history db) {jobId : String} {result : CheckResult}
    {plan : NotificationPlan} {outcome : RecordOutcome}
    (h : OpEffect db (.recordSuccess jobId result plan) (.recorded outcome) db') :
    ∃ stored rows, Option.Rel SnapshotStoredAs (snapshots jobId history).getLast? stored ∧
      outcome = ⟨stored.isNone, transitionsSince stored result⟩ ∧
      db' = recorded db jobId result plan
        (transitionsSince (snapshots jobId history).getLast? result) rows := by
  cases h with
  | @recorded _ _ _ previous rows hprevious hrows =>
      obtain ⟨stored, hstored, hrel⟩ := inv jobId
      obtain rfl : stored = previous := by
        rw [hprevious] at hstored
        exact (Except.ok.inj hstored).symm
      exact ⟨stored, rows, hrel, rfl, recorded_congr (transitionsSince_stored hrel result) ..⟩

/-- **The outbox receives exactly the selected edges of the snapshot history.**  After any run, a
commit for a job compares the snapshot with the last committed one as the store reads it back: it
creates a baseline exactly if there is none, returns the transitions up to the representation of
the opportunity before the change, and writes exactly the rows of the transitions between the two
snapshots and of their selected pairs with a channel.  No other operation creates an outbox row.
In particular, a job whose plans send `became_available` to a channel has enqueued one such row
per edge of its snapshots. -/
theorem outbox_history (ops : List StoreOp) :
    let history := Store.history .empty ops
    let db := Store.exec .empty ops
    (∀ jobId result plan outcome,
      (applyOp db (.recordSuccess jobId result plan)).1 = .recorded outcome →
      let edges := transitionsSince (snapshots jobId history).getLast? result
      let db' := (applyOp db (.recordSuccess jobId result plan)).2
      (outcome.baselineCreated = true ↔ snapshots jobId history = []) ∧
        (∃ stored, Option.Rel SnapshotStoredAs (snapshots jobId history).getLast? stored ∧
          outcome.transitions = transitionsSince stored result) ∧
        List.Forall₂ SameTransition edges outcome.transitions ∧
        db'.transitions.rows = db.transitions.rows ++ (edges.zipIdx db.transitions.nextId).map
          (fun p => transitionRow db.checkRuns.nextId p.1 p.2) ∧
        db'.outbox.rows = db.outbox.rows ++
          (((edges.zipIdx db.transitions.nextId).flatMap fun p =>
            if p.1.type ∈ plan.on then plan.channels.map fun c => (p.2, p.1, c)
            else []).zipIdx db.outbox.nextId).map
              (fun p => outboxRow jobId result.checkedAt p.1.1 p.1.2.1 p.1.2.2 p.2)) ∧
      (∀ op, ∀ n ∈ (applyOp db op).2.outbox.rows, n.id ∉ db.outbox.ids →
        ∃ jobId result plan, op = .recordSuccess jobId result plan) ∧
      ∀ jobId channel id plan, (∀ s p, StoreOp.recordSuccess jobId s p ∈ ops → p = plan) →
        TransitionType.becameAvailable ∈ plan.on → channel ∈ plan.channels →
        announced jobId channel id history = availableEdges id (snapshots jobId history) := by
  intro history db
  have hc : Consistent db :=
    Store.exec_invariant (I := Consistent) (fun _ op h => consistent_apply h op)
      consistent_empty ops
  refine ⟨?_, ?_, ?_⟩
  · intro jobId result plan outcome hout edges db'
    have heffect := applyOp_effect hc (.recordSuccess jobId result plan)
    rw [hout] at heffect
    obtain ⟨stored, rows, hrel, rfl, hdb'⟩ := recorded_history (latestCommitted_run ops) heffect
    refine ⟨?_, ⟨stored, hrel, rfl⟩, transitionsSince_stored hrel result, ?_, ?_⟩
    · rw [← List.getLast?_eq_none_iff]
      rcases rel_cases hrel with ⟨hn, rfl⟩ | ⟨s, s', hs, rfl, _⟩
      · simp [history, hn]
      · simp [history, hs]
    · simp only [db', hdb', recorded]
      rw [RowTable.rows_insertAll]
    · simp only [db', hdb', recorded]
      rw [RowTable.rows_insertAll, outboxEntries_eq_flatMap]
      rfl
  · intro op n hn hnew
    exact ((applyOp_effect hc op).new_row hn hnew).1
  · intro jobId channel id plan hplan hon hchannel
    refine announced_run id fun s p hmem => ?_
    rw [hplan s p hmem]
    exact ⟨hchannel, hon⟩

/-- A first snapshot with the tour available, and what is enqueued for it. -/
theorem outbox_history_baseline :
    let ops := [StoreOp.recordSuccess "job" (.single 1 .unavailable [] (by decide)) .email,
      .recordSuccess "job" (.single 2 .available [] (by decide)) .email]
    announced "job" "email" "tour" (Store.history .empty ops)
        = availableEdges "tour" (snapshots "job" (Store.history .empty ops)) ∧
      announced "job" "email" "tour" (Store.history .empty ops) = 1 := by
  refine ⟨(outbox_history _).2.2 "job" "email" "tour" .email ?_ (by decide) (by decide),
    by decide +kernel⟩
  intro s p hmem
  simp only [List.mem_cons, List.not_mem_nil, or_false, StoreOp.recordSuccess.injEq] at hmem
  rcases hmem with ⟨_, _, hp⟩ | ⟨_, _, hp⟩ <;> exact hp

/-- The attributes of the opportunities before the changes that hold a tuple at top level. -/
def tupleAttributes (ts : List OpportunityTransition) : List String :=
  ts.flatMap fun t => (t.previous.elim [] Opportunity.attributes).filterMap fun item =>
    match item.2 with
    | .tuple _ => some item.1
    | _ => none

/-- The transitions a recorded success returned. -/
def StoreResult.transitions : StoreResult → Option (List OpportunityTransition)
  | .recorded outcome => some outcome.transitions
  | _ => none

lemma StoreResult.transitions_eq_some {result : StoreResult} {ts : List OpportunityTransition}
    (h : result.transitions = some ts) : ∃ outcome, result = .recorded outcome ∧
      outcome.transitions = ts := by
  cases result with
  | recorded outcome => exact ⟨outcome, rfl, by simpa [transitions] using h⟩
  | _ => simp [transitions] at h

/-- **The returned transitions are not those of the committed snapshots** where an attribute is a
tuple: the opportunity before the change comes back with a list. -/
theorem recordSuccess_returns_storedForm :
    let first := CheckResult.single 1 .unavailable [("sizes", .tuple [.int 2])] (by decide)
    let second := CheckResult.single 2 .available [("sizes", .tuple [.int 2])] (by decide)
    let db := Store.exec .empty [.recordSuccess "job" first .email]
    snapshots "job" (Store.history .empty [.recordSuccess "job" first .email]) = [first] ∧
      ∃ outcome, (applyOp db (.recordSuccess "job" second .email)).1 = .recorded outcome ∧
        outcome.transitions ≠ detectTransitions first second := by
  intro first second db
  have hfirst : ((applyOp .empty (.recordSuccess "job" first .email)).1.transitions.map
      tupleAttributes) = some [] := by decide +kernel
  have hsecond : ((applyOp db (.recordSuccess "job" second .email)).1.transitions.map
      tupleAttributes) = some [] := by decide +kernel
  have hdetect : tupleAttributes (detectTransitions first second) = ["sizes"] := by decide +kernel
  constructor
  · obtain ⟨ts, hts, _⟩ := Option.map_eq_some_iff.mp hfirst
    obtain ⟨outcome, hout, _⟩ := StoreResult.transitions_eq_some hts
    simp [snapshots, committed, Machine.history, Machine.event, Store, committedBy, hout]
  · obtain ⟨ts, hts, hnone⟩ := Option.map_eq_some_iff.mp hsecond
    obtain ⟨outcome, hout, rfl⟩ := StoreResult.transitions_eq_some hts
    refine ⟨outcome, hout, fun heq => ?_⟩
    rw [heq, hdetect] at hnone
    simp at hnone

end WebChecker
