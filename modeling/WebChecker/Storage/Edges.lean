import WebChecker.Storage.History

/-!
# The outbox holds edges of the recorded snapshots

`selectedEdges` is what a list of commits has to announce: for every snapshot the transitions since
the one before it that its plan selects, once per channel.  Whatever operations there have been,
every row of the outbox announces a selected edge of the snapshots committed for its job
(`OutboxOfEdges`), and a commit writes a row for each of its own.
-/

namespace WebChecker

open Relational Results Runs

/-! ## Edges -/

/-- A transition that goes to a channel, found by a check at a time. -/
structure SelectedEdge where
  checkedAt : Datetime
  transition : OpportunityTransition
  channel : String

namespace SelectedEdge

/-- The notification of an edge, as it is listed under an id. -/
def notification (edge : SelectedEdge) (jobId : String) (id : ℕ) : PendingNotification where
  id := id
  channel := edge.channel
  jobId := jobId
  transitionType := edge.transition.type
  opportunityId := edge.transition.opportunityId
  opportunityTitle := edge.transition.opportunity.title
  currentAvailability := edge.transition.current.map Opportunity.availability
  bookingUrl := edge.transition.opportunity.bookingUrl
  checkedAt := edge.checkedAt.detached
  attempts := 0

end SelectedEdge

/-- The edges of one commit. -/
def edgesOf (previous : Option CheckResult) (result : CheckResult) (plan : NotificationPlan) :
    List SelectedEdge :=
  (transitionsSince previous result).flatMap fun t =>
    if t.type ∈ plan.on then plan.channels.map fun channel => ⟨result.checkedAt, t, channel⟩ else []

/-- The edges of a list of commits. -/
def selectedEdges (previous : Option CheckResult) :
    List (CheckResult × NotificationPlan) → List SelectedEdge
  | [] => []
  | (result, plan) :: commits => edgesOf previous result plan ++ selectedEdges (some result) commits

lemma mem_edgesOf {previous : Option CheckResult} {result : CheckResult} {plan : NotificationPlan}
    {edge : SelectedEdge} :
    edge ∈ edgesOf previous result plan ↔ edge.checkedAt = result.checkedAt ∧
      edge.transition ∈ transitionsSince previous result ∧ edge.transition.type ∈ plan.on ∧
      edge.channel ∈ plan.channels := by
  rw [edgesOf, List.mem_flatMap]
  constructor
  · rintro ⟨t, ht, hedge⟩
    split_ifs at hedge with hon
    · obtain ⟨channel, hchannel, rfl⟩ := List.mem_map.mp hedge
      exact ⟨rfl, ht, hon, hchannel⟩
    · cases hedge
  · rintro ⟨htime, ht, hon, hchannel⟩
    refine ⟨edge.transition, ht, ?_⟩
    rw [if_pos hon]
    exact List.mem_map.mpr ⟨edge.channel, hchannel, by rw [← htime]⟩

/-- One more commit. -/
lemma selectedEdges_snoc (previous : Option CheckResult)
    (commits : List (CheckResult × NotificationPlan)) (result : CheckResult)
    (plan : NotificationPlan) :
    selectedEdges previous (commits ++ [(result, plan)])
      = selectedEdges previous commits ++
        edgesOf ((commits.map Prod.fst).getLast?.or previous) result plan := by
  induction commits generalizing previous with
  | nil => simp [selectedEdges]
  | cons commit commits ih =>
      obtain ⟨first, firstPlan⟩ := commit
      rw [List.cons_append, selectedEdges, ih, selectedEdges, List.append_assoc]
      congr 2
      cases commits with
      | nil => rfl
      | cons c commits => simp [List.getLast?_cons]

/-! ## Rows -/

lemma exists_mem_zipIdx {α : Type} {l : List α} {a : α} (h : a ∈ l) (n : ℕ) :
    ∃ i, (a, i) ∈ l.zipIdx n := by
  rw [← List.zipIdx_map_fst n l] at h
  obtain ⟨⟨a, i⟩, hi, rfl⟩ := List.mem_map.mp h
  exact ⟨i, hi⟩

lemma mem_outboxEntries {plan : NotificationPlan} {n : ℕ} {ts : List OpportunityTransition}
    {e : ℕ × OpportunityTransition × String} :
    e ∈ outboxEntries plan n ts ↔
      (e.2.1, e.1) ∈ ts.zipIdx n ∧ e.2.1.type ∈ plan.on ∧ e.2.2 ∈ plan.channels := by
  rw [outboxEntries_eq_flatMap, List.mem_flatMap]
  constructor
  · rintro ⟨p, hp, he⟩
    split_ifs at he with hon
    · obtain ⟨channel, hchannel, rfl⟩ := List.mem_map.mp he
      exact ⟨hp, hon, hchannel⟩
    · cases he
  · rintro ⟨hp, hon, hchannel⟩
    refine ⟨_, hp, ?_⟩
    rw [if_pos hon]
    exact List.mem_map.mpr ⟨e.2.2, hchannel, rfl⟩

/-- The row announces the edge, for its own job. -/
def OutboxRow.AnnouncesEdge (r : OutboxRow) (edge : SelectedEdge) : Prop :=
  notificationOf r.announcement = edge.notification r.jobId r.id

/-- The row of an entry announces its transition on its channel. -/
lemma announcesEdge_entryRow (jobId : String) (checkedAt : Datetime)
    (e : ℕ × OpportunityTransition × String) (id : ℕ) :
    (entryRow jobId checkedAt e id).AnnouncesEdge ⟨checkedAt, e.2.1, e.2.2⟩ := by
  simp [OutboxRow.AnnouncesEdge, notificationOf, OutboxRow.announcement, entryRow, outboxRow,
    SelectedEdge.notification, fromisoformat_isoformat]

lemma jobId_of_announcement {r r' : OutboxRow} (h : r'.announcement = r.announcement) :
    r'.jobId = r.jobId := by simpa [OutboxRow.announcement] using congrArg OutboxRow.jobId h

lemma OutboxRow.AnnouncesEdge.of_announcement {r r' : OutboxRow} {edge : SelectedEdge}
    (h : r.AnnouncesEdge edge) (hann : r'.announcement = r.announcement) :
    r'.AnnouncesEdge edge := by
  rw [OutboxRow.AnnouncesEdge, hann, jobId_of_announcement hann, id_of_announcement hann]
  exact h

section Recorded

variable {db : Database} {jobId : String} {result : CheckResult} {plan : NotificationPlan}
  {previous : Option CheckResult} {rows : List Observation}

/-- **A row of a commit** was there before or announces an edge of the commit. -/
lemma row_of_recorded {r : OutboxRow}
    (hr : r ∈ (recorded db jobId result plan (transitionsSince previous result) rows).outbox.rows) :
    r ∈ db.outbox.rows ∨
      r.jobId = jobId ∧ ∃ edge ∈ edgesOf previous result plan, r.AnnouncesEdge edge := by
  rw [recorded] at hr
  dsimp only at hr
  rw [RowTable.rows_insertAll, List.mem_append, List.mem_map] at hr
  rcases hr with hr | ⟨⟨e, id⟩, he, rfl⟩
  · exact Or.inl hr
  · obtain ⟨ht, hon, hchannel⟩ := mem_outboxEntries.mp (List.fst_mem_of_mem_zipIdx he)
    refine Or.inr ⟨rfl, _, mem_edgesOf.mpr ⟨rfl, ?_, hon, hchannel⟩, announcesEdge_entryRow ..⟩
    exact List.fst_mem_of_mem_zipIdx ht

/-- **Every edge of a commit** has a new row that announces it. -/
lemma recorded_row {edge : SelectedEdge} (hedge : edge ∈ edgesOf previous result plan) :
    ∃ r ∈ (recorded db jobId result plan (transitionsSince previous result) rows).outbox.rows,
      r.jobId = jobId ∧ r.pending = true ∧ r.AnnouncesEdge edge := by
  obtain ⟨htime, ht, hon, hchannel⟩ := mem_edgesOf.mp hedge
  obtain ⟨i, hi⟩ := exists_mem_zipIdx ht db.transitions.nextId
  have he : (i, edge.transition, edge.channel)
      ∈ outboxEntries plan db.transitions.nextId (transitionsSince previous result) :=
    mem_outboxEntries.mpr ⟨hi, hon, hchannel⟩
  obtain ⟨id, hid⟩ := exists_mem_zipIdx he db.outbox.nextId
  refine ⟨entryRow jobId result.checkedAt (i, edge.transition, edge.channel) id, ?_, rfl, rfl, ?_⟩
  · rw [recorded]
    dsimp only
    rw [RowTable.rows_insertAll]
    exact List.mem_append_right _ (List.mem_map.mpr ⟨_, hid, rfl⟩)
  · rw [← htime]
    exact announcesEdge_entryRow jobId edge.checkedAt (i, edge.transition, edge.channel) id

end Recorded

/-- A row that is not new announces what it announced before. -/
lemma OpEffect.row_before {db db' : Database} {op : StoreOp} {result : StoreResult}
    (h : OpEffect db op result db') {r' : OutboxRow} (hr' : r' ∈ db'.outbox.rows)
    (hold : r'.id ∈ db.outbox.ids) :
    ∃ r ∈ db.outbox.rows, r'.announcement = r.announcement := by
  obtain ⟨r, hr, hid⟩ := RowTable.mem_ids.mp hold
  refine ⟨r, hr, ?_⟩
  cases hp : r.pending with
  | true =>
      obtain ⟨r'', hr'', hann, _⟩ := h.pending_row hr hp
      have hsame : r'' = r' :=
        RowTable.eq_of_rowId_eq hr'' hr' ((id_of_announcement hann).trans hid)
      rw [← hsame, hann]
  | false =>
      rcases h.delivered_row hr hp with ⟨hkeep, _⟩ | ⟨hgone, _⟩
      · rw [RowTable.eq_of_rowId_eq hkeep hr' hid]
      · have hid : r.id = r'.id := hid
        exact absurd (RowTable.rowId_mem_ids hr') (by rwa [rowId_outboxRow, ← hid])

/-! ## Every run -/

/-- Every row of the outbox announces a selected edge of the snapshots committed for its job. -/
def OutboxOfEdges (history : List StoreEvent) (db : Database) : Prop :=
  ∀ r ∈ db.outbox.rows, ∃ edge ∈ selectedEdges none (committed r.jobId history),
    r.AnnouncesEdge edge

lemma committed_snoc (jobId : String) (history : List StoreEvent) (e : StoreEvent) :
    committed jobId (history ++ [e])
      = committed jobId history ++ (committedBy jobId e).toList := by
  rw [committed, List.filterMap_append, ← committed]
  cases h : committedBy jobId e <;> simp [h]

/-- Edges stay edges. -/
lemma mem_selectedEdges_append {commits : List (CheckResult × NotificationPlan)}
    {edge : SelectedEdge} (h : edge ∈ selectedEdges none commits)
    (more : List (CheckResult × NotificationPlan)) :
    edge ∈ selectedEdges none (commits ++ more) := by
  induction more using List.reverseRecOn with
  | nil => rwa [List.append_nil]
  | append_singleton more commit ih =>
      obtain ⟨result, plan⟩ := commit
      rw [← List.append_assoc, selectedEdges_snoc]
      exact List.mem_append_left _ ih

/-- **One operation.** -/
lemma OutboxOfEdges.step {history : List StoreEvent} {db db' : Database}
    (inv : LatestCommitted history db) (h : OutboxOfEdges history db) {op : StoreOp}
    {result : StoreResult} (heffect : OpEffect db op result db') :
    OutboxOfEdges (history ++ [⟨db, op, result, db'⟩]) db' := by
  intro r' hr'
  have hkept : ∀ r ∈ db.outbox.rows, r'.announcement = r.announcement →
      ∃ edge ∈ selectedEdges none (committed r'.jobId (history ++ [⟨db, op, result, db'⟩])),
        r'.AnnouncesEdge edge := by
    intro r hr hann
    obtain ⟨edge, hedge, hannounces⟩ := h r hr
    refine ⟨edge, ?_, hannounces.of_announcement hann⟩
    rw [committed_snoc, jobId_of_announcement hann]
    exact mem_selectedEdges_append hedge _
  by_cases hold : r'.id ∈ db.outbox.ids
  · obtain ⟨r, hr, hann⟩ := heffect.row_before hr' hold
    exact hkept r hr hann
  · obtain ⟨⟨jobId, snapshot, plan, rfl⟩, _⟩ := heffect.new_row hr' hold
    cases heffect with
    | failed => exact absurd (RowTable.rowId_mem_ids hr') hold
    | @recorded _ _ _ previous rows hprevious hrows =>
        obtain ⟨stored, hstored, hrel⟩ := inv jobId
        obtain rfl : stored = previous := by
          rw [hprevious] at hstored
          exact (Except.ok.inj hstored).symm
        rw [recorded_congr (transitionsSince_stored hrel snapshot)] at hr'
        rcases row_of_recorded hr' with hr | ⟨hjob, edge, hedge, hannounces⟩
        · exact absurd (RowTable.rowId_mem_ids hr) hold
        · refine ⟨edge, ?_, hannounces⟩
          have hcommit : ∀ outcome db', committedBy jobId
              ⟨db, .recordSuccess jobId snapshot plan, .recorded outcome, db'⟩
                = some (snapshot, plan) := fun _ _ => if_pos rfl
          rw [hjob, committed_snoc, hcommit, Option.toList_some, selectedEdges_snoc, Option.or_none]
          exact List.mem_append_right _ hedge

/-- **Every row announces an edge**, after every run of the store. -/
theorem outboxOfEdges_run (ops : List StoreOp) :
    OutboxOfEdges (Store.history .empty ops) (Store.exec .empty ops) := by
  refine (effect_induction_all (P := fun h s => LatestCommitted h s ∧ OutboxOfEdges h s)
    consistent_empty ⟨latestCommitted_run [], ?_⟩ ?_ ops).2
  · simp [OutboxOfEdges, Database.empty]
  · rintro history s s' op result ⟨inv, h⟩ hs heffect
    exact ⟨inv.step hs heffect, h.step inv heffect⟩

end WebChecker
