import WebChecker.Core.Replay
import WebChecker.Storage.History

/-!
# Replaying what was recorded

A commit compares with the snapshot it reads back, and returns the transitions of this comparison.
As edits they do not depend on the representation that was read (`edits_stored`), so along a run the
edits that a job's commits have returned after its baseline are those of its snapshots
(`replayed_run`), and replaying them leads from its first snapshot to its last.
-/

namespace WebChecker

open Relational Results Runs Diff

/-- The edits that a commit of the job returned, unless it created the baseline. -/
def returnedEdits (jobId : String) (e : StoreEvent) : List (Edit String Availability) :=
  match e.op, e.result with
  | .recordSuccess j _ _, .recorded outcome =>
    if j = jobId ∧ outcome.baselineCreated = false then
      outcome.transitions.map OpportunityTransition.edit
    else []
  | _, _ => []

/-- All edits that the commits of a job have returned. -/
def replayed (jobId : String) (history : List StoreEvent) : List (Edit String Availability) :=
  history.flatMap (returnedEdits jobId)

lemma replayed_snoc (jobId : String) (history : List StoreEvent) (e : StoreEvent) :
    replayed jobId (history ++ [e]) = replayed jobId history ++ returnedEdits jobId e := by
  simp [replayed]

/-- The edits of a list of snapshots; nothing comes before the first. -/
def editsOf : List CheckResult → List (Edit String Availability)
  | [] => []
  | first :: rest => snapshotEdits first rest

lemma editsOf_snoc (ss : List CheckResult) (s : CheckResult) :
    editsOf (ss ++ [s]) = editsOf ss ++ match ss.getLast? with
      | none => []
      | some p => (detectTransitions p s).map OpportunityTransition.edit := by
  cases ss with
  | nil => rfl
  | cons first rest =>
      rw [List.getLast?_eq_some_getLast (List.cons_ne_nil first rest)]
      exact editsAlong_snoc _ first rest s

/-- **Edits do not depend on the representation** of the snapshot that was read back. -/
lemma edits_stored {p p' : CheckResult} (h : SnapshotStoredAs p p') (c : CheckResult) :
    (detectTransitions p' c).map OpportunityTransition.edit
      = (detectTransitions p c).map OpportunityTransition.edit := by
  refine map_eq_of_forall₂ (transitionsSince_stored (Option.Rel.some h) c) fun t t' ht => ?_
  rw [OpportunityTransition.edit, OpportunityTransition.edit, ht.id_eq, ht.current_eq]

/-- The returned edits are those of the committed snapshots. -/
def Replays (history : List StoreEvent) : Prop :=
  ∀ jobId, replayed jobId history = editsOf (snapshots jobId history)

/-- An event that is not a commit returns no edits and adds no snapshot. -/
lemma Replays.quiet {history : List StoreEvent} (h : Replays history) {e : StoreEvent}
    (hnone : ∀ jobId, committedBy jobId e = none ∧ returnedEdits jobId e = []) :
    Replays (history ++ [e]) := by
  intro jobId
  rw [replayed_snoc, snapshots_snoc, (hnone jobId).1, (hnone jobId).2, Option.map_none,
    Option.toList_none, List.append_nil, List.append_nil, h jobId]

/-- **One operation keeps returned edits and snapshots together.** -/
lemma Replays.step {history : List StoreEvent} {db db' : Database}
    (inv : LatestCommitted history db) (h : Replays history) {op : StoreOp} {result : StoreResult}
    (heffect : OpEffect db op result db') : Replays (history ++ [⟨db, op, result, db'⟩]) := by
  cases heffect with
  | failed => exact h.quiet fun jobId => by cases op <;> exact ⟨rfl, rfl⟩
  | @recorded j result plan previous rows hprevious hrows =>
      intro jobId
      rw [replayed_snoc, snapshots_snoc, h jobId]
      by_cases hj : j = jobId
      · subst hj
        obtain ⟨stored, hstored, hrel⟩ := inv j
        obtain rfl : stored = previous := Except.ok.inj (hstored.symm.trans hprevious)
        have hcommitted : committedBy j ⟨db, .recordSuccess j result plan,
            .recorded ⟨stored.isNone, transitionsSince stored result⟩,
            recorded db j result plan (transitionsSince stored result) rows⟩
            = some (result, plan) := by simp [committedBy]
        rw [hcommitted, Option.map_some, Option.toList_some, editsOf_snoc]
        congr 1
        rcases rel_cases hrel with ⟨hnone, rfl⟩ | ⟨p, p', hp, rfl, hstoredAs⟩
        · simp [returnedEdits, hnone]
        · simp [returnedEdits, hp, transitionsSince, edits_stored hstoredAs]
      · simp [committedBy, returnedEdits, hj]
  | alerted => exact h.quiet fun _ => ⟨rfl, rfl⟩
  | counted => exact h.quiet fun _ => ⟨rfl, rfl⟩
  | evaluated => exact h.quiet fun _ => ⟨rfl, rfl⟩
  | delivered => exact h.quiet fun _ => ⟨rfl, rfl⟩
  | attempted => exact h.quiet fun _ => ⟨rfl, rfl⟩
  | alertDelivered => exact h.quiet fun _ => ⟨rfl, rfl⟩
  | alertAttempted => exact h.quiet fun _ => ⟨rfl, rfl⟩
  | pruned => exact h.quiet fun _ => ⟨rfl, rfl⟩

lemma replayed_run (ops : List StoreOp) : Replays (Store.history .empty ops) := by
  refine (effect_induction_all (P := fun h s => LatestCommitted h s ∧ Replays h)
    consistent_empty ⟨fun jobId => ⟨none, rfl, Option.Rel.none⟩, fun jobId => rfl⟩ ?_ ops).2
  exact fun ⟨inv, h⟩ hs heffect => ⟨inv.step hs heffect, h.step inv heffect⟩

/-- **`detectTransitions` is an exact, minimal difference.**  Between any two snapshots there is
one transition for every identifier whose availability differs, absence included, and none for any
other; each carries the opportunities of the two snapshots and the type that the two values
determine, in the order of the second snapshot and then, for what is gone, of the first.  Replaying
them turns the first snapshot's map into the second's, over any list of snapshots the first map
into the last, and after any run of the store the transitions that a job's commits have returned
since its baseline lead from its first committed snapshot to its last. -/
theorem detectTransitions_exact :
    (∀ p c, MinimalDiff p c (detectTransitions p c) ∧
      applyEdits p.availabilityOf ((detectTransitions p c).map OpportunityTransition.edit)
        = c.availabilityOf) ∧
    (∀ first rest, applyEdits first.availabilityOf (snapshotEdits first rest)
      = ((first :: rest).getLast (List.cons_ne_nil first rest)).availabilityOf) ∧
    ∀ ops jobId, ∀ first ∈ (snapshots jobId (Store.history .empty ops)).head?,
      ∀ last ∈ (snapshots jobId (Store.history .empty ops)).getLast?,
        applyEdits first.availabilityOf (replayed jobId (Store.history .empty ops))
          = last.availabilityOf := by
  refine ⟨fun p c => ⟨minimalDiff_detectTransitions p c, ?_⟩, replay_snapshots, ?_⟩
  · exact (exact_detectTransitions p c).applyEdits_eq
  · intro ops jobId first hfirst last hlast
    rw [replayed_run ops jobId]
    cases hsnapshots : snapshots jobId (Store.history .empty ops) with
    | nil => simp [hsnapshots] at hfirst
    | cons s rest =>
        rw [hsnapshots, List.head?_cons, Option.mem_some_iff] at hfirst
        rw [hsnapshots, List.getLast?_eq_some_getLast (List.cons_ne_nil s rest),
          Option.mem_some_iff] at hlast
        subst hfirst hlast
        exact replay_snapshots s rest

end WebChecker
