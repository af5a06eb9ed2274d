import WebChecker.Python.Equality
import WebChecker.Python.Ordering
import WebChecker.Storage.History

/-!
# Snapshots that come back equal

`==` between snapshots, and `getLatest_same_iff`: the snapshot that is read back equals the one
that was recorded exactly if all of its attributes are values that JSON has and none of its times
has an offset that depends on `fold`.

Storing is described by `SnapshotStoredAs`.  What it changes is the zone of the times, which `==`
sees only where the offset depends on `fold`, and the attributes, which come back as JSON has them.
-/

namespace WebChecker

open Relational Results

/-! ## `==` between snapshots -/

/-- The attributes as the dictionary they are. -/
def attributesDict (attributes : Attributes) : PyVal :=
  .dict (attributes.map fun (name, value) => (PyKey.str name, value))

/-- The attributes are a dictionary if no name is repeated. -/
lemma wellFormed_attributesDict {attributes : Attributes} :
    (attributesDict attributes).WellFormed ↔ (attributes.map Prod.fst).Nodup ∧
      ∀ entry ∈ attributes, entry.2.WellFormed := by
  have hsame (s t : String) : (PyKey.str s).same (.str t) = false ↔ s ≠ t := by
    simp [PyKey.same, PyKey.number]
  rw [attributesDict, PyVal.WellFormed, wellFormedItems_iff, List.forall_mem_map, DistinctKeys,
    List.map_map, List.pairwise_map, List.Nodup, List.pairwise_map]
  simp only [Function.comp_apply, hsame]

lemma isNative_attributesDict {attributes : Attributes} :
    (attributesDict attributes).isNative = true ↔
      ∀ entry ∈ attributes, entry.2.isNative = true := by
  rw [attributesDict, PyVal.isNative, isNativeItems_iff, List.forall_mem_map]
  simp [PyKey.isStr]

/-- `==` between times that may be `None`. -/
def sameTime : Option Datetime → Option Datetime → Bool
  | none, none => true
  | some d, some e => d.same e
  | _, _ => false

/-- `==` between opportunities, field by field. -/
def Opportunity.same (a b : Opportunity) : Bool :=
  a.id == b.id && a.title == b.title && a.availability == b.availability &&
    sameTime a.startsAt b.startsAt && a.bookingUrl == b.bookingUrl &&
    (attributesDict a.attributes).same (attributesDict b.attributes)

/-- `==` between tuples of opportunities. -/
def sameOpportunities : List Opportunity → List Opportunity → Bool
  | [], [] => true
  | o :: os, o' :: os' => o.same o' && sameOpportunities os os'
  | _, _ => false

/-- `==` between snapshots. -/
def CheckResult.same (a b : CheckResult) : Bool :=
  a.checkedAt.same b.checkedAt && sameOpportunities a.opportunities b.opportunities

/-! ## What survives -/

/-- The times of a snapshot. -/
def CheckResult.times (r : CheckResult) : List Datetime :=
  r.checkedAt :: r.opportunities.filterMap Opportunity.startsAt

/-- The attributes of every opportunity are a dictionary, and so is every mapping in them. -/
def CheckResult.WellFormed (r : CheckResult) : Prop :=
  ∀ o ∈ r.opportunities, (attributesDict o.attributes).WellFormed

/-- **The attributes** come back equal exactly if JSON has all of their values. -/
lemma attributesDict_same {attributes stored : Attributes}
    (h : jsonForm attributes = .ok stored) (hw : (attributesDict attributes).WellFormed) :
    (attributesDict attributes).same (attributesDict stored)
      = (attributesDict attributes).isNative := by
  rw [jsonForm, map_eq_ok] at h
  obtain ⟨json, hjson, rfl⟩ := h
  simp only [dumpsAttributes, bind_eq_ok] at hjson
  obtain ⟨dumped, hdumped, sorted, hsorted, htexts⟩ := hjson
  have hdumps : dumps (attributesDict attributes) = .ok (.obj json) := by
    simp only [attributesDict, dumps, hdumped, hsorted, htexts, ok_bind, pure_eq_ok]
  have hloads : attributesDict (loadsAttributes json) = loads (.obj json) := by
    -- the names are those of the attributes, so none is repeated
    have hstr : ∀ item ∈ attributes.map fun x => (PyKey.str x.1, x.2), item.1.isStr = true :=
      List.forall_mem_map.mpr fun _ _ => rfl
    have hset := (lookupKey_loadsItems hw.1 hstr hdumped hsorted htexts).1
    rw [attributesDict, loadsAttributes, List.map_map, loads, hset, loadsItems_eq_map]
    rfl
  rw [hloads]
  exact same_loads _ hdumps hw

/-- **One opportunity.** -/
lemma StoredAs.same {o o' : Opportunity} (h : StoredAs o o')
    (hw : (attributesDict o.attributes).WellFormed) :
    o.same o' = (o.startsAt.all (fun d => !d.foldDependent) &&
      (attributesDict o.attributes).isNative) := by
  obtain ⟨attributes, hattributes, rfl⟩ := h
  have htime : sameTime o.startsAt (o.startsAt.map Datetime.detached)
      = o.startsAt.all fun d => !d.foldDependent := by
    cases o.startsAt with
    | none => rfl
    | some d => exact d.same_detached
  simp only [Opportunity.same, Opportunity.represented, beq_self_eq_true, Bool.true_and,
    Bool.and_true, htime, attributesDict_same hattributes hw]

/-- The opportunities of a snapshot. -/
lemma sameOpportunities_stored {os os' : List Opportunity} (h : List.Forall₂ StoredAs os os')
    (hw : ∀ o ∈ os, (attributesDict o.attributes).WellFormed) :
    sameOpportunities os os' = true ↔
      (∀ d ∈ os.filterMap Opportunity.startsAt, d.foldDependent = false) ∧
        ∀ o ∈ os, (attributesDict o.attributes).isNative = true := by
  induction h with
  | nil => simp [sameOpportunities]
  | @cons o o' os os' ho _ ih =>
      have hrest := ih fun a ha => hw a (List.mem_cons_of_mem _ ha)
      rw [sameOpportunities, ho.same (hw o List.mem_cons_self), Bool.and_eq_true, hrest]
      cases hstart : o.startsAt <;> simp [hstart] <;> tauto

/-- **The stored form of a snapshot** equals the snapshot exactly if JSON has its attributes and no
offset of its times depends on `fold`. -/
lemma SnapshotStoredAs.same_iff {s s' : CheckResult} (h : SnapshotStoredAs s s')
    (hw : s.WellFormed) :
    s.same s' = true ↔ (∀ d ∈ s.times, d.foldDependent = false) ∧
      ∀ o ∈ s.opportunities, (attributesDict o.attributes).isNative = true := by
  rw [CheckResult.same, Bool.and_eq_true, h.checkedAt, s.checkedAt.same_detached,
    sameOpportunities_stored h.opportunities hw, CheckResult.times, List.forall_mem_cons,
    Bool.not_eq_true']
  tauto

/-- **Reading back** the snapshot that was recorded last. -/
theorem getLatest_same_iff {db db' : Database} (hreach : Reachable db) (jobId : String)
    {result : CheckResult} (hw : result.WellFormed) {plan : NotificationPlan}
    {outcome : RecordOutcome} (h : recordSuccess db jobId result plan = .ok (outcome, db')) :
    (∃ latest, getLatest db' jobId = .ok (some latest) ∧ result.same latest = true) ↔
      (∀ d ∈ result.times, d.foldDependent = false) ∧
        ∀ o ∈ result.opportunities, (attributesDict o.attributes).isNative = true := by
  have hc : Consistent db := hreach.consistent
  obtain ⟨previous, rows, _, hrows, _, rfl⟩ := (recordSuccess_eq_ok hc).mp h
  obtain ⟨stored, hstored, hlatest⟩ := latestSnapshot_recorded_self hc jobId result plan
    (transitionsSince previous result) hrows
  have hget : getLatest (recorded db jobId result plan (transitionsSince previous result) rows)
      jobId = .ok (some stored) := by
    rw [getLatest, hlatest]
    rfl
  rw [← hstored.same_iff hw, hget]
  simp

end WebChecker
