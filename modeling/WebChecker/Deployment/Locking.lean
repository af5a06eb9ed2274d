import WebChecker.Deployment.Operations
import WebChecker.Library.Locking
import WebChecker.Library.Results

/-!
# What a queued rollback applies

`deploy` and `rollback` run their sections under `deployment.lock`, and a process of either kind
may be started at any time.  A rollback reads the record `previous-image` before it waits for the
lock, so what it brings up under the lock is the record as it was when the process was started.

Reading the record is the only step outside a section that depends on what another process writes,
and the only one that can fall into another's section; the section writes this record last, by one
`replace`.  A section is therefore a single step of the model, and a reader finds the record as it
was before the section or as it is after it.
-/

namespace WebChecker

open Runs Locking Results

/-! ## Processes -/

/-- How a process is started. -/
inductive Invocation where
  | deploy (revision : String) (precondition : Option DeployFailure)
  | rollback (precondition : Option DeployFailure)
deriving DecidableEq, Repr

/-- What a process that waits for the lock is going to do. -/
inductive Prepared where
  | deploy (revision : String)
  | rollback (previousImage previousRevision : String)
deriving DecidableEq, Repr

/-- What the commands of a section report and do. -/
inductive SectionOutcomes where
  | deploy (o : DeployOutcomes)
  | rollback (o : RollbackOutcomes)
deriving DecidableEq, Repr

/-- The image of a rollback's `compose up`, and the record when the rollback took the lock. -/
structure Reverted where
  image : String
  recorded : Option String
deriving DecidableEq, Repr

/-- The host, and every `compose up` that a rollback has run. -/
structure Reverting where
  host : Host
  reverted : List Reverted := []
deriving DecidableEq, Repr

/-- A process up to the lock; `none` if it raises before. -/
def prepareInvocation (s : Reverting) : Invocation → Option Prepared
  | .deploy revision precondition =>
    match validateRevision revision, precondition with
    | .ok revision, none => some (.deploy revision)
    | _, _ => none
  | .rollback precondition =>
    match readRollback s.host precondition with
    | .ok (previousImage, previousRevision) => some (.rollback previousImage previousRevision)
    | .error _ => none

/-- A process under the lock.  `recorded` is what the record named when it took the lock. -/
def runSection (s : Reverting) (prepared : Prepared) (recorded : Option String) :
    SectionOutcomes → Option Reverting
  | .deploy o =>
    match prepared with
    | .deploy revision => some { s with host := (deploySection s.host revision o).host }
    | .rollback _ _ => none
  | .rollback o =>
    match prepared with
    | .deploy _ => none
    | .rollback previousImage previousRevision =>
      let run := rollbackSection s.host previousImage previousRevision o
      some ⟨run.host, s.reverted ++ run.ups.map fun up => ⟨up.image, recorded⟩⟩

/-- Processes of both kinds on one host, whose container may be removed at any time. -/
def hostLock : Protocol Reverting Invocation Prepared (Option String) SectionOutcomes Unit where
  prepare := prepareInvocation
  observe s := s.host.previousImage
  body := runSection
  outside s _ := { s with host := { s.host with container := none } }
  observe_outside _ _ := rfl

/-- Any number of processes, by their numbers. -/
abbrev Processes := System ℕ Reverting Prepared (Option String)

/-- A step of a process, or the removal of the container. -/
abbrev ProcessAction := Action ℕ Invocation SectionOutcomes Unit

def lockedOperations : Process Processes ProcessAction := hostLock.process

/-! ## The property and the conditions -/

/-- Every rollback has brought up the image that the record named when it took the lock. -/
def RevertsRecorded (s : Processes) : Prop :=
  ∀ up ∈ s.shared.reverted, up.recorded = some up.image

/-- The record still names the image that the process read, if the process is a rollback and gets
as far as a `compose up`. -/
def AppliesRecord (s : Reverting) : Prepared → SectionOutcomes → Prop
  | .rollback image revision, .rollback o =>
    o.BringsUp s.host image revision → s.host.previousImage = some image
  | _, _ => True

instance (s : Reverting) : ∀ prepared o, Decidable (AppliesRecord s prepared o)
  | .rollback _ _, .rollback _ => inferInstanceAs (Decidable (_ → _))
  | .deploy _, .deploy _ | .deploy _, .rollback _ | .rollback _ _, .deploy _ => isTrue trivial

/-- A rollback that waits has read what the record names. -/
def ReadsRecord : Prepared → Option String → Prop
  | .rollback image _, recorded => recorded = some image
  | .deploy _, _ => True

/-! ## One section -/

/-- The `compose up` commands of a rollback. -/
lemma rollbackSection_ups (h : Host) (image revision : String) (o : RollbackOutcomes) :
    (o.BringsUp h image revision →
        (rollbackSection h image revision o).ups = [⟨image, o.up.succeeded⟩]) ∧
      (¬ o.BringsUp h image revision → (rollbackSection h image revision o).ups = []) := by
  rcases rollbackSection_eq h image revision o with ⟨hnot, result, heq⟩ | ⟨hup, heq⟩
  · exact ⟨fun hup => absurd hup hnot, fun _ => by rw [heq]⟩
  · refine ⟨fun _ => ?_, fun hnot => absurd hup hnot⟩
    rw [heq]
    cases o.up.succeeded <;> rfl

/-- **A section reverts what is recorded exactly under the condition.** -/
lemma runSection_revertsRecorded {s s' : Reverting} {prepared : Prepared} {o : SectionOutcomes}
    (h : ∀ up ∈ s.reverted, up.recorded = some up.image)
    (hrun : runSection s prepared s.host.previousImage o = some s') :
    (∀ up ∈ s'.reverted, up.recorded = some up.image) ↔ AppliesRecord s prepared o := by
  cases o with
  | deploy o =>
      cases prepared with
      | deploy revision =>
          rw [runSection, Option.some.injEq] at hrun
          rw [← hrun]
          exact iff_of_true h trivial
      | rollback => simp [runSection] at hrun
  | rollback o =>
      cases prepared with
      | deploy => simp [runSection] at hrun
      | rollback image revision =>
          rw [runSection, Option.some.injEq] at hrun
          rw [← hrun, AppliesRecord, List.forall_mem_append, and_iff_right h]
          by_cases hup : o.BringsUp s.host image revision
          · simp [(rollbackSection_ups s.host image revision o).1 hup, hup]
          · simp [(rollbackSection_ups s.host image revision o).2 hup, hup]

/-- **What fits the record is applied as recorded.** -/
lemma appliesRecord_of_readsRecord {s : Reverting} {prepared : Prepared}
    (h : ReadsRecord prepared s.host.previousImage) (o : SectionOutcomes) :
    AppliesRecord s prepared o := by
  cases prepared with
  | deploy revision => cases o <;> trivial
  | rollback image revision =>
      cases o with
      | deploy o => trivial
      | rollback o => exact fun _ => h

/-! ## Runs -/

/-- No step leaves a waiting rollback with another image in the record than it has read. -/
def KeepsReadRecord : Processes → ProcessAction → Prop := hostLock.KeepsFitting ReadsRecord

/-- Every rollback that gets as far as a `compose up` finds in the record what it has read. -/
def AppliesCurrentRecord : Processes → ProcessAction → Prop := Protocol.Sections AppliesRecord

/-- **A queued rollback reverts what is recorded exactly if it was not overtaken.**  In every run,
the images that rollbacks bring up are the recorded ones exactly if every rollback that gets as far
as a `compose up` finds in the record what it has read before it waited; and they are if no process
writes another image into the record while a rollback that has read it waits. -/
theorem rollback_revertsRecorded_iff {h : Host} {as : List ProcessAction} {s : Processes}
    (hrun : lockedOperations.run (System.start ⟨h, []⟩) as = some s) :
    (lockedOperations.AllStates RevertsRecorded (System.start ⟨h, []⟩) as ↔
        lockedOperations.AllSteps AppliesCurrentRecord (System.start ⟨h, []⟩) as) ∧
      (lockedOperations.AllSteps KeepsReadRecord (System.start ⟨h, []⟩) as →
        lockedOperations.AllStates RevertsRecorded (System.start ⟨h, []⟩) as) := by
  have hiff : lockedOperations.AllStates RevertsRecorded (System.start ⟨h, []⟩) as ↔
      lockedOperations.AllSteps AppliesCurrentRecord (System.start ⟨h, []⟩) as := by
    refine Protocol.allStates_iff (G := fun s : Reverting =>
      ∀ up ∈ s.reverted, up.recorded = some up.image) ?_ ?_ ?_ hrun
    · intro s prepared o s' hs hsection
      exact runSection_revertsRecorded hs hsection
    · exact fun s _ hs => hs
    · simp
  refine ⟨hiff, fun hkeeps => hiff.mpr ?_⟩
  refine (Protocol.allSteps_sections hkeeps).mono fun s a hsections => ?_
  cases a with
  | body i o =>
      intro prepared recorded hstage
      exact appliesRecord_of_readsRecord (hsections prepared recorded hstage) o
  | prepare => trivial
  | acquire => trivial
  | outside => trivial

/-! ## A rollback behind a deployment -/

/-- The image of the revision whose digits are all `c`. -/
def imageOf (c : Char) : String := productionImage (String.ofList (List.replicate 40 c))

/-- A healthy container of that image. -/
def healthyContainer (c : Char) : Container :=
  ⟨imageOf c, "healthy", String.ofList (List.replicate 40 c)⟩

/-- The second revision runs and the record names the first. -/
def secondDeployed : Host := ⟨some (healthyContainer '2'), some (imageOf '2'), some (imageOf '1')⟩

/-- A rollback waits behind a deployment of the third revision that fails and goes back to the
second. -/
def patientRollback : List ProcessAction :=
  [.prepare 0 (.deploy (String.ofList (List.replicate 40 '3')) none), .acquire 0,
    .prepare 1 (.rollback none),
    .body 0 (.deploy
      { label := some (String.ofList (List.replicate 40 '3'))
        up := .failed .removed
        compensation := .healthy "healthy" (String.ofList (List.replicate 40 '2')) }),
    .acquire 1,
    .body 1 (.rollback
      { label := some (String.ofList (List.replicate 40 '1'))
        up := .healthy "healthy" (String.ofList (List.replicate 40 '1')) })]

/-- **A rollback that was not overtaken** brings up what the record names. -/
theorem rollback_revertsRecorded_patient :
    ∃ s, lockedOperations.run (System.start ⟨secondDeployed, []⟩) patientRollback = some s ∧
      s.shared.reverted = [⟨imageOf '1', some (imageOf '1')⟩] ∧
      lockedOperations.AllStates RevertsRecorded (System.start ⟨secondDeployed, []⟩)
        patientRollback := by
  have hreverted : (lockedOperations.run (System.start ⟨secondDeployed, []⟩) patientRollback).map
      (fun s => s.shared.reverted) = some [⟨imageOf '1', some (imageOf '1')⟩] := by
    decide +kernel
  have hsteps : lockedOperations.AllSteps AppliesCurrentRecord (System.start ⟨secondDeployed, []⟩)
      patientRollback := by
    rw [AppliesCurrentRecord]
    decide +kernel
  obtain ⟨s, hs, hup⟩ := Option.map_eq_some_iff.mp hreverted
  exact ⟨s, hs, hup, (rollback_revertsRecorded_iff hs).1.mpr hsteps⟩

/-- A rollback that has read the record waits behind the deployment of the third revision. -/
def queuedRollback : List ProcessAction :=
  [.prepare 0 (.deploy (String.ofList (List.replicate 40 '3')) none), .acquire 0,
    .prepare 1 (.rollback none),
    .body 0 (.deploy { label := some (String.ofList (List.replicate 40 '3'))
                       up := .healthy "healthy" (String.ofList (List.replicate 40 '3'))
                       compensation := .failed .unchanged }),
    .acquire 1,
    .body 1 (.rollback
      { label := some (String.ofList (List.replicate 40 '1'))
        up := .healthy "healthy" (String.ofList (List.replicate 40 '1')) })]

/-- **A queued rollback goes back too far**: when it takes the lock the record names the second
image, and it brings up the first. -/
theorem queuedRollback_overtaken :
    ∃ s, lockedOperations.run (System.start ⟨secondDeployed, []⟩) queuedRollback = some s ∧
      s.shared.reverted = [⟨imageOf '1', some (imageOf '2')⟩] ∧ ¬ RevertsRecorded s := by
  have hreverted : (lockedOperations.run (System.start ⟨secondDeployed, []⟩) queuedRollback).map
      (fun s => s.shared.reverted) = some [⟨imageOf '1', some (imageOf '2')⟩] := by
    decide +kernel
  obtain ⟨s, hs, hup⟩ := Option.map_eq_some_iff.mp hreverted
  refine ⟨s, hs, hup, fun hall => ?_⟩
  have hrecorded := hall ⟨imageOf '1', some (imageOf '2')⟩ (by simp [hup])
  exact absurd hrecorded (by decide +kernel)

end WebChecker
