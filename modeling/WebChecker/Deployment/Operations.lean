import WebChecker.Library.Runs
import WebChecker.Python.Text

/-!
# Deploying and rolling back

`scripts/deploy_production.py` as functions of the production host: the container with its image,
and the two records of images.  Everything an external command reports or does is an input of the
operation — whether a command succeeds, the label it prints, and what a `compose up` leaves behind
when it fails.

Each operation is split where the code takes the host lock.  What comes before reads arguments and
files, among them the record a rollback is going to apply; the section under the lock is a
function of the host (`deploySection`, `rollbackSection`), whose result also lists the
`compose up` commands it has run.
-/

namespace WebChecker

/-! ## Images and revisions -/

/-- The characters `[0-9a-f]`. -/
def isLowerHex (c : Char) : Bool :=
  (48 ≤ c.toNat && c.toNat ≤ 57) || (97 ≤ c.toNat && c.toNat ≤ 102)

/-- The commands of both operations. -/
inductive DeployCommand where
  | git
  | composeConfig
  | dockerBuild
  | imageInspect
  | composeUp
deriving DecidableEq, Repr

/-- What an operation raises. -/
inductive DeployFailure where
  | deploymentError (message : String)
  | calledProcessError (command : DeployCommand)
  | osError (message : String)
deriving DecidableEq, Repr

/-- `validate_revision`. -/
def validateRevision (value : String) : Except DeployFailure String :=
  if value.toList.length = 40 ∧ value.toList.all isLowerHex then .ok value
  else .error (.deploymentError "revision must be a 40-character lowercase Git SHA")

/-- The image reference of a revision. -/
def productionImage (revision : String) : String := "web-checker-production:" ++ revision

/-- `revision_from_image`. -/
def revisionFromImage (image : String) : Except DeployFailure String :=
  match afterPrefix "web-checker-production:" image with
  | none => .error (.deploymentError "recorded rollback image is not a production image")
  | some revision => validateRevision revision

/-! ## The host -/

/-- The production container as `docker inspect` prints it; a field that it does not have is
empty. -/
structure Container where
  image : String
  health : String
  revision : String
deriving DecidableEq, Repr

/-- The container, and the files `current-image` and `previous-image` by the image they name. -/
structure Host where
  container : Option Container
  currentImage : Option String
  previousImage : Option String
deriving DecidableEq, Repr

/-- A host on which nothing has been deployed. -/
def Host.fresh : Host := ⟨none, none, none⟩

/-- `text or None`. -/
def orNone (text : String) : Option String := if text = "" then none else some text

/-- `current_container_state`: image, health and revision label. -/
def Host.currentContainerState (h : Host) : Option String × Option String × Option String :=
  match h.container with
  | none => (none, none, none)
  | some c => (orNone c.image, orNone c.health, orNone c.revision)

/-- The image `docker inspect` reports. -/
def Host.runningImage (h : Host) : Option String := h.currentContainerState.1

/-- What a failed `compose up` leaves behind. -/
inductive LeftBehind where
  | unchanged
  | onImage (health revision : String)
  | removed
deriving DecidableEq, Repr

/-- What `docker compose up --wait` does. -/
inductive UpOutcome where
  | healthy (health revision : String)
  | failed (left : LeftBehind)
deriving DecidableEq, Repr

def UpOutcome.succeeded : UpOutcome → Bool
  | healthy _ _ => true
  | failed _ => false

/-- The container after a `compose up` with an image. -/
def UpOutcome.container (image : String) (before : Option Container) :
    UpOutcome → Option Container
  | healthy health revision => some ⟨image, health, revision⟩
  | failed .unchanged => before
  | failed (.onImage health revision) => some ⟨image, health, revision⟩
  | failed .removed => none

/-- A `compose up` that was run, and whether it returned success. -/
structure UpRun where
  image : String
  succeeded : Bool
deriving DecidableEq, Repr

/-- What an operation returned or raised, the host it left, and the `compose up` commands it ran. -/
structure OperationRun where
  result : Except DeployFailure String
  host : Host
  ups : List UpRun := []

/-! ## Deploying -/

/-- What the commands of a deployment report and do.  `label` is what the inspection of the built
image prints, `none` if it fails. -/
structure DeployOutcomes where
  composeConfig : Bool := true
  build : Bool := true
  label : Option String
  up : UpOutcome
  compensation : UpOutcome := .failed .unchanged
deriving DecidableEq, Repr

/-- The two records after a deployment of `image` over `previous`. -/
def recordDeployment (h : Host) (image : String) (previous : Option String) : Host :=
  let h := { h with currentImage := some image }
  match previous with
  | some previous => if previous ≠ image then { h with previousImage := some previous } else h
  | none => h

/-- The compensation of a failed `compose up`. -/
def compensate (h : Host) (image : String) (previous : Option String) (up : UpOutcome) :
    OperationRun :=
  let unavailable : OperationRun :=
    ⟨.error (.deploymentError
      "deployment failed and no previous production image was available"), h, [⟨image, false⟩]⟩
  match previous with
  | some previous =>
    if previous ≠ image then
      let h := { h with container := up.container previous h.container }
      let ups := [⟨image, false⟩, ⟨previous, up.succeeded⟩]
      if up.succeeded then
        ⟨.error (.deploymentError
          s!"deployment failed; production was rolled back to {previous}"), h, ups⟩
      else ⟨.error (.deploymentError "deployment and automatic rollback both failed"), h, ups⟩
    else unavailable
  | none => unavailable

/-- The part of `deploy` under the host lock. -/
def deploySection (h : Host) (revision : String) (o : DeployOutcomes) : OperationRun :=
  let image := productionImage revision
  if o.composeConfig = false then ⟨.error (.calledProcessError .composeConfig), h, []⟩
  else
    let (previousImage, health, currentRevision) := h.currentContainerState
    if previousImage = some image ∧ health = some "healthy" ∧ currentRevision = some revision then
      ⟨.ok image, h, []⟩
    else if o.build = false then ⟨.error (.calledProcessError .dockerBuild), h, []⟩
    else
      match o.label with
      | none => ⟨.error (.calledProcessError .imageInspect), h, []⟩
      | some label =>
        if label ≠ revision then
          ⟨.error (.deploymentError "built image does not carry the validated revision"), h, []⟩
        else
          let h := { h with container := o.up.container image h.container }
          if o.up.succeeded then
            ⟨.ok image, recordDeployment h image previousImage, [⟨image, true⟩]⟩
          else compensate h image previousImage o.compensation

/-- `deploy`.  `precondition` is what the checks of files, working tree and directories raise. -/
def deploy (h : Host) (revision : String) (precondition : Option DeployFailure)
    (o : DeployOutcomes) : OperationRun :=
  match validateRevision revision with
  | .error e => ⟨.error e, h, []⟩
  | .ok revision =>
    match precondition with
    | some e => ⟨.error e, h, []⟩
    | none => deploySection h revision o

/-! ## Rolling back -/

/-- What the commands of a rollback report and do. -/
structure RollbackOutcomes where
  label : Option String
  composeConfig : Bool := true
  up : UpOutcome
deriving DecidableEq, Repr

/-- The part of `rollback` before the host lock: the image it is going to apply and its
revision. -/
def readRollback (h : Host) (precondition : Option DeployFailure) :
    Except DeployFailure (String × String) :=
  match precondition with
  | some e => .error e
  | none =>
    match h.previousImage with
    | none => .error (.deploymentError "no previous production image is recorded")
    | some previousImage => (revisionFromImage previousImage).map fun r => (previousImage, r)

/-- The part of `rollback` under the host lock. -/
def rollbackSection (h : Host) (previousImage previousRevision : String) (o : RollbackOutcomes) :
    OperationRun :=
  let (currentImage, health, currentRevision) := h.currentContainerState
  if currentImage = some previousImage ∧ health = some "healthy" ∧
      currentRevision = some previousRevision then
    ⟨.ok previousImage, h, []⟩
  else
    match o.label with
    | none => ⟨.error (.calledProcessError .imageInspect), h, []⟩
    | some label =>
      if label ≠ previousRevision then
        ⟨.error (.deploymentError "rollback image does not carry its recorded revision"), h, []⟩
      else if o.composeConfig = false then ⟨.error (.calledProcessError .composeConfig), h, []⟩
      else
        let h := { h with container := o.up.container previousImage h.container }
        if o.up.succeeded then
          ⟨.ok previousImage, recordDeployment h previousImage currentImage,
            [⟨previousImage, true⟩]⟩
        else ⟨.error (.calledProcessError .composeUp), h, [⟨previousImage, false⟩]⟩

/-- `rollback`. -/
def rollback (h : Host) (precondition : Option DeployFailure) (o : RollbackOutcomes) :
    OperationRun :=
  match readRollback h precondition with
  | .error e => ⟨.error e, h, []⟩
  | .ok (previousImage, previousRevision) => rollbackSection h previousImage previousRevision o

/-! ## What a section can do -/

/-- The container runs the image of the revision and is healthy: there is nothing to do. -/
def Host.Runs (h : Host) (image revision : String) : Prop :=
  h.currentContainerState.1 = some image ∧ h.currentContainerState.2.1 = some "healthy" ∧
    h.currentContainerState.2.2 = some revision

/-- The deployment gets as far as a `compose up` that returns success. -/
structure DeployOutcomes.Applies (o : DeployOutcomes) (h : Host) (revision : String) : Prop where
  composeConfig : o.composeConfig = true
  needed : ¬ h.Runs (productionImage revision) revision
  build : o.build = true
  label : o.label = some revision
  up : o.up.succeeded = true

/-- The rollback gets as far as a `compose up` that returns success. -/
structure RollbackOutcomes.Applies (o : RollbackOutcomes) (h : Host) (image revision : String) :
    Prop where
  needed : ¬ h.Runs image revision
  label : o.label = some revision
  composeConfig : o.composeConfig = true
  up : o.up.succeeded = true

/-- The rollback gets as far as a `compose up`. -/
structure RollbackOutcomes.BringsUp (o : RollbackOutcomes) (h : Host) (image revision : String) :
    Prop where
  needed : ¬ h.Runs image revision
  label : o.label = some revision
  composeConfig : o.composeConfig = true

instance (h : Host) (image revision : String) : Decidable (h.Runs image revision) :=
  inferInstanceAs (Decidable (_ ∧ _))

instance (o : RollbackOutcomes) (h : Host) (image revision : String) :
    Decidable (o.BringsUp h image revision) :=
  decidable_of_iff (¬ h.Runs image revision ∧ o.label = some revision ∧ o.composeConfig = true)
    ⟨fun ⟨needed, label, composeConfig⟩ => ⟨needed, label, composeConfig⟩,
      fun h => ⟨h.needed, h.label, h.composeConfig⟩⟩

lemma RollbackOutcomes.Applies.bringsUp {o : RollbackOutcomes} {h : Host} {image revision : String}
    (ha : o.Applies h image revision) : o.BringsUp h image revision :=
  ⟨ha.needed, ha.label, ha.composeConfig⟩

/-- Everything the section of either operation can do when it is to bring `image` up; `applies`
says whether it gets as far as a `compose up` that returns success. -/
inductive SectionEffect (h : Host) (image : String) (applies : Prop) : OperationRun → Prop
  /-- It raises before `compose up`, or there is nothing to do. -/
  | quiet {result} (hnot : ¬ applies) : SectionEffect h image applies ⟨result, h, []⟩
  /-- `compose up` succeeds and the records are written. -/
  | applied {container} (happlies : applies) : SectionEffect h image applies
      ⟨.ok image, recordDeployment { h with container := container } image h.runningImage,
        [⟨image, true⟩]⟩
  /-- `compose up` fails; whatever became of the container, the records are as they were. -/
  | failed {error container} (hnot : ¬ applies) : SectionEffect h image applies
      ⟨.error error, { h with container := container }, [⟨image, false⟩]⟩
  /-- `compose up` fails and the image that ran before is brought up again, or that fails too. -/
  | compensated {error container previous succeeded} (hnot : ¬ applies) :
      SectionEffect h image applies
        ⟨.error error, { h with container := container },
          [⟨image, false⟩, ⟨previous, succeeded⟩]⟩

/-- The end of a deployment whose `compose up` has failed. -/
lemma compensate_effect (h : Host) (image : String) {applies : Prop} (hnot : ¬ applies)
    (container : Option Container) (up : UpOutcome) :
    SectionEffect h image applies
      (compensate { h with container := container } image h.runningImage up) := by
  cases hrunning : h.runningImage with
  | none => exact .failed hnot
  | some previous =>
      rw [compensate]
      split_ifs
      · exact .compensated hnot
      · exact .compensated hnot
      · exact .failed hnot

/-- **What a deployment does under the lock.** -/
lemma deploySection_effect (h : Host) (revision : String) (o : DeployOutcomes) :
    SectionEffect h (productionImage revision) (o.Applies h revision)
      (deploySection h revision o) := by
  rw [deploySection]
  dsimp only
  by_cases hconfig : o.composeConfig = false
  · rw [if_pos hconfig]
    exact .quiet fun ha => by simp [ha.composeConfig] at hconfig
  rw [if_neg hconfig]
  by_cases hnoop : h.Runs (productionImage revision) revision
  · rw [if_pos (by exact hnoop)]
    exact .quiet fun ha => ha.needed hnoop
  rw [if_neg (by exact hnoop)]
  by_cases hbuild : o.build = false
  · rw [if_pos hbuild]
    exact .quiet fun ha => by simp [ha.build] at hbuild
  rw [if_neg hbuild]
  cases hlabel : o.label with
  | none => exact .quiet fun ha => by simp [ha.label] at hlabel
  | some label =>
      dsimp only
      by_cases hwrong : label = revision
      · rw [if_neg (not_not.mpr hwrong)]
        by_cases hup : o.up.succeeded = true
        · rw [if_pos hup]
          exact .applied ⟨by simpa using hconfig, hnoop, by simpa using hbuild, hwrong ▸ hlabel,
            hup⟩
        · rw [if_neg hup]
          exact compensate_effect h _ (fun ha => hup ha.up) _ _
      · rw [if_pos hwrong]
        exact .quiet fun ha => hwrong (Option.some.inj (hlabel.symm.trans ha.label))

/-- A rollback raises or has nothing to do before its `compose up`, or ends with it. -/
lemma rollbackSection_eq (h : Host) (image revision : String) (o : RollbackOutcomes) :
    (¬ o.BringsUp h image revision ∧
        ∃ result, rollbackSection h image revision o = ⟨result, h, []⟩) ∨
      (o.BringsUp h image revision ∧
        let h' := { h with container := o.up.container image h.container }
        rollbackSection h image revision o =
          if o.up.succeeded then
            ⟨.ok image, recordDeployment h' image h.runningImage, [⟨image, true⟩]⟩
          else ⟨.error (.calledProcessError .composeUp), h', [⟨image, false⟩]⟩) := by
  rw [rollbackSection]
  dsimp only
  by_cases hnoop : h.Runs image revision
  · rw [if_pos (by exact hnoop)]
    exact Or.inl ⟨fun hup => hup.needed hnoop, _, rfl⟩
  rw [if_neg (by exact hnoop)]
  cases hlabel : o.label with
  | none => exact Or.inl ⟨fun hup => by simp [hup.label] at hlabel, _, rfl⟩
  | some label =>
      dsimp only
      by_cases hwrong : label = revision
      · rw [if_neg (not_not.mpr hwrong)]
        by_cases hconfig : o.composeConfig = false
        · rw [if_pos hconfig]
          exact Or.inl ⟨fun hup => by simp [hup.composeConfig] at hconfig, _, rfl⟩
        · rw [if_neg hconfig]
          exact Or.inr ⟨⟨hnoop, hwrong ▸ hlabel, by simpa using hconfig⟩, rfl⟩
      · rw [if_pos hwrong]
        refine Or.inl ⟨fun hup => hwrong ?_, _, rfl⟩
        exact Option.some.inj (hlabel.symm.trans hup.label)

/-- **What a rollback does under the lock.** -/
lemma rollbackSection_effect (h : Host) (image revision : String) (o : RollbackOutcomes) :
    SectionEffect h image (o.Applies h image revision) (rollbackSection h image revision o) := by
  rcases rollbackSection_eq h image revision o with ⟨hnot, result, heq⟩ | ⟨hup, heq⟩
  · rw [heq]
    exact .quiet fun ha => hnot ha.bringsUp
  · rw [heq]
    split_ifs with hsucceeded
    · exact .applied ⟨hup.needed, hup.label, hup.composeConfig, hsucceeded⟩
    · exact .failed fun ha => hsucceeded ha.up

end WebChecker
