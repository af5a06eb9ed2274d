import WebChecker.Deployment.Operations

/-!
# Is the rollback target usable?

The record `previous-image` is what a rollback applies.  It is written from what `docker inspect`
reports when an operation starts, not from what was recorded before, so it is usable only if the
container is where the last successful operation left it.  A failed deployment may leave it on an
image that has passed no health gate, and a container that has been removed reports no image at
all; in the first case the next deployment records an image without a gate, in the second it
leaves a record that may name the image it has just brought up.

`rollbackTarget_iff` has the exact condition, one operation at a time.
-/

namespace WebChecker

open Runs

/-! ## Sequences of operations -/

/-- The host, and the images with which a `compose up` has returned success. -/
structure Production where
  host : Host
  gated : List String := []
deriving DecidableEq, Repr

/-- What happens to the host: an operation as a whole, or the removal of the container. -/
inductive DeploymentAction where
  | deploy (revision : String) (precondition : Option DeployFailure) (o : DeployOutcomes)
  | rollback (precondition : Option DeployFailure) (o : RollbackOutcomes)
  | containerRemoved
deriving DecidableEq, Repr

/-- The operation that an action runs. -/
def DeploymentAction.operation (h : Host) : DeploymentAction → Option OperationRun
  | .deploy revision precondition o => some (WebChecker.deploy h revision precondition o)
  | .rollback precondition o => some (WebChecker.rollback h precondition o)
  | .containerRemoved => none

/-- The images that an operation's `compose up` commands have gated. -/
def OperationRun.gated (run : OperationRun) : List String :=
  (run.ups.filter UpRun.succeeded).map UpRun.image

def Production.next (s : Production) (a : DeploymentAction) : Production :=
  match a.operation s.host with
  | some run => ⟨run.host, s.gated ++ run.gated⟩
  | none => { s with host := { s.host with container := none } }

/-- Operations run one after another. -/
def operations : Process Production DeploymentAction := ⟨fun s a => some (s.next a)⟩

lemma operations_run (s : Production) (as : List DeploymentAction) :
    operations.run s as = some (as.foldl Production.next s) := by
  induction as generalizing s with
  | nil => rfl
  | cons a as ih => exact Process.run_cons.mpr ⟨_, rfl, ih _⟩

/-! ## The property -/

/-- What the previous-image record names has passed a health gate and is not the current image. -/
def RollbackUsable (s : Production) : Prop :=
  ∀ image, s.host.previousImage = some image →
    image ∈ s.gated ∧ s.host.currentImage ≠ some image

/-- An operation that raises leaves both records unchanged. -/
def RaisingKeepsRecords (s : Production) (a : DeploymentAction) : Prop :=
  ∀ run error, a.operation s.host = some run → run.result = .error error →
    run.host.currentImage = s.host.currentImage ∧ run.host.previousImage = s.host.previousImage

/-! ## The condition -/

/-- What the inspection and the records must be like before `image` is brought up: another image
runs and has passed a gate, or no other image runs and the record does not name this one. -/
def Production.LeavesTarget (s : Production) (image : String) : Prop :=
  (∃ running, s.host.runningImage = some running ∧ running ≠ image ∧ running ∈ s.gated) ∨
    ((∀ running, s.host.runningImage = some running → running = image) ∧
      s.host.previousImage ≠ some image)

/-- The condition on an operation that gets as far as a `compose up` that returns success. -/
def KeepsTarget (s : Production) : DeploymentAction → Prop
  | .deploy revision precondition o => validateRevision revision = .ok revision →
      precondition = none → o.Applies s.host revision → s.LeavesTarget (productionImage revision)
  | .rollback precondition o => ∀ image revision,
      readRollback s.host precondition = .ok (image, revision) →
      o.Applies s.host image revision → s.LeavesTarget image
  | .containerRemoved => True

/-! ## One section -/

section Section

variable {s : Production} {image : String} {applies : Prop} {run : OperationRun}

/-- The records after a successful `compose up` are usable exactly under the condition. -/
lemma usable_recordDeployment (h : RollbackUsable s) (container : Option Container) :
    RollbackUsable ⟨recordDeployment { s.host with container := container } image
        s.host.runningImage, s.gated ++ [image]⟩ ↔ s.LeavesTarget image := by
  rw [Production.LeavesTarget, RollbackUsable]
  by_cases hother : ∃ running, s.host.runningImage = some running ∧ running ≠ image
  · obtain ⟨running, hrunning, hne⟩ := hother
    simp [hrunning, recordDeployment, hne, hne.symm]
  · have hsame : ∀ running, s.host.runningImage = some running → running = image := by
      intro running hrunning
      by_contra hne
      exact hother ⟨running, hrunning, hne⟩
    have hrecord : recordDeployment { s.host with container := container } image
        s.host.runningImage
          = { s.host with container := container, currentImage := some image } := by
      cases hrunning : s.host.runningImage with
      | none => rfl
      | some running => simp [recordDeployment, hsame running hrunning]
    rw [hrecord]
    constructor
    · intro husable
      refine Or.inr ⟨hsame, fun hprevious => ?_⟩
      exact (husable image hprevious).2 rfl
    · rintro (⟨running, hrunning, hne, _⟩ | ⟨_, hprevious⟩)
      · exact absurd (hsame running hrunning) hne
      · intro previous hrecorded
        refine ⟨List.mem_append_left _ (h previous hrecorded).1, fun heq => ?_⟩
        exact hprevious (Option.some.inj heq ▸ hrecorded)

/-- What leaves both records alone leaves the target usable. -/
lemma RollbackUsable.of_records_eq {s' : Production} (h : RollbackUsable s)
    (hcurrent : s'.host.currentImage = s.host.currentImage)
    (hprevious : s'.host.previousImage = s.host.previousImage)
    (hgated : ∀ image ∈ s.gated, image ∈ s'.gated) : RollbackUsable s' := by
  intro image hrecorded
  rw [hprevious] at hrecorded
  obtain ⟨hmem, hne⟩ := h image hrecorded
  exact ⟨hgated image hmem, by rwa [hcurrent]⟩

/-- **A section keeps the target usable exactly under the condition.** -/
lemma SectionEffect.usable_iff (heffect : SectionEffect s.host image applies run)
    (h : RollbackUsable s) :
    RollbackUsable ⟨run.host, s.gated ++ run.gated⟩ ↔ (applies → s.LeavesTarget image) := by
  have hsame : ∀ (gated : List String) (container : Option Container),
      RollbackUsable ⟨{ s.host with container := container }, s.gated ++ gated⟩ :=
    fun gated _ => h.of_records_eq rfl rfl fun _ => List.mem_append_left gated
  cases heffect with
  | quiet hnot => exact iff_of_true (hsame _ s.host.container) fun ha => absurd ha hnot
  | applied happlies =>
      rw [forall_prop_of_true happlies]
      exact usable_recordDeployment h _
  | failed hnot => exact iff_of_true (hsame _ _) fun ha => absurd ha hnot
  | compensated hnot => exact iff_of_true (hsame _ _) fun ha => absurd ha hnot

/-- **A section that raises leaves the records alone.** -/
lemma SectionEffect.records_of_error {error : DeployFailure}
    (heffect : SectionEffect s.host image applies run) (h : run.result = .error error) :
    run.host.currentImage = s.host.currentImage ∧
      run.host.previousImage = s.host.previousImage := by
  cases heffect with
  | quiet => exact ⟨rfl, rfl⟩
  | applied => exact absurd h (by simp)
  | failed => exact ⟨rfl, rfl⟩
  | compensated => exact ⟨rfl, rfl⟩

end Section

/-! ## Runs -/

/-- An operation that raises before its section. -/
lemma usable_of_quiet {s : Production} (h : RollbackUsable s) (result) :
    RollbackUsable ⟨s.host, s.gated ++ OperationRun.gated ⟨result, s.host, []⟩⟩ :=
  h.of_records_eq rfl rfl fun _ => List.mem_append_left _

/-- **One operation keeps the target usable exactly under the condition.** -/
lemma usable_next_iff {s : Production} (h : RollbackUsable s) (a : DeploymentAction) :
    RollbackUsable (s.next a) ↔ KeepsTarget s a := by
  cases a with
  | deploy revision precondition o =>
      rw [Production.next, DeploymentAction.operation, KeepsTarget]
      dsimp only
      rw [deploy]
      cases hvalid : validateRevision revision with
      | error e => exact iff_of_true (usable_of_quiet h _) (by simp)
      | ok value =>
          have hvalue : value = revision := by
            rw [validateRevision] at hvalid
            split_ifs at hvalid
            exact (Except.ok.inj hvalid).symm
          subst hvalue
          cases precondition with
          | some e => exact iff_of_true (usable_of_quiet h _) (by simp)
          | none =>
              simp only [forall_true_left]
              exact (deploySection_effect s.host value o).usable_iff h
  | rollback precondition o =>
      rw [Production.next, DeploymentAction.operation, KeepsTarget]
      dsimp only
      rw [rollback]
      cases hread : readRollback s.host precondition with
      | error e => exact iff_of_true (usable_of_quiet h _) (by simp)
      | ok read =>
          obtain ⟨image, revision⟩ := read
          rw [(rollbackSection_effect s.host image revision o).usable_iff h]
          simp
  | containerRemoved => exact iff_of_true (h.of_records_eq rfl rfl fun _ => id) trivial

/-- **Raising keeps the records**, for every operation in every state. -/
lemma raising_keeps_records (s : Production) (a : DeploymentAction) : RaisingKeepsRecords s a := by
  intro run error hrun herror
  cases a with
  | deploy revision precondition o =>
      obtain rfl := Option.some.inj hrun
      rw [deploy] at herror ⊢
      cases hvalid : validateRevision revision with
      | error e => exact ⟨rfl, rfl⟩
      | ok value =>
          simp only [hvalid] at herror ⊢
          cases precondition with
          | some e => exact ⟨rfl, rfl⟩
          | none => exact (deploySection_effect s.host value o).records_of_error herror
  | rollback precondition o =>
      obtain rfl := Option.some.inj hrun
      rw [rollback] at herror ⊢
      cases hread : readRollback s.host precondition with
      | error e => exact ⟨rfl, rfl⟩
      | ok read =>
          obtain ⟨image, revision⟩ := read
          simp only [hread] at herror ⊢
          exact (rollbackSection_effect s.host image revision o).records_of_error herror
  | containerRemoved => simp [DeploymentAction.operation] at hrun

/-- **The rollback target is usable throughout a run exactly if every operation that brings an
image up finds the host as it should be.**  Raising never writes a record, in any run. -/
theorem rollbackTarget_iff (as : List DeploymentAction) :
    (operations.AllStates RollbackUsable ⟨.fresh, []⟩ as ∧
        operations.AllSteps RaisingKeepsRecords ⟨.fresh, []⟩ as) ↔
      operations.AllSteps KeepsTarget ⟨.fresh, []⟩ as := by
  have hraising : operations.AllSteps RaisingKeepsRecords ⟨.fresh, []⟩ as :=
    Process.allSteps_of_forall (fun a _ s => raising_keeps_records s a) _
  have hfresh : RollbackUsable ⟨.fresh, []⟩ := by simp [RollbackUsable, Host.fresh]
  rw [and_iff_left hraising]
  refine Process.allStates_iff_allSteps (I := fun _ => True) (fun _ _ _ _ _ => trivial) ?_ trivial
    hfresh (operations_run _ as)
  intro s a s' _ hG hstep
  rw [← Option.some.inj hstep]
  exact usable_next_iff hG a

/-- A deployment that succeeds, one that fails together with its compensation, which leaves the
container on the new image, and one that succeeds again. -/
def failureBetweenDeployments : List DeploymentAction :=
  [ .deploy "1111111111111111111111111111111111111111" none
      { label := some "1111111111111111111111111111111111111111"
        up := .healthy "healthy" "1111111111111111111111111111111111111111"
        compensation := .failed .unchanged },
    .deploy "2222222222222222222222222222222222222222" none
      { label := some "2222222222222222222222222222222222222222"
        up := .failed (.onImage "unhealthy" "2222222222222222222222222222222222222222")
        compensation := .failed .unchanged },
    .deploy "3333333333333333333333333333333333333333" none
      { label := some "3333333333333333333333333333333333333333"
        up := .healthy "healthy" "3333333333333333333333333333333333333333"
        compensation := .failed .unchanged } ]

/-- **A failed deployment leaves an ungated target.**  After it the container runs the second
image, and this is what the third deployment records. -/
theorem failedDeployment_leaves_ungatedTarget :
    ¬ (operations.AllStates RollbackUsable ⟨.fresh, []⟩ failureBetweenDeployments ∧
        operations.AllSteps RaisingKeepsRecords ⟨.fresh, []⟩ failureBetweenDeployments) := by
  intro hall
  have husable := ((hall.1.2 _ rfl).2 _ rfl).2 _ rfl
  have hungated : (failureBetweenDeployments.foldl Production.next ⟨.fresh, []⟩).host.previousImage
        = some "web-checker-production:2222222222222222222222222222222222222222" ∧
      "web-checker-production:2222222222222222222222222222222222222222" ∉
        (failureBetweenDeployments.foldl Production.next ⟨.fresh, []⟩).gated := by
    decide +kernel
  exact hungated.2 (husable _ hungated.1).1

end WebChecker
