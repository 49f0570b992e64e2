import Mathlib.Data.List.Dedup
import Docklane.Control.Records

/-!
# Verdicts on one snapshot

The pure classifiers of `deployments/deployment.service.ts`, `operations/mutation-verification.ts`
and `operations/node-mutation-verification.ts`: what one answer of an inspection means for an
operation that is being verified or reconciled. `Converged` says when a deployed service has
reached its plan, and the classifiers of a deployment and of a rollback answer `SUCCESS` exactly
for such services.
-/

namespace Docklane.Control

/-! ## Deployments -/

/-- The tasks that run and are wanted to run. -/
def ServiceDetailResponse.running (current : ServiceDetailResponse) : List TaskSummary :=
  current.tasks.filter fun task => task.state = .running && task.desiredState = .running

/-- The last check of both deployment classifiers: the running tasks fill the desired slots and
each of them runs the planned image and runtime. -/
def tasksMatch (current : ServiceDetailResponse) (plan : ServiceMutationPlan) (digest : String) :
    Bool :=
  let running := current.running
  running.length = current.service.desiredReplicas &&
    (running.map (·.slot)).dedup.length = current.service.desiredReplicas &&
    running.all fun task =>
      0 < task.slot && imageContainsDigest task.image digest &&
        task.forceUpdate = plan.targetForceUpdate &&
        some task.runtimeSpecHash = plan.targetRuntimeSpecHash

def classifyDeploymentSnapshot (current : ServiceDetailResponse) (plan : ServiceMutationPlan)
    (digest : String) (noOp : Bool) : DeploymentDecision :=
  let updateState := current.service.updateState
  let isTarget := current.service.specHash = plan.targetSpecHash
  let isBefore := current.service.specHash = plan.beforeSpecHash
  if updateState = some .rollback_started then
    if ¬isTarget ∧ ¬isBefore then .EXTERNAL_CONFLICT else .PENDING
  else if updateState = some .rollback_paused then
    if ¬isTarget ∧ ¬isBefore then .EXTERNAL_CONFLICT else .ROLLBACK_PAUSED
  else if ¬isTarget then
    if updateState = some .rollback_completed ∨ updateState = some .paused then
      if isBefore then .FAILED else .EXTERNAL_CONFLICT
    else if plan.version < current.service.version then .EXTERNAL_CONFLICT
    else .PENDING
  else if ¬imageContainsDigest current.service.image digest then .PENDING
  else if updateState = some .paused then .FAILED
  else if ¬noOp ∧ updateState = some .rollback_completed then .FAILED
  else if ¬noOp ∧ updateState ≠ some .completed then .PENDING
  else if current.service.desiredReplicas ≠ current.service.runningReplicas then .PENDING
  else if ¬truthy plan.targetRuntimeSpecHash then .PENDING
  else if ¬tasksMatch current plan digest then .PENDING
  else .SUCCESS

def classifyRollbackSnapshot (current : ServiceDetailResponse) (plan : ServiceMutationPlan)
    (digest : String) : DeploymentDecision :=
  let updateState := current.service.updateState
  if current.service.specHash ≠ plan.targetSpecHash then
    if updateState = some .rollback_started then .PENDING
    else if plan.version < current.service.version then .EXTERNAL_CONFLICT
    else .PENDING
  else if ¬imageContainsDigest current.service.image digest then .PENDING
  else if updateState = some .paused ∨ updateState = some .rollback_paused then .FAILED
  else if updateState = some .rollback_started then .PENDING
  else if ¬truthy plan.targetRuntimeSpecHash then .PENDING
  else if current.service.desiredReplicas ≠ current.service.runningReplicas then .PENDING
  else if ¬tasksMatch current plan digest then .PENDING
  else .SUCCESS

inductive DeploymentReconciliationDecision where
  | TARGET_OBSERVED
  | WAITING_FOR_MUTATION
  | ROLLBACK_IN_PROGRESS
  | ROLLBACK_PAUSED
  | FAILED
  | EXTERNAL_CONFLICT
  deriving DecidableEq, Repr

def classifyDeploymentReconciliationSnapshot (operation : OperationRecord)
    (current : ServiceDetailResponse) : DeploymentReconciliationDecision :=
  let updateState := current.service.updateState
  let isTarget := current.service.specHash = operation.targetSpecHash
  let isBefore := current.service.specHash = operation.beforeSpecHash
  if updateState = some .rollback_started then
    if isTarget ∨ isBefore then .ROLLBACK_IN_PROGRESS else .EXTERNAL_CONFLICT
  else if updateState = some .rollback_paused then
    if isTarget ∨ isBefore then .ROLLBACK_PAUSED else .EXTERNAL_CONFLICT
  else if isTarget then .TARGET_OBSERVED
  else if updateState = some .rollback_completed ∨ updateState = some .paused then
    if isBefore then .FAILED else .EXTERNAL_CONFLICT
  else if current.service.version < operation.expectedVersion ∨
      current.service.version = operation.expectedVersion ∧ isBefore then
    .WAITING_FOR_MUTATION
  else .EXTERNAL_CONFLICT

/-! ## Scale, restart and node operations -/

inductive MutationSnapshotDecision where
  | PENDING
  | SUCCESS
  | FAILED (message : String)
  | EXTERNAL_CONFLICT (message : String)
  deriving DecidableEq, Repr

/-- The version of the snapshot is older than the one the Agent accepted. -/
def isStale (version : Nat) (resultVersion : Option Nat) : Bool :=
  match resultVersion with
  | some accepted => version < accepted
  | none => false

def UpdateState.text : UpdateState → String
  | .updating => "updating"
  | .paused => "paused"
  | .completed => "completed"
  | .rollback_started => "rollback_started"
  | .rollback_paused => "rollback_paused"
  | .rollback_completed => "rollback_completed"
  | .other text => text

def classifyMutationSnapshot (operation : OperationRecord) (current : ServiceDetailResponse) :
    MutationSnapshotDecision :=
  let running := current.tasks.filter fun task => task.state = .running
  if isStale current.service.version operation.resultVersion then .PENDING
  else if current.service.specHash ≠ operation.targetSpecHash then
    .EXTERNAL_CONFLICT "Current service spec no longer matches the recorded mutation target"
  else match current.service.updateState with
    | some .paused => .FAILED "Unexpected update state: paused"
    | some .rollback_started => .FAILED "Unexpected update state: rollback_started"
    | some .rollback_completed => .FAILED "Unexpected update state: rollback_completed"
    | state =>
      if current.service.forceUpdate ≠ operation.targetForceUpdate then .PENDING
      else if current.service.desiredReplicas ≠ current.service.runningReplicas then .PENDING
      else if operation.type = .SCALE then
        if some current.service.desiredReplicas = operation.targetReplicas then .SUCCESS
        else .PENDING
      else if state ≠ some .completed then .PENDING
      else if running.length ≠ current.service.desiredReplicas ∨
          ¬running.all (fun task => task.forceUpdate = operation.targetForceUpdate) then .PENDING
      else .SUCCESS

inductive NodeMutationDecision where
  | PENDING
  | SUCCESS
  | EXTERNAL_CONFLICT (message : String)
  deriving DecidableEq, Repr

/-- `sameLabels`: the sorted keys agree and so do the values under them. -/
def sameLabels (left right : Labels) : Bool :=
  (left.map (·.1)).mergeSort = (right.map (·.1)).mergeSort &&
    (left.map (·.1)).all fun key => left.lookup key = right.lookup key

def classifyNodeMutation (operation : NodeOperationRecord) (current : NodeDetailResponse) :
    NodeMutationDecision :=
  if isStale current.node.version operation.resultVersion then .PENDING
  else if current.node.specHash ≠ operation.targetSpecHash then
    .EXTERNAL_CONFLICT "Current node spec no longer matches the recorded mutation target"
  else if current.node.availability ≠ operation.targetAvailability then .PENDING
  else match operation.type with
    | .LABELS =>
      match operation.targetLabels with
      | none => .EXTERNAL_CONFLICT "Recorded label mutation target is missing"
      | some target =>
        if sameLabels current.node.labels target then .SUCCESS
        else .EXTERNAL_CONFLICT "Current node labels do not match the recorded target"
    | .ACTIVATE => .SUCCESS
    | .DRAIN =>
      if (current.tasks.filter fun task => !task.serviceId.isEmpty).isEmpty then .SUCCESS
      else .PENDING

/-! ## What success of a deployment means -/

/-- The service runs its plan: the spec and the image are the planned ones, and exactly the desired
replicas run, in distinct slots, with the planned image, force-update counter and runtime. -/
structure Converged (plan : ServiceMutationPlan) (digest : String)
    (current : ServiceDetailResponse) : Prop where
  specHash : current.service.specHash = plan.targetSpecHash
  image : imageContainsDigest current.service.image digest = true
  replicas : current.service.desiredReplicas = current.service.runningReplicas
  count : current.running.length = current.service.desiredReplicas
  slots : (current.running.map (·.slot)).Nodup
  positive : ∀ task ∈ current.running, 0 < task.slot
  task_image : ∀ task ∈ current.running, imageContainsDigest task.image digest = true
  task_forceUpdate : ∀ task ∈ current.running, task.forceUpdate = plan.targetForceUpdate
  task_runtime : ∀ task ∈ current.running,
    some task.runtimeSpecHash = plan.targetRuntimeSpecHash

/-- The update states in which a deployment may be found converged: `completed` when it changed
the spec, and otherwise anything but a paused update or a rollback that is going on or paused. -/
def DeploymentSettled (noOp : Bool) (updateState : Option UpdateState) : Prop :=
  if noOp then
    updateState ≠ some .paused ∧ updateState ≠ some .rollback_started ∧
      updateState ≠ some .rollback_paused
  else updateState = some .completed

/-- The update states in which a rollback may be found converged. -/
def RollbackSettled (updateState : Option UpdateState) : Prop :=
  updateState ≠ some .paused ∧ updateState ≠ some .rollback_started ∧
    updateState ≠ some .rollback_paused

theorem nodup_of_length_dedup {α : Type} [DecidableEq α] {l : List α}
    (h : l.dedup.length = l.length) : l.Nodup := by
  have heq : l.dedup = l := (List.dedup_sublist l).eq_of_length h
  exact List.dedup_eq_self.mp heq

variable {current : ServiceDetailResponse} {plan : ServiceMutationPlan} {digest : String}

theorem tasksMatch_iff :
    tasksMatch current plan digest = true ↔
      current.running.length = current.service.desiredReplicas ∧
        (current.running.map (·.slot)).Nodup ∧
        ∀ task ∈ current.running, 0 < task.slot ∧ imageContainsDigest task.image digest = true ∧
          task.forceUpdate = plan.targetForceUpdate ∧
          some task.runtimeSpecHash = plan.targetRuntimeSpecHash := by
  simp only [tasksMatch, Bool.and_eq_true, decide_eq_true_eq, List.all_eq_true, and_assoc]
  constructor
  · rintro ⟨hcount, hslots, htasks⟩
    refine ⟨hcount, nodup_of_length_dedup ?_, htasks⟩
    rw [hslots, List.length_map, hcount]
  · rintro ⟨hcount, hslots, htasks⟩
    refine ⟨hcount, ?_, htasks⟩
    rw [List.dedup_eq_self.mpr hslots, List.length_map, hcount]

theorem converged_of_tasksMatch (hspec : current.service.specHash = plan.targetSpecHash)
    (himage : imageContainsDigest current.service.image digest = true)
    (hreplicas : current.service.desiredReplicas = current.service.runningReplicas)
    (htasks : tasksMatch current plan digest = true) : Converged plan digest current := by
  obtain ⟨hcount, hslots, htasks⟩ := tasksMatch_iff.mp htasks
  exact {
    specHash := hspec
    image := himage
    replicas := hreplicas
    count := hcount
    slots := hslots
    positive := fun task h => (htasks task h).1
    task_image := fun task h => (htasks task h).2.1
    task_forceUpdate := fun task h => (htasks task h).2.2.1
    task_runtime := fun task h => (htasks task h).2.2.2 }

theorem classifyDeploymentSnapshot_success {noOp : Bool}
    (h : classifyDeploymentSnapshot current plan digest noOp = .SUCCESS) :
    Converged plan digest current ∧ DeploymentSettled noOp current.service.updateState := by
  simp only [classifyDeploymentSnapshot] at h
  repeat' split at h
  all_goals first
    | (cases h; done)
    | skip
  rename_i hstarted hpaused htarget himage hpause _ hcompleted hreplicas _ htasks
  refine ⟨converged_of_tasksMatch (by simpa using htarget) (by simpa using himage)
    (by simpa using hreplicas) (by simpa using htasks), ?_⟩
  cases noOp with
  | false => simpa [DeploymentSettled] using hcompleted
  | true => exact ⟨hpause, hstarted, hpaused⟩

theorem classifyRollbackSnapshot_success
    (h : classifyRollbackSnapshot current plan digest = .SUCCESS) :
    Converged plan digest current ∧ RollbackSettled current.service.updateState := by
  simp only [classifyRollbackSnapshot] at h
  repeat' split at h
  all_goals first
    | (cases h; done)
    | skip
  rename_i htarget himage hpaused hstarted _ hreplicas htasks
  obtain ⟨hpause, hrollback⟩ := not_or.mp hpaused
  exact ⟨converged_of_tasksMatch (by simpa using htarget) (by simpa using himage)
    (by simpa using hreplicas) (by simpa using htasks), hpause, hstarted, hrollback⟩

end Docklane.Control
