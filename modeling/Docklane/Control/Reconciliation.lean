import Docklane.Control.Verification

/-!
# Reconciliation of deployments and rollbacks

`reconcileLocked` and `reconcileRollbackLocked` of `deployments/deployment.service.ts`: what the
control plane does with an intent whose outcome it does not know, after a lost response or a
restart. They observe the service and write what they conclude; they never ask for a change of
Docker.
-/

namespace Docklane.Control

open Concurrent

def RECONCILE_OBSERVATION_MS : Int := 10000

variable (operation : OperationRecord)

/-- A legacy intent, recorded without a runtime hash, whose service has neither of its specs. -/
def legacyIntentHasExternalConflict : ControlProgram Bool :=
  if truthy operation.targetRuntimeSpecHash ∨ operation.beforeSpecHash.isEmpty ∨
      operation.targetSpecHash.isEmpty then .pure false
  else
    (inspectService operation.serviceId).attempt.bind fun answer =>
      match answer with
      | .error _ => .pure false
      | .ok current => .pure (current.service.specHash ≠ operation.beforeSpecHash ∧
          current.service.specHash ≠ operation.targetSpecHash)

/-- The runtime hash of a plan that aims at the target of the operation. -/
def plannedRuntimeSpecHash (plan : ServiceMutationPlan) : Option String :=
  if plan.targetSpecHash = operation.targetSpecHash ∧
      plan.targetTaskSpecHash = operation.targetTaskSpecHash then plan.targetRuntimeSpecHash
  else none

/-- Plan the operation again, to learn its runtime hash. -/
def replan (version : Nat) : ControlProgram (Option String) :=
  let hashOf (answer : Except Failure ServiceMutationPlan) : ControlProgram (Option String) :=
    match answer with
    | .error _ => .pure none
    | .ok plan => .pure (plannedRuntimeSpecHash operation plan)
  match operation.type with
  | .DEPLOY =>
    Program.bind (Program.attempt (askAgent (.planUpdateServiceImage operation.serviceId version
      (operation.targetImage.getD "")))) hashOf
  | .ROLLBACK =>
    Program.bind (Program.attempt (askAgent (.planRollbackService operation.serviceId version)))
      hashOf
  | _ => .pure none

/-- Record the runtime hash that was found for a legacy intent. -/
def recordRuntimeSpecHash : Option String → ControlProgram (Option OperationRecord)
  | none => .pure none
  | some hash =>
    if hash.isEmpty then .pure none
    else Program.bind (query (.backfillTargetRuntimeSpecHash operation.id hash))
      fun (_ : Unit) => .pure (some { operation with targetRuntimeSpecHash := some hash })

/-- `hydrateLegacyRuntimeFingerprint`: the operation with its runtime hash, if that is recorded or
can be found out. -/
def hydrateLegacyRuntimeFingerprint : ControlProgram (Option OperationRecord) :=
  if truthy operation.targetRuntimeSpecHash then .pure (some operation)
  else if operation.targetSpecHash.isEmpty ∨ truthy operation.targetTaskSpecHash = false ∨
      truthy operation.targetImage = false then .pure none
  else
    (inspectService operation.serviceId).attempt.bind fun answer =>
      match answer with
      | .error _ => .pure none
      | .ok current =>
        let found : ControlProgram (Option String) :=
          if current.service.specHash = operation.targetSpecHash ∧
              truthy current.service.runtimeSpecHash then .pure current.service.runtimeSpecHash
          else replan operation current.service.version
        found.bind (recordRuntimeSpecHash operation)

/-- The plan that an operation was created from. -/
def OperationRecord.plan : ServiceMutationPlan where
  serviceId := operation.serviceId
  version := operation.expectedVersion
  beforeSpecHash := operation.beforeSpecHash
  targetSpecHash := operation.targetSpecHash
  targetForceUpdate := operation.targetForceUpdate
  targetReplicas := operation.targetReplicas
  targetImage := operation.targetImage
  targetTaskSpecHash := operation.targetTaskSpecHash
  targetRuntimeSpecHash := operation.targetRuntimeSpecHash

/-- The intent records both specs, the image and the task hash. -/
def OperationRecord.hasTarget : Bool :=
  !operation.beforeSpecHash.isEmpty && !operation.targetSpecHash.isEmpty &&
    truthy operation.targetImage && truthy operation.targetTaskSpecHash

/-- What the reconciliations of a deployment and of a rollback write when they cannot start. -/
structure ReconciliationTexts where
  type : OperationType
  legacyConflict : Settlement
  legacyPending : Settlement
  missingTarget : Settlement
  invalidImage : Settlement

/-- An intent with a usable target is observed, any other is given up. `observe` gets the completed
operation and its digest. -/
def observeIntent (texts : ReconciliationTexts) (operation : OperationRecord)
    (deploymentId : String)
    (observe : OperationRecord → String → ControlProgram DeploymentRecord) :
    Option OperationRecord → ControlProgram DeploymentRecord
  | none =>
    if operation.type = texts.type ∧ operation.hasTarget ∧
        truthy operation.targetRuntimeSpecHash = false then
      conclude texts.legacyPending deploymentId operation.id
    else conclude texts.missingTarget deploymentId operation.id
  | some compatible =>
    if compatible.type = texts.type ∧ compatible.hasTarget ∧
        truthy compatible.targetRuntimeSpecHash then
      match digestFromImage (compatible.targetImage.getD "") with
      | none => conclude texts.invalidImage deploymentId operation.id
      | some digest => observe compatible digest
    else conclude texts.missingTarget deploymentId operation.id

/-- The common start of both reconciliations: a legacy intent is completed first. -/
def withReconcilableIntent (texts : ReconciliationTexts) (operation : OperationRecord)
    (deploymentId : String)
    (observe : OperationRecord → String → ControlProgram DeploymentRecord) :
    ControlProgram DeploymentRecord :=
  (legacyIntentHasExternalConflict operation).bind fun conflict =>
    if conflict then conclude texts.legacyConflict deploymentId operation.id
    else
      (hydrateLegacyRuntimeFingerprint operation).bind
        (observeIntent texts operation deploymentId observe)

/-! ## Deployments -/

/-- `${current.service.updateState}`. -/
def ServiceDetailResponse.stateText (current : ServiceDetailResponse) : String :=
  (current.service.updateState.map UpdateState.text).getD "undefined"

/-- What the loop of `reconcileLocked` remembers. -/
structure ReconcileState where
  lastError : Option String
  observedService : Bool
  rollbackInProgress : Bool
  deriving DecidableEq, Repr

/-- The end of the observation window. -/
def reconcileTimeout (initialError : Option String) (state : ReconcileState) : Settlement :=
  if state.rollbackInProgress then
    .verificationPending "SWARM_ROLLBACK_IN_PROGRESS"
      "Swarm rollback is still in progress; mutation protection remains active"
  else if state.observedService = false ∧ truthy state.lastError then
    .attention "DEPLOYMENT_RECONCILIATION_UNAVAILABLE"
      ("Unable to inspect deployment outcome: " ++ state.lastError.getD "")
  else
    .attention "DEPLOYMENT_MUTATION_NOT_OBSERVED"
      (if truthy initialError then
        "Agent response was lost and the deployment target was not observed: " ++
          initialError.getD ""
      else "Persisted deployment intent exists but the target service spec was not observed")

/-- The target has been seen: verify it as after an accepted update. -/
def resumeVerification (compatible : OperationRecord) (deployment : DeploymentRecord)
    (digest : String) (version fuel : Nat) : ControlProgram DeploymentRecord :=
  let verify := verifyAndComplete deployment.id compatible.id compatible.plan digest
    deployment.noOp deployment.health fuel
  if compatible.status ≠ .VERIFYING ∨ deployment.status ≠ .VERIFYING then
    (settle (.markVerifying version) deployment.id compatible.id).bind fun _ => verify
  else verify

def reconcileLoop (operation compatible : OperationRecord) (deployment : DeploymentRecord)
    (digest : String) (initialError : Option String) (deadline : Int) :
    Nat → ReconcileState → ControlProgram DeploymentRecord
  | 0, _ => hang
  | fuel + 1, state =>
    let retry := reconcileLoop operation compatible deployment digest initialError deadline fuel
    now.bind fun t =>
      if t < deadline then
        (inspectService compatible.serviceId).attempt.bind fun answer =>
          match answer with
          | .error e =>
            (sleep VERIFY_INTERVAL_MS).bind fun _ =>
              retry { state with lastError := some (errorMessage e) }
          | .ok current =>
            let state := { state with lastError := none, observedService := true }
            match classifyDeploymentReconciliationSnapshot operation current with
            | .ROLLBACK_IN_PROGRESS =>
              (sleep VERIFY_INTERVAL_MS).bind fun _ =>
                retry { state with rollbackInProgress := true }
            | .ROLLBACK_PAUSED =>
              conclude (.attention "SWARM_ROLLBACK_PAUSED"
                "Swarm automatic rollback is paused and requires operator attention")
                deployment.id compatible.id
            | .FAILED =>
              conclude (.fail "CONVERGENCE_FAILED"
                ("Swarm update entered " ++ current.stateText))
                deployment.id compatible.id
            | .TARGET_OBSERVED =>
              resumeVerification compatible deployment digest current.service.version fuel
            | .WAITING_FOR_MUTATION => (sleep VERIFY_INTERVAL_MS).bind fun _ => retry state
            | .EXTERNAL_CONFLICT =>
              conclude (.attention "EXTERNAL_SERVICE_CONFLICT"
                "Service changed outside the recorded deployment target")
                deployment.id operation.id
      else conclude (reconcileTimeout initialError state) deployment.id operation.id

def deploymentTexts : ReconciliationTexts where
  type := .DEPLOY
  legacyConflict := .attention "EXTERNAL_SERVICE_CONFLICT"
    "Service changed outside the recorded legacy deployment transition"
  legacyPending := .verificationPending "LEGACY_RUNTIME_FINGERPRINT_PENDING"
    "Legacy deployment intent runtime fingerprint could not be reconstructed yet; reconciliation will retry"
  missingTarget := .attention "DEPLOYMENT_MISSING_TARGET"
    "Deployment intent is missing the persisted target needed for reconciliation"
  invalidImage := .attention "DEPLOYMENT_INVALID_TARGET_IMAGE"
    "Persisted deployment target image is not digest-pinned"

def observeDeployment (deployment : DeploymentRecord)
    (initialError : Option String) (fuel : Nat) (compatible : OperationRecord) (digest : String) :
    ControlProgram DeploymentRecord :=
  now.bind fun t =>
    reconcileLoop operation compatible deployment digest initialError
      (t + RECONCILE_OBSERVATION_MS) fuel ⟨initialError, false, false⟩

def reconcileLocked (deployment : DeploymentRecord)
    (initialError : Option String) (fuel : Nat) : ControlProgram DeploymentRecord :=
  withReconcilableIntent deploymentTexts operation deployment.id
    (observeDeployment operation deployment initialError fuel)

/-! ## Rollbacks -/

def reconcileRollbackTimeout (initialError lastError : Option String) : Settlement :=
  if truthy lastError then
    .rollbackAttention "ROLLBACK_RECONCILIATION_UNAVAILABLE"
      ("Unable to inspect rollback outcome: " ++ lastError.getD "")
  else
    .rollbackVerificationPending "ROLLBACK_STILL_IN_PROGRESS"
      (if truthy initialError then
        "Rollback response was lost and convergence is still in progress: " ++
          initialError.getD ""
      else "Rollback is still in progress")

def resumeRollbackVerification (compatible : OperationRecord) (deployment : DeploymentRecord)
    (digest : String) (version fuel : Nat) : ControlProgram DeploymentRecord :=
  let verify := verifyRollbackAndComplete deployment.id compatible.id compatible.plan digest
    deployment.health fuel
  if compatible.status ≠ .VERIFYING ∨ deployment.status ≠ .ROLLBACK_VERIFYING then
    (settle (.markRollbackVerifying version) deployment.id compatible.id).bind fun _ => verify
  else verify

def reconcileRollbackLoop (compatible : OperationRecord) (deployment : DeploymentRecord)
    (digest : String) (initialError : Option String) (deadline : Int) :
    Nat → Option String → ControlProgram DeploymentRecord
  | 0, _ => hang
  | fuel + 1, lastError =>
    let retry := reconcileRollbackLoop compatible deployment digest initialError deadline fuel
    now.bind fun t =>
      if t < deadline then
        (inspectService compatible.serviceId).attempt.bind fun answer =>
          match answer with
          | .error e =>
            (sleep VERIFY_INTERVAL_MS).bind fun _ => retry (some (errorMessage e))
          | .ok current =>
            ((rollbackVerification compatible.plan digest).classifyConvergence compatible.plan
                current).bind fun decision =>
              match decision with
              | .SUCCESS =>
                resumeRollbackVerification compatible deployment digest current.service.version
                  fuel
              | .FAILED =>
                conclude (.rollbackFailed "ROLLBACK_FAILED"
                  ("Swarm rollback entered " ++ current.stateText))
                  deployment.id compatible.id
              | .EXTERNAL_CONFLICT =>
                conclude (.rollbackAttention "ROLLBACK_EXTERNAL_CONFLICT"
                  "Service changed outside the recorded rollback target")
                  deployment.id compatible.id
              | _ => (sleep VERIFY_INTERVAL_MS).bind fun _ => retry none
      else
        conclude (reconcileRollbackTimeout initialError lastError) deployment.id compatible.id

def rollbackTexts : ReconciliationTexts where
  type := .ROLLBACK
  legacyConflict := .rollbackAttention "ROLLBACK_EXTERNAL_CONFLICT"
    "Service changed outside the recorded legacy rollback transition"
  legacyPending := .rollbackVerificationPending "LEGACY_RUNTIME_FINGERPRINT_PENDING"
    "Legacy rollback intent runtime fingerprint could not be reconstructed yet; reconciliation will retry"
  missingTarget := .rollbackAttention "ROLLBACK_MISSING_TARGET"
    "Rollback intent is missing the persisted target needed for reconciliation"
  invalidImage := .rollbackAttention "ROLLBACK_INVALID_TARGET_IMAGE"
    "Persisted rollback image is not digest-pinned"

def observeRollback (deployment : DeploymentRecord) (initialError : Option String) (fuel : Nat)
    (compatible : OperationRecord) (digest : String) : ControlProgram DeploymentRecord :=
  now.bind fun t =>
    reconcileRollbackLoop compatible deployment digest initialError
      (t + RECONCILE_OBSERVATION_MS) fuel initialError

def reconcileRollbackLocked (deployment : DeploymentRecord)
    (initialError : Option String) (fuel : Nat) : ControlProgram DeploymentRecord :=
  withReconcilableIntent rollbackTexts operation deployment.id
    (observeRollback deployment initialError fuel)

end Docklane.Control
