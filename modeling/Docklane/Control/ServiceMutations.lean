import Docklane.Control.Dispatch
import Docklane.Control.Snapshots
import Docklane.Control.Verification

/-!
# Scale and restart

`operations/mutation.service.ts`. The calls `scale` and `restart` differ in their plan, in what they
check for capacity and in the request they send; `mutateService` is what they share.
-/

namespace Docklane.Control

open Concurrent

/-- `capacity.assertAvailable` of `capacity/capacity.service.ts`. -/
def assertAvailable (serviceId : String) (input : CapacityCheckRequest) : ControlProgram Unit :=
  Program.bind (Program.attempt (askAgent (.checkServiceCapacity serviceId input)))
    fun (answer : Except Failure CapacityStatus) =>
      match answer with
      | .ok .INSUFFICIENT => .throw (.conflict
          "Swarm capacity pre-check found insufficient eligible capacity")
      | .ok _ => .pure ()
      | .error (.agentRequest 409 _) =>
        .throw (.conflict "Service changed before capacity check")
      | .error _ => .throw (.badGateway "Agent capacity check failed")

namespace MutationService

def mapAgentError (statusCode : Nat) : Failure :=
  if statusCode = 409 then .conflict "Agent rejected stale service state"
  else if statusCode = 400 then .badGateway "Agent rejected mutation request"
  else .badGateway "Agent mutation failed"

def mapPlanningError : Failure → Failure
  | .agentRequest statusCode _ =>
    if statusCode = 409 then .conflict "Service changed before mutation planning"
    else if statusCode = 400 then .badGateway "Agent rejected mutation planning"
    else .badGateway "Agent mutation planning failed"
  | e => e

def requireOperation (id : String) : ControlProgram OperationRecord :=
  (findOperation id).bind fun found =>
    match found with
    | some operation => .pure operation
    | none => .throw (.error "Operation disappeared after persistence")

def markNeedsAttention (id code message : String) : ControlProgram Unit :=
  changeOperation id (.needsAttention code message)

/-! ## Verification -/

inductive VerificationResult where
  | SUCCESS (version : Nat)
  | FAILED (message : String)
  | EXTERNAL_CONFLICT (message : String)
  | UNCERTAIN (message : String)
  deriving DecidableEq, Repr

/-- What is written for the result of a verification. -/
def VerificationResult.change : VerificationResult → OperationChange
  | .SUCCESS version => .success version
  | .FAILED message => .failed "CONVERGENCE_FAILED" message
  | .EXTERNAL_CONFLICT message => .needsAttention "EXTERNAL_SERVICE_CONFLICT" message
  | .UNCERTAIN message => .needsAttention "VERIFICATION_UNCERTAIN" message

variable (operation : OperationRecord)

def verifyLoop (deadline : Int) : Nat → Option String → ControlProgram VerificationResult
  | 0, _ => hang
  | fuel + 1, lastError =>
    let retry := verifyLoop deadline fuel
    now.bind fun t =>
      if t < deadline then
        (inspectService operation.serviceId).attempt.bind fun answer =>
          match answer with
          | .error e => (sleep VERIFY_INTERVAL_MS).bind fun _ => retry (some (errorMessage e))
          | .ok current =>
            match classifyMutationSnapshot operation current with
            | .EXTERNAL_CONFLICT message => .pure (.EXTERNAL_CONFLICT message)
            | .FAILED message => .pure (.FAILED message)
            | .SUCCESS => .pure (.SUCCESS current.service.version)
            | .PENDING => (sleep VERIFY_INTERVAL_MS).bind fun _ => retry none
      else
        .pure (.UNCERTAIN (if truthy lastError then
          "Verification timed out after Agent errors: " ++ lastError.getD ""
        else "Service mutation was accepted but convergence was not confirmed"))

def verify (fuel : Nat) : ControlProgram VerificationResult :=
  now.bind fun t => verifyLoop operation (t + VERIFY_TIMEOUT_MS) fuel none

def verifyAndCompleteLocked (fuel : Nat) : ControlProgram OperationRecord :=
  (verify operation fuel).bind fun result =>
    (changeOperation operation.id result.change).bind fun _ => requireOperation operation.id

/-! ## Reconciliation -/

def giveUp (code message : String) : ControlProgram OperationRecord :=
  (markNeedsAttention operation.id code message).bind fun _ => requireOperation operation.id

/-- The target has been seen: record that, and verify it. -/
def resumeVerification (version fuel : Nat) : ControlProgram OperationRecord :=
  let verifyRefreshed := (requireOperation operation.id).bind fun refreshed =>
    verifyAndCompleteLocked refreshed fuel
  if operation.status ≠ .VERIFYING then
    (changeOperation operation.id (.verifying version)).bind fun _ =>
      Program.bind (query (.audit operation.id "MUTATION_RECONCILED")) fun (_ : Unit) =>
        verifyRefreshed
  else verifyRefreshed

def reconcileLocked (fuel : Nat) : ControlProgram OperationRecord :=
  if operation.beforeSpecHash.isEmpty ∨ operation.targetSpecHash.isEmpty then
    giveUp operation "LEGACY_OPERATION_MISSING_TARGET"
      "Operation predates service fingerprint tracking and cannot be reconciled automatically"
  else
    (inspectService operation.serviceId).attempt.bind fun answer =>
      match answer with
      | .error e =>
        giveUp operation "RECONCILIATION_UNAVAILABLE"
          ("Unable to inspect service during reconciliation: " ++ errorMessage e)
      | .ok current =>
        if current.service.specHash = operation.targetSpecHash then
          resumeVerification operation current.service.version fuel
        else if current.service.version = operation.expectedVersion ∧
            current.service.specHash = operation.beforeSpecHash then
          giveUp operation "MUTATION_NOT_OBSERVED"
            "Mutation outcome is uncertain and the target spec was not observed"
        else
          giveUp operation "EXTERNAL_SERVICE_CONFLICT"
            "Service spec changed outside the recorded Docklane mutation"

/-! ## The calls -/

def assertNoNodeOperationConflict (clusterId serviceId : String) : ControlProgram Unit :=
  (findNonTerminalAffectingService clusterId serviceId).bind fun found =>
    match found with
    | some nodeOperation => .throw (.conflict
        ("Service is affected by unresolved node operation " ++ nodeOperation.id ++ " (" ++
          nodeOperation.status.text ++ ")"))
    | none => .pure ()

def resolvePriorServiceOperation (clusterId serviceId : String) (fuel : Nat) :
    ControlProgram Unit :=
  (findNonTerminalForService clusterId serviceId).bind fun found =>
    match found with
    | none => .pure ()
    | some prior =>
      if prior.type = .DEPLOY ∨ prior.type = .ROLLBACK then
        .throw (.conflict ("Service has unresolved " ++
          (if prior.type = .DEPLOY then "deploy " else "rollback ") ++ prior.id ++ " (" ++
          prior.status.text ++ ")"))
      else
        (reconcileLocked prior fuel).bind fun reconciled =>
          if reconciled.status.isTerminal then .pure ()
          else .throw (.conflict ("Service has unresolved operation " ++ reconciled.id ++ " (" ++
            reconciled.status.text ++ ")"))

/-- The request of a call. -/
structure MutationInput where
  operationId : String
  actorId : String
  expectedVersion : Nat
  deriving DecidableEq, Repr

/-- What `scale` and `restart` have of their own. -/
structure Kind where
  type : OperationType
  /-- What the operation records as its target. -/
  targetReplicas : Option Nat
  plan : String → ControlProgram ServiceMutationPlan
  capacity : ServiceMutationPlan → ServiceDetailResponse → CapacityCheckRequest
  action : ServiceAction

def assertIdempotent (kind : Kind) (input : MutationInput) (clusterId serviceId : String)
    (existing : OperationRecord) : Bool :=
  existing.type = kind.type && existing.clusterId = clusterId && existing.serviceId = serviceId &&
    existing.actorId = input.actorId && existing.expectedVersion = input.expectedVersion &&
    existing.targetReplicas = kind.targetReplicas

def planMatchesCurrent (plan : ServiceMutationPlan) (current : ServiceDetailResponse) : Bool :=
  current.service.id = plan.serviceId && current.service.version = plan.version &&
    current.service.specHash = plan.beforeSpecHash

def acceptedMatchesPlan (accepted : ServiceMutationResponse) (plan : ServiceMutationPlan) : Bool :=
  accepted.serviceId = plan.serviceId && accepted.targetSpecHash = plan.targetSpecHash &&
    accepted.targetForceUpdate = plan.targetForceUpdate

/-- The row that `persistIntent` creates. -/
def intent (kind : Kind) (input : MutationInput) (clusterId : String)
    (plan : ServiceMutationPlan) : OperationInput where
  id := input.operationId
  clusterId := clusterId
  serviceId := plan.serviceId
  type := kind.type
  actorId := input.actorId
  expectedVersion := plan.version
  beforeSpecHash := plan.beforeSpecHash
  targetSpecHash := plan.targetSpecHash
  targetForceUpdate := plan.targetForceUpdate
  targetReplicas := kind.targetReplicas
  targetImage := none
  targetTaskSpecHash := none
  targetRuntimeSpecHash := none

def rejectionCode : Failure → Nat → String
  | .preDispatch _, _ => "MAINTENANCE_DISPATCH_REJECTED"
  | _, statusCode =>
    if statusCode = 409 then "AGENT_VERSION_CONFLICT" else "AGENT_MUTATION_REJECTED"

variable (settings : Settings)

/-- Send the request, check the answer and record it: the `try` block of the calls. -/
def sendAndRecord (admission : Option ActiveAdmission) (kind : Kind)
    (operationId serviceId : String) (plan : ServiceMutationPlan) : ControlProgram Unit :=
  Program.bind (dispatch settings admission operationId
    (.service serviceId kind.action plan.version plan.beforeSpecHash plan.targetSpecHash))
    fun (accepted : ServiceMutationResponse) =>
      if acceptedMatchesPlan accepted plan then
        changeOperation operationId (.verifying accepted.version)
      else .throw (.conflict "Agent mutation response does not match the recorded target")

/-- The part of a call that runs once the intent is persisted. -/
def execute (admission : Option ActiveAdmission) (kind : Kind)
    (operationId serviceId : String) (plan : ServiceMutationPlan) (fuel : Nat) :
    ControlProgram OperationRecord :=
  (sendAndRecord settings admission kind operationId serviceId plan).attempt.bind fun outcome =>
    match outcome with
    | .ok () =>
      (requireOperation operationId).bind fun operation => verifyAndCompleteLocked operation fuel
    | .error e =>
      match deterministicAgentRejection e with
      | some (statusCode, body) =>
        (changeOperation operationId (.failed (rejectionCode e statusCode) body)).bind fun _ =>
          .throw (mapAgentError statusCode)
      | none =>
        (requireOperation operationId).bind fun operation => reconcileLocked operation fuel

/-- The part of a call between its checks and its intent. -/
def planAndPersist (kind : Kind) (input : MutationInput) (clusterId serviceId : String) :
    ControlProgram ServiceMutationPlan :=
  (kind.plan serviceId).attempt.bind fun planned =>
    match planned with
    | .error e => .throw (mapPlanningError e)
    | .ok plan =>
      (inspectService serviceId).bind fun before =>
        if planMatchesCurrent plan before then
          (assertAvailable serviceId (kind.capacity plan before)).bind fun _ =>
            Program.bind (query (.createOperation (intent kind input clusterId plan)))
              fun (_ : Unit) => .pure plan
        else .throw (.conflict "Service changed between resolution and mutation planning")

/-- The callback of a call, under the lock of the service. -/
def mutateLocked (kind : Kind) (input : MutationInput)
    (clusterId serviceId : String) (fuel : Nat) (admission : Option ActiveAdmission) :
    ControlProgram OperationRecord :=
  (findOperation input.operationId).bind fun found =>
    match found with
    | some existing =>
      if assertIdempotent kind input clusterId serviceId existing then
        if existing.status.isTerminal then .pure existing else reconcileLocked existing fuel
      else .throw (.conflict "operationId was already used for a different mutation")
    | none =>
      (resolvePriorServiceOperation clusterId serviceId fuel).bind fun _ =>
        (assertNoNodeOperationConflict clusterId serviceId).bind fun _ =>
          (planAndPersist kind input clusterId serviceId).bind fun plan =>
            execute settings admission kind input.operationId serviceId plan fuel

def mutateService (kind : Kind) (clusterId requestedServiceId : String)
    (input : MutationInput) (fuel : Nat) : ControlProgram OperationRecord :=
  if clusterId ≠ settings.clusterId then .throw (.notFound "Cluster not found")
  else
    (inspectService requestedServiceId).bind fun resolved =>
      withServiceLock settings clusterId resolved.service.id
        (mutateLocked settings kind input clusterId resolved.service.id fuel)

def scaleKind (expectedVersion replicas : Nat) : Kind where
  type := .SCALE
  targetReplicas := some replicas
  plan serviceId := askAgent (.planScaleService serviceId expectedVersion replicas)
  capacity plan _ := ⟨plan.version, replicas, false⟩
  action := .scale replicas

def restartKind (expectedVersion : Nat) : Kind where
  type := .RESTART
  targetReplicas := none
  plan serviceId := askAgent (.planRestartService serviceId expectedVersion)
  capacity plan before := ⟨plan.version, before.service.desiredReplicas, true⟩
  action := .restart

def scale (clusterId requestedServiceId : String) (input : MutationInput)
    (replicas fuel : Nat) : ControlProgram OperationRecord :=
  mutateService settings (scaleKind input.expectedVersion replicas) clusterId requestedServiceId
    input fuel

def restart (clusterId requestedServiceId : String) (input : MutationInput)
    (fuel : Nat) : ControlProgram OperationRecord :=
  mutateService settings (restartKind input.expectedVersion) clusterId requestedServiceId input
    fuel

/-! ## Startup -/

/-- One operation of `onApplicationBootstrap`. An error is logged and the loop goes on. -/
def recoverOperation (operation : OperationRecord) (fuel : Nat) : ControlProgram Unit :=
  (withServiceRecoveryLock settings operation.clusterId operation.serviceId
    ((findOperation operation.id).bind fun found =>
      match found with
      | none => .pure ()
      | some current =>
        if current.status.isTerminal then .pure ()
        else (reconcileLocked current fuel).bind fun _ => .pure ())).attempt.bind fun _ => .pure ()

def recoverOperations (fuel : Nat) : List OperationRecord → ControlProgram Unit
  | [] => .pure ()
  | operation :: rest =>
    if operation.type = .DEPLOY ∨ operation.type = .ROLLBACK then
      recoverOperations fuel rest
    else
      (recoverOperation settings operation fuel).bind fun _ =>
        recoverOperations fuel rest

def onApplicationBootstrap (fuel : Nat) : ControlProgram Unit :=
  Program.bind (query .listNonTerminal) (recoverOperations settings fuel)

end MutationService

end Docklane.Control
