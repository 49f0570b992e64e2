import Docklane.Control.Dispatch
import Docklane.Control.Snapshots
import Docklane.Control.Verification

/-!
# Drain, activate and labels

`operations/node-mutation.service.ts`. A node operation locks its node and every service it affects.
The affected services are read before the locks are taken and once more under them.
-/

namespace Docklane.Control

open Concurrent

namespace NodeMutationService

def mapAgentError (statusCode : Nat) : Failure :=
  if statusCode = 409 then .conflict "Agent rejected stale node state"
  else .badGateway "Agent rejected node mutation request"

def mapPlanningError : Failure → Failure
  | .agentRequest statusCode _ =>
    if statusCode = 409 then .conflict "Node changed before mutation planning"
    else .badGateway "Agent node mutation planning failed"
  | e => e

def requireOperation (id : String) : ControlProgram NodeOperationRecord :=
  (findNodeOperation id).bind fun found =>
    match found with
    | some operation => .pure operation
    | none => .throw (.error "Node operation disappeared after persistence")

variable (operation : NodeOperationRecord)

def giveUp (code message : String) : ControlProgram NodeOperationRecord :=
  (changeNodeOperation operation.id (.needsAttention code message)).bind fun _ =>
    requireOperation operation.id

/-! ## Verification -/

def affectedServicesConverged : List String → ControlProgram Bool
  | [] => .pure true
  | serviceId :: rest =>
    (checkServicePlacement serviceId).bind fun placement =>
      if placement = .CONVERGED then affectedServicesConverged rest else .pure false

/-- One look at the node: the operation when the verification has ended, `none` when it goes on.
The caller catches what this throws. -/
def verifyOnce : ControlProgram (Option NodeOperationRecord) :=
  (inspectNode operation.nodeId).bind fun current =>
    match classifyNodeMutation operation current with
    | .PENDING => .pure none
    | .EXTERNAL_CONFLICT message =>
      (giveUp operation "EXTERNAL_NODE_CONFLICT" message).bind fun ended => .pure (some ended)
    | .SUCCESS =>
      let converged : ControlProgram Bool :=
        if operation.type = .LABELS then affectedServicesConverged operation.affectedServiceIds
        else .pure true
      converged.bind fun converged =>
        if converged then
          (changeNodeOperation operation.id (.success current.node.version)).bind fun _ =>
            (requireOperation operation.id).bind fun ended => .pure (some ended)
        else .pure none

def verifyLoop (deadline : Int) : Nat → Option String → ControlProgram NodeOperationRecord
  | 0, _ => hang
  | fuel + 1, lastError =>
    now.bind fun t =>
      if t < deadline then
        (verifyOnce operation).attempt.bind fun outcome =>
          match outcome with
          | .ok (some ended) => .pure ended
          | .ok none =>
            (sleep VERIFY_INTERVAL_MS).bind fun _ => verifyLoop deadline fuel none
          | .error e =>
            (sleep VERIFY_INTERVAL_MS).bind fun _ =>
              verifyLoop deadline fuel (some (errorMessage e))
      else
        giveUp operation "NODE_VERIFICATION_UNCERTAIN" (if truthy lastError then
          "Node verification timed out after Agent errors: " ++ lastError.getD ""
        else "Node mutation was accepted but convergence was not confirmed")

def verifyAndCompleteLocked (fuel : Nat) : ControlProgram NodeOperationRecord :=
  now.bind fun t => verifyLoop operation (t + VERIFY_TIMEOUT_MS) fuel none

/-! ## Reconciliation -/

def reconcileLocked (fuel : Nat) : ControlProgram NodeOperationRecord :=
  let verifyRefreshed := (requireOperation operation.id).bind fun refreshed =>
    verifyAndCompleteLocked refreshed fuel
  (inspectNode operation.nodeId).attempt.bind fun answer =>
    match answer with
    | .error e =>
      giveUp operation "NODE_RECONCILIATION_UNAVAILABLE"
        ("Unable to inspect node: " ++ errorMessage e)
    | .ok current =>
      if current.node.specHash = operation.targetSpecHash then
        if operation.status ≠ .VERIFYING then
          (changeNodeOperation operation.id (.verifying current.node.version)).bind fun _ =>
            verifyRefreshed
        else verifyRefreshed
      else if current.node.version = operation.expectedVersion ∧
          current.node.specHash = operation.beforeSpecHash then
        giveUp operation "NODE_MUTATION_NOT_OBSERVED"
          "Node mutation outcome is uncertain and target state was not observed"
      else
        giveUp operation "EXTERNAL_NODE_CONFLICT"
          "Node spec changed outside the recorded Docklane mutation"

/-! ## The call -/

/-- The request of a call. -/
structure MutationInput where
  operationId : String
  actorId : String
  expectedVersion : Nat
  type : NodeOperationType
  /-- `set` and `remove` of a label request. -/
  patch : LabelPatch
  deriving DecidableEq, Repr

/-- The patch that a label operation records. -/
def MutationInput.labelPatch (input : MutationInput) : Option LabelPatch :=
  if input.type = .LABELS then some ⟨input.patch.set, input.patch.remove.mergeSort (· ≤ ·)⟩
  else none

def sameLabelPatch : Option LabelPatch → Option LabelPatch → Bool
  | some left, some right =>
    sameLabels left.set right.set &&
      left.remove.mergeSort (· ≤ ·) = right.remove.mergeSort (· ≤ ·)
  | none, none => true
  | _, _ => false

def assertIdempotent (input : MutationInput) (clusterId nodeId : String)
    (existing : NodeOperationRecord) : Bool :=
  existing.clusterId = clusterId && existing.nodeId = nodeId && existing.type = input.type &&
    existing.actorId = input.actorId && existing.expectedVersion = input.expectedVersion &&
    sameLabelPatch existing.labelPatch input.labelPatch

def plan (input : MutationInput) (nodeId : String) : ControlProgram NodeMutationPlan :=
  match input.type with
  | .DRAIN => askAgent (.planDrainNode nodeId input.expectedVersion)
  | .ACTIVATE => askAgent (.planActivateNode nodeId input.expectedVersion)
  | .LABELS => askAgent (.planNodeLabels nodeId input.expectedVersion input.patch)

/-- What is known before the locks are taken: the operation if it exists already, and the services
that the mutation is going to affect. -/
structure Impact where
  existing : Option NodeOperationRecord
  affected : List String
  deriving DecidableEq, Repr

/-- The affected services of an operation on this node. -/
def affectedOn (nodeId : String) (operation : Option NodeOperationRecord) : List String :=
  match operation with
  | some operation => if operation.nodeId = nodeId then operation.affectedServiceIds else []
  | none => []

def initialImpact (input : MutationInput) (initial : NodeDetailResponse) : ControlProgram Impact :=
  let nodeId := initial.node.id
  (findNodeOperation input.operationId).bind fun existing =>
    if input.type = .LABELS then
      match existing with
      | some operation => .pure ⟨existing, sortedUnique operation.affectedServiceIds⟩
      | none =>
        (plan input nodeId).attempt.bind fun planned =>
          match planned with
          | .ok plan => .pure ⟨none, sortedUnique plan.affectedServiceIds⟩
          | .error e =>
            (findNodeOperation input.operationId).bind fun raced =>
              match raced with
              | none => .throw (mapPlanningError e)
              | some _ => .pure ⟨raced, sortedUnique (affectedOn nodeId raced)⟩
    else .pure ⟨existing, sortedUnique initial.serviceIds⟩

/-- No service of the list is part of an unresolved operation. -/
def assertServicesFree (clusterId : String) : List String → ControlProgram Unit
  | [] => .pure ()
  | serviceId :: rest =>
    (findNonTerminalForService clusterId serviceId).bind fun found =>
      match found with
      | some serviceOperation => .throw (.conflict
          ("Service " ++ serviceId ++ " has unresolved operation " ++ serviceOperation.id))
      | none =>
        (findNonTerminalAffectingService clusterId serviceId).bind fun found =>
          match found with
          | some nodeOperation => .throw (.conflict
              ("Service " ++ serviceId ++ " is affected by unresolved node operation " ++
                nodeOperation.id ++ " on node " ++ nodeOperation.nodeId))
          | none => assertServicesFree clusterId rest

def planMatchesLockedNode (plan : NodeMutationPlan) (locked : NodeDetailResponse)
    (lockedServices : List String) : Bool :=
  plan.nodeId = locked.node.id && plan.version = locked.node.version &&
    plan.beforeSpecHash = locked.node.specHash &&
    sortedUnique plan.affectedServiceIds = lockedServices

def acceptedMatchesPlan (accepted : NodeMutationResponse) (plan : NodeMutationPlan) : Bool :=
  accepted.nodeId = plan.nodeId && accepted.targetSpecHash = plan.targetSpecHash &&
    accepted.targetAvailability = plan.targetAvailability

/-- The row that `persistIntent` creates. -/
def intent (input : MutationInput) (clusterId : String) (plan : NodeMutationPlan) :
    NodeOperationInput where
  id := input.operationId
  clusterId := clusterId
  nodeId := plan.nodeId
  type := input.type
  actorId := input.actorId
  expectedVersion := plan.version
  beforeSpecHash := plan.beforeSpecHash
  targetSpecHash := plan.targetSpecHash
  targetAvailability := plan.targetAvailability
  affectedServiceIds := plan.affectedServiceIds
  targetLabels := plan.targetLabels
  labelPatch := input.labelPatch

/-- The request body of `execute`; a label plan without its labels has none. -/
def action (type : NodeOperationType) (plan : NodeMutationPlan) : Option NodeAction :=
  match type with
  | .DRAIN => some (.drain plan.affectedServiceIds)
  | .ACTIVATE => some .activate
  | .LABELS => plan.targetLabels.map (.labels plan.affectedServiceIds)

def rejectionCode : Failure → Nat → String
  | .preDispatch _, _ => "MAINTENANCE_DISPATCH_REJECTED"
  | _, statusCode =>
    if statusCode = 409 then "NODE_VERSION_CONFLICT" else "NODE_MUTATION_REJECTED"

variable (settings : Settings)

def sendAndRecord (admission : Option ActiveAdmission)
    (input : MutationInput) (nodeId : String) (plan : NodeMutationPlan) : ControlProgram Unit :=
  match action input.type plan with
  | none => .throw (.error "Planned target labels are missing")
  | some action =>
    Program.bind (dispatch settings admission input.operationId
      (.node nodeId action plan.version plan.beforeSpecHash plan.targetSpecHash))
      fun (accepted : NodeMutationResponse) =>
        if acceptedMatchesPlan accepted plan then
          changeNodeOperation input.operationId (.verifying accepted.version)
        else .throw (.conflict "Agent node mutation response does not match the recorded target")

/-- The part of the call that runs once the intent is persisted. -/
def execute (admission : Option ActiveAdmission) (input : MutationInput)
    (nodeId : String) (plan : NodeMutationPlan) (fuel : Nat) :
    ControlProgram NodeOperationRecord :=
  if plan.beforeSpecHash = plan.targetSpecHash then
    (requireOperation input.operationId).bind fun operation =>
      verifyAndCompleteLocked operation fuel
  else
    (sendAndRecord settings admission input nodeId plan).attempt.bind fun outcome =>
      match outcome with
      | .ok () =>
        (requireOperation input.operationId).bind fun operation =>
          verifyAndCompleteLocked operation fuel
      | .error e =>
        match deterministicAgentRejection e with
        | some (statusCode, body) =>
          (changeNodeOperation input.operationId
            (.failed (rejectionCode e statusCode) body)).bind fun _ =>
              .throw (mapAgentError statusCode)
        | none =>
          (requireOperation input.operationId).bind fun operation =>
            reconcileLocked operation fuel

def resolvePriorNodeOperation (clusterId nodeId : String) (fuel : Nat) : ControlProgram Unit :=
  (findNonTerminalForNode clusterId nodeId).bind fun found =>
    match found with
    | none => .pure ()
    | some prior =>
      (reconcileLocked prior fuel).bind fun reconciled =>
        if reconciled.status.isTerminal then .pure ()
        else .throw (.conflict ("Node has unresolved operation " ++ reconciled.id ++ " (" ++
          reconciled.status.text ++ ")"))

/-- A planning error as the call reports it. -/
def planMapped (input : MutationInput) (nodeId : String) : ControlProgram NodeMutationPlan :=
  (plan input nodeId).tryCatch fun e => .throw (mapPlanningError e)

def impactChanged (type : NodeOperationType) : Failure :=
  .conflict (if type = .LABELS then
    "Node label impact set changed while acquiring mutation locks; retry the operation"
  else "Node task set changed while acquiring mutation locks; retry the operation")

/-- Persist the intent, if the plan is for the node that was looked at under the locks. -/
def persistIntent (input : MutationInput) (clusterId : String) (lockedNode : NodeDetailResponse)
    (lockedServices : List String) (plan : NodeMutationPlan) : ControlProgram NodeMutationPlan :=
  if planMatchesLockedNode plan lockedNode lockedServices then
    Program.bind (query (.createNodeOperation (intent input clusterId plan)))
      fun (_ : Unit) => .pure plan
  else .throw (.conflict "Node changed between lock acquisition and mutation planning")

/-- The checks under the locks, up to the persisted intent. A label mutation is planned before
them, the others after them. -/
def planAndPersist (input : MutationInput) (clusterId nodeId : String) (affected : List String) :
    ControlProgram NodeMutationPlan :=
  (inspectNode nodeId).bind fun lockedNode =>
    if input.type = .LABELS then
      (planMapped input nodeId).bind fun plan =>
        let lockedServices := sortedUnique plan.affectedServiceIds
        if affected ≠ lockedServices then .throw (impactChanged input.type)
        else
          (assertServicesFree clusterId lockedServices).bind fun _ =>
            persistIntent input clusterId lockedNode lockedServices plan
    else
      let lockedServices := sortedUnique lockedNode.serviceIds
      if affected ≠ lockedServices then .throw (impactChanged input.type)
      else
        (assertServicesFree clusterId lockedServices).bind fun _ =>
          (planMapped input nodeId).bind fun plan =>
            persistIntent input clusterId lockedNode lockedServices plan

/-- The callback of the call, under the locks of the node and the services. -/
def mutateLocked (input : MutationInput) (clusterId nodeId : String)
    (affected : List String) (fuel : Nat) (admission : Option ActiveAdmission) :
    ControlProgram NodeOperationRecord :=
  (findNodeOperation input.operationId).bind fun found =>
    match found with
    | some existing =>
      if assertIdempotent input clusterId nodeId existing then
        if existing.status.isTerminal then .pure existing else reconcileLocked existing fuel
      else .throw (.conflict "operationId was already used for a different node mutation")
    | none =>
      (resolvePriorNodeOperation clusterId nodeId fuel).bind fun _ =>
        (planAndPersist input clusterId nodeId affected).bind fun plan =>
          execute settings admission input nodeId plan fuel

/-- The services that are locked along with the node. -/
def lockServiceIds (nodeId : String) (impact : Impact) (prior : Option NodeOperationRecord) :
    List String :=
  sortedUnique (impact.affected ++ affectedOn nodeId impact.existing ++
    (prior.map (·.affectedServiceIds)).getD [])

def mutate (clusterId nodeRef : String) (input : MutationInput)
    (fuel : Nat) : ControlProgram NodeOperationRecord :=
  if clusterId ≠ settings.clusterId then .throw (.notFound "Cluster not found")
  else
    (inspectNode nodeRef).bind fun initial =>
      let nodeId := initial.node.id
      (initialImpact input initial).bind fun impact =>
        (findNonTerminalForNode clusterId nodeId).bind fun prior =>
          withNodeAndServiceLocks settings clusterId nodeId (lockServiceIds nodeId impact prior)
            (mutateLocked settings input clusterId nodeId impact.affected fuel)

/-! ## Startup -/

def recoverOperation (operation : NodeOperationRecord) (fuel : Nat) : ControlProgram Unit :=
  (withNodeRecoveryLocks settings operation.clusterId operation.nodeId operation.affectedServiceIds
    ((findNodeOperation operation.id).bind fun found =>
      match found with
      | none => .pure ()
      | some current =>
        if current.status.isTerminal then .pure ()
        else (reconcileLocked current fuel).bind fun _ => .pure ())).attempt.bind fun _ => .pure ()

def recoverOperations (fuel : Nat) : List NodeOperationRecord → ControlProgram Unit
  | [] => .pure ()
  | operation :: rest =>
    (recoverOperation settings operation fuel).bind fun _ => recoverOperations fuel rest

def onApplicationBootstrap (fuel : Nat) : ControlProgram Unit :=
  Program.bind (query .listNonTerminalNode) (recoverOperations settings fuel)

end NodeMutationService

end Docklane.Control
