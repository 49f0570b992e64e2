import Mathlib.Data.List.Dedup
import Docklane.Control.Tables

/-!
# The transactions of the control plane

Every statement or transaction the services run, as one atomic function of the database:
the intents of the mutation and deployment services, their settlements, the admission and dispatch
journal, the maintenance transitions with their evidence, and the control lease. A transaction
that throws leaves the database as it was.
-/

namespace Docklane.Control

namespace Db

variable (db : Db)

/-! ## Intents -/

def insertOperation (input : OperationInput) : Except Failure Db :=
  if db.operations.any (·.id = input.id) then .error (.database true "Duplicate operation")
  else .ok { db with operations := db.operations ++
    [{ input with status := .PENDING, resultVersion := none, errorCode := none,
                  errorMessage := none }] }

/-- `persistIntent` of the mutation service: the row is created and marked running. -/
def createOperation (input : OperationInput) : Except Failure Db :=
  (db.insertOperation input).map (·.changeOperation input.id .running)

def insertDeployment (d : DeploymentRecord) : Except Failure Db :=
  if db.deployments.any fun row => row.id = d.id ∨ row.operationId = d.operationId then
    .error (.database true "Duplicate deployment")
  else .ok { db with deployments := db.deployments ++ [d] }

/-- `persistIntent` of the deployment service. -/
def createDeployment (operation : OperationInput) (input : DeploymentInput)
    (id : String) : Except Failure (DeploymentRecord × Db) := do
  let d : DeploymentRecord :=
    { input with
      id := id
      previousReleaseId := db.latestSuccessfulReleaseId input.deploymentTargetId
      rollbackOperationId := none
      status := if input.noOp then .VERIFYING else .DEPLOYING
      reason := none
      finishedAt := none }
  let db ← db.createOperation operation
  let db ← db.insertDeployment d
  return (d, db)

def insertRollbackAttempt (attempt : RollbackAttempt) : Except Failure Db :=
  if db.rollbackAttempts.any (·.operationId = attempt.operationId) then
    .error (.database true "Duplicate rollback attempt")
  else .ok { db with rollbackAttempts := db.rollbackAttempts ++ [attempt] }

/-- `persistRollbackIntent`. -/
def createRollback (operation : OperationInput) (deploymentId : String) :
    Except Failure Db := do
  let db ← db.createOperation operation
  let db ← db.insertRollbackAttempt ⟨operation.id, deploymentId⟩
  return db.writeDeployment deploymentId (.rollingBack operation.id)

/-- `persistIntent` of the node mutation service. -/
def createNodeOperation (input : NodeOperationInput) : Except Failure Db :=
  if db.nodeOperations.any (·.id = input.id) then .error (.database true "Duplicate operation")
  else .ok <| ({ db with nodeOperations := db.nodeOperations ++
    [{ input with status := .PENDING, resultVersion := none, errorCode := none,
                  errorMessage := none }] } : Db).changeNodeOperation input.id .running

end Db

/-! ## Settlements of deployments -/

/-- The transactions that change the status of an operation and of its deployment together. -/
inductive Settlement where
  | markVerifying (resultVersion : Nat)
  | verificationPending (code message : String)
  /-- The end of `verifyAndComplete`. -/
  | deployed (resultVersion : Nat)
  | fail (code message : String)
  | attention (code message : String)
  | markRollbackVerifying (resultVersion : Nat)
  | rollbackVerificationPending (code message : String)
  /-- The end of `verifyRollbackAndComplete`. -/
  | rolledBack (resultVersion : Nat)
  /-- No rollback ran: the deployment is `FAILED` again, as before the attempt. -/
  | rollbackRejected (responseBody : String)
  | rollbackFailed (code message : String)
  | rollbackAttention (code message : String)
  deriving DecidableEq, Repr

namespace Settlement

def operation : Settlement → OperationChange
  | markVerifying version | markRollbackVerifying version => .verifying version
  | verificationPending code message | rollbackVerificationPending code message =>
    .verificationPending code message
  | deployed version | rolledBack version => .success version
  | fail code message => .failed code message
  | rollbackRejected responseBody => .failed "ROLLBACK_REJECTED" responseBody
  | attention code message | rollbackFailed code message | rollbackAttention code message =>
    .needsAttention code message

def deployment : Settlement → DeploymentWrite
  | markVerifying _ => .verifying
  | verificationPending _ message => .verificationPending message
  | deployed _ => .success
  | fail _ message => .failed message
  | attention _ message | rollbackAttention _ message => .needsAttention message
  | markRollbackVerifying _ => .rollbackVerifying
  | rollbackVerificationPending _ message => .rollbackVerificationPending message
  | rolledBack _ => .rolledBack
  | rollbackRejected responseBody => .failed responseBody
  | rollbackFailed _ message => .rollbackFailed message

/-- A transaction with an audit event reads the operation for it, and throws this if it is gone. -/
def readsOperation : Settlement → Option String
  | markVerifying _ | markRollbackVerifying _ => none
  | verificationPending _ _ | deployed _ | fail _ _ | attention _ _ =>
    some "Deployment operation disappeared"
  | rollbackVerificationPending _ _ | rolledBack _ | rollbackFailed _ _ | rollbackAttention _ _ =>
    some "Rollback operation disappeared"
  | rollbackRejected _ => some "Deployment operation disappeared after persistence"

/-- It reads the deployment, too. -/
def readsDeployment : Settlement → Bool
  | deployed _ => true
  | _ => false

end Settlement

namespace Db

variable (db : Db)

def settle (settlement : Settlement) (deploymentId operationId : String) : Except Failure Db :=
  let db := (db.changeOperation operationId settlement.operation).writeDeployment deploymentId
    settlement.deployment
  match settlement.readsOperation, db.findOperation operationId with
  | some message, none => .error (.error message)
  | _, _ =>
    if settlement.readsDeployment ∧ db.findDeployment deploymentId = none then
      .error (.error "Deployment disappeared after persistence")
    else .ok db

theorem settle_ok {db db' : Db} {settlement : Settlement} {deploymentId operationId : String}
    (h : db.settle settlement deploymentId operationId = .ok db') :
    db' = (db.changeOperation operationId settlement.operation).writeDeployment deploymentId
      settlement.deployment := by
  simp only [settle] at h
  split at h
  · cases h
  · split at h
    · cases h
    · exact (Except.ok.inj h).symm

/-! ## Admissions and the dispatch journal -/

/-- The `INSERT … SELECT` of an admission, and whether it inserted its row. -/
def insertAdmission (clusterId : String) (generation : Nat) (admission : Admission) :
    Except Failure (Bool × Db) :=
  match db.findMaintenance clusterId with
  | some row =>
    if row.state = .OPEN ∧ row.generation = generation then
      if db.admissions.any (·.id = admission.id) then
        .error (.database true "Duplicate admission")
      else .ok (true, { db with admissions := db.admissions ++ [admission] })
    else .ok (false, db)
  | none => .ok (false, db)

def releaseAdmission (id : String) : Db :=
  { db with admissions := db.admissions.filter (·.id ≠ id) }

/-- Binds the operation to the admission, unless it is bound to another one. -/
def linkAdmission (id clusterId operationId : String) : Bool × Db :=
  let matching (a : Admission) : Bool :=
    a.id = id ∧ a.clusterId = clusterId ∧
      (a.operationId = none ∨ a.operationId = some operationId)
  (db.admissions.any matching,
    { db with admissions := db.admissions.map fun a =>
        if matching a then { a with operationId := some operationId } else a })

/-- One dispatch for an operation of a cluster. -/
def insertDispatch (d : Dispatch) : Except Failure Db :=
  if db.dispatches.any fun row =>
      row.id = d.id ∨ row.clusterId = d.clusterId ∧ row.operationId = d.operationId then
    .error (.database true "Duplicate dispatch")
  else .ok { db with dispatches := db.dispatches ++ [d] }

/-- Promotes a prepared dispatch while the cluster is open at its generation. -/
def beginSend (d : Dispatch) : Bool × Db :=
  let matching (row : Dispatch) : Bool :=
    row.id = d.id ∧ row.clusterId = d.clusterId ∧ row.agentId = d.agentId ∧
      row.operationId = d.operationId ∧ row.phase = .PREPARED ∧ row.generation = d.generation ∧
      db.maintenance.any fun m =>
        m.clusterId = d.clusterId ∧ m.generation = d.generation ∧ m.state = .OPEN
  (db.dispatches.any matching,
    { db with dispatches := db.dispatches.map fun row =>
        if matching row then { row with phase := .SENDING } else row })

def transitionDispatch (id : String) (source target : DispatchPhase) : Bool × Db :=
  (db.dispatches.any fun row => row.id = id ∧ row.phase = source,
    { db with dispatches := db.dispatches.map fun row =>
        if row.id = id ∧ row.phase = source then { row with phase := target } else row })

/-! ## The control lease -/

def holdsLease (lease : MaintenanceLease) : Bool :=
  db.leases.any fun row => row.toMaintenanceLease = lease ∧ db.clock < row.expiresAt

def assertOwner (lease : MaintenanceLease) : Except Failure Unit :=
  if db.holdsLease lease then .ok ()
  else .error (.conflict "Maintenance lease is expired or fenced")

def acquireLease (clusterId holderId : String) (ttlSeconds : Nat) :
    Except Failure (MaintenanceLease × Db) :=
  let expiresAt := db.clock + ttlSeconds * 1000000
  match db.leases.find? (·.clusterId = clusterId) with
  | some row =>
    if db.clock < row.expiresAt then
      .error (.conflict "Another Control Plane holds the maintenance lease")
    else
      let lease : MaintenanceLease := ⟨clusterId, holderId, row.token + 1⟩
      .ok (lease, { db with leases := db.leases.map fun r =>
        if r.clusterId = clusterId then ⟨lease, expiresAt⟩ else r })
  | none =>
    -- the foreign key to the maintenance row
    if db.findMaintenance clusterId = none then .error (.database false "Unknown cluster")
    else
      let lease : MaintenanceLease := ⟨clusterId, holderId, 1⟩
      .ok (lease, { db with leases := db.leases ++ [⟨lease, expiresAt⟩] })

def releaseLease (lease : MaintenanceLease) : Bool × Db :=
  (db.leases.any (·.toMaintenanceLease = lease),
    { db with leases := db.leases.map fun row =>
        if row.toMaintenanceLease = lease then { row with expiresAt := db.clock } else row })

/-! ## Maintenance transitions -/

/-- The compare-and-swap of the maintenance row; every transition raises the generation. -/
def transitionMaintenance (clusterId : String) (source : MaintenanceState)
    (generation : Nat) (target : MaintenanceState) : Db :=
  { db with maintenance := db.maintenance.map fun row =>
      if row.clusterId = clusterId ∧ row.state = source ∧ row.generation = generation then
        { row with state := target, generation := generation + 1 }
      else row }

/-- The maintenance row is in this state at this generation. -/
def atMaintenance (clusterId : String) (state : MaintenanceState) (generation : Nat) : Bool :=
  db.findMaintenance clusterId = some ⟨clusterId, state, generation⟩

def initializeOpen (clusterId : String) : Except Failure Db :=
  if (db.findRegistration clusterId).isNone then
    .error (.conflict "Cluster registration is required before maintenance initialization")
  else if (db.findMaintenance clusterId).isSome then .ok db
  else .ok { db with maintenance := db.maintenance ++ [⟨clusterId, .OPEN, 1⟩] }

def requestClosing (clusterId : String) (generation : Nat) : Bool × Db :=
  (db.atMaintenance clusterId .OPEN generation,
    db.transitionMaintenance clusterId .OPEN generation .CLOSING)

def isResolved (clusterId : String) (type : EvidenceType) (evidenceId : String) : Bool :=
  db.resolutions.any (· = ⟨clusterId, type, evidenceId⟩)

def unresolvedAdmissions (clusterId : String) : List Admission :=
  db.admissions.filter fun a =>
    a.clusterId = clusterId ∧ db.isResolved clusterId .ADMISSION a.id = false

def unresolvedOperations (clusterId : String) : List OperationRecord :=
  db.nonTerminalOperations.filter (·.clusterId = clusterId)

def unresolvedNodeOperations (clusterId : String) : List NodeOperationRecord :=
  db.nonTerminalNodeOperations.filter (·.clusterId = clusterId)

def unresolvedDispatches (clusterId : String) : List Dispatch :=
  db.dispatches.filter fun d =>
    d.clusterId = clusterId ∧
      (d.phase = .PREPARED ∨ d.phase = .SENDING ∨ d.phase = .UNCERTAIN) ∧
      db.isResolved clusterId .DISPATCH d.id = false

/-- Nothing that could still change Docker is unaccounted for. -/
def quiescent (clusterId : String) : Bool :=
  (db.unresolvedAdmissions clusterId).isEmpty && (db.unresolvedOperations clusterId).isEmpty &&
    (db.unresolvedNodeOperations clusterId).isEmpty && (db.unresolvedDispatches clusterId).isEmpty

/-- The acknowledgement rows of a cluster, by Agent. -/
def barrierAcks (clusterId : String) : List BarrierAck :=
  (db.barriers.filter (·.clusterId = clusterId)).mergeSort fun a b => a.agentId ≤ b.agentId

/-- Exactly the expected Agents have acknowledged this generation. -/
def acknowledgedBy (clusterId : String) (generation : Nat) (agentIds : List String) : Bool :=
  db.barrierAcks clusterId =
    (agentIds.mergeSort (· ≤ ·)).map fun agentId => ⟨clusterId, agentId, generation, true⟩

def acknowledgeBarrier (clusterId agentId : String) (generation : Nat) : Db :=
  let row : BarrierAck := ⟨clusterId, agentId, generation, true⟩
  if db.barriers.any fun b => b.clusterId = clusterId ∧ b.agentId = agentId then
    { db with barriers := db.barriers.map fun b =>
        if b.clusterId = clusterId ∧ b.agentId = agentId then row else b }
  else { db with barriers := db.barriers ++ [row] }

/-- The Agents that a transition is told about: some, and none twice. -/
def validRoster (agentIds : List String) : Bool :=
  !agentIds.isEmpty && decide agentIds.Nodup

def commitClosed (clusterId : String) (generation : Nat) (agentIds : List String)
    (lease : MaintenanceLease) : Except Failure (Bool × Db) := do
  if generation < 1 ∨ validRoster agentIds = false then
    throw (.conflict "Invalid maintenance closure evidence")
  db.assertOwner lease
  if db.atMaintenance clusterId .CLOSING generation = false then return (false, db)
  if db.quiescent clusterId = false then
    throw (.conflict "Maintenance has unresolved admission, operation or dispatch")
  if db.acknowledgedBy clusterId generation agentIds = false then
    throw (.conflict "Complete manager barrier acknowledgement is missing")
  return (true, db.transitionMaintenance clusterId .CLOSING generation .CLOSED)

/-- `commitRecoveryTransition` from `CLOSED`. -/
def commitReconciling (clusterId : String) (generation : Nat)
    (lease : MaintenanceLease) : Except Failure (Bool × Db) := do
  if generation < 1 then throw (.conflict "Invalid maintenance recovery ownership")
  db.assertOwner lease
  if db.atMaintenance clusterId .CLOSED generation = false then return (false, db)
  return (true, db.transitionMaintenance clusterId .CLOSED generation .RECONCILING)

/-- `commitRecoveryTransition` from `RECONCILING`. -/
def commitOpen (clusterId : String) (generation : Nat) (agentIds : List String)
    (lease : MaintenanceLease) : Except Failure (Bool × Db) := do
  if generation < 1 then throw (.conflict "Invalid maintenance recovery ownership")
  if validRoster agentIds = false then
    throw (.conflict "Recovery requires all manager acknowledgements")
  db.assertOwner lease
  if db.atMaintenance clusterId .RECONCILING generation = false then return (false, db)
  if db.quiescent clusterId = false then
    throw (.conflict "Reconciliation has unresolved mutation evidence")
  if db.acknowledgedBy clusterId generation agentIds = false then
    throw (.conflict "Reconciliation manager barrier ACK mismatch")
  return (true, db.transitionMaintenance clusterId .RECONCILING generation .OPEN)

end Db

/-! ## Manual evidence resolution -/

/-- The resource whose recovery locks are held while a dispatch is resolved. -/
inductive LockedResource where
  | service (id : String)
  | node (id : String) (affectedServiceIds : List String)
  deriving DecidableEq, Repr

/-- The operation that a dispatch was made for. -/
inductive EvidenceOperation where
  | service (op : OperationRecord)
  | node (op : NodeOperationRecord)
  deriving DecidableEq, Repr

structure ResolveEvidenceInput where
  clusterId : String
  generation : Nat
  type : EvidenceType
  evidenceId : String
  reason : String
  lease : MaintenanceLease
  deriving DecidableEq, Repr

/-- What the operator saw of the resource. -/
structure ObservedUnchanged where
  version : Nat
  specHash : String
  deriving DecidableEq, Repr

/-- `[...new Set(values)].sort()`. -/
def sortedUnique (values : List String) : List String :=
  values.dedup.mergeSort (· ≤ ·)

theorem mem_sortedUnique {values : List String} {value : String} :
    value ∈ sortedUnique values ↔ value ∈ values := by
  simp [sortedUnique]

def EvidenceOperation.resource : EvidenceOperation → LockedResource
  | .service op => .service op.serviceId
  | .node op => .node op.nodeId (sortedUnique op.affectedServiceIds)

/-- A recorded set of services with an empty id is refused. -/
def EvidenceOperation.validServices : EvidenceOperation → Bool
  | .service _ => true
  | .node op => op.affectedServiceIds.all fun id => !id.isEmpty

def EvidenceOperation.status : EvidenceOperation → OperationStatus
  | .service op => op.status
  | .node op => op.status

/-- The uncertain outcomes that an operator may close as not observed. -/
def EvidenceOperation.manualRecovery : EvidenceOperation → Bool
  | .node op =>
    op.status = .NEEDS_ATTENTION && op.errorCode = some "NODE_MUTATION_NOT_OBSERVED"
  | .service op =>
    match op.type with
    | .SCALE | .RESTART =>
      op.status = .NEEDS_ATTENTION && op.errorCode = some "MUTATION_NOT_OBSERVED"
    | .DEPLOY =>
      op.status = .NEEDS_ATTENTION && op.errorCode = some "DEPLOYMENT_MUTATION_NOT_OBSERVED"
    | .ROLLBACK => op.status = .VERIFYING && op.errorCode = some "ROLLBACK_STILL_IN_PROGRESS"

def EvidenceOperation.unchanged (observed : ObservedUnchanged) : EvidenceOperation → Bool
  | .service op =>
    observed.version = op.expectedVersion && observed.specHash = op.beforeSpecHash
  | .node op => observed.version = op.expectedVersion && observed.specHash = op.beforeSpecHash

namespace Db

variable (db : Db)

/-- The operations of the cluster that a dispatch names, in either table. -/
def dispatchOperations (evidenceId clusterId : String) : List EvidenceOperation :=
  match db.dispatches.find? fun d => d.id = evidenceId ∧ d.clusterId = clusterId with
  | none => []
  | some d =>
    (db.operations.filter fun op => op.id = d.operationId ∧ op.clusterId = clusterId).map
      .service ++
      (db.nodeOperations.filter fun op => op.id = d.operationId ∧ op.clusterId = clusterId).map
        .node

/-- The deployment that a deploy or rollback operation belongs to, if it is still in the state in
which the operation left it. -/
def recoverableDeployment (clusterId : String) (op : OperationRecord) :
    Except Failure DeploymentRecord :=
  let linked := match op.type with
    | .ROLLBACK => db.findDeploymentByRollbackOperation op.id
    | _ => db.findDeploymentByOperation op.id
  let mismatch : Failure :=
    .conflict "Deployment or rollback record changed before manual recovery"
  match linked with
  | none => .error mismatch
  | some d =>
    match db.findDeploymentTarget d.deploymentTargetId with
    | none => .error mismatch
    | some target =>
      let current : Bool := match op.type with
        | .ROLLBACK => d.rollbackOperationId = some op.id && d.status = .ROLLBACK_VERIFYING
        | _ => d.operationId = op.id && d.status = .NEEDS_ATTENTION && d.rollbackOperationId = none
      if target.clusterId = clusterId ∧ target.dockerServiceId = op.serviceId ∧ current then .ok d
      else .error mismatch

/-- Closes an uncertain operation as failed, with its deployment. -/
def closeNotObserved (clusterId reason : String) : EvidenceOperation → Except Failure Db
  | .node op => .ok (db.changeNodeOperation op.id (.failed "MANUAL_MUTATION_NOT_OBSERVED" reason))
  | .service op => do
    let closed := db.changeOperation op.id (.failed "MANUAL_MUTATION_NOT_OBSERVED" reason)
    if op.type = .DEPLOY ∨ op.type = .ROLLBACK then
      let d ← db.recoverableDeployment clusterId op
      return closed.writeDeployment d.id (.failed reason)
    return closed

def insertResolution (input : ResolveEvidenceInput) : Except Failure Db :=
  if db.isResolved input.clusterId input.type input.evidenceId then
    .error (.database true "Duplicate resolution")
  else .ok { db with resolutions := db.resolutions ++
    [⟨input.clusterId, input.type, input.evidenceId⟩] }

/-- The part of a resolution that settles the operation of a dispatch. -/
def resolveDispatch (input : ResolveEvidenceInput) (locked : Option LockedResource)
    (observed : Option ObservedUnchanged) : Except Failure Db :=
  match db.dispatchOperations input.evidenceId input.clusterId with
  | [op] =>
    if op.validServices = false then
      .error (.conflict "Invalid affected services in recorded node operation")
    else if locked ≠ some op.resource then
      .error (.conflict "Dispatch resource changed before recovery lock")
    else if op.manualRecovery then
      if observed.any op.unchanged then db.closeNotObserved input.clusterId input.reason op
      else .error (.conflict "Manual resolution requires verified unchanged resource fingerprint")
    else if op.status.isTerminal then .ok db
    else .error (.conflict
      "Dispatch operation requires terminal outcome or supported unchanged-state recovery")
  | _ => .error (.conflict "Dispatch operation missing")

/-- `resolveWithinTransaction`. -/
def resolveEvidence (input : ResolveEvidenceInput) (locked : Option LockedResource)
    (observed : Option ObservedUnchanged) : Except Failure Db := do
  db.assertOwner input.lease
  if db.atMaintenance input.clusterId .CLOSING input.generation = false ∧
      db.atMaintenance input.clusterId .RECONCILING input.generation = false then
    throw (.conflict "Maintenance recovery generation changed")
  let settled ← match input.type with
    | .ADMISSION =>
      if db.admissions.any fun a => a.id = input.evidenceId ∧ a.clusterId = input.clusterId then
        pure db
      else throw (.conflict "Evidence not found")
    | .DISPATCH =>
      if db.dispatches.any fun d => d.id = input.evidenceId ∧ d.clusterId = input.clusterId then
        db.resolveDispatch input locked observed
      else throw (.conflict "Evidence not found")
  settled.insertResolution input

end Db

end Docklane.Control
