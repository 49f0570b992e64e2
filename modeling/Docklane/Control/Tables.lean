import Docklane.Control.Records

/-!
# The tables of the control plane

The rows that the repositories of `apps/api/src` read and write, and the statements they run, as
functions of the database. A list holds the rows of a table in the order of their insertion, which
is the order of `created_at`. The audit trail is written and never read, so it is left out.
-/

namespace Docklane.Control

inductive MaintenanceState where
  | OPEN
  | CLOSING
  | CLOSED
  | RECONCILING
  deriving DecidableEq, Repr

/-- A row of `cluster_maintenance_states`. -/
structure MaintenanceRecord where
  clusterId : String
  state : MaintenanceState
  generation : Nat
  deriving DecidableEq, Repr

inductive ResourceType where
  | service
  | node
  deriving DecidableEq, Repr

/-- A row of `maintenance_active_admissions`. -/
structure Admission where
  id : String
  clusterId : String
  generation : Nat
  ownerId : String
  resourceType : ResourceType
  resourceId : String
  operationId : Option String
  deriving DecidableEq, Repr

inductive DispatchPhase where
  | PREPARED
  | SENDING
  | ACKNOWLEDGED
  | REJECTED
  | UNCERTAIN
  deriving DecidableEq, Repr

/-- A row of `maintenance_dispatches`. -/
structure Dispatch where
  id : String
  clusterId : String
  generation : Nat
  agentId : String
  operationId : String
  phase : DispatchPhase
  deriving DecidableEq, Repr

inductive EvidenceType where
  | DISPATCH
  | ADMISSION
  deriving DecidableEq, Repr

/-- A row of `maintenance_evidence_resolutions`. -/
structure Resolution where
  clusterId : String
  type : EvidenceType
  evidenceId : String
  deriving DecidableEq, Repr

/-- A row of `maintenance_agent_barriers`. -/
structure BarrierAck where
  clusterId : String
  agentId : String
  generation : Nat
  acknowledged : Bool
  deriving DecidableEq, Repr

structure MaintenanceLease where
  clusterId : String
  holderId : String
  token : Nat
  deriving DecidableEq, Repr

/-- A row of `maintenance_control_leases`. -/
structure LeaseRow extends MaintenanceLease where
  expiresAt : Nat
  deriving DecidableEq, Repr

/-- A row of `rollback_attempts`. -/
structure RollbackAttempt where
  operationId : String
  deploymentId : String
  deriving DecidableEq, Repr

/-- A row of `cluster_registrations`. -/
structure Registration where
  clusterId : String
  swarmClusterId : String
  deriving DecidableEq, Repr

structure Db where
  operations : List OperationRecord
  nodeOperations : List NodeOperationRecord
  deployments : List DeploymentRecord
  rollbackAttempts : List RollbackAttempt
  targets : List DeploymentTarget
  releases : List Release
  registrations : List Registration
  maintenance : List MaintenanceRecord
  admissions : List Admission
  dispatches : List Dispatch
  resolutions : List Resolution
  barriers : List BarrierAck
  leases : List LeaseRow
  /-- `UTC_TIMESTAMP(6)`, in microseconds. -/
  clock : Nat
  deriving DecidableEq, Repr

/-- The database after its migrations. -/
def emptyDb : Db := ⟨[], [], [], [], [], [], [], [], [], [], [], [], [], 0⟩

/-! ## Status writers -/

/-- The status writers of `operations` and `node_operations`. -/
inductive OperationChange where
  | running
  | verifying (resultVersion : Nat)
  | verificationPending (code message : String)
  | success (resultVersion : Nat)
  | needsAttention (code message : String)
  | failed (code message : String)
  deriving DecidableEq, Repr

def OperationChange.status : OperationChange → OperationStatus
  | .running => .RUNNING
  | .verifying _ | .verificationPending _ _ => .VERIFYING
  | .success _ => .SUCCESS
  | .needsAttention _ _ => .NEEDS_ATTENTION
  | .failed _ _ => .FAILED

/-- The columns a status writer sets, given their old values: the result version, the error code
and the error message. -/
def OperationChange.columns : OperationChange →
    Option Nat × Option String × Option String → Option Nat × Option String × Option String
  | .running, old => old
  | .verifying version, _ | .success version, _ => (some version, none, none)
  | .verificationPending code message, old | .needsAttention code message, old
  | .failed code message, old => (old.1, some code, some message)

def OperationChange.apply (change : OperationChange) (op : OperationRecord) : OperationRecord :=
  let columns := change.columns (op.resultVersion, op.errorCode, op.errorMessage)
  { op with
    status := change.status
    resultVersion := columns.1
    errorCode := columns.2.1
    errorMessage := columns.2.2 }

def OperationChange.applyNode (change : OperationChange) (op : NodeOperationRecord) :
    NodeOperationRecord :=
  let columns := change.columns (op.resultVersion, op.errorCode, op.errorMessage)
  { op with
    status := change.status
    resultVersion := columns.1
    errorCode := columns.2.1
    errorMessage := columns.2.2 }

/-- The status writers of `deployments`. None of them looks at the status it replaces. -/
inductive DeploymentWrite where
  | rollingBack (rollbackOperationId : String)
  | rollbackVerifying
  | rollbackVerificationPending (reason : String)
  | rolledBack
  | rollbackFailed (reason : String)
  | verifying
  | verificationPending (reason : String)
  | success
  | failed (reason : String)
  | needsAttention (reason : String)
  deriving DecidableEq, Repr

def DeploymentWrite.status : DeploymentWrite → DeploymentStatus
  | .rollingBack _ => .ROLLING_BACK
  | .rollbackVerifying | .rollbackVerificationPending _ => .ROLLBACK_VERIFYING
  | .rolledBack => .ROLLED_BACK
  | .rollbackFailed _ => .ROLLBACK_FAILED
  | .verifying | .verificationPending _ => .VERIFYING
  | .success => .SUCCESS
  | .failed _ => .FAILED
  | .needsAttention _ => .NEEDS_ATTENTION

def DeploymentWrite.reason : DeploymentWrite → Option String
  | .rollingBack _ | .rollbackVerifying | .rolledBack | .verifying | .success => none
  | .rollbackVerificationPending reason | .rollbackFailed reason | .verificationPending reason
  | .failed reason | .needsAttention reason => some reason

/-- The writers that set `finished_at`; the others clear it. -/
def DeploymentWrite.finishes : DeploymentWrite → Bool
  | .rolledBack | .rollbackFailed _ | .success | .failed _ | .needsAttention _ => true
  | .rollingBack _ | .rollbackVerifying | .rollbackVerificationPending _ | .verifying
  | .verificationPending _ => false

def DeploymentWrite.apply (write : DeploymentWrite) (now : Nat) (d : DeploymentRecord) :
    DeploymentRecord :=
  { d with
    status := write.status
    reason := write.reason
    finishedAt := if write.finishes then some now else none
    rollbackOperationId := match write with
      | .rollingBack rollbackOperationId => some rollbackOperationId
      | _ => d.rollbackOperationId }

namespace Db

variable (db : Db)

/-- A guarded status writer: a row in a terminal status is left alone. -/
def changeOperation (id : String) (change : OperationChange) : Db :=
  { db with operations := db.operations.map fun op =>
      if op.id = id ∧ op.status.isTerminal = false then change.apply op else op }

def changeNodeOperation (id : String) (change : OperationChange) : Db :=
  { db with nodeOperations := db.nodeOperations.map fun op =>
      if op.id = id ∧ op.status.isTerminal = false then change.applyNode op else op }

def writeDeployment (id : String) (write : DeploymentWrite) : Db :=
  { db with deployments := db.deployments.map fun d =>
      if d.id = id then write.apply db.clock d else d }

def backfillTargetRuntimeSpecHash (id hash : String) : Db :=
  { db with operations := db.operations.map fun op =>
      if op.id = id ∧ op.targetRuntimeSpecHash = none then
        { op with targetRuntimeSpecHash := some hash }
      else op }

/-! ## Queries -/

def findOperation (id : String) : Option OperationRecord :=
  db.operations.find? (·.id = id)

def findNodeOperation (id : String) : Option NodeOperationRecord :=
  db.nodeOperations.find? (·.id = id)

def findDeployment (id : String) : Option DeploymentRecord :=
  db.deployments.find? (·.id = id)

def findDeploymentByOperation (operationId : String) : Option DeploymentRecord :=
  db.deployments.find? (·.operationId = operationId)

/-- The deployment that a recorded rollback attempt belongs to. -/
def findDeploymentByRollbackOperation (operationId : String) : Option DeploymentRecord :=
  (db.rollbackAttempts.find? (·.operationId = operationId)).bind fun attempt =>
    db.findDeployment attempt.deploymentId

def nonTerminalOperations : List OperationRecord :=
  db.operations.filter (·.status.isTerminal = false)

def nonTerminalNodeOperations : List NodeOperationRecord :=
  db.nodeOperations.filter (·.status.isTerminal = false)

def findNonTerminalForService (clusterId serviceId : String) : Option OperationRecord :=
  db.nonTerminalOperations.find? fun op => op.clusterId = clusterId ∧ op.serviceId = serviceId

def findNonTerminalForNode (clusterId nodeId : String) : Option NodeOperationRecord :=
  db.nonTerminalNodeOperations.find? fun op => op.clusterId = clusterId ∧ op.nodeId = nodeId

def findNonTerminalAffectingService (clusterId serviceId : String) : Option NodeOperationRecord :=
  db.nonTerminalNodeOperations.find? fun op =>
    op.clusterId = clusterId ∧ serviceId ∈ op.affectedServiceIds

/-- The successful deployments of a target, the one that finished last first. -/
def successfulDeployments (targetId : String) : List DeploymentRecord :=
  (db.deployments.filter fun d => d.deploymentTargetId = targetId ∧ d.status = .SUCCESS).reverse
    |>.mergeSort fun a b => b.finishedAt.getD 0 ≤ a.finishedAt.getD 0

def latestSuccessfulReleaseId (targetId : String) : Option String :=
  (db.successfulDeployments targetId).head?.map (·.releaseId)

def findLatestSuccessfulForRelease (targetId releaseId : String) : Option DeploymentRecord :=
  (db.successfulDeployments targetId).find? (·.releaseId = releaseId)

def findDeploymentTarget (id : String) : Option DeploymentTarget :=
  db.targets.find? (·.id = id)

def findRelease (id : String) : Option Release :=
  db.releases.find? (·.id = id)

def findRegistration (clusterId : String) : Option Registration :=
  db.registrations.find? (·.clusterId = clusterId)

def findMaintenance (clusterId : String) : Option MaintenanceRecord :=
  db.maintenance.find? (·.clusterId = clusterId)

end Db

end Docklane.Control
