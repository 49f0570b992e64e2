import Docklane.Concurrent.History
import Docklane.Control.Transactions

/-!
# What the control plane asks of its surroundings

A call of the control plane is a program over these requests: statements of the database, named
locks of its session, reads and plans of the Agents, one mutation request, the health endpoint of a
deployment, and the clock. A read of an Agent stands for the whole failover loop of the client: it
ends with the answer of some Agent or with an error, and nothing of it can change Docker.
-/

namespace Docklane.Control

open Concurrent

/-! ## The database -/

/-- One statement or transaction. -/
inductive DbOp where
  | findOperation (id : String)
  | findNodeOperation (id : String)
  | listNonTerminal
  | listNonTerminalNode
  | findNonTerminalForService (clusterId serviceId : String)
  | findNonTerminalForNode (clusterId nodeId : String)
  | findNonTerminalAffectingService (clusterId serviceId : String)
  | findDeployment (id : String)
  | findDeploymentByOperation (operationId : String)
  | findDeploymentByRollbackOperation (operationId : String)
  | findLatestSuccessfulForRelease (targetId releaseId : String)
  | findDeploymentTarget (id : String)
  | findRelease (id : String)
  | findRegistration (clusterId : String)
  | findMaintenance (clusterId : String)
  | barrierAcks (clusterId : String)
  | dispatchOperations (evidenceId clusterId : String)
  | createOperation (input : OperationInput)
  | createNodeOperation (input : NodeOperationInput)
  | createDeployment (operation : OperationInput) (input : DeploymentInput) (id : String)
  | createRollback (operation : OperationInput) (deploymentId : String)
  | changeOperation (id : String) (change : OperationChange)
  | changeNodeOperation (id : String) (change : OperationChange)
  | backfillTargetRuntimeSpecHash (id hash : String)
  | settle (settlement : Settlement) (deploymentId operationId : String)
  | insertAdmission (clusterId : String) (generation : Nat) (admission : Admission)
  | releaseAdmission (id : String)
  | linkAdmission (id clusterId operationId : String)
  | insertDispatch (dispatch : Dispatch)
  | beginSend (dispatch : Dispatch)
  | transitionDispatch (id : String) (source target : DispatchPhase)
  | acquireLease (clusterId holderId : String) (ttlSeconds : Nat)
  | releaseLease (lease : MaintenanceLease)
  | initializeOpen (clusterId : String)
  | requestClosing (clusterId : String) (generation : Nat)
  | acknowledgeBarrier (clusterId agentId : String) (generation : Nat)
  | commitClosed (clusterId : String) (generation : Nat) (agentIds : List String)
      (lease : MaintenanceLease)
  | commitReconciling (clusterId : String) (generation : Nat) (lease : MaintenanceLease)
  | commitOpen (clusterId : String) (generation : Nat) (agentIds : List String)
      (lease : MaintenanceLease)
  | resolveEvidence (input : ResolveEvidenceInput) (locked : Option LockedResource)
      (observed : Option ObservedUnchanged)
  /-- A transaction that only writes to the audit trail, which nothing reads. -/
  | audit (operationId action : String)
  deriving DecidableEq, Repr

/-- What a statement returns. -/
def DbOp.Reply : DbOp → Type
  | findOperation _ => Option OperationRecord
  | findNodeOperation _ => Option NodeOperationRecord
  | listNonTerminal => List OperationRecord
  | listNonTerminalNode => List NodeOperationRecord
  | findNonTerminalForService _ _ => Option OperationRecord
  | findNonTerminalForNode _ _ => Option NodeOperationRecord
  | findNonTerminalAffectingService _ _ => Option NodeOperationRecord
  | findDeployment _ => Option DeploymentRecord
  | findDeploymentByOperation _ => Option DeploymentRecord
  | findDeploymentByRollbackOperation _ => Option DeploymentRecord
  | findLatestSuccessfulForRelease _ _ => Option DeploymentRecord
  | findDeploymentTarget _ => Option DeploymentTarget
  | findRelease _ => Option Release
  | findRegistration _ => Option Registration
  | findMaintenance _ => Option MaintenanceRecord
  | barrierAcks _ => List BarrierAck
  | dispatchOperations _ _ => List EvidenceOperation
  | createDeployment _ _ _ => DeploymentRecord
  | acquireLease _ _ _ => MaintenanceLease
  | insertAdmission _ _ _ | linkAdmission _ _ _ | beginSend _ | transitionDispatch _ _ _
  | releaseLease _ | requestClosing _ _ | commitClosed _ _ _ _ | commitReconciling _ _ _
  | commitOpen _ _ _ _ => Bool
  | createOperation _ | createNodeOperation _ | createRollback _ _ | changeOperation _ _
  | changeNodeOperation _ _ | backfillTargetRuntimeSpecHash _ _ | settle _ _ _
  | releaseAdmission _ | insertDispatch _ | initializeOpen _ | acknowledgeBarrier _ _ _
  | resolveEvidence _ _ _ | audit _ _ => Unit

/-- The effect of a statement on the database. -/
def DbOp.exec : (op : DbOp) → Db → Except Failure (op.Reply × Db)
  | findOperation id, db => .ok (db.findOperation id, db)
  | findNodeOperation id, db => .ok (db.findNodeOperation id, db)
  | listNonTerminal, db => .ok (db.nonTerminalOperations, db)
  | listNonTerminalNode, db => .ok (db.nonTerminalNodeOperations, db)
  | findNonTerminalForService c s, db => .ok (db.findNonTerminalForService c s, db)
  | findNonTerminalForNode c n, db => .ok (db.findNonTerminalForNode c n, db)
  | findNonTerminalAffectingService c s, db => .ok (db.findNonTerminalAffectingService c s, db)
  | findDeployment id, db => .ok (db.findDeployment id, db)
  | findDeploymentByOperation id, db => .ok (db.findDeploymentByOperation id, db)
  | findDeploymentByRollbackOperation id, db => .ok (db.findDeploymentByRollbackOperation id, db)
  | findLatestSuccessfulForRelease t r, db => .ok (db.findLatestSuccessfulForRelease t r, db)
  | findDeploymentTarget id, db => .ok (db.findDeploymentTarget id, db)
  | findRelease id, db => .ok (db.findRelease id, db)
  | findRegistration c, db => .ok (db.findRegistration c, db)
  | findMaintenance c, db => .ok (db.findMaintenance c, db)
  | barrierAcks c, db => .ok (db.barrierAcks c, db)
  | dispatchOperations e c, db => .ok (db.dispatchOperations e c, db)
  | createOperation input, db => (db.createOperation input).map ((), ·)
  | createNodeOperation input, db => (db.createNodeOperation input).map ((), ·)
  | createDeployment operation input id, db => db.createDeployment operation input id
  | createRollback operation d, db => (db.createRollback operation d).map ((), ·)
  | changeOperation id change, db => .ok ((), db.changeOperation id change)
  | changeNodeOperation id change, db => .ok ((), db.changeNodeOperation id change)
  | backfillTargetRuntimeSpecHash id h, db => .ok ((), db.backfillTargetRuntimeSpecHash id h)
  | settle settlement d o, db => (db.settle settlement d o).map ((), ·)
  | insertAdmission c g a, db => db.insertAdmission c g a
  | releaseAdmission id, db => .ok ((), db.releaseAdmission id)
  | linkAdmission id c o, db => .ok (db.linkAdmission id c o)
  | insertDispatch d, db => (db.insertDispatch d).map ((), ·)
  | beginSend d, db => .ok (db.beginSend d)
  | transitionDispatch id source target, db => .ok (db.transitionDispatch id source target)
  | acquireLease c h ttl, db => db.acquireLease c h ttl
  | releaseLease lease, db => .ok (db.releaseLease lease)
  | initializeOpen c, db => (db.initializeOpen c).map ((), ·)
  | requestClosing c g, db => .ok (db.requestClosing c g)
  | acknowledgeBarrier c a g, db => .ok ((), db.acknowledgeBarrier c a g)
  | commitClosed c g ids lease, db => db.commitClosed c g ids lease
  | commitReconciling c g lease, db => db.commitReconciling c g lease
  | commitOpen c g ids lease, db => db.commitOpen c g ids lease
  | resolveEvidence input locked observed, db =>
    (db.resolveEvidence input locked observed).map ((), ·)
  | audit _ _, db => .ok ((), db)

theorem exceptMap_ok {ε α β : Type} {f : α → β} {x : Except ε α} {b : β}
    (h : x.map f = .ok b) : ∃ a, x = .ok a ∧ f a = b := by
  cases x with
  | error e => cases h
  | ok a => exact ⟨a, rfl, Except.ok.inj h⟩

theorem made_of_exec {x : Except Failure Db} {reply : Unit} {db' : Db}
    (h : (x.map fun db => ((), db)) = .ok (reply, db')) : x = .ok db' := by
  obtain ⟨db, hx, hdb⟩ := exceptMap_ok h
  cases hdb
  exact hx

theorem DbOp.exec_settle {settlement : Settlement} {deploymentId operationId : String} {db : Db}
    {result : (DbOp.settle settlement deploymentId operationId).Reply × Db}
    (h : (DbOp.settle settlement deploymentId operationId).exec db = .ok result) :
    result.2 = (db.changeOperation operationId settlement.operation).writeDeployment deploymentId
      settlement.deployment := by
  obtain ⟨db', hdb', rfl⟩ := exceptMap_ok h
  exact Db.settle_ok hdb'

/-! ## The Agents -/

structure CapacityCheckRequest where
  expectedVersion : Nat
  targetReplicas : Nat
  includeUpdateOverlap : Bool
  deriving DecidableEq, Repr

/-- The requests that leave Docker alone. -/
inductive AgentRead where
  | inspectService (serviceId : String)
  | checkServicePlacement (serviceId : String)
  | checkServiceCapacity (serviceId : String) (input : CapacityCheckRequest)
  | inspectNode (nodeId : String)
  | planScaleService (serviceId : String) (expectedVersion replicas : Nat)
  | planRestartService (serviceId : String) (expectedVersion : Nat)
  | planUpdateServiceImage (serviceId : String) (expectedVersion : Nat) (image : String)
  | planRollbackService (serviceId : String) (expectedVersion : Nat)
  | planDrainNode (nodeId : String) (expectedVersion : Nat)
  | planActivateNode (nodeId : String) (expectedVersion : Nat)
  | planNodeLabels (nodeId : String) (expectedVersion : Nat) (patch : LabelPatch)
  deriving DecidableEq, Repr

def AgentRead.Reply : AgentRead → Type
  | inspectService _ => ServiceDetailResponse
  | checkServicePlacement _ => PlacementStatus
  | checkServiceCapacity _ _ => CapacityStatus
  | inspectNode _ => NodeDetailResponse
  | planScaleService _ _ _ | planRestartService _ _ | planUpdateServiceImage _ _ _
  | planRollbackService _ _ => ServiceMutationPlan
  | planDrainNode _ _ | planActivateNode _ _ | planNodeLabels _ _ _ => NodeMutationPlan

inductive ServiceAction where
  | scale (replicas : Nat)
  | restart
  | image (image : String)
  | rollback
  deriving DecidableEq, Repr

inductive NodeAction where
  | drain (expectedServiceIds : List String)
  | activate
  | labels (expectedServiceIds : List String) (targetLabels : Labels)
  deriving DecidableEq, Repr

/-- The body of a mutation request, and the service or node in its path. -/
inductive Mutation where
  | service (serviceId : String) (action : ServiceAction)
      (expectedVersion : Nat) (expectedSpecHash targetSpecHash : String)
  | node (nodeId : String) (action : NodeAction)
      (expectedVersion : Nat) (expectedSpecHash targetSpecHash : String)
  deriving DecidableEq, Repr

def Mutation.Response : Mutation → Type
  | .service .. => ServiceMutationResponse
  | .node .. => NodeMutationResponse

/-- The table of the operation a mutation is sent for. -/
def Mutation.table : Mutation → ResourceType
  | .service .. => .service
  | .node .. => .node

/-- One mutation request as it leaves the control plane. The operation it is sent for is known to
the sender only. -/
structure MutationRequest where
  agentId : String
  expectedClusterId : String
  generation : Option Nat
  operationId : String
  mutation : Mutation
  deriving DecidableEq, Repr

/-- The gate an Agent reports or is told to take. -/
inductive Gate where
  | OPEN
  | BLOCKED
  deriving DecidableEq, Repr

structure BarrierResponse where
  clusterId : String
  nodeId : String
  generation : String
  state : Gate
  deriving DecidableEq, Repr

structure ManagerTarget where
  agentId : String
  nodeId : String
  deriving DecidableEq, Repr

/-- The Agent selected for a mutation, and the Swarm the client is bound to. -/
structure SelectedAgent where
  agentId : String
  referenceClusterId : String
  deriving DecidableEq, Repr

/-! ## Requests -/

inductive ControlOp where
  /-- `Date.now()`. -/
  | now
  | sleep (ms : Nat)
  | randomUUID
  | db (op : DbOp)
  /-- `db.getConnection()`: the session of the named locks begins. -/
  | getConnection
  /-- `connection.release()`. -/
  | releaseConnection
  | getLock (name : String)
  | releaseLock (name : String)
  /-- `connection.destroy()`: the server drops every lock of the session. -/
  | destroySession
  | agent (read : AgentRead)
  | selectMutationAgent
  | readBarrier (agentId : String)
  | inspectConfiguredManagers (clusterId : String)
  | putBarrier (agentId clusterId generation : String) (state : Gate)
  | send (request : MutationRequest)
  /-- `endpointPolicy.assertAllowed`. -/
  | assertAllowed (url : String)
  /-- `safeFetch`: the status of the response the redirects lead to. -/
  | fetch (url : String) (timeoutMs : Nat)
  /-- Never answered: a loop that has used up its fuel stays here. -/
  | hang
  deriving DecidableEq, Repr

def ControlOp.Ans : ControlOp → Type
  | now => Int
  | sleep _ => Unit
  | randomUUID => String
  | db op => Except Failure op.Reply
  | getConnection => Except Failure Unit
  | releaseConnection => Unit
  | getLock _ => Except Failure Bool
  | releaseLock _ => Except Failure Unit
  | destroySession => Unit
  | agent read => Except Failure read.Reply
  | selectMutationAgent => Except Failure SelectedAgent
  | readBarrier _ => Except Failure BarrierResponse
  | inspectConfiguredManagers _ => Except Failure (List ManagerTarget)
  | putBarrier _ _ _ _ => Except Failure BarrierResponse
  | send request => Except Failure request.mutation.Response
  | assertAllowed _ => Except Failure Unit
  | fetch _ _ => Except Failure Nat
  | hang => Empty

abbrev ControlProgram (α : Type) := Program ControlOp ControlOp.Ans Failure α

/-- A request and its answer. -/
abbrev ControlEvent := Program.Event ControlOp ControlOp.Ans

def now : ControlProgram Int := Program.perform ControlOp.now

def sleep (ms : Nat) : ControlProgram Unit := Program.perform (ControlOp.sleep ms)

def randomUUID : ControlProgram String := Program.perform ControlOp.randomUUID

/-- Run a statement; a failed one throws. -/
def query (op : DbOp) : ControlProgram op.Reply :=
  .request (.db op) Program.ofExcept

/-- Ask the Agents; an error answer throws. -/
def askAgent (read : AgentRead) : ControlProgram read.Reply :=
  .request (.agent read) Program.ofExcept

def inspectService (serviceId : String) : ControlProgram ServiceDetailResponse :=
  askAgent (.inspectService serviceId)

def checkServicePlacement (serviceId : String) : ControlProgram PlacementStatus :=
  askAgent (.checkServicePlacement serviceId)

def findOperation (id : String) : ControlProgram (Option OperationRecord) :=
  query (.findOperation id)

def findNodeOperation (id : String) : ControlProgram (Option NodeOperationRecord) :=
  query (.findNodeOperation id)

def findDeployment (id : String) : ControlProgram (Option DeploymentRecord) :=
  query (.findDeployment id)

def findDeploymentByOperation (operationId : String) : ControlProgram (Option DeploymentRecord) :=
  query (.findDeploymentByOperation operationId)

def findDeploymentByRollbackOperation (operationId : String) :
    ControlProgram (Option DeploymentRecord) :=
  query (.findDeploymentByRollbackOperation operationId)

def findDeploymentTarget (id : String) : ControlProgram (Option DeploymentTarget) :=
  query (.findDeploymentTarget id)

def findRelease (id : String) : ControlProgram (Option Release) :=
  query (.findRelease id)

def findMaintenance (clusterId : String) : ControlProgram (Option MaintenanceRecord) :=
  query (.findMaintenance clusterId)

def findNonTerminalForService (clusterId serviceId : String) :
    ControlProgram (Option OperationRecord) :=
  query (.findNonTerminalForService clusterId serviceId)

def findNonTerminalForNode (clusterId nodeId : String) :
    ControlProgram (Option NodeOperationRecord) :=
  query (.findNonTerminalForNode clusterId nodeId)

def findNonTerminalAffectingService (clusterId serviceId : String) :
    ControlProgram (Option NodeOperationRecord) :=
  query (.findNonTerminalAffectingService clusterId serviceId)

def changeOperation (id : String) (change : OperationChange) : ControlProgram Unit :=
  query (.changeOperation id change)

def changeNodeOperation (id : String) (change : OperationChange) : ControlProgram Unit :=
  query (.changeNodeOperation id change)

def inspectNode (nodeId : String) : ControlProgram NodeDetailResponse :=
  askAgent (.inspectNode nodeId)

def hang {α : Type} : ControlProgram α :=
  .request .hang fun answer => Empty.elim answer

end Docklane.Control
