import Docklane.Concurrent.RelyGuarantee
import Docklane.Control.Deployments
import Docklane.Control.Maintenance
import Docklane.Control.NodeMutations

/-!
# The control plane as a system

Any number of processes, each answering any number of calls at once, share one database and its
named locks. A call is a thread. What an Agent answers to a lookup comes from some state of the
Swarm, which may change arbitrarily between two requests; statements may fail, and may have been
executed when they fail; a session may be lost, and with it the locks it holds; a crash ends any set
of calls.

Some parts of the state are history that the code does not see: which requests were sent, which call
inserted a row, which admission a running call holds, whom a random id was given to and which
deployment a call has read last.
-/

namespace Docklane.Control

open Concurrent

/-! ## The Swarm -/

/-- One state of the Swarm, as the lists of its services and nodes. -/
structure Swarm where
  services : List ServiceSummary
  nodes : List NodeSummary
  deriving DecidableEq, Repr

namespace Swarm

variable (swarm : Swarm) (ref : String)

/-- The lookup of `Reader.Service`: the first service of the list with this id or name. -/
def service : Option ServiceSummary :=
  swarm.services.find? fun s => s.id = ref ∨ s.name = ref

/-- Docker's own lookup, which the plans use: by id, and else by name. -/
def inspect : Option ServiceSummary :=
  (swarm.services.find? fun s => s.id = ref).or (swarm.services.find? fun s => s.name = ref)

/-- `resolveNode`: the first node of the list with this id or hostname. -/
def node : Option NodeSummary :=
  swarm.nodes.find? fun n => n.id = ref ∨ n.hostname = ref

/-- A plan for a service, made from this state. -/
def Plans (expectedVersion : Nat) (plan : ServiceMutationPlan) : Prop :=
  ∃ s, swarm.inspect ref = some s ∧ plan.serviceId = s.id ∧ plan.version = s.version ∧
    plan.version = expectedVersion ∧ plan.beforeSpecHash = s.specHash

/-- A plan for a node. The tasks of the node are listed after it is resolved. -/
def PlansNode (expectedVersion : Nat) (plan : NodeMutationPlan) : Prop :=
  ∃ n, swarm.node ref = some n ∧ plan.nodeId = n.id ∧ plan.version = n.version ∧
    plan.version = expectedVersion ∧ plan.beforeSpecHash = n.specHash

end Swarm

/-- What an Agent may answer when it finds the Swarm in this state. -/
def AgentRead.Answers (swarm : Swarm) : (read : AgentRead) → read.Reply → Prop
  | .inspectService ref, (reply : ServiceDetailResponse) =>
    ∃ s, swarm.service ref = some s ∧
      reply.service = { s with runningReplicas := reply.service.runningReplicas }
  | .inspectNode ref, (reply : NodeDetailResponse) => swarm.node ref = some reply.node
  | .planScaleService ref version _, (plan : ServiceMutationPlan)
  | .planRestartService ref version, (plan : ServiceMutationPlan)
  | .planUpdateServiceImage ref version _, (plan : ServiceMutationPlan)
  | .planRollbackService ref version, (plan : ServiceMutationPlan) =>
    swarm.Plans ref version plan
  | .planDrainNode ref version, (plan : NodeMutationPlan)
  | .planActivateNode ref version, (plan : NodeMutationPlan)
  | .planNodeLabels ref version _, (plan : NodeMutationPlan) => swarm.PlansNode ref version plan
  | .checkServicePlacement _, _ | .checkServiceCapacity _ _, _ => True

/-! ## The state -/

/-- The session of a call that takes named locks. -/
inductive Session where
  | closed
  | live
  /-- The server has dropped the session; the call does not know yet. -/
  | lost
  deriving DecidableEq, Repr

/-- A row of `operations` or `node_operations`. -/
abbrev OperationKey := ResourceType × String

structure World (Tid : Type) where
  db : Db
  lock : String → Option Tid
  session : Tid → Session
  /-- The mutation requests sent so far, the latest one first. -/
  sent : List MutationRequest
  /-- The call whose transaction inserted the row. -/
  creator : OperationKey → Option Tid
  /-- The admission under which the callback of a call is running. -/
  admitted : Tid → Option Admission
  /-- The call that drew this random id. -/
  issued : String → Option Tid
  /-- The deployment that a call has found last by its id, before or in its session. -/
  lastRead : Tid → Option DeploymentRecord

/-- The row that a mutation request is sent for. -/
def MutationRequest.key (request : MutationRequest) : OperationKey :=
  (request.mutation.table, request.operationId)

/-- The row that a statement inserts into `operations` or `node_operations`. -/
def DbOp.creates : DbOp → Option OperationKey
  | .createOperation input => some (.service, input.id)
  | .createNodeOperation input => some (.node, input.id)
  | .createDeployment operation _ _ => some (.service, operation.id)
  | .createRollback operation _ => some (.service, operation.id)
  | _ => none

namespace World

variable {Tid : Type} [DecidableEq Tid] (w : World Tid) (i : Tid)

/-- The server has executed a statement of the call. -/
def commit (op : DbOp) (db : Db) : World Tid :=
  { w with
    db := db
    creator := match op.creates with
      | some key => Function.update w.creator key (some i)
      | none => w.creator }

/-- The call has got the answer of a statement. -/
def answered : (op : DbOp) → Except Failure op.Reply → World Tid
  | .insertAdmission _ _ admission, (.ok true : Except Failure Bool) =>
    { w with admitted := Function.update w.admitted i (some admission) }
  | .releaseAdmission _, _ => { w with admitted := Function.update w.admitted i none }
  | .findDeployment _, (.ok found : Except Failure (Option DeploymentRecord)) =>
    { w with lastRead := Function.update w.lastRead i found }
  | _, _ => w

/-- The server frees every lock of these calls. -/
def freeLocks (S : Tid → Prop) [DecidablePred S] : World Tid :=
  { w with lock := fun name => match w.lock name with
      | some holder => if S holder then none else some holder
      | none => none }

def setSession (session : Session) : World Tid :=
  { w with session := Function.update w.session i session }

/-- The call gives its session back. -/
def endSession : World Tid :=
  { w.setSession i .closed with lastRead := Function.update w.lastRead i none }

end World

/-! ## Requests -/

section Requests

variable {Tid : Type} [DecidableEq Tid]

/-- One statement: it is executed and answered, it is refused, or it fails, executed or not. In a
lost session nothing is changed any more. -/
inductive StatementStep (i : Tid) (op : DbOp) (w : World Tid) :
    Except Failure op.Reply → World Tid → Prop where
  | executed {reply db} (hexec : op.exec w.db = .ok (reply, db))
      (hlive : w.session i ≠ .lost ∨ db = w.db) :
      StatementStep i op w (.ok reply) ((w.commit i op db).answered i op (.ok reply))
  | refused {e} (hexec : op.exec w.db = .error e) :
      StatementStep i op w (.error e) (w.answered i op (.error e))
  | failed (message : String) :
      StatementStep i op w (.error (.database false message))
        (w.answered i op (.error (.database false message)))
  | unacknowledged {reply db} (message : String) (hexec : op.exec w.db = .ok (reply, db))
      (hlive : w.session i ≠ .lost) :
      StatementStep i op w (.error (.database false message))
        ((w.commit i op db).answered i op (.error (.database false message)))

/-- What a request of a call may do to the state, and what it may be answered. -/
def Performs (docker : Set Swarm) (i : Tid) : (op : ControlOp) → World Tid → op.Ans →
    World Tid → Prop
  | .db op, w, answer, w' => StatementStep i op w answer w'
  | .randomUUID, w, (id : String), w' =>
    w.issued id = none ∧ w' = { w with issued := Function.update w.issued id (some i) }
  | .getConnection, w, (answer : Except Failure Unit), w' =>
    match answer with
    | .ok () => w' = w.setSession i .live
    | .error _ => w' = w
  | .releaseConnection, w, _, w' => w' = w.endSession i
  | .getLock name, w, (answer : Except Failure Bool), w' =>
    match answer with
    | .ok true => w.session i = .live ∧ w.lock name = none ∧
        w' = { w with lock := Function.update w.lock name (some i) }
    | .ok false | .error _ => w' = w
  | .releaseLock name, w, (answer : Except Failure Unit), w' =>
    match answer with
    | .ok () => w' =
        if w.lock name = some i then { w with lock := Function.update w.lock name none } else w
    | .error _ => w' = w
  | .destroySession, w, _, w' => w' = (w.freeLocks (· = i)).endSession i
  | .agent read, w, (answer : Except Failure read.Reply), w' =>
    w' = w ∧ ∀ reply, answer = .ok reply → ∃ swarm ∈ docker, read.Answers swarm reply
  | .send request, w, _, w' => w' = { w with sent := request :: w.sent }
  | .now, w, _, w' | .sleep _, w, _, w' | .selectMutationAgent, w, _, w' | .readBarrier _, w, _, w'
  | .inspectConfiguredManagers _, w, _, w' | .putBarrier _ _ _ _, w, _, w'
  | .assertAllowed _, w, _, w' | .fetch _ _, w, _, w' => w' = w
  | .hang, _, _, _ => False

/-- What happens without a call: a session is lost, time passes, and other parts of the control
plane register clusters, deployment targets and releases. -/
inductive EnvStep : World Tid → World Tid → Prop where
  | loseSession {w i} (hlive : w.session i = .live) :
      EnvStep w ((w.freeLocks (· = i)).setSession i .lost)
  | tick {w clock} (h : w.db.clock ≤ clock) :
      EnvStep w { w with db := { w.db with clock := clock } }
  | registration {w row} (h : w.db.findRegistration row.clusterId = none) :
      EnvStep w { w with db := { w.db with registrations := w.db.registrations ++ [row] } }
  | target {w row} (h : w.db.findDeploymentTarget row.id = none) :
      EnvStep w { w with db := { w.db with targets := w.db.targets ++ [row] } }
  | release {w row} (h : w.db.findRelease row.id = none) :
      EnvStep w { w with db := { w.db with releases := w.db.releases ++ [row] } }

/-- The calls of `S` die. The server frees their locks; their admissions stay behind. -/
def CrashStep (S : Set Tid) (w w' : World Tid) : Prop :=
  ∃ _ : DecidablePred (· ∈ S), w' =
    { w.freeLocks (· ∈ S) with
      session := fun i => if i ∈ S then .closed else w.session i
      admitted := fun i => if i ∈ S then none else w.admitted i
      lastRead := fun i => if i ∈ S then none else w.lastRead i }

/-- The control plane over the states `docker` of the Swarm. `Allowed` restricts the requests to
those that meet a condition on the state. -/
def controlMachine (docker : Set Swarm) (Allowed : Tid → ControlOp → World Tid → Prop) :
    Machine Tid ControlOp ControlOp.Ans (World Tid) where
  perform i op w answer w' := Allowed i op w ∧ Performs docker i op w answer w'
  env := EnvStep
  crash := CrashStep

/-! ## The database over a step -/

variable {w w' : World Tid} {i : Tid}

section Database

variable {docker : Set Swarm}

omit [DecidableEq Tid] in
theorem CrashStep.db {S : Set Tid} (h : CrashStep S w w') : w'.db = w.db := by
  obtain ⟨_, rfl⟩ := h
  rfl

theorem World.answered_db (w : World Tid) (i : Tid) (op : DbOp)
    (answer : Except Failure op.Reply) : (w.answered i op answer).db = w.db := by
  unfold World.answered
  split <;> rfl

theorem StatementStep.db {op : DbOp} {answer : Except Failure op.Reply}
    (h : StatementStep i op w answer w') :
    w'.db = w.db ∨ ∃ reply, op.exec w.db = .ok (reply, w'.db) := by
  cases h with
  | @executed reply db hexec _ =>
    refine .inr ⟨reply, ?_⟩
    rw [World.answered_db]
    exact hexec
  | refused _ => exact .inl (World.answered_db w i op _)
  | failed _ => exact .inl (World.answered_db w i op _)
  | @unacknowledged reply db _ hexec _ =>
    refine .inr ⟨reply, ?_⟩
    rw [World.answered_db]
    exact hexec

theorem Performs.db {op : ControlOp} {answer : op.Ans} (h : Performs docker i op w answer w')
    (hop : ∀ o, op ≠ .db o) : w'.db = w.db := by
  cases op with
  | db o => exact absurd rfl (hop o)
  | randomUUID => rw [h.2]
  | getConnection => rcases answer with e | _ <;> cases h <;> rfl
  | getLock name =>
    rcases answer with e | _ | _
    · cases h
      rfl
    · cases h
      rfl
    · rw [h.2.2]
  | releaseLock name =>
    rcases answer with e | _
    · cases h
      rfl
    · cases h
      split <;> rfl
  | agent read => rw [h.1]
  | hang => exact h.elim
  | _ => cases h; rfl

theorem World.answered_sent {w : World Tid} {i : Tid} {op : DbOp}
    {answer : Except Failure op.Reply} : (w.answered i op answer).sent = w.sent := by
  unfold World.answered
  split <;> rfl

theorem Performs.sent {op : ControlOp} {answer : op.Ans} (h : Performs docker i op w answer w')
    (hop : ∀ request, op ≠ .send request) : w'.sent = w.sent := by
  cases op with
  | db op =>
    cases h with
    | executed _ _ => exact World.answered_sent
    | refused _ => exact World.answered_sent
    | failed _ => exact World.answered_sent
    | unacknowledged _ _ _ => exact World.answered_sent
  | send request => exact absurd rfl (hop request)
  | randomUUID => rw [h.2]
  | getConnection => rcases answer with e | _ <;> cases h <;> rfl
  | getLock name =>
    rcases answer with e | _ | _
    · cases h
      rfl
    · cases h
      rfl
    · rw [h.2.2]
  | releaseLock name =>
    rcases answer with e | _
    · cases h
      rfl
    · cases h
      split <;> rfl
  | agent read => rw [h.1]
  | hang => exact h.elim
  | _ => cases h; rfl

end Database

end Requests

/-! ## Calls -/

/-- Run a call and forget its result. -/
def ignoreResult {α : Type} (p : ControlProgram α) : ControlProgram Unit :=
  p.bind fun _ => .pure ()

/-- The calls that a process of the control plane may take up. -/
inductive Call (settings : Settings) : ControlProgram Unit → Prop where
  | scale (clusterId serviceId input replicas fuel) :
      Call settings (ignoreResult
        (MutationService.scale settings clusterId serviceId input replicas fuel))
  | restart (clusterId serviceId input fuel) :
      Call settings (ignoreResult
        (MutationService.restart settings clusterId serviceId input fuel))
  /-- `drain`, `activate` and `labels`. -/
  | mutateNode (clusterId nodeRef input fuel) :
      Call settings (ignoreResult
        (NodeMutationService.mutate settings clusterId nodeRef input fuel))
  | deploy (clusterId targetId input fuel) :
      Call settings (ignoreResult
        (DeploymentService.deploy settings clusterId targetId input fuel))
  | historicalRedeploy (clusterId targetId input fuel) :
      Call settings (ignoreResult
        (DeploymentService.historicalRedeploy settings clusterId targetId input fuel))
  | rollback (clusterId deploymentId input fuel) :
      Call settings (ignoreResult
        (DeploymentService.rollback settings clusterId deploymentId input fuel))
  | recoverOperations (fuel) : Call settings (MutationService.onApplicationBootstrap settings fuel)
  | recoverNodeOperations (fuel) :
      Call settings (NodeMutationService.onApplicationBootstrap settings fuel)
  | reconcileDeployments (fuel) :
      Call settings (DeploymentService.reconcilePendingDeployments settings fuel)
  | initializeMaintenance (clusterId) :
      Call settings (ignoreResult (MaintenanceService.initializeMaintenance settings clusterId))
  | requestClosing (clusterId generation) :
      Call settings (ignoreResult
        (MaintenanceService.requestClosing settings clusterId generation))
  | confirmClosed (clusterId generation) :
      Call settings (ignoreResult
        (MaintenanceService.confirmClosed settings clusterId generation))
  | beginReconciliation (clusterId generation) :
      Call settings (ignoreResult
        (MaintenanceService.beginReconciliation settings clusterId generation))
  | completeReconciliation (clusterId generation) :
      Call settings (ignoreResult
        (MaintenanceService.completeReconciliation settings clusterId generation))
  | resumeManagers (clusterId generation) :
      Call settings (ignoreResult
        (MaintenanceService.resumeManagers settings clusterId generation))
  | resolveEvidence (clusterId request) :
      Call settings (MaintenanceService.resolveEvidence settings clusterId request)

/-- The processes of a control plane. They run one code, so they agree on the names of the locks. -/
structure Processes where
  settings : Set Settings
  lockName : LockKey → String
  names : ∀ s ∈ settings, s.namedLockName = lockName

/-- Every request may be made at any time. -/
def AnyRequest {Tid : Type} (_ : Tid) (_ : ControlOp) (_ : World Tid) : Prop := True

/-- The state after the migrations have run, before any call. -/
def emptyWorld (Tid : Type) : World Tid where
  db := emptyDb
  lock _ := none
  session _ := .closed
  sent := []
  creator _ := none
  admitted _ := none
  issued _ := none
  lastRead _ := none

/-- The configurations of the control plane that can be reached from an empty database. -/
def ControlReachable {Tid : Type} [DecidableEq Tid] (docker : Set Swarm)
    (Allowed : Tid → ControlOp → World Tid → Prop) (settings : Set Settings) :
    Config Tid ControlOp ControlOp.Ans Failure Unit (World Tid) → Prop :=
  Reachable (controlMachine docker Allowed) (fun p => ∃ s ∈ settings, Call s p) (emptyWorld Tid)

end Docklane.Control
