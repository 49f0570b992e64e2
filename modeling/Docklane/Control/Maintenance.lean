import Docklane.Control.Locks

/-!
# Maintenance of a cluster

The administrative calls: initialization, the close request,
`clusters/maintenance-close.controller.ts` with `clusters/maintenance-manager-barrier.ts`, the
recovery transitions, and the manual resolution of evidence. Roles and the texts of a request are
checked before these calls and are left out.
-/

namespace Docklane.Control

open Concurrent

namespace MaintenanceService

/-- The largest value of an unsigned `BIGINT`. -/
def MAX_GENERATION : Nat := 18446744073709551615

def requireRecord (clusterId : String) : ControlProgram MaintenanceRecord :=
  (findMaintenance clusterId).attempt.bind fun answer =>
    match answer with
    | .error _ => .throw (.unavailable "Cluster maintenance state cannot be verified")
    | .ok none => .throw (.unavailable "Cluster maintenance state is missing or invalid")
    | .ok (some row) => .pure row

/-! ## The barriers of the managers -/

def inspectConfiguredManagers (swarmClusterId : String) : ControlProgram (List ManagerTarget) :=
  .request (.inspectConfiguredManagers swarmClusterId) Program.ofExcept

/-- The barrier of a manager is in this state, for this Swarm and at this generation. -/
def barrierMatches (target : ManagerTarget) (swarmClusterId : String) (generation : Nat)
    (state : Gate) (barrier : BarrierResponse) : Bool :=
  barrier.clusterId = swarmClusterId && barrier.nodeId = target.nodeId &&
    barrier.generation = toString generation && barrier.state = state

/-- `blockConfiguredManager` and `openConfiguredManager`. -/
def putManagerBarrier (target : ManagerTarget) (swarmClusterId : String) (generation : Nat)
    (state : Gate) : ControlProgram Unit :=
  .request (.putBarrier target.agentId swarmClusterId (toString generation) state)
    fun (answer : Except Failure BarrierResponse) =>
      match answer with
      | .error e => .throw e
      | .ok barrier =>
        if barrierMatches target swarmClusterId generation state barrier then .pure ()
        else .throw (.error (match state with
          | .BLOCKED => "Manager barrier acknowledgement does not match target"
          | .OPEN => "Manager reopen acknowledgement mismatch"))

def inspectManagerBarrier (target : ManagerTarget) (swarmClusterId : String) (generation : Nat)
    (state : Gate) : ControlProgram Unit :=
  .request (.readBarrier target.agentId) fun (answer : Except Failure BarrierResponse) =>
    match answer with
    | .error e => .throw e
    | .ok barrier =>
      if barrierMatches target swarmClusterId generation state barrier then .pure ()
      else .throw (.error "Manager barrier state mismatches expected recovery generation")

def inspectManagerBarriers (swarmClusterId : String) (generation : Nat) (state : Gate) :
    List ManagerTarget → ControlProgram Unit
  | [] => .pure ()
  | target :: rest =>
    (inspectManagerBarrier target swarmClusterId generation state).bind fun _ =>
      inspectManagerBarriers swarmClusterId generation state rest

/-- The roster is still the one that was worked through. -/
def assertRoster (swarmClusterId : String) (targets : List ManagerTarget) (message : String) :
    ControlProgram Unit :=
  (inspectConfiguredManagers swarmClusterId).bind fun fresh =>
    if fresh = targets then .pure () else .throw (.conflict message)

/-- Open the managers, one after the other. -/
def openManagers (swarmClusterId : String) (generation : Nat) :
    List ManagerTarget → ControlProgram Unit
  | [] => .pure ()
  | target :: rest =>
    (putManagerBarrier target swarmClusterId generation .OPEN).bind fun _ =>
      openManagers swarmClusterId generation rest

variable (settings : Settings)

def openAll (clusterId swarmClusterId : String) (generation : Nat) : ControlProgram (List String) :=
  (requireRecord clusterId).bind fun state =>
    if state.state ≠ .OPEN ∨ state.generation ≠ generation ∨
        settings.managerClusterId ≠ some swarmClusterId then
      .throw (.conflict "Recovery requires committed OPEN generation")
    else
      (inspectConfiguredManagers swarmClusterId).bind fun targets =>
        if targets.length ≠ settings.managerCount then
          .throw (.conflict "Incomplete manager membership for resume")
        else
          (openManagers swarmClusterId generation targets).bind fun _ =>
            (assertRoster swarmClusterId targets "Manager roster changed during resume").bind
              fun _ =>
                (inspectManagerBarriers swarmClusterId generation .OPEN targets).bind fun _ =>
                  (assertRoster swarmClusterId targets
                    "Manager roster changed during final resume verification").bind fun _ =>
                      (requireRecord clusterId).bind fun latest =>
                        if latest.state ≠ .OPEN ∨ latest.generation ≠ generation then
                          .throw (.conflict
                            "Recovery generation changed while reopening managers")
                        else .pure ((targets.map (·.agentId)).mergeSort (· ≤ ·))

/-- Block the managers, one after the other, and record each acknowledgement. -/
def blockManagers (clusterId swarmClusterId : String) (generation : Nat) :
    List ManagerTarget → ControlProgram Unit
  | [] => .pure ()
  | target :: rest =>
    (putManagerBarrier target swarmClusterId generation .BLOCKED).bind fun _ =>
      Program.bind (query (.acknowledgeBarrier clusterId target.agentId generation))
        fun (_ : Unit) => blockManagers clusterId swarmClusterId generation rest

/-- The acknowledgement rows are exactly those of the roster, at this generation. -/
def acknowledgementsComplete (rows : List BarrierAck) (expectedIds : List String)
    (generation : Nat) : Bool :=
  rows.map (·.agentId) = expectedIds && rows.all fun row =>
    row.generation = generation && row.acknowledged

def blockAll (clusterId swarmClusterId : String) (generation : Nat) :
    ControlProgram (List String) :=
  (requireRecord clusterId).bind fun state =>
    if state.state ≠ .CLOSING ∧ state.state ≠ .RECONCILING ∨ state.generation ≠ generation ∨
        settings.managerClusterId ≠ some swarmClusterId then
      .throw (.conflict "Maintenance generation or registered Swarm mismatch")
    else
      (inspectConfiguredManagers swarmClusterId).bind fun targets =>
        if targets.length ≠ settings.managerCount then
          .throw (.conflict "Incomplete manager membership")
        else
          (blockManagers clusterId swarmClusterId generation targets).bind fun _ =>
            (assertRoster swarmClusterId targets "Manager membership changed during barrier").bind
              fun _ =>
                (inspectManagerBarriers swarmClusterId generation .BLOCKED targets).bind fun _ =>
                  (assertRoster swarmClusterId targets
                    "Manager roster changed during final block verification").bind fun _ =>
                      (requireRecord clusterId).bind fun latest =>
                        if latest.state ≠ state.state ∨ latest.generation ≠ generation then
                          .throw (.conflict "Maintenance generation changed during barrier")
                        else
                          let expectedIds := (targets.map (·.agentId)).mergeSort (· ≤ ·)
                          Program.bind (query (.barrierAcks clusterId))
                            fun (rows : List BarrierAck) =>
                              if acknowledgementsComplete rows expectedIds generation then
                                .pure expectedIds
                              else .throw (.conflict
                                "Missing or stale manager barrier acknowledgement")

/-! ## The calls -/

/-- Maintenance and the registration are enforced; the Swarm the control plane is bound to. -/
def enforcedSwarm (clusterId message : String) : Except Failure String :=
  if clusterId ≠ settings.clusterId then .error (.notFound "Cluster not found")
  else if settings.maintenanceEnforced = false ∨ settings.registrationEnforced = false then
    .error (.conflict message)
  else match settings.expectedSwarmClusterId with
    | some swarmClusterId =>
      if swarmClusterId.isEmpty then .error (.conflict message) else .ok swarmClusterId
    | none => .error (.conflict message)

/-- Run a call with the control lease, and give it back however the call ends. -/
def withLease {α : Type} (clusterId : String) (fn : MaintenanceLease → ControlProgram α) :
    ControlProgram α :=
  randomUUID.bind fun holderId =>
    Program.bind (query (.acquireLease clusterId holderId 30)) fun (lease : MaintenanceLease) =>
      let release : ControlProgram Bool := query (.releaseLease lease)
      (fn lease).andFinally (release.attempt.bind fun _ => .pure ())

/-- `initialize`, after the fresh identity of the Swarm was found to be the expected one. -/
def initializeMaintenance (clusterId : String) : ControlProgram MaintenanceRecord :=
  if clusterId ≠ settings.clusterId then .throw (.notFound "Cluster not found")
  else if settings.registrationEnforced = false ∨
      truthy settings.expectedSwarmClusterId = false then
    .throw (.conflict "Fixed real Swarm registration enforcement is required")
  else
    (assertRegistered settings clusterId).bind fun _ =>
      Program.bind (query (.initializeOpen clusterId)) fun (_ : Unit) => requireRecord clusterId

def requestClosing (clusterId : String) (generation : Nat) : ControlProgram MaintenanceRecord :=
  if clusterId ≠ settings.clusterId then .throw (.notFound "Cluster not found")
  else
    (assertRegistered settings clusterId).bind fun _ =>
      Program.bind (query (.requestClosing clusterId generation)) fun (updated : Bool) =>
        if updated then
          (assertRegistered settings clusterId).bind fun _ => requireRecord clusterId
        else .throw (.conflict "Maintenance state changed; refresh and retry")

/-- `confirm-closed`; returns the generation of the closed cluster. -/
def confirmClosed (clusterId : String) (generation : Nat) : ControlProgram Nat :=
  (Program.ofExcept (enforcedSwarm settings clusterId
    "Maintenance enforcement and fixed registration are required")).bind fun swarmClusterId =>
      if MAX_GENERATION < generation then
        .throw (.badRequest "Maintenance generation exceeds MySQL BIGINT range")
      else
        (assertRegistered settings clusterId).bind fun _ =>
          withLease clusterId fun lease =>
            (blockAll settings clusterId swarmClusterId generation).bind fun blocked =>
              Program.bind (query (.commitClosed clusterId generation blocked lease))
                fun (updated : Bool) =>
                  if updated then .pure (generation + 1)
                  else .throw (.conflict "Maintenance closure generation changed")

/-- `check` of the recovery controller. -/
def checkRecovery (clusterId : String) (generation : Nat) : ControlProgram String :=
  (Program.ofExcept (enforcedSwarm settings clusterId
    "Enforced cluster registration and maintenance required")).bind fun swarmClusterId =>
      if MAX_GENERATION ≤ generation then
        .throw (.badRequest "Maintenance generation cannot increment")
      else (assertRegistered settings clusterId).bind fun _ => .pure swarmClusterId

def beginReconciliation (clusterId : String) (generation : Nat) : ControlProgram Nat :=
  (checkRecovery settings clusterId generation).bind fun _ =>
    withLease clusterId fun lease =>
      Program.bind (query (.commitReconciling clusterId generation lease))
        fun (updated : Bool) =>
          if updated then .pure (generation + 1)
          else .throw (.conflict "Maintenance recovery generation changed")

/-- `complete-reconciliation`: the row is opened first, and the managers after it. -/
def completeReconciliation (clusterId : String) (generation : Nat) : ControlProgram Nat :=
  (checkRecovery settings clusterId generation).bind fun swarmClusterId =>
    withLease clusterId fun lease =>
      (blockAll settings clusterId swarmClusterId generation).bind fun blocked =>
        Program.bind (query (.commitOpen clusterId generation blocked lease))
          fun (updated : Bool) =>
            if updated then
              (openAll settings clusterId swarmClusterId (generation + 1)).bind fun _ =>
                .pure (generation + 1)
            else .throw (.conflict "Maintenance recovery generation changed")

def resumeManagers (clusterId : String) (generation : Nat) : ControlProgram (List String) :=
  (checkRecovery settings clusterId generation).bind fun swarmClusterId =>
    withLease clusterId fun _ => openAll settings clusterId swarmClusterId generation

/-! ## Evidence -/

/-- `observeResource`: the version and the spec of the resource of a dispatch. -/
def observeResource (evidenceId clusterId : String) : ControlProgram ObservedUnchanged :=
  Program.bind (query (.dispatchOperations evidenceId clusterId))
    fun (operations : List EvidenceOperation) =>
      match operations with
      | [.service operation] =>
        (inspectService operation.serviceId).bind fun current =>
          .pure ⟨current.service.version, current.service.specHash⟩
      | [.node operation] =>
        (inspectNode operation.nodeId).bind fun current =>
          .pure ⟨current.node.version, current.node.specHash⟩
      | _ => .throw (.conflict "Dispatch operation identity is ambiguous")

/-- `resolveWithinTransaction` for a dispatch, under the recovery locks of its resource. -/
def resolveLocked (input : ResolveEvidenceInput) (locked : LockedResource) : ControlProgram Unit :=
  (observeResource input.evidenceId input.clusterId).bind fun observed =>
    query (.resolveEvidence input (some locked) (some observed))

/-- `resolve` of `clusters/maintenance-evidence-recovery.ts`. A dispatch is resolved under the
recovery locks of its resource, an admission under none. -/
def recoverEvidence (input : ResolveEvidenceInput) : ControlProgram Unit :=
  (requireRecord input.clusterId).bind fun state =>
    if state.state ≠ .CLOSING ∧ state.state ≠ .RECONCILING then
      .throw (.conflict "Recovery requires maintenance and substantive evidence")
    else match input.type with
      | .ADMISSION => query (.resolveEvidence input none none)
      | .DISPATCH =>
        Program.bind (query (.dispatchOperations input.evidenceId input.clusterId))
          fun (operations : List EvidenceOperation) =>
            match operations with
            | [operation] =>
              if operation.validServices = false then
                .throw (.conflict "Invalid affected services in recorded node operation")
              else match operation.resource with
                | .service id =>
                  if id.isEmpty then
                    .throw (.conflict "Dispatch operation identity is ambiguous")
                  else
                    withServiceRecoveryLock settings input.clusterId id
                      (resolveLocked input (.service id))
                | .node id affectedServiceIds =>
                  if id.isEmpty then
                    .throw (.conflict "Dispatch operation identity is ambiguous")
                  else
                    withNodeRecoveryLocks settings input.clusterId id affectedServiceIds
                      (resolveLocked input (.node id affectedServiceIds))
            | _ => .throw (.conflict "Dispatch operation identity is ambiguous")

/-- What the operator supplies. -/
structure ResolveRequest where
  type : EvidenceType
  evidenceId : String
  generation : Nat
  reason : String
  deriving DecidableEq, Repr

def resolveEvidence (clusterId : String) (request : ResolveRequest) : ControlProgram Unit :=
  (Program.ofExcept (enforcedSwarm settings clusterId
    "Maintenance and registered Swarm enforcement required")).bind fun swarmClusterId =>
      (assertRegistered settings clusterId).bind fun _ =>
        if MAX_GENERATION < request.generation then .throw (.badRequest "Generation too large")
        else
          withLease clusterId fun lease =>
            (requireRecord clusterId).bind fun current =>
              if current.state ≠ .CLOSING ∧ current.state ≠ .RECONCILING ∨
                  current.generation ≠ request.generation then
                .throw (.conflict "Recovery requires current blocked maintenance generation")
              else
                (blockAll settings clusterId swarmClusterId request.generation).bind fun _ =>
                  recoverEvidence settings ⟨clusterId, request.generation, request.type,
                    request.evidenceId, request.reason, lease⟩

end MaintenanceService

end Docklane.Control
