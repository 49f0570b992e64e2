import Docklane.Control.Effects

/-!
# Locks and admissions

`operations/operation-lock.ts`, `clusters/registered-operation-lock.ts` and the registration check
of `clusters/cluster-binding.policy.ts`. Calls that may change Docker run their callback under the
named locks of the resources and, when maintenance is enforced, with an admission; recovery runs
under the same locks without one. What the code keeps in an async scope is passed on explicitly.
-/

namespace Docklane.Control

open Concurrent

/-- `resourceLockKey`. -/
structure LockKey where
  type : ResourceType
  clusterId : String
  resourceId : String
  deriving DecidableEq, Repr

/-- The configuration of one process of the control plane. -/
structure Settings where
  clusterId : String
  /-- `DOCKLANE_CLUSTER_REGISTRATION_MODE=enforce`. -/
  registrationEnforced : Bool
  expectedSwarmClusterId : Option String
  /-- `DOCKLANE_MAINTENANCE_ENFORCE=1`. -/
  maintenanceEnforced : Bool
  /-- `PROCESS_INSTANCE_ID`. -/
  instanceId : String
  /-- `config.agents.length` and `config.expectedClusterId` of the manager configuration. -/
  managerCount : Nat
  managerClusterId : Option String
  /-- A truncated digest of the key. -/
  namedLockName : LockKey → String

/-- The exceptions of the registration check. -/
def clusterBindingUnavailable : Failure :=
  .unavailable "Configured cluster registration is unavailable"

def assertRegistered (settings : Settings) (clusterId : String) : ControlProgram Unit :=
  if clusterId ≠ settings.clusterId then .throw (.notFound "Cluster not found")
  else if settings.registrationEnforced = false then .pure ()
  else
    Program.bind (Program.attempt (query (.findRegistration clusterId)))
      fun (answer : Except Failure (Option Registration)) =>
        match answer with
        | .ok (some record) =>
          if record.clusterId = clusterId ∧
              some record.swarmClusterId = settings.expectedSwarmClusterId then .pure ()
          else .throw clusterBindingUnavailable
        | _ => .throw clusterBindingUnavailable

/-! ## Named locks -/

/-- Release the locks of the session, the last one first. When that fails, the session is destroyed
and the server drops the rest. -/
def releaseLocks : List String → ControlProgram Unit
  | [] => Program.perform ControlOp.releaseConnection
  | name :: rest =>
    .request (.releaseLock name) fun (answer : Except Failure Unit) =>
      match answer with
      | .ok () => releaseLocks rest
      | .error _ => Program.perform ControlOp.destroySession

/-- `withResourceLocks` from the point where the locks `acquired` are held. -/
def withNamedLocks {α : Type} (fn : ControlProgram α) : List String → List String → ControlProgram α
  | [], acquired => fn.andFinally (releaseLocks acquired)
  | name :: rest, acquired =>
    .request (.getLock name) fun (answer : Except Failure Bool) =>
      match answer with
      | .ok true => withNamedLocks fn rest (name :: acquired)
      | .ok false =>
        (Program.throw (.conflict
          "Another mutation is in progress for an affected resource")).andFinally
            (releaseLocks acquired)
      | .error e => (Program.throw e).andFinally (releaseLocks acquired)

def withResourceLocks {α : Type} (settings : Settings) (keys : List LockKey)
    (fn : ControlProgram α) : ControlProgram α :=
  .request .getConnection fun (answer : Except Failure Unit) =>
    match answer with
    | .error e => .throw e
    | .ok () => withNamedLocks fn (sortedUnique (keys.map settings.namedLockName)) []

/-! ## Admissions -/

/-- `withActiveAdmission`'s scope. -/
structure ActiveAdmission where
  id : String
  clusterId : String
  deriving DecidableEq, Repr

def assertMaintenanceOpen (settings : Settings) (clusterId : String) (type : ResourceType)
    (resourceId : String) : ControlProgram (Option ActiveAdmission) :=
  if settings.maintenanceEnforced = false then .pure none
  else
    (findMaintenance clusterId).attempt.bind fun answer =>
      match answer with
      | .error _ => .throw (.unavailable "Maintenance state unavailable")
      | .ok none => .throw (.conflict "Cluster maintenance admission closed")
      | .ok (some row) =>
        if row.state = .OPEN ∧ 1 ≤ row.generation then
          randomUUID.bind fun id =>
            Program.bind (query (.insertAdmission clusterId row.generation
              ⟨id, clusterId, row.generation, settings.instanceId, type, resourceId, none⟩))
              fun (inserted : Bool) =>
                if inserted then .pure (some ⟨id, clusterId⟩)
                else .throw (.conflict "Maintenance admission changed")
        else .throw (.conflict "Cluster maintenance admission closed")

def releaseAdmission : Option ActiveAdmission → ControlProgram Unit
  | none => .pure ()
  | some admission => query (.releaseAdmission admission.id)

/-- Run a callback with an admission, and give the admission back however it ends. -/
def withAdmission {α : Type} (settings : Settings) (clusterId : String) (type : ResourceType)
    (resourceId : String) (fn : Option ActiveAdmission → ControlProgram α) : ControlProgram α :=
  (assertMaintenanceOpen settings clusterId type resourceId).bind fun admission =>
    (fn admission).andFinally (releaseAdmission admission)

/-! ## The lock of a call -/

def serviceLockKeys (clusterId serviceId : String) : List LockKey :=
  [⟨.service, clusterId, serviceId⟩]

def nodeLockKeys (clusterId nodeId : String) (serviceIds : List String) : List LockKey :=
  ⟨.node, clusterId, nodeId⟩ :: serviceIds.map fun serviceId => ⟨.service, clusterId, serviceId⟩

def withServiceLock {α : Type} (settings : Settings) (clusterId serviceId : String)
    (fn : Option ActiveAdmission → ControlProgram α) : ControlProgram α :=
  (assertRegistered settings clusterId).bind fun _ =>
    withResourceLocks settings (serviceLockKeys clusterId serviceId)
      (withAdmission settings clusterId .service serviceId fn)

def withNodeAndServiceLocks {α : Type} (settings : Settings) (clusterId nodeId : String)
    (serviceIds : List String) (fn : Option ActiveAdmission → ControlProgram α) :
    ControlProgram α :=
  (assertRegistered settings clusterId).bind fun _ =>
    withResourceLocks settings (nodeLockKeys clusterId nodeId serviceIds)
      (withAdmission settings clusterId .node nodeId fn)

def withServiceRecoveryLock {α : Type} (settings : Settings) (clusterId serviceId : String)
    (fn : ControlProgram α) : ControlProgram α :=
  (assertRegistered settings clusterId).bind fun _ =>
    withResourceLocks settings (serviceLockKeys clusterId serviceId) fn

def withNodeRecoveryLocks {α : Type} (settings : Settings) (clusterId nodeId : String)
    (serviceIds : List String) (fn : ControlProgram α) : ControlProgram α :=
  (assertRegistered settings clusterId).bind fun _ =>
    withResourceLocks settings (nodeLockKeys clusterId nodeId serviceIds) fn

end Docklane.Control
