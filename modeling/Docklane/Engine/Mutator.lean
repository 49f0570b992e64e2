import Docklane.Engine.NodeMutator

/-!
# What the Agent does to services

The plans of `dockerengine/planner.go` and the mutations of `mutator.go`. The four mutations have
one shape: look at the service, compare it with what the plan has seen, compute the target spec and
compare its hash with the planned one, take the last look at the Swarm, update, and look again. They
differ in the target spec, in some texts, and in what a rollback sends.
-/

namespace Docklane.Engine

open Concurrent
open Control (ServiceMutationPlan ServiceMutationResponse)

structure ServiceMutationRequest where
  expectedVersion : UInt64
  expectedSpecHash : String
  targetSpecHash : String
  replicas : Option UInt64
  image : Option String
  deriving DecidableEq, Repr

/-- `@sha256:[A-Fa-f0-9]{64}$` -/
def isDigestPinnedImage (image : String) : Bool :=
  let digest := image.toList.reverse.take 64
  digest.length = 64 && digest.all (fun c => c.isDigit || ('A' ≤ c && c ≤ 'F') ||
    ('a' ≤ c && c ≤ 'f')) && (image.toList.reverse.drop 64).take 8 = "@sha256:".toList.reverse

def serviceInspect (ref context : String) : EngineProgram Service :=
  .request (.serviceInspect ref) (wrapped context)

def inspectService (ref : String) : EngineProgram Service :=
  serviceInspect ref ("inspect service " ++ quoted ref)

/-! ## Target specs -/

/-- `spec.Mode.Replicated != nil` -/
def ServiceMode.isReplicated : ServiceMode → Bool
  | replicated _ => true
  | _ => false

def ServiceSpec.withReplicas (spec : ServiceSpec) (replicas : UInt64) : ServiceSpec :=
  { spec with mode := .replicated (some replicas) }

def ServiceSpec.restarted (spec : ServiceSpec) : ServiceSpec :=
  { spec with taskTemplate :=
      { spec.taskTemplate with forceUpdate := spec.taskTemplate.forceUpdate + 1 } }

def ServiceSpec.withImage (spec : ServiceSpec) (image : String) : ServiceSpec :=
  { spec with taskTemplate :=
      { spec.taskTemplate with
        containerSpec := spec.taskTemplate.containerSpec.map ({ · with image := image }) } }

/-- A service that images are deployed to. -/
def ServiceSpec.isReplicatedContainer (spec : ServiceSpec) : Bool :=
  spec.mode.isReplicated && spec.taskTemplate.containerSpec.isSome

def imageNotPinned : EngineError :=
  .validation "deployment image must be pinned by sha256 digest"

/-- The spec that a rollback goes back to. -/
def previousTarget (ref : String) (service : Service) : Except EngineError ServiceSpec :=
  match service.previousSpec with
  | none => .error (.validation ("service " ++ quoted ref ++ " does not have a previous spec"))
  | some previous =>
    if previous.isReplicatedContainer then .ok previous
    else .error (.validation ("service " ++ quoted ref ++
      " previous spec is not a supported replicated container service"))

/-- The spec with another image, where images can be deployed. -/
def imageTarget (ref image : String) (service : Service) : Except EngineError ServiceSpec :=
  if service.spec.isReplicatedContainer then .ok (service.spec.withImage image)
  else .error (.validation ("service " ++ quoted ref ++
    " is not a supported replicated container service"))

/-! ## Mutations -/

/-- What one mutation has of its own. -/
structure ServiceChange where
  /-- The action in the error of a refused update. -/
  action : String
  /-- The spec that Docker is to have afterwards. -/
  target : String → Service → ServiceMutationRequest → Except EngineError ServiceSpec
  /-- The error where the target is not the planned one. -/
  changed : String
  /-- The context of an error after the update. -/
  updated : String
  /-- Docker is asked for its previous spec. -/
  rollback : Bool

def scaleChange : ServiceChange where
  action := "scale"
  target ref service input :=
    match service.spec.mode, input.replicas with
    | .replicated _, some replicas => .ok (service.spec.withReplicas replicas)
    | _, _ => .error (.validation ("service " ++ quoted ref ++
        " is not replicated or replicas are missing"))
  changed := "target service spec changed after mutation planning"
  updated := "inspect updated service "
  rollback := false

def restartChange : ServiceChange where
  action := "restart"
  target _ service _ := .ok service.spec.restarted
  changed := "target service spec changed after mutation planning"
  updated := "inspect updated service "
  rollback := false

def imageChange : ServiceChange where
  action := "update image"
  target ref service input :=
    match input.image with
    | none => .error imageNotPinned
    | some image =>
      if isDigestPinnedImage image then imageTarget ref image service else .error imageNotPinned
  changed := "target service spec changed after deployment planning"
  updated := "inspect updated service "
  rollback := false

def rollbackChange : ServiceChange where
  action := "rollback"
  target ref service _ := previousTarget ref service
  changed := "previous service spec changed after rollback planning"
  updated := "inspect rolled back service "
  rollback := true

/-- The spec that goes along with the update. A rollback sends the current one. -/
def ServiceChange.sent (change : ServiceChange) (service : Service) (target : ServiceSpec) :
    ServiceSpec :=
  if change.rollback then service.spec else target

/-- `ServiceUpdate` and `mapServiceUpdateError` -/
def serviceUpdate (id : String) (version : UInt64) (spec : ServiceSpec) (rollback : Bool)
    (action ref : String) : EngineProgram (List String) :=
  .request (.serviceUpdate id version spec rollback)
    fun (answer : Except DockerError (List String)) =>
      match answer with
      | .ok warnings => .pure warnings
      | .error (.conflict _) => .throw (.conflict
          (action ++ " service " ++ quoted ref ++ ": Docker rejected stale service version"))
      | .error (.other message) =>
        .throw (.other (action ++ " service " ++ quoted ref ++ ": " ++ message))

namespace Reader

variable (H : Hashes)

def validateMutationPrecondition (service : Service) (input : ServiceMutationRequest) :
    EngineProgram Unit :=
  (require (service.version = input.expectedVersion)
    (versionConflict "service" input.expectedVersion service.version)).bind fun _ =>
    require (H.service service.spec = input.expectedSpecHash)
      (.conflict "service spec changed after mutation planning")

/-- A mutation of a service that has been looked up. -/
def applyChange (cluster : Option String) (change : ServiceChange) (ref : String)
    (service : Service) (input : ServiceMutationRequest) : EngineProgram ServiceMutationResponse :=
  (validateMutationPrecondition H service input).bind fun _ =>
  (Program.ofExcept (change.target ref service input)).bind fun target =>
  (require (H.service target = input.targetSpecHash) (.conflict change.changed)).bind fun _ =>
  (requireFinalMutationCluster cluster).bind fun _ =>
  (serviceUpdate service.id input.expectedVersion (change.sent service target) change.rollback
    change.action ref).bind fun warnings =>
  (serviceInspect service.id (change.updated ++ quoted ref)).bind fun after =>
    .pure
      { serviceId := service.id
        version := after.version.toNat
        targetSpecHash := H.service target
        targetForceUpdate := target.taskTemplate.forceUpdate.toNat
        warnings }

def changeService (change : ServiceChange) (cluster : Option String) (ref : String)
    (input : ServiceMutationRequest) : EngineProgram ServiceMutationResponse :=
  (inspectService ref).bind fun service => applyChange H cluster change ref service input

def scaleService : Option String → String → ServiceMutationRequest →
    EngineProgram ServiceMutationResponse :=
  changeService H scaleChange

def restartService : Option String → String → ServiceMutationRequest →
    EngineProgram ServiceMutationResponse :=
  changeService H restartChange

def updateServiceImage : Option String → String → ServiceMutationRequest →
    EngineProgram ServiceMutationResponse :=
  changeService H imageChange

def rollbackService : Option String → String → ServiceMutationRequest →
    EngineProgram ServiceMutationResponse :=
  changeService H rollbackChange

/-! ## Plans -/

/-- The service, where it has the version that the plan is for. -/
def inspectVersion (ref : String) (expectedVersion : UInt64) : EngineProgram Service :=
  (inspectService ref).bind fun service =>
    (require (service.version = expectedVersion)
      (versionConflict "service" expectedVersion service.version)).bind fun _ => .pure service

/-- The fields that every plan has. -/
def planOf (service : Service) (target : ServiceSpec) : ServiceMutationPlan where
  serviceId := service.id
  version := service.version.toNat
  beforeSpecHash := H.service service.spec
  targetSpecHash := H.service target
  targetForceUpdate := target.taskTemplate.forceUpdate.toNat
  targetReplicas := none
  targetImage := none
  targetTaskSpecHash := none
  targetRuntimeSpecHash := none

def planScaleService (ref : String) (expectedVersion replicas : UInt64) :
    EngineProgram ServiceMutationPlan :=
  (inspectVersion ref expectedVersion).bind fun service =>
    (require service.spec.mode.isReplicated
      (.validation ("service " ++ quoted ref ++ " is not replicated"))).bind fun _ =>
      .pure { planOf H service (service.spec.withReplicas replicas) with
        targetReplicas := some replicas.toNat }

def planRestartService (ref : String) (expectedVersion : UInt64) :
    EngineProgram ServiceMutationPlan :=
  (inspectVersion ref expectedVersion).bind fun service =>
    .pure (planOf H service service.spec.restarted)

/-- The fields of a plan that changes the image. -/
def planWithTask (service : Service) (target : ServiceSpec) (image : String)
    (replicas : Option Nat) : ServiceMutationPlan :=
  { planOf H service target with
    targetReplicas := replicas
    targetImage := omitEmpty image
    targetTaskSpecHash := omitEmpty (H.task target.taskTemplate)
    targetRuntimeSpecHash := omitEmpty (H.taskRuntime target.taskTemplate) }

def planUpdateServiceImage (ref : String) (expectedVersion : UInt64) (image : String) :
    EngineProgram ServiceMutationPlan :=
  (require (isDigestPinnedImage image) imageNotPinned).bind fun _ =>
    (inspectVersion ref expectedVersion).bind fun service =>
      (Program.ofExcept (imageTarget ref image service)).bind fun target =>
        .pure (planWithTask H service target image none)

/-- The replicas of a spec, where it has some. -/
def replicasOf (spec : ServiceSpec) : Option Nat :=
  match spec.mode with
  | .replicated replicas => replicas.map (·.toNat)
  | _ => none

def planRollbackService (ref : String) (expectedVersion : UInt64) :
    EngineProgram ServiceMutationPlan :=
  (inspectVersion ref expectedVersion).bind fun service =>
    (Program.ofExcept (previousTarget ref service)).bind fun target =>
      .pure (planWithTask H service target target.taskTemplate.image (replicasOf target))

end Reader

end Docklane.Engine
