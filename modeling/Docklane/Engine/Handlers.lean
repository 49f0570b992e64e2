import Docklane.Control.Dispatch
import Docklane.Control.Managers
import Docklane.Engine.Mutator

/-!
# The mutation routes of the Agent

The handlers of `httpserver/server.go` for the seven mutations and the admission check of
`cluster_precondition.go`. The routes under `/v1` and `/v2` share their handlers. The maintenance
barrier in front of them (`Docklane.Agent`) can only refuse a request, so it is left out here.
-/

namespace Docklane.Engine

open Concurrent
open Control (AgentIdentityResponse NodeMutationResponse ServiceMutationResponse
  isBoundedIdentifier)

inductive RouteVersion where
  | v1
  | v2
  deriving DecidableEq, Repr

inductive ServiceRoute where
  | scale
  | restart
  | image
  | rollback
  deriving DecidableEq, Repr

inductive NodeRoute where
  | drain
  | activate
  | labels
  deriving DecidableEq, Repr

/-- A request to a mutation route. `id` is the value of its path and `expectedCluster` are the
values of the header `X-Docklane-Expected-Cluster-ID`. -/
structure MutationCall where
  version : RouteVersion
  route : ServiceRoute ⊕ NodeRoute
  id : String
  body : String
  expectedCluster : List String
  deriving DecidableEq, Repr

/-- `decodeJSON`: the decoded body, or the text of the error. -/
structure Decoder where
  service : String → Except String ServiceMutationRequest
  node : String → Except String NodeMutationRequest

/-- What the Agent answers: a status, and the code and the error of a refusal. -/
inductive MutationReply where
  | service (response : ServiceMutationResponse)
  | node (response : NodeMutationResponse)
  | refused (status : Nat) (code : Option String) (error : String)
  deriving DecidableEq, Repr

def GuardCode.text : GuardCode → String
  | CLUSTER_PRECONDITION_FAILED => "CLUSTER_PRECONDITION_FAILED"
  | CLUSTER_IDENTITY_UNAVAILABLE => "CLUSTER_IDENTITY_UNAVAILABLE"

/-- `MutationClusterGuardError.Error()` -/
def GuardCode.message : GuardCode → String
  | CLUSTER_PRECONDITION_FAILED => "current Swarm cluster changed before Docker update"
  | CLUSTER_IDENTITY_UNAVAILABLE => "Swarm identity could not be verified before Docker update"

def writeMutationError : EngineError → MutationReply
  | .clusterGuard .CLUSTER_PRECONDITION_FAILED =>
    .refused 412 (some (GuardCode.text .CLUSTER_PRECONDITION_FAILED))
      (GuardCode.message .CLUSTER_PRECONDITION_FAILED)
  | .clusterGuard .CLUSTER_IDENTITY_UNAVAILABLE =>
    .refused 503 (some (GuardCode.text .CLUSTER_IDENTITY_UNAVAILABLE))
      (GuardCode.message .CLUSTER_IDENTITY_UNAVAILABLE)
  | .notFound resource ref => .refused 404 none (resource ++ " " ++ ref ++ " not found")
  | .conflict message => .refused 409 none message
  | .validation message => .refused 400 none message
  | .other message => .refused 502 none message

/-! ## Admission -/

/-- `Identity` -/
def Reader.identity : EngineProgram AgentIdentityResponse :=
  .request .info fun (answer : Except DockerError String) =>
    (wrapped "read docker info" answer).bind fun nodeId =>
      (require (nodeId ≠ "") (.other "docker daemon is not joined to a Swarm")).bind fun _ =>
        .request .swarmInspect fun (answer : Except DockerError String) =>
          (wrapped "inspect swarm" answer).bind fun clusterId =>
            (nodeInspect nodeId ("inspect local swarm node " ++ nodeId)).bind fun node =>
              (require (node.id = nodeId) (.other ("local Swarm node identity mismatch: docker " ++
                "info reported " ++ nodeId ++ ", inspect returned " ++ node.id))).bind fun _ =>
                (require (node.spec.role = "manager")
                  (.other ("local Swarm node " ++ nodeId ++ " is not a manager"))).bind fun _ =>
                  .pure ⟨clusterId, node.id, true⟩

def clusterUnavailable : MutationReply :=
  .refused 503 (some "CLUSTER_IDENTITY_UNAVAILABLE")
    "current manager cluster identity could not be verified"

/-- `requireMutationCluster`: the cluster that the mutation is admitted for, or a refusal. -/
def requireMutationCluster (expectedCluster : List String) :
    EngineProgram (Except MutationReply String) :=
  match expectedCluster with
  | [] => .pure (.error (.refused 428 (some "CLUSTER_PRECONDITION_REQUIRED")
      "expected cluster header is required"))
  | [expected] =>
    if isBoundedIdentifier expected = false then
      .pure (.error (.refused 400 (some "INVALID_CLUSTER_PRECONDITION")
        "expected cluster header must be one bounded identifier"))
    else
      .request .contextErr fun (cancelled : Bool) =>
        if cancelled then .pure (.error clusterUnavailable)
        else
          Reader.identity.attempt.bind fun identity =>
            match identity with
            | .error _ => .pure (.error clusterUnavailable)
            | .ok identity =>
              .request .contextErr fun (cancelled : Bool) =>
                if cancelled ∨ identity.manager = false ∨ identity.clusterId = "" ∨
                    identity.nodeId = "" then .pure (.error clusterUnavailable)
                else if identity.clusterId ≠ expected then
                  .pure (.error (.refused 412 (some "CLUSTER_PRECONDITION_FAILED")
                    "current cluster does not match the mutation target"))
                else .pure (.ok expected)
  | _ => .pure (.error (.refused 400 (some "INVALID_CLUSTER_PRECONDITION")
      "expected cluster header must be one bounded identifier"))

/-! ## Handlers -/

/-- Run the mutation for the cluster it is admitted for. -/
def admitted {α : Type} (expectedCluster : List String)
    (mutate : Option String → EngineProgram α) (reply : α → MutationReply) :
    EngineProgram MutationReply :=
  (requireMutationCluster expectedCluster).bind fun admission =>
    match admission with
    | .error refusal => .pure refusal
    | .ok expected =>
      (mutate (some expected)).attempt.bind fun result =>
        match result with
        | .ok response => .pure (reply response)
        | .error e => .pure (writeMutationError e)

/-- `writeError` with the status of a bad request. -/
def badRequest (message : String) : MutationReply := .refused 400 none message

section Handlers

variable (D : Decoder) (H : Hashes) (U : Unicode)

/-- The field of the body that a route needs. -/
def ServiceRoute.missing (route : ServiceRoute) (input : ServiceMutationRequest) : Option String :=
  match route with
  | scale => if input.replicas = none then some "replicas is required" else none
  | image => if input.image = none then some "image is required" else none
  | restart | rollback => none

def ServiceRoute.mutate : ServiceRoute → Option String → String → ServiceMutationRequest →
    EngineProgram ServiceMutationResponse
  | scale => Reader.scaleService H
  | restart => Reader.restartService H
  | image => Reader.updateServiceImage H
  | rollback => Reader.rollbackService H

def NodeRoute.missing (route : NodeRoute) (input : NodeMutationRequest) : Option String :=
  match route with
  | labels => if input.targetLabels = none then some "targetLabels is required" else none
  | drain | activate => none

def NodeRoute.mutate : NodeRoute → Option String → String → NodeMutationRequest →
    EngineProgram NodeMutationResponse
  | drain => Reader.drainNode H
  | activate => Reader.activateNode H
  | labels => Reader.updateNodeLabels H U

def handleService (route : ServiceRoute) (call : MutationCall) : EngineProgram MutationReply :=
  if call.id = "" then .pure (badRequest "serviceId is required")
  else
    match D.service call.body with
    | .error e => .pure (badRequest e)
    | .ok input =>
      match route.missing input with
      | some message => .pure (badRequest message)
      | none => admitted call.expectedCluster
          (fun cluster => route.mutate H cluster call.id input) .service

def handleNode (route : NodeRoute) (call : MutationCall) : EngineProgram MutationReply :=
  if call.id = "" then .pure (badRequest "nodeId is required")
  else
    match D.node call.body with
    | .error e => .pure (badRequest e)
    | .ok input =>
      match route.missing input with
      | some message => .pure (badRequest message)
      | none => admitted call.expectedCluster
          (fun cluster => route.mutate H U cluster call.id input) .node

/-- The handler that `ServeMux` selects. -/
def handleMutation (call : MutationCall) : EngineProgram MutationReply :=
  match call.route with
  | .inl route => handleService D H route call
  | .inr route => handleNode D H U route call

end Handlers

/-! ## Programs that only read -/

open Program

def DockerOp.Reads (op : DockerOp) : Prop := op.isUpdate = false

variable {allowed : DockerOp → Prop} {context ref : String}

theorem uses_wrapped {α : Type} (answer : Except DockerError α) :
    (wrapped context answer).Uses allowed := by
  cases answer <;> trivial

theorem uses_require {condition : Prop} [Decidable condition] {error : EngineError} :
    (require condition error).Uses allowed := by
  unfold require
  split <;> trivial

theorem uses_orNotFound {α : Type} {error : EngineError} {found : Option α} :
    (orNotFound error found).Uses allowed := by
  cases found <;> trivial

theorem nodeInspect_reads {id context : String} : (nodeInspect id context).Uses DockerOp.Reads :=
  ⟨rfl, fun answer => uses_wrapped answer⟩

theorem serviceInspect_reads : (serviceInspect ref context).Uses DockerOp.Reads :=
  ⟨rfl, fun answer => uses_wrapped answer⟩

theorem taskList_reads : (taskList context).Uses DockerOp.Reads :=
  ⟨rfl, fun answer => uses_wrapped answer⟩

theorem nodeList_reads : nodeList.Uses DockerOp.Reads :=
  ⟨rfl, fun answer => uses_wrapped answer⟩

theorem serviceList_reads : serviceList.Uses DockerOp.Reads :=
  ⟨rfl, fun answer => uses_wrapped answer⟩

theorem resolveNode_reads : (Reader.resolveNode ref).Uses DockerOp.Reads :=
  nodeList_reads.bind fun _ => uses_orNotFound

theorem node_reads {H : Hashes} : (Reader.node H ref).Uses DockerOp.Reads :=
  resolveNode_reads.bind fun _ => taskList_reads.bind fun _ => trivial

theorem serviceIDsAffected_reads {U : Unicode} {keys : List String} :
    (Reader.serviceIDsAffected U keys).Uses DockerOp.Reads := by
  unfold Reader.serviceIDsAffected
  split
  · trivial
  · exact serviceList_reads.bind fun _ => uses_ofExcept _

theorem identity_reads : Reader.identity.Uses DockerOp.Reads := by
  refine ⟨rfl, fun answer => (uses_wrapped answer).bind fun nodeId => ?_⟩
  refine uses_require.bind fun _ => ⟨rfl, fun answer => (uses_wrapped answer).bind ?_⟩
  intro clusterId
  refine nodeInspect_reads.bind fun node => uses_require.bind fun _ => ?_
  exact uses_require.bind fun _ => trivial

theorem requireFinalMutationCluster_reads {expected : Option String} :
    (requireFinalMutationCluster expected).Uses DockerOp.Reads := by
  unfold requireFinalMutationCluster
  split
  · trivial
  · refine ⟨rfl, fun cancelled => uses_require.bind fun _ => ⟨rfl, fun observed => ?_⟩⟩
    rcases observed with error | id
    · trivial
    · exact ⟨rfl, fun cancelled => uses_require.bind fun _ => uses_require⟩

theorem requireMutationCluster_reads {expectedCluster : List String} :
    (requireMutationCluster expectedCluster).Uses DockerOp.Reads := by
  unfold requireMutationCluster
  split
  · trivial
  · split
    · trivial
    · refine ⟨rfl, fun (cancelled : Bool) => ?_⟩
      cases cancelled with
      | true => trivial
      | false =>
        refine identity_reads.attempt.bind fun identity => ?_
        rcases identity with error | identity
        · trivial
        · refine ⟨rfl, fun (cancelled : Bool) => ?_⟩
          change (if _ then _ else _ : EngineProgram (Except MutationReply String)).Uses _
          split
          · trivial
          · split <;> trivial
  · trivial

end Docklane.Engine
