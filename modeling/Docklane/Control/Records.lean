import Mathlib.Data.List.Nodup
import Mathlib.Data.String.Basic

/-!
# The data of the control plane

The records of `apps/api/src`: what an Agent reports of a service or a node
(`agent/read-model.ts`), the rows of `operations`, `node_operations` and `deployments`
(`operations/operation.types.ts`, `deployments/deployment.types.ts`) and the exceptions the
services throw. Fields that no modelled function reads are left out. Texts that the code compares
with fixed values are enumerations with a case for any other text.
-/

namespace Docklane.Control

/-! ## What an Agent reports -/

/-- `service.UpdateStatus.State` of Docker. -/
inductive UpdateState where
  | updating
  | paused
  | completed
  | rollback_started
  | rollback_paused
  | rollback_completed
  | other (text : String)
  deriving DecidableEq, Repr

inductive ServiceMode where
  | replicated
  | other (text : String)
  deriving DecidableEq, Repr

inductive TaskState where
  | running
  | other (text : String)
  deriving DecidableEq, Repr

structure ServiceSummary where
  id : String
  name : String
  version : Nat
  specHash : String
  forceUpdate : Nat
  taskSpecHash : Option String
  runtimeSpecHash : Option String
  image : Option String
  mode : ServiceMode
  desiredReplicas : Nat
  runningReplicas : Nat
  updateState : Option UpdateState
  deriving DecidableEq, Repr

structure TaskSummary where
  serviceId : String
  runtimeSpecHash : String
  slot : Int
  desiredState : TaskState
  state : TaskState
  forceUpdate : Nat
  image : Option String
  deriving DecidableEq, Repr

structure ServiceDetailResponse where
  service : ServiceSummary
  tasks : List TaskSummary
  deriving DecidableEq, Repr

/-- A plan for a service. `ServiceImageMutationPlan` is the same record with its image and task
hashes present. -/
structure ServiceMutationPlan where
  serviceId : String
  version : Nat
  beforeSpecHash : String
  targetSpecHash : String
  targetForceUpdate : Nat
  targetReplicas : Option Nat
  targetImage : Option String
  targetTaskSpecHash : Option String
  targetRuntimeSpecHash : Option String
  deriving DecidableEq, Repr

structure ServiceMutationResponse where
  serviceId : String
  version : Nat
  targetSpecHash : String
  targetForceUpdate : Nat
  -- left out of the body when empty
  warnings : List String
  deriving DecidableEq, Repr

inductive Availability where
  | drain
  | active
  | pause
  deriving DecidableEq, Repr

/-- `Record<string, string>`, as the list of its entries. -/
abbrev Labels := List (String × String)

structure NodeSummary where
  id : String
  hostname : String
  version : Nat
  specHash : String
  availability : Availability
  labels : Labels
  deriving DecidableEq, Repr

structure NodeDetailResponse where
  node : NodeSummary
  tasks : List TaskSummary
  serviceIds : List String
  deriving DecidableEq, Repr

structure NodeMutationPlan where
  nodeId : String
  version : Nat
  beforeSpecHash : String
  targetSpecHash : String
  targetAvailability : Availability
  affectedServiceIds : List String
  targetLabels : Option Labels
  deriving DecidableEq, Repr

structure NodeMutationResponse where
  nodeId : String
  version : Nat
  targetSpecHash : String
  targetAvailability : Availability
  deriving DecidableEq, Repr

inductive PlacementStatus where
  | CONVERGED
  | PENDING
  | UNKNOWN
  deriving DecidableEq, Repr

inductive CapacityStatus where
  | SUFFICIENT
  | INSUFFICIENT
  | UNKNOWN
  deriving DecidableEq, Repr

/-! ## Rows -/

inductive OperationType where
  | SCALE
  | RESTART
  | DEPLOY
  | ROLLBACK
  deriving DecidableEq, Repr

inductive NodeOperationType where
  | DRAIN
  | ACTIVATE
  | LABELS
  deriving DecidableEq, Repr

inductive OperationStatus where
  | PENDING
  | RUNNING
  | VERIFYING
  | SUCCESS
  | FAILED
  | NEEDS_ATTENTION
  deriving DecidableEq, Repr

/-- `isTerminal` of both mutation services, and the guard `status NOT IN ('SUCCESS','FAILED')` of
every status writer, negated. -/
def OperationStatus.isTerminal : OperationStatus → Bool
  | .SUCCESS | .FAILED => true
  | .PENDING | .RUNNING | .VERIFYING | .NEEDS_ATTENTION => false

def OperationStatus.text : OperationStatus → String
  | .PENDING => "PENDING"
  | .RUNNING => "RUNNING"
  | .VERIFYING => "VERIFYING"
  | .SUCCESS => "SUCCESS"
  | .FAILED => "FAILED"
  | .NEEDS_ATTENTION => "NEEDS_ATTENTION"

/-- The columns of `operations` that `create` fills in. -/
structure OperationInput where
  id : String
  clusterId : String
  serviceId : String
  type : OperationType
  actorId : String
  expectedVersion : Nat
  beforeSpecHash : String
  targetSpecHash : String
  targetForceUpdate : Nat
  targetReplicas : Option Nat
  targetImage : Option String
  targetTaskSpecHash : Option String
  targetRuntimeSpecHash : Option String
  deriving DecidableEq, Repr

structure OperationRecord extends OperationInput where
  status : OperationStatus
  resultVersion : Option Nat
  errorCode : Option String
  errorMessage : Option String
  deriving DecidableEq, Repr

structure LabelPatch where
  set : Labels
  remove : List String
  deriving DecidableEq, Repr

structure NodeOperationInput where
  id : String
  clusterId : String
  nodeId : String
  type : NodeOperationType
  actorId : String
  expectedVersion : Nat
  beforeSpecHash : String
  targetSpecHash : String
  targetAvailability : Availability
  affectedServiceIds : List String
  targetLabels : Option Labels
  labelPatch : Option LabelPatch
  deriving DecidableEq, Repr

structure NodeOperationRecord extends NodeOperationInput where
  status : OperationStatus
  resultVersion : Option Nat
  errorCode : Option String
  errorMessage : Option String
  deriving DecidableEq, Repr

inductive DeploymentStatus where
  | DEPLOYING
  | VERIFYING
  | SUCCESS
  | FAILED
  | ROLLING_BACK
  | ROLLBACK_VERIFYING
  | ROLLED_BACK
  | ROLLBACK_FAILED
  | NEEDS_ATTENTION
  deriving DecidableEq, Repr

inductive DeploymentKind where
  | DEPLOY
  | HISTORICAL_REDEPLOY
  deriving DecidableEq, Repr

structure HealthCheckConfig where
  url : String
  intervalMs : Nat
  timeoutMs : Nat
  retries : Nat
  stabilityWindowMs : Nat
  expectedStatus : Nat
  deriving DecidableEq, Repr

/-- What a deployment is created with. Of the two recorded specs only the hashes are read again. -/
structure DeploymentInput where
  kind : DeploymentKind
  sourceDeploymentId : Option String
  releaseId : String
  deploymentTargetId : String
  operationId : String
  noOp : Bool
  beforeSpecHash : String
  targetSpecHash : String
  health : HealthCheckConfig
  expectedServiceVersion : Nat
  createdBy : String
  deriving DecidableEq, Repr

structure DeploymentRecord extends DeploymentInput where
  id : String
  previousReleaseId : Option String
  rollbackOperationId : Option String
  status : DeploymentStatus
  reason : Option String
  finishedAt : Option Nat
  deriving DecidableEq, Repr

structure DeploymentTarget where
  id : String
  applicationId : String
  clusterId : String
  dockerServiceId : String
  deriving DecidableEq, Repr

structure Release where
  id : String
  applicationId : String
  imageRepository : String
  imageDigest : String
  deriving DecidableEq, Repr

/-! ## Exceptions -/

/-- What verification makes of one snapshot of a service. -/
inductive DeploymentDecision where
  | PENDING
  | SUCCESS
  | ROLLBACK_PAUSED
  | FAILED
  | EXTERNAL_CONFLICT
  deriving DecidableEq, Repr

inductive PreDispatchCode where
  | MAINTENANCE_CLOSED
  | MAINTENANCE_UNAVAILABLE
  deriving DecidableEq, Repr

/-- The body of an error answer: its text, and the `code` of the object it parses to. -/
structure ResponseBody where
  text : String
  code : Option String
  deriving DecidableEq, Repr

inductive Failure where
  | conflict (message : String)
  | notFound (message : String)
  | badRequest (message : String)
  | badGateway (message : String)
  | unavailable (message : String)
  /-- `AgentRequestError`: the Agent answered with an error status. -/
  | agentRequest (statusCode : Nat) (responseBody : ResponseBody)
  /-- `MaintenancePreDispatchRejection`: refused before any transport. -/
  | preDispatch (code : PreDispatchCode)
  | transport (agentId message : String)
  | agentIdentity (agentId message : String)
  | duplicateDispatch
  /-- The convergence guard errors of health verification; `none` is `UNAVAILABLE`. -/
  | guard (decision : Option DeploymentDecision) (message : String)
  /-- A failed statement, and whether it failed on a unique key (`ER_DUP_ENTRY`). -/
  | database (duplicateEntry : Bool) (message : String)
  | error (message : String)
  deriving DecidableEq, Repr

/-- `error.message`. -/
def errorMessage : Failure → String
  | .conflict m | .notFound m | .badRequest m | .badGateway m | .unavailable m | .database _ m
  | .error m => m
  | .agentRequest status _ => s!"Agent request failed with {status}"
  | .preDispatch .MAINTENANCE_CLOSED => "Agent request failed with 409"
  | .preDispatch .MAINTENANCE_UNAVAILABLE => "Agent request failed with 503"
  | .transport agentId m => s!"Agent {agentId} transport failed: {m}"
  | .agentIdentity agentId m => s!"Agent {agentId} identity validation failed: {m}"
  | .duplicateDispatch => "Existing mutation dispatch evidence requires reconciliation"
  | .guard _ m => m

/-- A rejection of `isDeterministicAgentRejection`: its status and body, when the error is one. The
Agent answers these status and code pairs before it asks Docker for a change. -/
def deterministicAgentRejection : Failure → Option (Nat × String)
  | .preDispatch .MAINTENANCE_CLOSED => some (409, "\x7b\"code\":\"MAINTENANCE_CLOSED\"\x7d")
  | .preDispatch .MAINTENANCE_UNAVAILABLE =>
      some (503, "\x7b\"code\":\"MAINTENANCE_UNAVAILABLE\"\x7d")
  | .agentRequest status body =>
      if status = 400 ∨ status = 409 ∨
          status = 412 ∧ body.code = some "CLUSTER_PRECONDITION_FAILED" ∨
          status = 428 ∧ body.code = some "CLUSTER_PRECONDITION_REQUIRED" ∨
          status = 503 ∧ body.code = some "CLUSTER_IDENTITY_UNAVAILABLE" then
        some (status, body.text)
      else none
  | _ => none

/-! ## Texts -/

/-- A field that is present and not empty, as `if (field)` reads it. -/
def truthy (field : Option String) : Bool :=
  match field with
  | some text => !text.isEmpty
  | none => false

/-- `text.includes(pattern)`. -/
def includes (text pattern : List Char) : Bool :=
  text.tails.any pattern.isPrefixOf

/-- `text.toLowerCase()`, for the letters of ASCII. -/
def toLowerCase (text : String) : List Char :=
  text.toList.map Char.toLower

/-- The image reference carries the digest, without regard to case. -/
def imageContainsDigest (image : Option String) (digest : String) : Bool :=
  match image with
  | some text => includes (toLowerCase text) ('@' :: toLowerCase digest)
  | none => false

def isHexDigit (c : Char) : Bool :=
  c.isDigit || ('a' ≤ c && c ≤ 'f') || ('A' ≤ c && c ≤ 'F')

/-- `image.match(/@(sha256:[A-Fa-f0-9]{64})$/)`, the group in lower case. -/
def digestFromImage (image : String) : Option String :=
  let tail := image.toList.drop (image.toList.length - 72)
  if tail.take 8 = "@sha256:".toList ∧ (tail.drop 8).length = 64 ∧ (tail.drop 8).all isHexDigit then
    some (String.ofList ((tail.drop 1).map Char.toLower))
  else none

/-- `dockerImageReference`: the scheme and one trailing slash are dropped from the repository. -/
def dockerImageReference (repository digest : String) : String :=
  let bare :=
    if (toLowerCase repository).take 8 = "https://".toList then repository.toList.drop 8
    else if (toLowerCase repository).take 7 = "http://".toList then repository.toList.drop 7
    else repository.toList
  let trimmed := if bare.getLast? = some '/' then bare.dropLast else bare
  String.ofList (trimmed ++ '@' :: toLowerCase digest)

end Docklane.Control
