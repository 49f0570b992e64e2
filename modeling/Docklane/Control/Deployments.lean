import Docklane.Control.Reconciliation
import Docklane.Control.ServiceMutations

/-!
# Deploy, historical redeploy and rollback

The calls of `deployments/deployment.service.ts` and its periodic reconciliation.
-/

namespace Docklane.Control

open Concurrent

namespace DeploymentService

/-! ## Errors and checks -/

def mapAgentError (e : Failure) (fallback : String) : Failure :=
  match e with
  | .agentRequest 409 _ | .preDispatch .MAINTENANCE_CLOSED =>
    .conflict "Service changed during deployment"
  | .agentRequest statusCode _ =>
    .badGateway (fallback ++ ": Agent returned HTTP " ++ toString statusCode)
  | .preDispatch .MAINTENANCE_UNAVAILABLE =>
    .badGateway (fallback ++ ": Agent returned HTTP 503")
  | e => .badGateway (fallback ++ ": " ++ errorMessage e)

/-- A read or a plan whose error is reported with a text of its own. -/
def mapped {α : Type} (p : ControlProgram α) (fallback : String) : ControlProgram α :=
  p.tryCatch fun e => .throw (mapAgentError e fallback)

def requireOperation (id : String) : ControlProgram OperationRecord :=
  (findOperation id).bind fun found =>
    match found with
    | some operation => .pure operation
    | none => .throw (.error "Deployment operation disappeared after persistence")

/-- `assertIdempotent` and `assertRollbackIdempotent`. -/
def sameMutation (type : OperationType) (actorId serviceId : String)
    (operation : OperationRecord) : Bool :=
  operation.type = type && operation.actorId = actorId && operation.serviceId = serviceId

def planMatchesCurrent (plan : ServiceMutationPlan) (current : ServiceDetailResponse)
    (targetImage : String) : Bool :=
  plan.serviceId = current.service.id && plan.version = current.service.version &&
    plan.beforeSpecHash = current.service.specHash && plan.targetImage = some targetImage &&
    truthy plan.targetTaskSpecHash && truthy plan.targetRuntimeSpecHash

/-- `rollbackAttemptResult`: the deployment as a terminal rollback left it, whatever its latest
rollback is. -/
def rollbackAttemptResult (deployment : DeploymentRecord) (operation : OperationRecord) :
    Except Failure DeploymentRecord :=
  if operation.type ≠ .ROLLBACK ∨ operation.status.isTerminal = false then
    .error (.conflict "Rollback attempt is not terminal")
  else if deployment.rollbackOperationId = some operation.id then .ok deployment
  else .ok
    { deployment with
      rollbackOperationId := some operation.id
      status := if operation.status = .FAILED then .FAILED else .ROLLED_BACK
      reason := if operation.status = .FAILED then operation.errorMessage else none }

/-- The service that a target resolves to is the recorded one, and it is replicated. -/
def resolvesToTarget (resolved : ServiceDetailResponse) (target : DeploymentTarget) : Bool :=
  resolved.service.id = target.dockerServiceId && resolved.service.mode = .replicated

/-- No unresolved operation concerns the service. -/
def assertServiceFree (clusterId serviceId : String) : ControlProgram Unit :=
  (findNonTerminalForService clusterId serviceId).bind fun prior =>
    match prior with
    | some prior => .throw (.conflict ("Service has unresolved operation " ++ prior.id ++ " (" ++
        prior.status.text ++ ")"))
    | none =>
      (findNonTerminalAffectingService clusterId serviceId).bind fun found =>
        match found with
        | some nodeOperation => .throw (.conflict
            ("Service is affected by unresolved node operation " ++ nodeOperation.id))
        | none => .pure ()

/-! ## Deploy -/

/-- The request of a deployment. -/
structure DeployRequest where
  operationId : String
  releaseId : String
  health : HealthCheckConfig
  actorId : String
  deriving DecidableEq, Repr

/-- The recorded deployment is the one that is asked for. -/
def sameDeployment (targetId : String) (input : DeployRequest) (kind : DeploymentKind)
    (deployment : DeploymentRecord) : Bool :=
  deployment.releaseId = input.releaseId && deployment.deploymentTargetId = targetId &&
    deployment.createdBy = input.actorId && deployment.kind = kind &&
    deployment.health = input.health

def findTerminalDeploymentRetry (clusterId targetId : String) (input : DeployRequest)
    (kind : DeploymentKind) : ControlProgram (Option DeploymentRecord) :=
  (findOperation input.operationId).bind fun found =>
    match found with
    | none => .pure none
    | some operation =>
      if operation.status.isTerminal = false then .pure none
      else
        (findDeploymentByOperation input.operationId).bind fun found =>
          let usedElsewhere : Failure :=
            .conflict "operationId was already used for a different deployment"
          match found with
          | none => .throw usedElsewhere
          | some deployment =>
            if operation.type = .DEPLOY ∧ operation.clusterId = clusterId ∧
                operation.actorId = input.actorId ∧
                sameDeployment targetId input kind deployment then .pure (some deployment)
            else .throw usedElsewhere

/-- The rows that `persistIntent` creates. -/
def deployOperation (input : DeployRequest) (clusterId targetImage : String)
    (plan : ServiceMutationPlan) (before : ServiceDetailResponse) : OperationInput where
  id := input.operationId
  clusterId := clusterId
  serviceId := plan.serviceId
  type := .DEPLOY
  actorId := input.actorId
  expectedVersion := plan.version
  beforeSpecHash := plan.beforeSpecHash
  targetSpecHash := plan.targetSpecHash
  targetForceUpdate := plan.targetForceUpdate
  targetReplicas := some before.service.desiredReplicas
  targetImage := some targetImage
  targetTaskSpecHash := plan.targetTaskSpecHash
  targetRuntimeSpecHash := plan.targetRuntimeSpecHash

def deployInput (input : DeployRequest) (targetId : String) (kind : DeploymentKind)
    (sourceDeploymentId : Option String) (plan : ServiceMutationPlan)
    (before : ServiceDetailResponse) : DeploymentInput where
  kind := kind
  sourceDeploymentId := sourceDeploymentId
  releaseId := input.releaseId
  deploymentTargetId := targetId
  operationId := input.operationId
  noOp := plan.beforeSpecHash = plan.targetSpecHash
  beforeSpecHash := before.service.specHash
  targetSpecHash := plan.targetSpecHash
  health := input.health
  expectedServiceVersion := plan.version
  createdBy := input.actorId

/-- The plan, the service it was made for, and the deployment that was created from them. -/
structure PersistedDeployment where
  plan : ServiceMutationPlan
  before : ServiceDetailResponse
  deployment : DeploymentRecord
  deriving DecidableEq, Repr

/-- The plan is checked for capacity and recorded. -/
def persistDeployment (clusterId targetId : String) (target : DeploymentTarget)
    (input : DeployRequest) (kind : DeploymentKind) (sourceDeploymentId : Option String)
    (targetImage : String) (before : ServiceDetailResponse) (plan : ServiceMutationPlan) :
    ControlProgram PersistedDeployment :=
  let capacity : ControlProgram Unit :=
    if plan.beforeSpecHash = plan.targetSpecHash then .pure ()
    else assertAvailable target.dockerServiceId
      ⟨plan.version, before.service.desiredReplicas, true⟩
  capacity.bind fun _ =>
    randomUUID.bind fun id =>
      Program.bind
        (query (.createDeployment (deployOperation input clusterId targetImage plan before)
        (deployInput input targetId kind sourceDeploymentId plan before) id))
        fun (deployment : DeploymentRecord) => .pure ⟨plan, before, deployment⟩

/-- From the checks under the lock to the persisted intent. -/
def planDeployment (clusterId targetId : String) (target : DeploymentTarget) (release : Release)
    (input : DeployRequest) (kind : DeploymentKind) (sourceDeploymentId : Option String) :
    ControlProgram PersistedDeployment :=
  (mapped (inspectService target.dockerServiceId) "Deployment target lookup failed").bind
    fun resolved =>
      if resolvesToTarget resolved target then
        (mapped (inspectService target.dockerServiceId)
          "Deployment precondition lookup failed").bind fun before =>
            let targetImage := dockerImageReference release.imageRepository release.imageDigest
            let planned : ControlProgram ServiceMutationPlan :=
              askAgent (.planUpdateServiceImage target.dockerServiceId before.service.version
                targetImage)
            (mapped planned "Deployment planning failed").bind fun plan =>
              if planMatchesCurrent plan before targetImage then
                persistDeployment clusterId targetId target input kind sourceDeploymentId
                  targetImage before plan
              else .throw (.conflict
                "Service changed between deployment inspection and planning")
      else .throw (.conflict
        "Deployment target no longer resolves to the expected replicated service")

variable (settings : Settings)

/-- The part of a deployment that runs once its intent is persisted. -/
def executeDeployment (admission : Option ActiveAdmission)
    (target : DeploymentTarget) (release : Release) (input : DeployRequest)
    (persisted : PersistedDeployment) (fuel : Nat) : ControlProgram DeploymentRecord :=
  let plan := persisted.plan
  let deployment := persisted.deployment
  let markAndVerify (noOp : Bool) (version : Nat) : ControlProgram DeploymentRecord :=
    (settle (.markVerifying version) deployment.id input.operationId).bind fun _ =>
      verifyAndComplete deployment.id input.operationId plan release.imageDigest noOp input.health
        fuel
  if plan.beforeSpecHash = plan.targetSpecHash then
    markAndVerify true persisted.before.service.version
  else
    let sent : ControlProgram ServiceMutationResponse :=
      dispatch settings admission input.operationId (.service target.dockerServiceId
        (.image (dockerImageReference release.imageRepository release.imageDigest)) plan.version
        plan.beforeSpecHash plan.targetSpecHash)
    sent.attempt.bind fun outcome =>
      match outcome with
      | .error e =>
        match deterministicAgentRejection e with
        | some (_, body) =>
          (settle (.fail "AGENT_MUTATION_REJECTED" body) deployment.id input.operationId).bind
            fun _ => .throw (mapAgentError e "Deployment mutation failed")
        | none =>
          (requireOperation input.operationId).bind fun operation =>
            reconcileLocked operation deployment (some (errorMessage e)) fuel
      | .ok accepted =>
        if accepted.serviceId = plan.serviceId ∧ accepted.targetSpecHash = plan.targetSpecHash then
          markAndVerify false accepted.version
        else
          conclude (.attention "AGENT_RESPONSE_MISMATCH"
            "Agent response did not match deployment plan") deployment.id input.operationId

/-- The deployment that a historical redeploy repeats. `none` for a plain deployment. -/
def selectSource (kind : DeploymentKind) (targetId releaseId : String) :
    ControlProgram (Option String) :=
  match kind with
  | .DEPLOY => .pure none
  | .HISTORICAL_REDEPLOY =>
    Program.bind (query (.findLatestSuccessfulForRelease targetId releaseId))
      fun (source : Option DeploymentRecord) =>
        match source with
        | some source => .pure (some source.id)
        | none => .throw (.conflict
            "Historical redeploy requires a previously successful deployment of the release on this target")

/-- A retry of a deployment that is recorded already. A plain deployment has no source. -/
def resumeDeployment (targetId : String) (target : DeploymentTarget) (input : DeployRequest)
    (kind : DeploymentKind) (existing : OperationRecord) (fuel : Nat) :
    ControlProgram DeploymentRecord :=
  if sameMutation .DEPLOY input.actorId target.dockerServiceId existing then
    (findDeploymentByOperation input.operationId).bind fun found =>
      match found with
      | none => .throw (.conflict "Deployment operation exists without deployment record")
      | some deployment =>
        if sameDeployment targetId input kind deployment ∧
            (kind = .DEPLOY → deployment.sourceDeploymentId = none) then
          if existing.status.isTerminal then .pure deployment
          else reconcileLocked existing deployment none fuel
        else .throw (.conflict "operationId was already used for a different deployment")
  else .throw (.conflict "operationId was already used for a different mutation")

/-- The callback of `deployRelease`. -/
def deployLocked (clusterId targetId : String) (target : DeploymentTarget)
    (release : Release) (input : DeployRequest) (kind : DeploymentKind) (fuel : Nat)
    (admission : Option ActiveAdmission) : ControlProgram DeploymentRecord :=
  (findOperation input.operationId).bind fun found =>
    match found with
    | some existing => resumeDeployment targetId target input kind existing fuel
    | none =>
      (selectSource kind targetId input.releaseId).bind fun source =>
        (assertServiceFree clusterId target.dockerServiceId).bind fun _ =>
          (planDeployment clusterId targetId target release input kind source).bind fun persisted =>
            executeDeployment settings admission target release input persisted fuel

def deployRelease (clusterId targetId : String) (input : DeployRequest)
    (kind : DeploymentKind) (fuel : Nat) : ControlProgram DeploymentRecord :=
  (findDeploymentTarget targetId).bind fun found =>
    match found with
    | none => .throw (.notFound "Deployment target not found")
    | some target =>
      if target.clusterId ≠ clusterId then .throw (.notFound "Deployment target not found")
      else
        (findRelease input.releaseId).bind fun found =>
          match found with
          | none => .throw (.notFound "Release not found for deployment target")
          | some release =>
            if release.applicationId ≠ target.applicationId then
              .throw (.notFound "Release not found for deployment target")
            else
              withServiceLock settings clusterId target.dockerServiceId
                (deployLocked settings clusterId targetId target release input kind fuel)

def deploy (clusterId targetId : String) (input : DeployRequest)
    (fuel : Nat) : ControlProgram DeploymentRecord :=
  (findTerminalDeploymentRetry clusterId targetId input .DEPLOY).bind fun terminal =>
    match terminal with
    | some deployment => .pure deployment
    | none => deployRelease settings clusterId targetId input .DEPLOY fuel

def historicalRedeploy (clusterId targetId : String)
    (input : DeployRequest) (fuel : Nat) : ControlProgram DeploymentRecord :=
  (findDeploymentTarget targetId).bind fun found =>
    match found with
    | none => .throw (.notFound "Deployment target not found")
    | some target =>
      if target.clusterId ≠ clusterId then .throw (.notFound "Deployment target not found")
      else
        (findRelease input.releaseId).bind fun found =>
          match found with
          | none => .throw (.notFound "Release not found for deployment target")
          | some release =>
            if release.applicationId ≠ target.applicationId then
              .throw (.notFound "Release not found for deployment target")
            else
              (findTerminalDeploymentRetry clusterId targetId input .HISTORICAL_REDEPLOY).bind
                fun terminal =>
                  match terminal with
                  | some deployment => .pure deployment
                  | none =>
                    deployRelease settings clusterId targetId input .HISTORICAL_REDEPLOY fuel

/-! ## Rollback -/

/-- The request of a rollback. -/
structure RollbackRequest where
  operationId : String
  actorId : String
  deriving DecidableEq, Repr

def findTerminalRollbackRetry (clusterId : String) (deployment : DeploymentRecord)
    (input : RollbackRequest) (serviceId : String) : ControlProgram (Option DeploymentRecord) :=
  (findOperation input.operationId).bind fun found =>
    match found with
    | none => .pure none
    | some operation =>
      if operation.status.isTerminal = false then .pure none
      else
        (findDeployment deployment.id).bind fun latest =>
          (findDeploymentByRollbackOperation input.operationId).bind fun historical =>
            match latest, historical with
            | some latest, some historical =>
              if operation.type = .ROLLBACK ∧ operation.clusterId = clusterId ∧
                  operation.actorId = input.actorId ∧ operation.serviceId = serviceId ∧
                  historical.id = deployment.id then
                (Program.ofExcept (rollbackAttemptResult latest operation)).bind fun result =>
                  .pure (some result)
              else .throw (.conflict "operationId was already used for a different rollback")
            | _, _ => .throw (.conflict "operationId was already used for a different rollback")

/-- `digestFromImage(image) === digest.toLowerCase()`. -/
def hasDigest (image : Option String) (digest : String) : Bool :=
  digestFromImage (image.getD "") = some (String.ofList (toLowerCase digest))

/-- `buildObservedRollbackPlan`: the plan of a rollback that Swarm has started on its own. -/
def buildObservedRollbackPlan (deployment : DeploymentRecord) (previousDigest : String)
    (current : ServiceDetailResponse) : Except Failure ServiceMutationPlan :=
  if deployment.beforeSpecHash.isEmpty ∨ deployment.targetSpecHash.isEmpty ∨
      current.service.specHash ≠ deployment.beforeSpecHash ∨
      hasDigest current.service.image previousDigest = false ∨
      truthy current.service.taskSpecHash = false ∨
      truthy current.service.runtimeSpecHash = false then
    .error (.conflict
      "Observed Swarm rollback target does not match the recorded previous deployment spec")
  else .ok
    { serviceId := current.service.id
      version := current.service.version
      beforeSpecHash := deployment.targetSpecHash
      targetSpecHash := deployment.beforeSpecHash
      targetForceUpdate := current.service.forceUpdate
      targetReplicas := some current.service.desiredReplicas
      targetImage := some (current.service.image.getD "")
      targetTaskSpecHash := current.service.taskSpecHash
      targetRuntimeSpecHash := current.service.runtimeSpecHash }

/-- `assertRollbackOwnership`. -/
def ownsRollback (deployment : DeploymentRecord) (previousDigest : String)
    (plan : ServiceMutationPlan) (current : ServiceDetailResponse) : Bool :=
  !deployment.beforeSpecHash.isEmpty && !deployment.targetSpecHash.isEmpty &&
    current.service.specHash = deployment.targetSpecHash &&
    plan.beforeSpecHash = deployment.targetSpecHash &&
    plan.targetSpecHash = deployment.beforeSpecHash &&
    hasDigest plan.targetImage previousDigest && truthy plan.targetTaskSpecHash &&
    truthy plan.targetRuntimeSpecHash

/-- The row that `persistRollbackIntent` creates. -/
def rollbackOperation (input : RollbackRequest) (clusterId : String)
    (plan : ServiceMutationPlan) : OperationInput where
  id := input.operationId
  clusterId := clusterId
  serviceId := plan.serviceId
  type := .ROLLBACK
  actorId := input.actorId
  expectedVersion := plan.version
  beforeSpecHash := plan.beforeSpecHash
  targetSpecHash := plan.targetSpecHash
  targetForceUpdate := plan.targetForceUpdate
  targetReplicas := plan.targetReplicas
  targetImage := plan.targetImage
  targetTaskSpecHash := plan.targetTaskSpecHash
  targetRuntimeSpecHash := plan.targetRuntimeSpecHash

/-- Swarm is rolling the service back, or has done so. -/
def observesRollback (current : ServiceDetailResponse) : Bool :=
  current.service.updateState = some .rollback_started ||
    current.service.updateState = some .rollback_completed

def planRollback (target : DeploymentTarget) (deployment : DeploymentRecord)
    (previousRelease : Release) (current : ServiceDetailResponse) :
    ControlProgram ServiceMutationPlan :=
  if observesRollback current then
    Program.ofExcept (buildObservedRollbackPlan deployment previousRelease.imageDigest current)
  else
    let planned : ControlProgram ServiceMutationPlan :=
      askAgent (.planRollbackService target.dockerServiceId current.service.version)
    (mapped planned "Rollback planning failed").bind fun plan =>
      if ownsRollback deployment previousRelease.imageDigest plan current then
        (assertAvailable target.dockerServiceId
          ⟨plan.version, plan.targetReplicas.getD current.service.desiredReplicas, true⟩).bind
            fun _ => .pure plan
      else .throw (.conflict
        "Swarm rollback ownership does not match the failed deployment transition")

/-- The plan of a rollback, and the service it was made for. -/
structure PersistedRollback where
  plan : ServiceMutationPlan
  current : ServiceDetailResponse
  deriving DecidableEq, Repr

/-- From the checks under the lock to the persisted intent. -/
def persistRollback (clusterId : String) (target : DeploymentTarget)
    (deployment : DeploymentRecord) (previousRelease : Release) (input : RollbackRequest) :
    ControlProgram PersistedRollback :=
  (mapped (inspectService target.dockerServiceId) "Rollback precondition lookup failed").bind
    fun current =>
      (planRollback target deployment previousRelease current).bind fun plan =>
        Program.bind (query (.createRollback (rollbackOperation input clusterId plan)
          deployment.id)) fun (_ : Unit) => .pure ⟨plan, current⟩

/-- The part of a rollback that runs once its intent is persisted. -/
def executeRollback (admission : Option ActiveAdmission)
    (target : DeploymentTarget) (deployment : DeploymentRecord) (previousRelease : Release)
    (input : RollbackRequest) (persisted : PersistedRollback) (fuel : Nat) :
    ControlProgram DeploymentRecord :=
  let plan := persisted.plan
  let reconcile (initialError : Option String) : ControlProgram DeploymentRecord :=
    (requireOperation input.operationId).bind fun operation =>
      reconcileRollbackLocked operation deployment initialError fuel
  if observesRollback persisted.current ∨
      persisted.current.service.specHash = plan.targetSpecHash then reconcile none
  else
    let sent : ControlProgram ServiceMutationResponse :=
      dispatch settings admission input.operationId (.service target.dockerServiceId .rollback
        plan.version plan.beforeSpecHash plan.targetSpecHash)
    sent.attempt.bind fun outcome =>
      match outcome with
      | .error e =>
        match deterministicAgentRejection e with
        | some (_, body) =>
          (settle (.rollbackRejected body) deployment.id input.operationId).bind
            fun _ => .throw (mapAgentError e "Rollback mutation failed")
        | none => reconcile (some (errorMessage e))
      | .ok accepted =>
        if accepted.serviceId = plan.serviceId ∧ accepted.targetSpecHash = plan.targetSpecHash ∧
            accepted.targetForceUpdate = plan.targetForceUpdate then
          (settle (.markRollbackVerifying accepted.version) deployment.id input.operationId).bind
            fun _ =>
              verifyRollbackAndComplete deployment.id input.operationId plan
                previousRelease.imageDigest deployment.health fuel
        else
          conclude (.rollbackAttention "ROLLBACK_AGENT_RESPONSE_MISMATCH"
            "Agent rollback response did not match the recorded rollback target")
            deployment.id input.operationId

/-- A retry of a rollback that is recorded already. -/
def resumeRollback (target : DeploymentTarget) (deployment : DeploymentRecord)
    (input : RollbackRequest) (existing : OperationRecord) (fuel : Nat) :
    ControlProgram DeploymentRecord :=
  if sameMutation .ROLLBACK input.actorId target.dockerServiceId existing then
    (findDeploymentByRollbackOperation input.operationId).bind fun found =>
      match found with
      | none => .throw (.conflict "operationId was already used for a different rollback")
      | some existingDeployment =>
        if existingDeployment.id ≠ deployment.id then
          .throw (.conflict "operationId was already used for a different rollback")
        else if existing.status.isTerminal then
          Program.ofExcept (rollbackAttemptResult existingDeployment existing)
        else reconcileRollbackLocked existing existingDeployment none fuel
  else .throw (.conflict "operationId was already used for a different mutation")

/-- The callback of `rollback`. -/
def rollbackLocked (clusterId : String) (target : DeploymentTarget)
    (deployment : DeploymentRecord) (previousRelease : Release) (input : RollbackRequest)
    (fuel : Nat) (admission : Option ActiveAdmission) : ControlProgram DeploymentRecord :=
  (findOperation input.operationId).bind fun found =>
    match found with
    | some existing => resumeRollback target deployment input existing fuel
    | none =>
      (assertServiceFree clusterId target.dockerServiceId).bind fun _ =>
        (persistRollback clusterId target deployment previousRelease input).bind fun persisted =>
          executeRollback settings admission target deployment previousRelease input persisted fuel

/-- The checks of `rollback` on the request itself, before the service is looked at. -/
def startRollback (clusterId : String) (target : DeploymentTarget)
    (deployment : DeploymentRecord) (previousRelease : Release) (input : RollbackRequest)
    (fuel : Nat) : ControlProgram DeploymentRecord :=
  (findDeploymentByRollbackOperation input.operationId).bind fun attempted =>
    if attempted.map (·.id) ≠ some deployment.id ∧ deployment.status ≠ .FAILED then
      .throw (.conflict "Only FAILED deployments can be rolled back manually")
    else
      (mapped (inspectService target.dockerServiceId) "Rollback target lookup failed").bind
        fun resolved =>
          if resolvesToTarget resolved target then
            withServiceLock settings clusterId target.dockerServiceId
              (rollbackLocked settings clusterId target deployment previousRelease input fuel)
          else .throw (.conflict
            "Rollback target no longer resolves to the expected replicated service")

/-- The part of `rollback` that runs once the deployment is found. -/
def rollbackDeployment (clusterId : String) (deployment : DeploymentRecord)
    (input : RollbackRequest) (fuel : Nat) : ControlProgram DeploymentRecord :=
  (findDeploymentTarget deployment.deploymentTargetId).bind fun found =>
    match found with
    | none => .throw (.notFound "Deployment not found")
    | some target =>
      if target.clusterId ≠ clusterId then .throw (.notFound "Deployment not found")
      else if truthy deployment.previousReleaseId = false then
        .throw (.conflict "Deployment does not have a previous release to roll back to")
      else
        (findRelease (deployment.previousReleaseId.getD "")).bind fun found =>
          match found with
          | none =>
            .throw (.conflict "Previous release is not valid for the deployment target")
          | some previousRelease =>
            if previousRelease.applicationId ≠ target.applicationId then
              .throw (.conflict "Previous release is not valid for the deployment target")
            else
              (findTerminalRollbackRetry clusterId deployment input
                target.dockerServiceId).bind fun terminal =>
                  match terminal with
                  | some result => .pure result
                  | none =>
                    startRollback settings clusterId target deployment previousRelease input fuel

def rollback (clusterId deploymentId : String) (input : RollbackRequest)
    (fuel : Nat) : ControlProgram DeploymentRecord :=
  (findDeployment deploymentId).bind fun found =>
    match found with
    | none => .throw (.notFound "Deployment not found")
    | some deployment => rollbackDeployment settings clusterId deployment input fuel

/-! ## Periodic reconciliation -/

/-- What `reconcilePendingDeployments` does with the operation it finds under the lock. -/
def reconcileCurrent (current : OperationRecord) (fuel : Nat) : ControlProgram Unit :=
  if current.type = .ROLLBACK then
    (findDeploymentByRollbackOperation current.id).bind fun found =>
      match found with
      | none => .pure ()
      | some deployment =>
        (reconcileRollbackLocked current deployment none fuel).bind fun _ => .pure ()
  else
    (findDeploymentByOperation current.id).bind fun found =>
      match found with
      | none => .pure ()
      | some deployment =>
        (reconcileLocked current deployment none fuel).bind fun _ => .pure ()

/-- The operations that reconciliation takes up on its own. -/
def reconciles (operation : OperationRecord) : Bool :=
  (operation.type = .DEPLOY || operation.type = .ROLLBACK) &&
    operation.status.isTerminal = false && operation.status ≠ .NEEDS_ATTENTION

def reconcileOperation (operation : OperationRecord) (fuel : Nat) : ControlProgram Unit :=
  (withServiceRecoveryLock settings operation.clusterId operation.serviceId
    ((findOperation operation.id).bind fun found =>
      match found with
      | none => .pure ()
      | some current =>
        if reconciles current then reconcileCurrent current fuel
        else .pure ())).attempt.bind fun _ => .pure ()

def reconcileOperations (fuel : Nat) : List OperationRecord → ControlProgram Unit
  | [] => .pure ()
  | operation :: rest =>
    if reconciles operation then
      (reconcileOperation settings operation fuel).bind fun _ =>
        reconcileOperations fuel rest
    else reconcileOperations fuel rest

def reconcilePendingDeployments (fuel : Nat) : ControlProgram Unit :=
  Program.bind (query .listNonTerminal) (reconcileOperations settings fuel)

end DeploymentService

end Docklane.Control
