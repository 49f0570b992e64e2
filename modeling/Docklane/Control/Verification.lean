import Docklane.Control.Effects
import Docklane.Control.Snapshots

/-!
# Verification of deployments and rollbacks

`HealthVerifier.verify` and the two verification loops of `deployments/deployment.service.ts`. The
loops of a deployment and of a rollback differ in how they classify a snapshot and in what they
write for a verdict; `verifyLoop` is the loop they share, and `Verification` says what is theirs.
The loops run until the clock passes a deadline, so they take fuel, and without fuel they hang.
-/

namespace Docklane.Control

open Concurrent

def VERIFY_TIMEOUT_MS : Int := 30000

def VERIFY_INTERVAL_MS : Nat := 500

/-- `requireWithConnection`. -/
def requireDeployment (id : String) : ControlProgram DeploymentRecord :=
  (findDeployment id).bind fun found =>
    match found with
    | some d => .pure d
    | none => .throw (.error "Deployment disappeared after persistence")

def settle (settlement : Settlement) (deploymentId operationId : String) : ControlProgram Unit :=
  query (.settle settlement deploymentId operationId)

/-- Write a verdict and return the deployment. -/
def conclude (settlement : Settlement) (deploymentId operationId : String) :
    ControlProgram DeploymentRecord :=
  (settle settlement deploymentId operationId).bind fun _ => requireDeployment deploymentId

/-! ## Health -/

/-- One check of the endpoint: a response with the expected status. -/
def healthCheck (config : HealthCheckConfig) : ControlProgram Bool :=
  .request (.fetch config.url config.timeoutMs) fun (answer : Except Failure Nat) =>
    .pure (match answer with
      | .ok status => status = config.expectedStatus
      | .error _ => false)

/-- `stableSince ??= Date.now()`. -/
def stableStart : Option Int → ControlProgram Int
  | some since => .pure since
  | none => now

/-- The loop of `HealthVerifier.verify`. `stableSince` is the time of the first of the checks that
have succeeded in a row. -/
def healthLoop (config : HealthCheckConfig) (assertConverged : ControlProgram Unit)
    (deadline : Int) : Nat → Option Int → Nat → ControlProgram Unit
  | 0, _, _ => hang
  | fuel + 1, stableSince, failures =>
    now.bind fun t =>
      if t < deadline then
        assertConverged.bind fun _ =>
          (healthCheck config).bind fun ok =>
            if ok then
              assertConverged.bind fun _ =>
                (stableStart stableSince).bind fun since =>
                  now.bind fun t =>
                    if config.stabilityWindowMs ≤ t - since then
                      assertConverged.bind fun _ => .pure ()
                    else
                      (sleep config.intervalMs).bind fun _ =>
                        healthLoop config assertConverged deadline fuel (some since) failures
            else if config.retries < failures + 1 then
              .throw (.error
                s!"Health verification failed after {failures + 1} unsuccessful checks")
            else
              (sleep config.intervalMs).bind fun _ =>
                healthLoop config assertConverged deadline fuel none (failures + 1)
      else
        .throw (.error "Health endpoint did not remain stable for the required window")

/-- `HealthVerifier.verify`. -/
def healthVerify (config : HealthCheckConfig) (assertConverged : ControlProgram Unit)
    (fuel : Nat) : ControlProgram Unit :=
  Program.bind (.request (.assertAllowed config.url) Program.ofExcept) fun (_ : Unit) =>
    now.bind fun t =>
      healthLoop config assertConverged
        (t + config.stabilityWindowMs +
          (config.retries + 1) * (config.timeoutMs + config.intervalMs)) fuel none 0

/-! ## The verification loop -/

/-- When a snapshot was taken: before, during or after health verification. -/
inductive Stage where
  | snapshot
  | health
  | final
  deriving DecidableEq, Repr

/-- What a deployment and a rollback have of their own in the verification loop. -/
structure Verification where
  classify : ServiceDetailResponse → DeploymentDecision
  /-- The decisions that end the verification, and what is written for them. -/
  verdict : Stage → DeploymentDecision → Option Settlement
  guardMessage : String
  healthFailed : String → Settlement
  complete : Nat → Settlement
  unavailable : String → Settlement
  timeout : Settlement

namespace Verification

variable (v : Verification) (plan : ServiceMutationPlan)

/-- `classifyDeploymentConvergence` and `classifyRollbackConvergence`: a snapshot that looks right
counts only when the placement has converged, too. -/
def classifyConvergence (current : ServiceDetailResponse) : ControlProgram DeploymentDecision :=
  if v.classify current = .SUCCESS then
    (checkServicePlacement plan.serviceId).attempt.bind fun placement =>
      match placement with
      | .ok .CONVERGED => .pure .SUCCESS
      | _ => .pure .PENDING
  else .pure (v.classify current)

/-- The guard that health verification runs. -/
def assertConverged : ControlProgram Unit :=
  (inspectService plan.serviceId).attempt.bind fun answer =>
    match answer with
    | .error e => .throw (.guard none (errorMessage e))
    | .ok guarded =>
      (v.classifyConvergence plan guarded).bind fun decision =>
        if decision = .SUCCESS then .pure () else .throw (.guard (some decision) v.guardMessage)

/-- The part of an iteration after health verification: a fresh snapshot decides. -/
def finish (deploymentId operationId : String)
    (retry : Option String → ControlProgram DeploymentRecord) : ControlProgram DeploymentRecord :=
  (inspectService plan.serviceId).attempt.bind fun answer =>
    match answer with
    | .error e => (sleep VERIFY_INTERVAL_MS).bind fun _ => retry (some (errorMessage e))
    | .ok current =>
      (v.classifyConvergence plan current).bind fun decision =>
        if decision = .PENDING then (sleep VERIFY_INTERVAL_MS).bind fun _ => retry none
        else match v.verdict .final decision with
          | some settlement => conclude settlement deploymentId operationId
          | none => conclude (v.complete current.service.version) deploymentId operationId

def verifyLoop (health : HealthCheckConfig) (deploymentId operationId : String) (deadline : Int) :
    Nat → Option String → ControlProgram DeploymentRecord
  | 0, _ => hang
  | fuel + 1, lastError =>
    let retry := verifyLoop health deploymentId operationId deadline fuel
    now.bind fun t =>
      if t < deadline then
        (inspectService plan.serviceId).attempt.bind fun answer =>
          match answer with
          | .error e => (sleep VERIFY_INTERVAL_MS).bind fun _ => retry (some (errorMessage e))
          | .ok current =>
            (v.classifyConvergence plan current).bind fun decision =>
              match v.verdict .snapshot decision with
              | some settlement => conclude settlement deploymentId operationId
              | none =>
                if decision = .SUCCESS then
                  (healthVerify health (v.assertConverged plan) fuel).attempt.bind fun outcome =>
                    match outcome with
                    | .ok () => v.finish plan deploymentId operationId retry
                    | .error (.guard none message) =>
                      (sleep VERIFY_INTERVAL_MS).bind fun _ => retry (some message)
                    | .error (.guard (some decision) _) =>
                      match v.verdict .health decision with
                      | some settlement => conclude settlement deploymentId operationId
                      | none => (sleep VERIFY_INTERVAL_MS).bind fun _ => retry none
                    | .error e =>
                      conclude (v.healthFailed (errorMessage e)) deploymentId operationId
                else (sleep VERIFY_INTERVAL_MS).bind fun _ => retry none
      else match lastError with
        | some message =>
          if message.isEmpty then conclude v.timeout deploymentId operationId
          else conclude (v.unavailable message) deploymentId operationId
        | none => conclude v.timeout deploymentId operationId

end Verification

/-! ## Deployments and rollbacks -/

/-- `verifyAndComplete`'s own part. -/
def deploymentVerification (plan : ServiceMutationPlan) (digest : String) (noOp : Bool) :
    Verification where
  classify current := classifyDeploymentSnapshot current plan digest noOp
  verdict
    | .snapshot, .ROLLBACK_PAUSED => some (.attention "SWARM_ROLLBACK_PAUSED"
        "Swarm automatic rollback is paused and requires operator attention")
    | .snapshot, .FAILED => some (.fail "CONVERGENCE_FAILED"
        "Swarm update entered a terminal failed or rollback state")
    | .snapshot, .EXTERNAL_CONFLICT => some (.attention "EXTERNAL_SERVICE_CONFLICT"
        "Current service spec diverged from the deployment target")
    | .health, .EXTERNAL_CONFLICT => some (.attention "EXTERNAL_SERVICE_CONFLICT"
        "Service changed during the health stability window")
    | .health, .ROLLBACK_PAUSED => some (.attention "SWARM_ROLLBACK_PAUSED"
        "Swarm automatic rollback paused during health verification")
    | .health, .FAILED => some (.fail "CONVERGENCE_FAILED"
        "Swarm update entered a terminal failed state during health verification")
    | .final, .ROLLBACK_PAUSED => some (.attention "SWARM_ROLLBACK_PAUSED"
        "Swarm automatic rollback paused before deployment success persistence")
    | .final, .FAILED => some (.fail "CONVERGENCE_FAILED"
        "Swarm update changed to a terminal failed state before success persistence")
    | .final, .EXTERNAL_CONFLICT => some (.attention "EXTERNAL_SERVICE_CONFLICT"
        "Service changed before deployment success could be persisted")
    | _, .PENDING | _, .SUCCESS => none
  guardMessage := "Deployment convergence changed during health verification"
  healthFailed := .fail "HEALTH_VERIFICATION_FAILED"
  complete := .deployed
  unavailable lastError := .attention "DEPLOYMENT_VERIFICATION_UNAVAILABLE"
    s!"Deployment verification timed out after Agent errors: {lastError}"
  timeout := .verificationPending "DEPLOYMENT_OBSERVATION_TIMEOUT"
    "Deployment is still converging after the synchronous observation window; mutation protection remains active"

def verifyAndComplete (deploymentId operationId : String) (plan : ServiceMutationPlan)
    (digest : String) (noOp : Bool) (health : HealthCheckConfig) (fuel : Nat) :
    ControlProgram DeploymentRecord :=
  now.bind fun t =>
    (deploymentVerification plan digest noOp).verifyLoop plan health deploymentId operationId
      (t + VERIFY_TIMEOUT_MS) fuel none

/-- `verifyRollbackAndComplete`'s own part. Its classifier never answers `ROLLBACK_PAUSED`, and
nothing is written for it. -/
def rollbackVerification (plan : ServiceMutationPlan) (digest : String) : Verification where
  classify current := classifyRollbackSnapshot current plan digest
  verdict
    | .snapshot, .FAILED => some (.rollbackFailed "ROLLBACK_FAILED"
        "Swarm rollback entered a terminal failed state")
    | .snapshot, .EXTERNAL_CONFLICT => some (.rollbackAttention "ROLLBACK_EXTERNAL_CONFLICT"
        "Service changed outside the recorded rollback target")
    | .health, .FAILED => some (.rollbackFailed "ROLLBACK_FAILED"
        "Rollback became unhealthy during recovery verification")
    | .health, .EXTERNAL_CONFLICT => some (.rollbackAttention "ROLLBACK_EXTERNAL_CONFLICT"
        "Service changed during rollback recovery health verification")
    | .final, .FAILED => some (.rollbackFailed "ROLLBACK_FAILED"
        "Rollback changed to a terminal failed state before persistence")
    | .final, .EXTERNAL_CONFLICT => some (.rollbackAttention "ROLLBACK_EXTERNAL_CONFLICT"
        "Service changed before rollback success could be persisted")
    | _, .PENDING | _, .SUCCESS | _, .ROLLBACK_PAUSED => none
  guardMessage := "Rollback convergence changed during recovery health verification"
  healthFailed := .rollbackFailed "ROLLBACK_HEALTH_FAILED"
  complete := .rolledBack
  unavailable lastError := .rollbackAttention "ROLLBACK_VERIFICATION_UNAVAILABLE"
    s!"Rollback verification timed out after Agent errors: {lastError}"
  timeout := .rollbackVerificationPending "ROLLBACK_OBSERVATION_TIMEOUT"
    "Rollback is still converging after the synchronous observation window"

def verifyRollbackAndComplete (deploymentId operationId : String) (plan : ServiceMutationPlan)
    (digest : String) (health : HealthCheckConfig) (fuel : Nat) :
    ControlProgram DeploymentRecord :=
  now.bind fun t =>
    (rollbackVerification plan digest).verifyLoop plan health deploymentId operationId
      (t + VERIFY_TIMEOUT_MS) fuel none

end Docklane.Control
