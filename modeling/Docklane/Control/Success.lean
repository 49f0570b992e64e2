import Docklane.Control.Histories

/-!
# Soundness of SUCCESS and ROLLED_BACK

A verification loop writes its success only after health verification has returned, between two
snapshots of the converged service, and every snapshot that the health guard took was converged as
well. The argument is made once for the shared loop, over the history of the answers it got.
-/

namespace Docklane.Control

open Concurrent Concurrent.Program

/-- Every inspection of the service in these answers gave a good snapshot, and the placement check
after it had converged. -/
inductive Guarded (serviceId : String) (Good : ServiceDetailResponse → Prop) :
    List ControlEvent → Prop where
  | nil : Guarded serviceId Good []
  | snapshot {current t} (hgood : Good current) (ht : Guarded serviceId Good t) :
      Guarded serviceId Good (inspected serviceId current :: placed serviceId :: t)
  | other {event t} (hother : event.1 ≠ .agent (.inspectService serviceId))
      (ht : Guarded serviceId Good t) : Guarded serviceId Good (event :: t)

variable {serviceId deploymentId operationId : String} {h' : List ControlEvent} {fuel : Nat}

theorem Guarded.append {Good : ServiceDetailResponse → Prop} {t u : List ControlEvent}
    (ht : Guarded serviceId Good t) (hu : Guarded serviceId Good u) :
    Guarded serviceId Good (t ++ u) := by
  induction ht with
  | nil => exact hu
  | snapshot hgood _ ih => exact .snapshot hgood ih
  | other hother _ ih => exact .other hother ih

/-- On some database, the statement changes the status of a deployment to this one. -/
def DbOp.Persists (op : DbOp) (status : DeploymentStatus) : Prop :=
  ∃ db reply db', op.exec db = .ok (reply, db') ∧
    ∃ d ∈ db'.deployments, d.status = status ∧
      ∀ d₀ ∈ db.deployments, d₀.id = d.id → d₀.status ≠ status

/-- What was answered, oldest first, is a verification that succeeded: a good snapshot, health
verification with good guard snapshots, and a good snapshot again. -/
def Verified (v : Verification) (plan : ServiceMutationPlan) (health : HealthCheckConfig)
    (Good : ServiceDetailResponse → Prop) (t : List ControlEvent) : Prop :=
  ∃ older before during after fuel,
    t = older ++ [inspected plan.serviceId before, placed plan.serviceId] ++ during ++
      [inspected plan.serviceId after, placed plan.serviceId] ∧
    Good before ∧ Good after ∧ Guarded plan.serviceId Good during ∧
    Trace (healthVerify health (v.assertConverged plan) fuel) during (.pure ())

/-- A statement that persists the status `status` may be asked for only when the history is a
verification that succeeded. -/
def AfterVerification (v : Verification) (plan : ServiceMutationPlan)
    (health : HealthCheckConfig) (Good : ServiceDetailResponse → Prop)
    (status : DeploymentStatus) : List ControlEvent → ControlOp → Prop :=
  OnStatements fun h op => op.Persists status → Verified v plan health Good h.reverse

/-- What the shared loop needs of the parts that are a deployment's or a rollback's own. -/
structure Verification.Lawful (v : Verification) (Good : ServiceDetailResponse → Prop)
    (status : DeploymentStatus) : Prop where
  good : ∀ current, v.classify current = .SUCCESS → Good current
  final : ∀ current, v.classify current ≠ .PENDING →
    v.verdict .final (v.classify current) = none → v.classify current = .SUCCESS
  final_success : v.verdict .final .SUCCESS = none
  verdict : ∀ stage decision settlement, v.verdict stage decision = some settlement →
    settlement.deployment.status ≠ status
  healthFailed : ∀ message, (v.healthFailed message).deployment.status ≠ status
  unavailable : ∀ message, (v.unavailable message).deployment.status ≠ status
  timeout : v.timeout.deployment.status ≠ status

theorem settle_persists {settlement : Settlement} {status : DeploymentStatus}
    (h : (DbOp.settle settlement deploymentId operationId).Persists status) :
    settlement.deployment.status = status := by
  obtain ⟨db, reply, db', hexec, d, hd, hstatus, hnew⟩ := h
  have hdb' : db' = _ := DbOp.exec_settle hexec
  rw [hdb'] at hd
  obtain ⟨d₀, hd₀, rfl⟩ := List.mem_map.mp hd
  split at hstatus
  · exact hstatus
  · rename_i hid
    simp only [if_neg hid] at hnew
    exact absurd hstatus (hnew d₀ hd₀ rfl)

/-! ## The shared loop -/

section Loop

variable {v : Verification} {plan : ServiceMutationPlan} {health : HealthCheckConfig}
  {Good : ServiceDetailResponse → Prop} {status : DeploymentStatus} {α : Type}
  {Q : Except Failure α → List ControlEvent → Prop} {h : List ControlEvent}

theorem not_persists_findDeployment {id : String} : ¬(DbOp.findDeployment id).Persists status := by
  rintro ⟨db, reply, db', hexec, d, hd, hstatus, hnew⟩
  cases hexec
  exact absurd hstatus (hnew d hd rfl)

theorem conclude_afterVerification {settlement : Settlement}
    (hverified : settlement.deployment.status = status → Verified v plan health Good h.reverse) :
    (conclude settlement deploymentId operationId).Follows
      (AfterVerification v plan health Good status) (fun _ _ => True) h :=
  conclude_follows (fun hp => hverified (settle_persists hp))
    fun _ hp => absurd hp not_persists_findDeployment

theorem assertConverged_follows (hgood : ∀ current, v.classify current = .SUCCESS → Good current)
    {k : Unit → ControlProgram α}
    (hpass : ∀ current, Good current →
      (k ()).Follows (AfterVerification v plan health Good status) Q
        (placed plan.serviceId :: inspected plan.serviceId current :: h))
    (hthrow : ∀ e h', Q (.error e) h') :
    ((v.assertConverged plan).bind k).Follows (AfterVerification v plan health Good status)
      Q h := by
  refine follows_bind (inspect_follows (fun e h' => hthrow _ _) fun current => ?_)
  refine classifyConvergence_follows (fun hclass => ?_) fun decision h' hne _ => ?_
  · exact hpass current (hgood current hclass)
  · rw [if_neg hne]
    exact hthrow _ _

/-- What was answered between the histories `h` and `h'` is guarded. -/
def GuardedSince (serviceId : String) (Good : ServiceDetailResponse → Prop)
    (h h' : List ControlEvent) : Prop :=
  ∃ t, h' = t.reverse ++ h ∧ Guarded serviceId Good t

theorem GuardedSince.refl : GuardedSince serviceId Good h h :=
  ⟨[], rfl, .nil⟩

theorem GuardedSince.other {x : ControlEvent} (ht : GuardedSince serviceId Good h h')
    (hother : x.1 ≠ .agent (.inspectService serviceId)) :
    GuardedSince serviceId Good h (x :: h') := by
  obtain ⟨t, rfl, ht⟩ := ht
  exact ⟨t ++ [x], by simp, ht.append (.other hother .nil)⟩

theorem GuardedSince.snapshot {current : ServiceDetailResponse}
    (ht : GuardedSince serviceId Good h h') (hgood : Good current) :
    GuardedSince serviceId Good h (placed serviceId :: inspected serviceId current :: h') := by
  obtain ⟨t, rfl, ht⟩ := ht
  exact ⟨t ++ [inspected serviceId current, placed serviceId], by simp,
    ht.append (.snapshot hgood .nil)⟩

/-- The postcondition of health verification. -/
def HealthyAfter (serviceId : String) (Good : ServiceDetailResponse → Prop)
    (h : List ControlEvent) : Except Failure Unit → List ControlEvent → Prop
  | .ok (), h' => GuardedSince serviceId Good h h'
  | .error _, _ => True

theorem healthCheck_follows {k : Bool → ControlProgram α}
    (hk : ∀ answer ok, (k ok).Follows (AfterVerification v plan health Good status) Q
      (⟨.fetch health.url health.timeoutMs, (answer : Except Failure Nat)⟩ :: h)) :
    ((healthCheck health).bind k).Follows (AfterVerification v plan health Good status) Q h :=
  ⟨trivial, fun answer => hk answer _⟩

theorem stableStart_follows {stableSince : Option Int} {k : Int → ControlProgram α}
    (hsince : GuardedSince serviceId Good h h')
    (hk : ∀ since h'', GuardedSince serviceId Good h h'' →
      (k since).Follows (AfterVerification v plan health Good status) Q h'') :
    ((stableStart stableSince).bind k).Follows (AfterVerification v plan health Good status) Q
      h' := by
  cases stableSince with
  | some since => exact hk since h' hsince
  | none => exact now_follows fun t => hk t _ (hsince.other (by simp))

theorem healthLoop_follows (hgood : ∀ current, v.classify current = .SUCCESS → Good current)
    {deadline : Int} {stableSince : Option Int} {failures : Nat}
    (hsince : GuardedSince plan.serviceId Good h h') :
    (healthLoop health (v.assertConverged plan) deadline fuel stableSince failures).Follows
      (AfterVerification v plan health Good status) (HealthyAfter plan.serviceId Good h) h' := by
  induction fuel generalizing stableSince failures h' with
  | zero => exact ⟨trivial, fun answer => Empty.elim answer⟩
  | succ fuel ih =>
    have hthrow : ∀ e h'', HealthyAfter plan.serviceId Good h (.error e) h'' := fun _ _ => trivial
    refine now_follows fun t => ?_
    have hsince := hsince.other (x := ⟨.now, t⟩) (by simp)
    split
    · refine assertConverged_follows hgood (fun current hcurrent => ?_) hthrow
      refine healthCheck_follows fun answer ok => ?_
      have hsince := (hsince.snapshot hcurrent).other
        (x := ⟨.fetch health.url health.timeoutMs, answer⟩) (by simp)
      split
      · refine assertConverged_follows hgood (fun current hcurrent => ?_) hthrow
        refine stableStart_follows (hsince.snapshot hcurrent) fun since h'' hsince => ?_
        refine now_follows fun t => ?_
        have hsince := hsince.other (x := ⟨.now, t⟩) (by simp)
        split
        · exact assertConverged_follows hgood
            (fun current hcurrent => hsince.snapshot hcurrent) hthrow
        · exact sleep_follows (ih (hsince.other (by simp)))
      · split
        · exact hthrow _ _
        · exact sleep_follows (ih (hsince.other (by simp)))
    · exact hthrow _ _

theorem healthVerify_follows (hgood : ∀ current, v.classify current = .SUCCESS → Good current) :
    (healthVerify health (v.assertConverged plan) fuel).Follows
      (AfterVerification v plan health Good status) (HealthyAfter plan.serviceId Good h) h := by
  refine ⟨trivial, fun (answer : Except Failure Unit) => ?_⟩
  cases answer with
  | error e => trivial
  | ok _ =>
    refine now_follows fun t => healthLoop_follows hgood ?_
    exact (GuardedSince.refl.other (by simp)).other (by simp)

theorem finish_follows (hlaw : v.Lawful Good status)
    {retry : Option String → ControlProgram DeploymentRecord}
    (hretry : ∀ lastError h', (retry lastError).Follows
      (AfterVerification v plan health Good status) (fun _ _ => True) h')
    (hverified : ∀ current, Good current →
      Verified v plan health Good
        (placed plan.serviceId :: inspected plan.serviceId current :: h).reverse) :
    (v.finish plan deploymentId operationId retry).Follows
      (AfterVerification v plan health Good status) (fun _ _ => True) h := by
  refine inspect_follows (fun e h' => sleep_follows (hretry _ _)) fun current => ?_
  refine classifyConvergence_follows (fun hclass => ?_) fun decision h' hne hdecision => ?_
  · rw [if_neg (by decide), hlaw.final_success]
    exact conclude_afterVerification fun _ => hverified current (hlaw.good current hclass)
  · split
    · exact sleep_follows (hretry _ _)
    · rename_i hpending
      obtain rfl : decision = v.classify current := hdecision.resolve_left hpending
      split
      · rename_i settlement hsettlement
        exact conclude_afterVerification fun hstatus => absurd hstatus
          (hlaw.verdict _ _ _ hsettlement)
      · rename_i hnone
        exact absurd (hlaw.final current hpending hnone) hne

theorem verifyLoop_follows (hlaw : v.Lawful Good status) {deadline : Int}
    {lastError : Option String} :
    (v.verifyLoop plan health deploymentId operationId deadline fuel lastError).Follows
      (AfterVerification v plan health Good status) (fun _ _ => True) h := by
  induction fuel generalizing lastError h with
  | zero => exact ⟨trivial, fun answer => Empty.elim answer⟩
  | succ fuel ih =>
    have hverdict : ∀ {stage decision settlement h'}, v.verdict stage decision = some settlement →
        (conclude settlement deploymentId operationId).Follows
          (AfterVerification v plan health Good status) (fun _ _ => True) h' :=
      fun hsettlement => conclude_afterVerification fun hstatus =>
        absurd hstatus (hlaw.verdict _ _ _ hsettlement)
    refine now_follows fun t => ?_
    split
    · refine inspect_follows (fun e h' => sleep_follows ih) fun before => ?_
      refine classifyConvergence_follows (fun hclass => ?_) fun decision h' hne _ => ?_
      · split
        · exact hverdict ‹_›
        · rw [if_pos rfl]
          refine follows_bind (follows_attempt ((healthVerify_follows hlaw.good).traced.mono ?_))
          rintro (e | ⟨⟩) h' ⟨hhealthy, during, hduring, htrace⟩
          · cases e with
            | guard decision message =>
              cases decision with
              | none => exact sleep_follows ih
              | some decision =>
                dsimp only
                split
                · exact hverdict ‹_›
                · exact sleep_follows ih
            | _ =>
              exact conclude_afterVerification fun hstatus =>
                absurd hstatus (hlaw.healthFailed _)
          · refine finish_follows hlaw (fun _ _ => ih) fun after hafter => ?_
            obtain ⟨t', ht', hguarded⟩ := hhealthy
            have heq : t' = during := by
              rw [hduring] at ht'
              simpa using ht'.symm
            subst heq hduring
            exact ⟨h.reverse ++ [⟨.now, t⟩], before, t', after, fuel, by simp,
              hlaw.good before hclass, hafter, hguarded, htrace⟩
      · split
        · exact hverdict ‹_›
        · rw [if_neg hne]
          exact sleep_follows ih
    · cases lastError with
      | none => exact conclude_afterVerification fun hstatus => absurd hstatus hlaw.timeout
      | some message =>
        dsimp only
        split
        · exact conclude_afterVerification fun hstatus => absurd hstatus hlaw.timeout
        · exact conclude_afterVerification fun hstatus => absurd hstatus (hlaw.unavailable message)

end Loop

/-! ## Deployments and rollbacks -/

/-- A snapshot in which a deployment has succeeded. -/
def Deployed (plan : ServiceMutationPlan) (digest : String) (noOp : Bool)
    (current : ServiceDetailResponse) : Prop :=
  Converged plan digest current ∧ DeploymentSettled noOp current.service.updateState

/-- A snapshot in which a rollback has succeeded. -/
def RolledBack (plan : ServiceMutationPlan) (digest : String)
    (current : ServiceDetailResponse) : Prop :=
  Converged plan digest current ∧ RollbackSettled current.service.updateState

theorem deploymentVerification_lawful {plan : ServiceMutationPlan} {digest : String} {noOp : Bool} :
    (deploymentVerification plan digest noOp).Lawful (Deployed plan digest noOp) .SUCCESS where
  good _ h := classifyDeploymentSnapshot_success h
  final current hpending hnone := by
    generalize hdecision : (deploymentVerification plan digest noOp).classify current = decision
      at *
    cases decision <;> simp_all [deploymentVerification]
  final_success := rfl
  verdict stage decision settlement h := by
    cases stage <;> cases decision <;> simp only [deploymentVerification, reduceCtorEq] at h <;>
      · obtain rfl := Option.some.inj h
        decide
  healthFailed _ := by simp [deploymentVerification, Settlement.deployment, DeploymentWrite.status]
  unavailable _ := by simp [deploymentVerification, Settlement.deployment, DeploymentWrite.status]
  timeout := by
    simp [deploymentVerification, Settlement.deployment, DeploymentWrite.status]

theorem classifyRollbackSnapshot_ne_paused (current : ServiceDetailResponse)
    (plan : ServiceMutationPlan) (digest : String) :
    classifyRollbackSnapshot current plan digest ≠ .ROLLBACK_PAUSED := by
  simp only [classifyRollbackSnapshot]
  repeat' split
  all_goals decide

theorem rollbackVerification_lawful {plan : ServiceMutationPlan} {digest : String} :
    (rollbackVerification plan digest).Lawful (RolledBack plan digest) .ROLLED_BACK where
  good _ h := classifyRollbackSnapshot_success h
  final current hpending hnone := by
    have hpaused := classifyRollbackSnapshot_ne_paused current plan digest
    generalize hdecision : (rollbackVerification plan digest).classify current = decision at *
    cases decision <;> simp_all [rollbackVerification]
  final_success := rfl
  verdict stage decision settlement h := by
    cases stage <;> cases decision <;> simp only [rollbackVerification, reduceCtorEq] at h <;>
      · obtain rfl := Option.some.inj h
        decide
  healthFailed _ := by simp [rollbackVerification, Settlement.deployment, DeploymentWrite.status]
  unavailable _ := by
    simp [rollbackVerification, Settlement.deployment, DeploymentWrite.status]
  timeout := by
    simp [rollbackVerification, Settlement.deployment, DeploymentWrite.status]

/-- However inspections, placement checks, the health endpoint, the clock and the database answer:
when a deployment asks for a statement that persists `SUCCESS`, or a rollback for one that persists
`ROLLED_BACK`, what it was answered before is a verification that succeeded. -/
theorem success_only_after_verification (deploymentId operationId : String)
    (plan : ServiceMutationPlan) (digest : String) (health : HealthCheckConfig) (fuel : Nat) :
    (∀ noOp t op answer u p,
      Trace (verifyAndComplete deploymentId operationId plan digest noOp health fuel)
        (t ++ ⟨.db op, answer⟩ :: u) p →
      op.Persists .SUCCESS →
      Verified (deploymentVerification plan digest noOp) plan health (Deployed plan digest noOp)
        t) ∧
    ∀ t op answer u p,
      Trace (verifyRollbackAndComplete deploymentId operationId plan digest health fuel)
        (t ++ ⟨.db op, answer⟩ :: u) p →
      op.Persists .ROLLED_BACK →
      Verified (rollbackVerification plan digest) plan health (RolledBack plan digest) t := by
  constructor
  · intro noOp t op answer u p ht hpersists
    obtain ⟨k, hk, -⟩ := ht.split
    have hfollows : (verifyAndComplete deploymentId operationId plan digest noOp health
        fuel).Follows (AfterVerification (deploymentVerification plan digest noOp) plan health
          (Deployed plan digest noOp) .SUCCESS) (fun _ _ => True) [] :=
      now_follows fun _ => verifyLoop_follows deploymentVerification_lawful
    simpa using hfollows.allowed_of_trace hk hpersists
  · intro t op answer u p ht hpersists
    obtain ⟨k, hk, -⟩ := ht.split
    have hfollows : (verifyRollbackAndComplete deploymentId operationId plan digest health
        fuel).Follows (AfterVerification (rollbackVerification plan digest) plan health
          (RolledBack plan digest) .ROLLED_BACK) (fun _ _ => True) [] :=
      now_follows fun _ => verifyLoop_follows rollbackVerification_lawful
    simpa using hfollows.allowed_of_trace hk hpersists

/-- A task of the service below that runs. -/
def servingTask (slot : Int) : TaskSummary where
  serviceId := "s"
  runtimeSpecHash := "run"
  slot := slot
  desiredState := .running
  state := .running
  forceUpdate := 0
  image := some "web@sha256:1"

/-- A service of two replicas, as a deployment finds it once its update is completed. -/
def servingService : ServiceDetailResponse where
  service :=
    { id := "s", name := "web", version := 8, specHash := "new", forceUpdate := 0
      taskSpecHash := some "task", runtimeSpecHash := some "run", image := some "web@sha256:1"
      mode := .replicated, desiredReplicas := 2, runningReplicas := 2
      updateState := some .completed }
  tasks := [servingTask 1, { servingTask 2 with state := .other "shutdown" }, servingTask 2]

def servingPlan : ServiceMutationPlan where
  serviceId := "s"
  version := 7
  beforeSpecHash := "old"
  targetSpecHash := "new"
  targetForceUpdate := 0
  targetReplicas := none
  targetImage := some "web@sha256:1"
  targetTaskSpecHash := some "task"
  targetRuntimeSpecHash := some "run"

def servingHealth : HealthCheckConfig := ⟨"https://web", 1, 1, 0, 0, 200⟩

/-- One pass of the verification: a snapshot, a single healthy check and a snapshot again. -/
def servingAnswers : List ControlEvent :=
  let snapshot := [inspected "s" servingService, placed "s"]
  let clock : ControlEvent := ⟨.now, (0 : Int)⟩
  [clock, clock] ++ snapshot ++
    [⟨.assertAllowed "https://web", (.ok () : Except Failure Unit)⟩, clock, clock] ++ snapshot ++
    [⟨.fetch "https://web" 1, (.ok 200 : Except Failure Nat)⟩] ++ snapshot ++ [clock, clock] ++
    snapshot ++ snapshot

def servingOperation : OperationRecord where
  id := "o"
  clusterId := "c"
  serviceId := "s"
  type := .DEPLOY
  status := .VERIFYING
  actorId := "a"
  expectedVersion := 7
  beforeSpecHash := "old"
  targetSpecHash := "new"
  targetForceUpdate := 0
  targetReplicas := some 2
  targetImage := some "web@sha256:1"
  targetTaskSpecHash := some "task"
  targetRuntimeSpecHash := some "run"
  resultVersion := some 8
  errorCode := none
  errorMessage := none

def servingDeployment : DeploymentRecord where
  id := "d"
  kind := .DEPLOY
  sourceDeploymentId := none
  releaseId := "r"
  previousReleaseId := none
  deploymentTargetId := "t"
  operationId := "o"
  rollbackOperationId := none
  status := .VERIFYING
  reason := none
  noOp := false
  beforeSpecHash := "old"
  targetSpecHash := "new"
  health := servingHealth
  expectedServiceVersion := 7
  finishedAt := none
  createdBy := "a"

/-- The statement that makes the deployment a success. -/
def markServing : ControlEvent :=
  ⟨.db (.settle (.deployed 8) "d" "o"), (.ok () : Except Failure Unit)⟩

theorem servingService_verified :
    (∃ q, Trace (verifyAndComplete "d" "o" servingPlan "sha256:1" false servingHealth 2)
        (servingAnswers ++ [markServing]) q) ∧
      (DbOp.settle (.deployed 8) "d" "o").Persists .SUCCESS ∧
      Verified (deploymentVerification servingPlan "sha256:1" false) servingPlan servingHealth
        (Deployed servingPlan "sha256:1" false) servingAnswers := by
  have hsome : (replay (verifyAndComplete "d" "o" servingPlan "sha256:1" false servingHealth 2)
      (servingAnswers ++ [markServing])).isSome = true := by decide +kernel
  obtain ⟨q, hq⟩ := Option.isSome_iff_exists.mp hsome
  have hpersists : (DbOp.settle (.deployed 8) "d" "o").Persists .SUCCESS :=
    ⟨{ emptyDb with operations := [servingOperation], deployments := [servingDeployment] }, (), _,
      rfl, _, List.mem_singleton.mpr rfl, rfl, by decide⟩
  exact ⟨⟨q, trace_of_replay hq⟩, hpersists,
    (success_only_after_verification "d" "o" servingPlan "sha256:1" servingHealth 2).1
      false _ _ _ _ _ (trace_of_replay hq) hpersists⟩

end Docklane.Control
