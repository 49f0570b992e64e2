import Docklane.Control.Deployments
import Docklane.Control.Maintenance
import Docklane.Control.NodeMutations

/-!
# What a call can ever ask for

The requests of each program, whatever it is answered. Verification and recovery only look at the
Swarm and write what they conclude; a mutation request is sent by the callback of a call only.
-/

namespace Docklane.Control

open Concurrent Concurrent.Program

/-! ## Kinds of requests -/

/-- Statements that read, or record a hash that was found out later. -/
def DbOp.Looks : DbOp → Prop
  | .findOperation _ | .findNodeOperation _ | .listNonTerminal | .listNonTerminalNode
  | .findNonTerminalForService _ _ | .findNonTerminalForNode _ _
  | .findNonTerminalAffectingService _ _ | .findDeploymentByOperation _
  | .findDeploymentByRollbackOperation _ | .findLatestSuccessfulForRelease _ _
  | .findDeploymentTarget _ | .findRelease _ | .findRegistration _ | .findMaintenance _
  | .backfillTargetRuntimeSpecHash _ _ | .audit _ _ => True
  | _ => False

/-- Requests that change neither Docker nor the status of anything. -/
def ControlOp.Looks : ControlOp → Prop
  | .db op => op.Looks
  | .now | .sleep _ | .randomUUID | .agent _ | .selectMutationAgent | .readBarrier _
  | .assertAllowed _ | .fetch _ _ | .hang => True
  | _ => False

/-- Statements of the dispatch journal. -/
def ControlOp.Journals : ControlOp → Prop
  | .db (.linkAdmission _ _ _) | .db (.insertDispatch _) | .db (.beginSend _)
  | .db (.transitionDispatch _ _ _) => True
  | _ => False

/-- Requests of verification and recovery. -/
def ControlOp.Works : ControlOp → Prop
  | .db (.findDeployment _) | .db (.changeOperation _ _) | .db (.changeNodeOperation _ _)
  | .db (.settle _ _ _) => True
  | op => op.Looks

/-- Requests of the callback of a call, apart from its dispatch. -/
def ControlOp.Mutates : ControlOp → Prop
  | .db (.createOperation _) | .db (.createNodeOperation _) | .db (.createDeployment _ _ _)
  | .db (.createRollback _ _) => True
  | op => op.Works

/-- Requests that neither send a mutation nor write to the dispatch journal. -/
def ControlOp.Apart : ControlOp → Prop
  | .send _ => False
  | op => ¬ op.Journals

variable {op : ControlOp} {α : Type} {p : ControlProgram DeploymentRecord}

theorem ControlOp.Looks.works (h : op.Looks) : op.Works := by
  unfold ControlOp.Works
  split <;> trivial

theorem ControlOp.Works.mutates (h : op.Works) : op.Mutates := by
  unfold ControlOp.Mutates
  split <;> trivial

theorem ControlOp.Looks.mutates (h : op.Looks) : op.Mutates := h.works.mutates

theorem ControlOp.Mutates.apart (h : op.Mutates) : op.Apart := by
  cases op with
  | db op => cases op <;> first | exact fun hj => hj | exact absurd h id
  | send request => exact absurd h id
  | _ => exact fun hj => hj

section

variable {allowed : ControlOp → Prop}

@[simp] theorem uses_query {op : DbOp} : (query op).Uses allowed ↔ allowed (.db op) :=
  ⟨And.left, fun h => ⟨h, fun _ => uses_ofExcept _⟩⟩

@[simp] theorem uses_askAgent {read : AgentRead} :
    (askAgent read).Uses allowed ↔ allowed (.agent read) :=
  ⟨And.left, fun h => ⟨h, fun _ => uses_ofExcept _⟩⟩

theorem hang_uses (h : allowed .hang) : (hang : ControlProgram α).Uses allowed :=
  ⟨h, fun answer => Empty.elim answer⟩

end

theorem works_of_looks {p : ControlProgram α} (h : p.Uses ControlOp.Looks) :
    p.Uses ControlOp.Works :=
  h.mono fun _ => ControlOp.Looks.works

/-! ## Small programs -/

theorem now_looks : now.Uses ControlOp.Looks := uses_perform.mpr trivial

theorem sleep_looks {ms : Nat} : (sleep ms).Uses ControlOp.Looks := uses_perform.mpr trivial

theorem randomUUID_looks : randomUUID.Uses ControlOp.Looks := uses_perform.mpr trivial

theorem inspectService_looks {id : String} : (inspectService id).Uses ControlOp.Looks :=
  uses_askAgent.mpr trivial

variable {id digest : String} {config health : HealthCheckConfig} {deadline : Int}
  {fuel version : Nat}

theorem inspectNode_looks : (inspectNode id).Uses ControlOp.Looks :=
  uses_askAgent.mpr trivial

theorem checkServicePlacement_looks : (checkServicePlacement id).Uses ControlOp.Looks :=
  uses_askAgent.mpr trivial

theorem assertRegistered_looks {settings : Settings} {clusterId : String} :
    (assertRegistered settings clusterId).Uses ControlOp.Looks := by
  unfold assertRegistered
  split
  · exact uses_throw
  split
  · exact uses_pure
  refine Uses.bind (Uses.attempt (uses_query.mpr trivial)) fun answer => ?_
  rcases answer with e | _ | record
  · exact uses_throw
  · exact uses_throw
  · change Uses _ (if _ then _ else _)
    split <;> simp

theorem assertAvailable_looks {serviceId : String} {input : CapacityCheckRequest} :
    (assertAvailable serviceId input).Uses ControlOp.Looks := by
  refine Uses.bind (Uses.attempt (uses_askAgent.mpr trivial)) fun answer => ?_
  split <;> simp

/-! ## Verification of deployments and rollbacks -/

theorem stableStart_looks {since : Option Int} : (stableStart since).Uses ControlOp.Looks := by
  cases since with
  | none => exact now_looks
  | some since => exact uses_pure

theorem healthCheck_looks : (healthCheck config).Uses ControlOp.Looks :=
  ⟨trivial, fun _ => uses_pure⟩

theorem healthLoop_looks {assertConverged : ControlProgram Unit}
    (hguard : assertConverged.Uses ControlOp.Looks) (since : Option Int) (failures : Nat) :
    (healthLoop config assertConverged deadline fuel since failures).Uses ControlOp.Looks := by
  induction fuel generalizing since failures with
  | zero => exact hang_uses trivial
  | succ fuel ih =>
    refine now_looks.bind fun t => ?_
    split
    · refine hguard.bind fun _ => healthCheck_looks.bind fun ok => ?_
      split
      · refine hguard.bind fun _ => stableStart_looks.bind fun _ => now_looks.bind fun t => ?_
        split
        · exact hguard.bind fun _ => uses_pure
        · exact sleep_looks.bind fun _ => ih _ _
      · split
        · exact uses_throw
        · exact sleep_looks.bind fun _ => ih _ _
    · exact uses_throw

theorem healthVerify_looks {assertConverged : ControlProgram Unit}
    (hguard : assertConverged.Uses ControlOp.Looks) :
    (healthVerify config assertConverged fuel).Uses ControlOp.Looks := by
  refine Uses.bind ⟨trivial, fun _ => uses_ofExcept _⟩ fun _ => now_looks.bind fun t => ?_
  exact healthLoop_looks hguard none 0

namespace Verification

variable (v : Verification) (plan : ServiceMutationPlan)

theorem classifyConvergence_looks (current : ServiceDetailResponse) :
    (v.classifyConvergence plan current).Uses ControlOp.Looks := by
  unfold classifyConvergence
  split
  · refine checkServicePlacement_looks.attempt.bind fun placement => ?_
    split <;> simp
  · exact uses_pure

theorem assertConverged_looks : (v.assertConverged plan).Uses ControlOp.Looks := by
  refine inspectService_looks.attempt.bind fun answer => ?_
  split
  · exact uses_throw
  · refine (v.classifyConvergence_looks plan _).bind fun decision => ?_
    split <;> simp

/-- Whatever the verification concludes is of this kind. -/
structure Concludes (kind : Settlement → Prop) : Prop where
  verdict : ∀ stage decision settlement, v.verdict stage decision = some settlement →
    kind settlement
  healthFailed : ∀ message, kind (v.healthFailed message)
  complete : ∀ version, kind (v.complete version)
  unavailable : ∀ message, kind (v.unavailable message)
  timeout : kind v.timeout

end Verification

/-- The statement that ends a verification. -/
def Settles (kind : Settlement → Prop) (deploymentId operationId : String) (op : ControlOp) :
    Prop :=
  ∃ settlement, kind settlement ∧ op = .db (.settle settlement deploymentId operationId)

/-- After its verdict a verification reads the deployment once more. -/
def ReadsBack (op : ControlOp) : Prop :=
  ∃ id, op = .db (.findDeployment id)

section

variable {A : ControlOp → Prop} {kind : Settlement → Prop} {deploymentId operationId : String}

theorem requireDeployment_readsBack : (requireDeployment id).Uses ReadsBack := by
  refine Uses.bind (uses_query.mpr ⟨id, rfl⟩) fun found => ?_
  cases found with
  | none => exact uses_throw
  | some d => exact uses_pure

theorem conclude_until {settlement : Settlement} (h : kind settlement) :
    (conclude settlement deploymentId operationId).UsesUntil A
      (Settles kind deploymentId operationId) ReadsBack :=
  .inr ⟨⟨settlement, h, rfl⟩, fun answer =>
    (uses_ofExcept answer).bind fun _ => requireDeployment_readsBack⟩

end

namespace Verification

variable {v : Verification} {plan : ServiceMutationPlan} {kind : Settlement → Prop}
  {deploymentId operationId : String}

/-- A loop that only looks, until it writes its verdict. -/
abbrev Ends (kind : Settlement → Prop) (deploymentId operationId : String)
    (p : ControlProgram DeploymentRecord) : Prop :=
  p.UsesUntil ControlOp.Looks (Settles kind deploymentId operationId) ReadsBack

theorem finish_ends (hv : v.Concludes kind)
    {retry : Option String → ControlProgram DeploymentRecord}
    (hretry : ∀ e, Ends kind deploymentId operationId (retry e)) :
    Ends kind deploymentId operationId (v.finish plan deploymentId operationId retry) := by
  refine inspectService_looks.attempt.bind_until fun answer => ?_
  split
  · exact sleep_looks.bind_until fun _ => hretry _
  · refine (v.classifyConvergence_looks plan _).bind_until fun decision => ?_
    split
    · exact sleep_looks.bind_until fun _ => hretry _
    · split
      · next settlement hverdict => exact conclude_until (hv.verdict _ _ settlement hverdict)
      · exact conclude_until (hv.complete _)

theorem verifyLoop_ends (hv : v.Concludes kind) (lastError : Option String) :
    Ends kind deploymentId operationId
      (v.verifyLoop plan health deploymentId operationId deadline fuel lastError) := by
  induction fuel generalizing lastError with
  | zero => exact (hang_uses trivial).until
  | succ fuel ih =>
    have hretry : ∀ e, Ends kind deploymentId operationId
        ((sleep VERIFY_INTERVAL_MS).bind fun _ =>
          v.verifyLoop plan health deploymentId operationId deadline fuel e) :=
      fun e => sleep_looks.bind_until fun _ => ih e
    refine now_looks.bind_until fun t => ?_
    split
    · refine inspectService_looks.attempt.bind_until fun answer => ?_
      split
      · exact hretry _
      · refine (v.classifyConvergence_looks plan _).bind_until fun decision => ?_
        split
        · next settlement hverdict => exact conclude_until (hv.verdict _ _ settlement hverdict)
        · split
          · refine (healthVerify_looks (v.assertConverged_looks plan)).attempt.bind_until
              fun outcome => ?_
            split
            · exact finish_ends hv ih
            · exact hretry _
            · split
              · next settlement hverdict =>
                exact conclude_until (hv.verdict _ _ settlement hverdict)
              · exact hretry _
            · exact conclude_until (hv.healthFailed _)
          · exact hretry _
    · split
      · split
        · exact conclude_until hv.timeout
        · exact conclude_until (hv.unavailable _)
      · exact conclude_until hv.timeout

end Verification

/-! ### What is written for deployments and for rollbacks -/

structure DeploymentVerdicts (kind : Settlement → Prop) : Prop where
  attention : ∀ code message, kind (.attention code message)
  fail : ∀ code message, kind (.fail code message)
  verificationPending : ∀ code message, kind (.verificationPending code message)
  deployed : ∀ version, kind (.deployed version)

structure RollbackVerdicts (kind : Settlement → Prop) : Prop where
  attention : ∀ code message, kind (.rollbackAttention code message)
  failed : ∀ code message, kind (.rollbackFailed code message)
  verificationPending : ∀ code message, kind (.rollbackVerificationPending code message)
  rolledBack : ∀ version, kind (.rolledBack version)

section

variable {kind : Settlement → Prop} {deploymentId operationId : String}

theorem DeploymentVerdicts.concludes (h : DeploymentVerdicts kind) {plan : ServiceMutationPlan}
    {digest : String} (noOp : Bool) :
    (deploymentVerification plan digest noOp).Concludes kind where
  verdict stage decision settlement hs := by
    cases stage <;> cases decision <;> cases hs <;> first | exact h.attention _ _ | exact h.fail _ _
  healthFailed _ := h.fail _ _
  complete := h.deployed
  unavailable _ := h.attention _ _
  timeout := h.verificationPending _ _

theorem RollbackVerdicts.concludes (h : RollbackVerdicts kind) {plan : ServiceMutationPlan}
    {digest : String} : (rollbackVerification plan digest).Concludes kind where
  verdict stage decision settlement hs := by
    cases stage <;> cases decision <;> cases hs <;>
      first | exact h.attention _ _ | exact h.failed _ _
  healthFailed _ := h.failed _ _
  complete := h.rolledBack
  unavailable _ := h.attention _ _
  timeout := h.verificationPending _ _

theorem verifyAndComplete_ends (h : DeploymentVerdicts kind) {plan : ServiceMutationPlan}
    {noOp : Bool} :
    Verification.Ends kind deploymentId operationId
      (verifyAndComplete deploymentId operationId plan digest noOp health fuel) :=
  now_looks.bind_until fun _ =>
    Verification.verifyLoop_ends (h.concludes noOp) none

theorem verifyRollbackAndComplete_ends (h : RollbackVerdicts kind) {plan : ServiceMutationPlan} :
    Verification.Ends kind deploymentId operationId
      (verifyRollbackAndComplete deploymentId operationId plan digest health fuel) :=
  now_looks.bind_until fun _ =>
    Verification.verifyLoop_ends h.concludes none

end

/-! ## Reconciliation of deployments and rollbacks -/

/-- A request that looks, or records that the target was seen. -/
def LooksOrMarks (mark : Settlement → Prop) (deploymentId operationId : String) (op : ControlOp) :
    Prop :=
  op.Looks ∨ Settles mark deploymentId operationId op

/-- Look and mark until the verdict is written. -/
abbrev Reconciles (mark kind : Settlement → Prop) (deploymentId operationId : String)
    (p : ControlProgram DeploymentRecord) : Prop :=
  p.UsesUntil (LooksOrMarks mark deploymentId operationId)
    (Settles kind deploymentId operationId) ReadsBack

section

variable {mark kind : Settlement → Prop} {deploymentId operationId : String}
  {operation compatible : OperationRecord} {deployment : DeploymentRecord}

theorem Verification.Ends.reconciles (h : Verification.Ends kind deploymentId operationId p) :
    Reconciles mark kind deploymentId operationId p :=
  UsesUntil.mono (fun _ => .inl) (fun _ hop => hop) h

theorem looksOrMarks {p : ControlProgram α} (h : p.Uses ControlOp.Looks) :
    p.Uses (LooksOrMarks mark deploymentId operationId) :=
  h.mono fun _ => .inl

theorem settle_marks {settlement : Settlement} (h : mark settlement) :
    (settle settlement deploymentId operationId).Uses
      (LooksOrMarks mark deploymentId operationId) :=
  uses_query.mpr (.inr ⟨settlement, h, rfl⟩)

theorem legacyIntentHasExternalConflict_looks {operation : OperationRecord} :
    (legacyIntentHasExternalConflict operation).Uses ControlOp.Looks := by
  unfold legacyIntentHasExternalConflict
  split
  · exact uses_pure
  · refine inspectService_looks.attempt.bind fun answer => ?_
    split <;> simp

theorem replan_looks {operation : OperationRecord} :
    (replan operation version).Uses ControlOp.Looks := by
  unfold replan
  split
  · refine Uses.bind (Uses.attempt (uses_askAgent.mpr trivial)) fun answer => ?_
    cases answer <;> simp
  · refine Uses.bind (Uses.attempt (uses_askAgent.mpr trivial)) fun answer => ?_
    cases answer <;> simp
  · exact uses_pure

theorem recordRuntimeSpecHash_looks {operation : OperationRecord} (hash : Option String) :
    (recordRuntimeSpecHash operation hash).Uses ControlOp.Looks := by
  cases hash with
  | none => exact uses_pure
  | some hash =>
    simp only [recordRuntimeSpecHash]
    split
    · exact uses_pure
    · exact Uses.bind (uses_query.mpr trivial) fun _ => uses_pure

theorem hydrateLegacyRuntimeFingerprint_looks {operation : OperationRecord} :
    (hydrateLegacyRuntimeFingerprint operation).Uses ControlOp.Looks := by
  unfold hydrateLegacyRuntimeFingerprint
  split
  · exact uses_pure
  split
  · exact uses_pure
  refine inspectService_looks.attempt.bind fun answer => ?_
  split
  · exact uses_pure
  · refine Uses.bind ?_ recordRuntimeSpecHash_looks
    split
    · exact uses_pure
    · exact replan_looks

/-- The completed operation is the same operation. -/
theorem hydrateLegacyRuntimeFingerprint_returns {operation : OperationRecord} :
    (hydrateLegacyRuntimeFingerprint operation).Returns
      fun found => ∀ compatible, found = some compatible → compatible.id = operation.id := by
  have hnone : (.pure none : ControlProgram (Option OperationRecord)).Returns
      fun found => ∀ compatible, found = some compatible → compatible.id = operation.id :=
    returns_pure.mpr fun _ h => by cases h
  unfold hydrateLegacyRuntimeFingerprint
  split
  · refine returns_pure.mpr fun compatible h => ?_
    cases h
    rfl
  split
  · exact hnone
  refine Returns.bind returns_true fun answer _ => ?_
  split
  · exact hnone
  · refine Returns.bind returns_true fun hash _ => ?_
    cases hash with
    | none => exact hnone
    | some hash =>
      simp only [recordRuntimeSpecHash]
      split
      · exact hnone
      · refine Returns.bind returns_true fun _ _ => returns_pure.mpr fun compatible h => ?_
        cases h
        rfl

/-- The kinds of what both reconciliations write when they cannot start. -/
structure ReconciliationTexts.Writes (texts : ReconciliationTexts) (kind : Settlement → Prop) :
    Prop where
  legacyConflict : kind texts.legacyConflict
  legacyPending : kind texts.legacyPending
  missingTarget : kind texts.missingTarget
  invalidImage : kind texts.invalidImage

theorem withReconcilableIntent_reconciles {texts : ReconciliationTexts} (htexts : texts.Writes kind)
    {observe : OperationRecord → String → ControlProgram DeploymentRecord}
    (hobserve : ∀ compatible digest, compatible.id = operation.id →
      Reconciles mark kind deploymentId operation.id (observe compatible digest)) :
    Reconciles mark kind deploymentId operation.id
      (withReconcilableIntent texts operation deploymentId observe) := by
  refine (looksOrMarks legacyIntentHasExternalConflict_looks).bind_until fun conflict => ?_
  split
  · exact conclude_until htexts.legacyConflict
  · refine (looksOrMarks hydrateLegacyRuntimeFingerprint_looks).bind_returns
      hydrateLegacyRuntimeFingerprint_returns fun found hfound => ?_
    cases found with
    | none =>
      simp only [observeIntent]
      split
      · exact conclude_until htexts.legacyPending
      · exact conclude_until htexts.missingTarget
    | some compatible =>
      simp only [observeIntent]
      split
      · split
        · exact conclude_until htexts.invalidImage
        · exact hobserve compatible _ (hfound compatible rfl)
      · exact conclude_until htexts.missingTarget

theorem resumeVerification_reconciles (h : DeploymentVerdicts kind)
    (hmark : ∀ version, mark (.markVerifying version)) :
    Reconciles mark kind deployment.id compatible.id
      (resumeVerification compatible deployment digest version fuel) := by
  have hverify : Reconciles mark kind deployment.id compatible.id (verifyAndComplete deployment.id
      compatible.id compatible.plan digest deployment.noOp deployment.health fuel) :=
    (verifyAndComplete_ends h).reconciles
  unfold resumeVerification
  split
  · exact (settle_marks (hmark version)).bind_until fun _ => hverify
  · exact hverify

theorem reconcileLoop_reconciles (h : DeploymentVerdicts kind)
    (hmark : ∀ version, mark (.markVerifying version)) (hid : compatible.id = operation.id)
    {initialError : Option String} (state : ReconcileState) :
    Reconciles mark kind deployment.id operation.id
      (reconcileLoop operation compatible deployment digest initialError deadline fuel state) := by
  induction fuel generalizing state with
  | zero => exact (looksOrMarks (hang_uses trivial)).until
  | succ fuel ih =>
    refine (looksOrMarks now_looks).bind_until fun t => ?_
    split
    · refine (looksOrMarks inspectService_looks.attempt).bind_until fun answer => ?_
      split
      · exact (looksOrMarks sleep_looks).bind_until fun _ => ih _
      · simp only [hid]
        split
        · exact (looksOrMarks sleep_looks).bind_until fun _ => ih _
        · exact conclude_until (h.attention _ _)
        · exact conclude_until (h.fail _ _)
        · exact hid ▸ resumeVerification_reconciles h hmark
        · exact (looksOrMarks sleep_looks).bind_until fun _ => ih _
        · exact conclude_until (h.attention _ _)
    · refine conclude_until ?_
      unfold reconcileTimeout
      split
      · exact h.verificationPending _ _
      · split <;> exact h.attention _ _

theorem deploymentTexts_writes (h : DeploymentVerdicts kind) : deploymentTexts.Writes kind where
  legacyConflict := h.attention _ _
  legacyPending := h.verificationPending _ _
  missingTarget := h.attention _ _
  invalidImage := h.attention _ _

theorem reconcileLocked_reconciles (h : DeploymentVerdicts kind)
    (hmark : ∀ version, mark (.markVerifying version)) {operation : OperationRecord}
    {deployment : DeploymentRecord} {initialError : Option String} {fuel : Nat} :
    Reconciles mark kind deployment.id operation.id
      (reconcileLocked operation deployment initialError fuel) :=
  withReconcilableIntent_reconciles (deploymentTexts_writes h) fun _ _ hid =>
    (looksOrMarks now_looks).bind_until fun _ =>
      reconcileLoop_reconciles h hmark hid _

theorem resumeRollbackVerification_reconciles (h : RollbackVerdicts kind)
    (hmark : ∀ version, mark (.markRollbackVerifying version)) :
    Reconciles mark kind deployment.id compatible.id
      (resumeRollbackVerification compatible deployment digest version fuel) := by
  have hverify : Reconciles mark kind deployment.id compatible.id
      (verifyRollbackAndComplete deployment.id compatible.id compatible.plan digest
        deployment.health fuel) := (verifyRollbackAndComplete_ends h).reconciles
  unfold resumeRollbackVerification
  split
  · exact (settle_marks (hmark version)).bind_until fun _ => hverify
  · exact hverify

theorem reconcileRollbackLoop_reconciles (h : RollbackVerdicts kind)
    (hmark : ∀ version, mark (.markRollbackVerifying version)) {initialError : Option String}
    (lastError : Option String) :
    Reconciles mark kind deployment.id compatible.id
      (reconcileRollbackLoop compatible deployment digest initialError deadline fuel
        lastError) := by
  induction fuel generalizing lastError with
  | zero => exact (looksOrMarks (hang_uses trivial)).until
  | succ fuel ih =>
    refine (looksOrMarks now_looks).bind_until fun t => ?_
    split
    · refine (looksOrMarks inspectService_looks.attempt).bind_until fun answer => ?_
      split
      · exact (looksOrMarks sleep_looks).bind_until fun _ => ih _
      · refine (looksOrMarks (Verification.classifyConvergence_looks _ _ _)).bind_until
          fun decision => ?_
        split
        · exact resumeRollbackVerification_reconciles h hmark
        · exact conclude_until (h.failed _ _)
        · exact conclude_until (h.attention _ _)
        · exact (looksOrMarks sleep_looks).bind_until fun _ => ih _
    · refine conclude_until ?_
      unfold reconcileRollbackTimeout
      split
      · exact h.attention _ _
      · exact h.verificationPending _ _

theorem rollbackTexts_writes (h : RollbackVerdicts kind) : rollbackTexts.Writes kind where
  legacyConflict := h.attention _ _
  legacyPending := h.verificationPending _ _
  missingTarget := h.attention _ _
  invalidImage := h.attention _ _

theorem reconcileRollbackLocked_reconciles (h : RollbackVerdicts kind)
    (hmark : ∀ version, mark (.markRollbackVerifying version)) {operation : OperationRecord}
    {deployment : DeploymentRecord} {initialError : Option String} {fuel : Nat} :
    Reconciles mark kind deployment.id operation.id
      (reconcileRollbackLocked operation deployment initialError fuel) :=
  withReconcilableIntent_reconciles (rollbackTexts_writes h) fun _ _ hid =>
    (looksOrMarks now_looks).bind_until fun _ =>
      hid ▸ reconcileRollbackLoop_reconciles h hmark _

/-- A reconciliation writes settlements of its own deployment, and nothing else. -/
theorem Reconciles.works (h : Reconciles mark kind deploymentId operationId p) :
    p.Uses ControlOp.Works := by
  refine h.uses (fun op hop => ?_) (fun op hop => ?_) fun op hop => ?_
  · rcases hop with hlooks | ⟨_, _, rfl⟩
    · exact hlooks.works
    · trivial
  · obtain ⟨_, _, rfl⟩ := hop
    trivial
  · obtain ⟨_, rfl⟩ := hop
    trivial

theorem Verification.Ends.works (h : Verification.Ends kind deploymentId operationId p) :
    p.Uses ControlOp.Works := by
  have hr : Reconciles (fun _ => False) kind deploymentId operationId p := h.reconciles
  exact hr.works

end

end Docklane.Control
