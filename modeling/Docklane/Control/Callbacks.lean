import Docklane.Control.Footprint
import Docklane.Control.Machine

/-!
# What the callbacks of the calls ask for

A callback makes requests of its own and hands at most one mutation to `dispatch`, which journals it
and sends it. Recovery and verification send nothing.
-/

namespace Docklane.Control

open Concurrent Concurrent.Program

/-! ## One dispatch -/

/-- A request that looks, or writes to the journal. -/
def ControlOp.LooksOrJournals (op : ControlOp) : Prop := op.Looks ∨ op.Journals

/-- The mutation request for this row. -/
def ControlOp.Sends (key : OperationKey) (op : ControlOp) : Prop :=
  ∃ request : MutationRequest, request.key = key ∧ op = .send request

variable {α : Type} {request : MutationRequest} {active admission : Option ActiveAdmission}
  {operationId serviceId code message nodeId deploymentId : String} {operation : OperationRecord}
  {fuel : Nat} {target : DeploymentTarget} {release previousRelease : Release}

section

variable {key : OperationKey}

/-- Look and journal until the request is sent, and journal the outcome. -/
abbrev SendsOnce {α : Type} (key : OperationKey) (p : ControlProgram α) : Prop :=
  p.UsesUntil ControlOp.LooksOrJournals (ControlOp.Sends key) ControlOp.Journals

/-- As `SendsOnce`, for exactly this request. -/
abbrev SendsOnly {α : Type} (request : MutationRequest) (p : ControlProgram α) : Prop :=
  p.UsesUntil ControlOp.LooksOrJournals (· = .send request) ControlOp.Journals

variable {p : ControlProgram α} {A : ControlOp → Prop}

theorem SendsOnly.once (h : SendsOnly request p) : SendsOnce request.key p :=
  UsesUntil.mono (fun _ hop => hop) (fun _ hop => ⟨request, rfl, hop⟩) h

theorem looksOrJournals (h : p.Uses ControlOp.Looks) : p.Uses ControlOp.LooksOrJournals :=
  h.mono fun _ => .inl

theorem linkActiveAdmission_journals {clusterId operationId : String} :
    (linkActiveAdmission active clusterId operationId).Uses ControlOp.Journals := by
  unfold linkActiveAdmission
  split
  · exact uses_pure
  · split
    · refine Uses.bind (uses_query.mpr trivial) fun linked => ?_
      split <;> simp
    · exact uses_pure

theorem journalPrepare_uses {admission : MutationAdmission} {agentId operationId : String} :
    (journalPrepare active admission agentId operationId).Uses ControlOp.LooksOrJournals := by
  refine (looksOrJournals randomUUID_looks).bind fun id => ?_
  refine Uses.bind (Uses.attempt (Uses.bind ?_ fun _ => uses_query.mpr (.inr trivial)))
    fun outcome => ?_
  · exact linkActiveAdmission_journals.mono fun _ => .inr
  · split <;> simp

theorem journalBeginSend_uses {d : Dispatch} :
    (journalBeginSend d).Uses ControlOp.LooksOrJournals := by
  refine Uses.bind (Uses.attempt (uses_query.mpr (.inr trivial))) fun answer => ?_
  split
  · exact uses_throw
  · split <;> simp

theorem journalTransition_journals (id : String) (source target : DispatchPhase) :
    (journalTransition id source target).Uses ControlOp.Journals := by
  refine Uses.bind (uses_query.mpr trivial) fun changed => ?_
  split <;> simp

theorem journalSend_sendsOnly {d : Dispatch} : SendsOnly request (journalSend d request) := by
  refine .inr ⟨rfl, fun answer => ?_⟩
  cases answer with
  | error e =>
    exact (journalTransition_journals d.id .SENDING _).attempt.bind fun _ => uses_throw
  | ok response =>
    exact (journalTransition_journals d.id .SENDING .ACKNOWLEDGED).bind fun _ => uses_pure

theorem journalExecute_sendsOnly (active : Option ActiveAdmission) (admission : MutationAdmission)
    (request : MutationRequest) : SendsOnly request (journalExecute active admission request) := by
  refine journalPrepare_uses.attempt.bind_until fun prepared => ?_
  split
  · exact uses_throw.until
  · exact uses_throw.until
  · next d =>
    refine journalBeginSend_uses.attempt.bind_until fun promoted => ?_
    split
    · refine Uses.until (Uses.bind (Uses.attempt ?_) fun _ => uses_throw)
      exact (journalTransition_journals d.id .PREPARED .REJECTED).mono fun _ => .inr
    · exact journalSend_sendsOnly

theorem sendMutation_sendsOnly : SendsOnly request (sendMutation request) :=
  .inr ⟨rfl, fun answer => uses_ofExcept answer⟩

theorem assertBarrierOpen_looks (agentId expectedClusterId : String) (generation : Nat) :
    (assertBarrierOpen agentId expectedClusterId generation).Uses ControlOp.Looks := by
  refine ⟨trivial, fun answer => ?_⟩
  cases answer with
  | error e => exact uses_throw
  | ok barrier =>
    change Uses _ (if _ then _ else _)
    split <;> simp

theorem mutationRequest_sendsOnce {admission : Option MutationAdmission} {mutation : Mutation} :
    SendsOnce (mutation.table, operationId)
      (mutationRequest active admission operationId mutation) := by
  refine .inl ⟨.inl trivial, fun answer => ?_⟩
  cases answer with
  | error e => exact uses_throw.until
  | ok agent =>
    change SendsOnce _ (if _ then _ else _)
    split
    · exact uses_throw.until
    · cases admission with
      | none => exact sendMutation_sendsOnly.once
      | some admission =>
        exact (looksOrJournals (assertBarrierOpen_looks _ _ _)).bind_until fun _ =>
          (journalExecute_sendsOnly active admission
            ⟨agent.agentId, agent.referenceClusterId, some admission.generation, operationId,
              mutation⟩).once

variable {settings : Settings}

/-- At most one request is sent, for the row of the operation. -/
theorem dispatch_sendsOnce {mutation : Mutation} :
    SendsOnce (mutation.table, operationId)
      (dispatch settings active operationId mutation) := by
  unfold dispatch
  split
  · exact uses_throw.until
  · refine (looksOrJournals assertRegistered_looks).bind_until fun _ => ?_
    split
    · refine Uses.bind_until (looksOrJournals (Uses.attempt (uses_query.mpr trivial)))
        fun answer => ?_
      rcases answer with e | _ | row
      · exact uses_throw.until
      · exact uses_throw.until
      · change SendsOnce _ (if _ then _ else _)
        split
        · exact mutationRequest_sendsOnce
        · exact uses_throw.until
    · exact mutationRequest_sendsOnce

/-- The dispatches of a process. -/
inductive Dispatches (settings : Settings) : (β : Type) → ControlProgram β → Prop where
  | dispatch (active operationId mutation) :
      Dispatches settings _ (dispatch settings active operationId mutation)

/-- Requests of the kind `A`, and whole dispatches between them. -/
abbrev Asks (settings : Settings) (A : ControlOp → Prop) {α : Type} (p : ControlProgram α) : Prop :=
  p.Built A (Dispatches settings)

theorem uses_of_looks (hworks : ∀ op : ControlOp, op.Works → A op) (h : p.Uses ControlOp.Looks) :
    p.Uses A :=
  h.mono fun _ hop => hworks _ hop.works

theorem asks_of_works (hworks : ∀ op : ControlOp, op.Works → A op) (h : p.Uses ControlOp.Works) :
    Asks settings A p :=
  .of_uses (h.mono hworks)

theorem asks_of_looks (hworks : ∀ op : ControlOp, op.Works → A op) (h : p.Uses ControlOp.Looks) :
    Asks settings A p :=
  .of_uses (uses_of_looks hworks h)

/-- What the recovery of scale, restart and the node operations is built from: requests that look,
changes of the status that claim no success, and whole verifications. -/
structure Pieces (change : String → OperationChange → DbOp) {α : Type}
    (verify : String → Nat → ControlProgram α) (A : ControlOp → Prop)
    (J : (β : Type) → ControlProgram β → Prop) : Prop where
  looks : ∀ op : ControlOp, op.Looks → A op
  change : ∀ id c, c.status ≠ .SUCCESS → A (.db (change id c))
  verify : ∀ id fuel, (verify id fuel).Built A J

theorem Pieces.built_of_looks {change : String → OperationChange → DbOp} {α β : Type}
    {verify : String → Nat → ControlProgram α} {J : (β : Type) → ControlProgram β → Prop}
    (hpieces : Pieces change verify A J) {p : ControlProgram β} (h : p.Uses ControlOp.Looks) :
    p.Built A J :=
  .of_uses (h.mono hpieces.looks)

end

/-! ## Scale and restart -/

namespace MutationService

theorem requireOperation_looks {id : String} : (requireOperation id).Uses ControlOp.Looks := by
  refine Uses.bind (uses_query.mpr trivial) fun found => ?_
  cases found <;> simp

/-- A request that looks, or writes the status of this row. -/
def Changes (id : String) (op : ControlOp) : Prop :=
  op.Looks ∨ ∃ change, op = .db (.changeOperation id change)

theorem Changes.works {id : String} {op : ControlOp} (h : Changes id op) : op.Works := by
  rcases h with hlooks | ⟨_, rfl⟩
  · exact hlooks.works
  · trivial

theorem verifyLoop_looks {deadline : Int} (lastError : Option String) :
    (verifyLoop operation deadline fuel lastError).Uses ControlOp.Looks := by
  induction fuel generalizing lastError with
  | zero => exact hang_uses trivial
  | succ fuel ih =>
    refine now_looks.bind fun t => ?_
    split
    · refine inspectService_looks.attempt.bind fun answer => ?_
      split
      · exact sleep_looks.bind fun _ => ih _
      · split
        · exact uses_pure
        · exact uses_pure
        · exact uses_pure
        · exact sleep_looks.bind fun _ => ih _
    · exact uses_pure

theorem verify_looks : (verify operation fuel).Uses ControlOp.Looks :=
  now_looks.bind fun _ => verifyLoop_looks none

theorem verifyAndCompleteLocked_changes :
    (verifyAndCompleteLocked operation fuel).Uses (Changes operation.id) :=
  (verify_looks.mono fun _ => .inl).bind fun _ =>
    Uses.bind (uses_query.mpr (.inr ⟨_, rfl⟩)) fun _ =>
      requireOperation_looks.mono fun _ => .inl

/-- The verification of an operation that is read again first. -/
abbrev verifyRefreshed (id : String) (fuel : Nat) : ControlProgram OperationRecord :=
  (requireOperation id).bind fun refreshed => verifyAndCompleteLocked refreshed fuel

theorem verifyRefreshed_works {id : String} : (verifyRefreshed id fuel).Uses ControlOp.Works :=
  (works_of_looks requireOperation_looks).bind fun _ =>
    verifyAndCompleteLocked_changes.mono fun _ => Changes.works

variable {clusterId : String} {kind : Kind}

theorem assertNoNodeOperationConflict_looks {clusterId serviceId : String} :
    (assertNoNodeOperationConflict clusterId serviceId).Uses ControlOp.Looks := by
  refine Uses.bind (uses_query.mpr trivial) fun found => ?_
  cases found <;> simp

section Pieces

variable {settings : Settings} {A : ControlOp → Prop} {J : (β : Type) → ControlProgram β → Prop}
  (hpieces : Pieces .changeOperation verifyRefreshed A J)

include hpieces

theorem giveUp_built : (giveUp operation code message).Built A J :=
  Built.bind (.of_uses (uses_query.mpr (hpieces.change _ _ nofun))) fun _ =>
    hpieces.built_of_looks requireOperation_looks

theorem resumeVerification_built {version fuel : Nat} :
    (resumeVerification operation version fuel).Built A J := by
  unfold resumeVerification
  split
  · refine Built.bind (.of_uses (uses_query.mpr (hpieces.change _ _ nofun))) fun _ => ?_
    exact Built.bind (.of_uses (uses_query.mpr (hpieces.looks _ trivial))) fun _ =>
      hpieces.verify operation.id fuel
  · exact hpieces.verify operation.id fuel

theorem reconcileLocked_built : (reconcileLocked operation fuel).Built A J := by
  unfold reconcileLocked
  split
  · exact giveUp_built hpieces
  · refine (hpieces.built_of_looks inspectService_looks).attempt.bind fun answer => ?_
    split
    · exact giveUp_built hpieces
    · split
      · exact resumeVerification_built hpieces
      · split <;> exact giveUp_built hpieces

theorem resolvePriorServiceOperation_built {clusterId serviceId : String} :
    (resolvePriorServiceOperation clusterId serviceId fuel).Built A J := by
  refine Built.bind (.of_uses (uses_query.mpr (hpieces.looks _ trivial))) fun found => ?_
  cases found with
  | none => exact .pure _
  | some prior =>
    change Built _ _ (if _ then _ else _)
    split
    · exact .throw _
    · refine (reconcileLocked_built hpieces).bind fun reconciled => ?_
      split
      · exact .pure _
      · exact .throw _

theorem planAndPersist_built (hplan : ∀ id, (kind.plan id).Uses ControlOp.Looks)
    {input : MutationInput}
    (hcreate : ∀ plan, A (.db (.createOperation (intent kind input clusterId plan)))) :
    (planAndPersist kind input clusterId serviceId).Built A J := by
  refine (hpieces.built_of_looks (hplan serviceId)).attempt.bind fun planned => ?_
  split
  · exact .throw _
  · refine (hpieces.built_of_looks inspectService_looks).bind fun before => ?_
    split
    · refine (hpieces.built_of_looks assertAvailable_looks).bind fun _ => ?_
      exact Built.bind (.of_uses (uses_query.mpr (hcreate _))) fun _ => .pure _
    · exact .throw _

variable (hdispatch : ∀ active operationId mutation,
  Built A J (dispatch settings active operationId mutation))

include hdispatch

theorem sendAndRecord_built (plan : ServiceMutationPlan) :
    (sendAndRecord settings admission kind operationId serviceId plan).Built A J := by
  refine (hdispatch admission operationId _).bind fun accepted => ?_
  split
  · exact .of_uses (uses_query.mpr (hpieces.change _ _ nofun))
  · exact .throw _

theorem execute_built {plan : ServiceMutationPlan} (fuel : Nat) :
    (execute settings admission kind operationId serviceId plan fuel).Built A J := by
  refine (sendAndRecord_built hpieces hdispatch plan).attempt.bind fun outcome => ?_
  split
  · exact hpieces.verify operationId fuel
  · split
    · exact Built.bind (.of_uses (uses_query.mpr (hpieces.change _ _ nofun))) fun _ => .throw _
    · exact (hpieces.built_of_looks requireOperation_looks).bind fun operation =>
        reconcileLocked_built hpieces

theorem mutateLocked_built (hplan : ∀ id, (kind.plan id).Uses ControlOp.Looks)
    {input : MutationInput}
    (hcreate : ∀ plan, A (.db (.createOperation (intent kind input clusterId plan))))
    (serviceId : String) (fuel : Nat) (admission : Option ActiveAdmission) :
    (mutateLocked settings kind input clusterId serviceId fuel admission).Built A J := by
  refine Built.bind (.of_uses (uses_query.mpr (hpieces.looks _ trivial))) fun found => ?_
  cases found with
  | some existing =>
    change Built _ _ (if _ then _ else _)
    split
    · split
      · exact .pure _
      · exact reconcileLocked_built hpieces
    · exact .throw _
  | none =>
    refine (resolvePriorServiceOperation_built hpieces).bind fun _ => ?_
    refine (hpieces.built_of_looks assertNoNodeOperationConflict_looks).bind fun _ => ?_
    exact (planAndPersist_built hpieces hplan hcreate).bind fun plan =>
      execute_built hpieces hdispatch fuel

end Pieces

theorem pieces_of_works {A : ControlOp → Prop} (hworks : ∀ op : ControlOp, op.Works → A op)
    (J : (β : Type) → ControlProgram β → Prop) :
    Pieces .changeOperation verifyRefreshed A J where
  looks _ hop := hworks _ hop.works
  change _ _ _ := hworks _ trivial
  verify _ _ := .of_uses (verifyRefreshed_works.mono hworks)

theorem reconcileLocked_works : (reconcileLocked operation fuel).Uses ControlOp.Works :=
  (reconcileLocked_built (pieces_of_works (fun _ => id) fun _ _ => False)).uses
    (fun _ => id) nofun

theorem scaleKind_plan_looks {expectedVersion replicas : Nat} (id : String) :
    ((scaleKind expectedVersion replicas).plan id).Uses ControlOp.Looks :=
  uses_askAgent.mpr trivial

theorem restartKind_plan_looks {expectedVersion : Nat} (id : String) :
    ((restartKind expectedVersion).plan id).Uses ControlOp.Looks :=
  uses_askAgent.mpr trivial

end MutationService

/-! ## Drain, activate and labels -/

namespace NodeMutationService

theorem requireOperation_looks {id : String} : (requireOperation id).Uses ControlOp.Looks := by
  refine Uses.bind (uses_query.mpr trivial) fun found => ?_
  cases found <;> simp

variable {operation : NodeOperationRecord}

theorem giveUp_works : (giveUp operation code message).Uses ControlOp.Works :=
  Uses.bind (uses_query.mpr trivial) fun _ => works_of_looks requireOperation_looks

theorem affectedServicesConverged_looks {serviceIds : List String} :
    (affectedServicesConverged serviceIds).Uses ControlOp.Looks := by
  induction serviceIds with
  | nil => exact uses_pure
  | cons serviceId rest ih =>
    refine checkServicePlacement_looks.bind fun placement => ?_
    split
    · exact ih
    · exact uses_pure

theorem verifyOnce_works : (verifyOnce operation).Uses ControlOp.Works := by
  refine (works_of_looks inspectNode_looks).bind fun current => ?_
  split
  · exact uses_pure
  · exact giveUp_works.bind fun _ => uses_pure
  · refine Uses.bind ?_ fun converged => ?_
    · split
      · exact works_of_looks affectedServicesConverged_looks
      · exact uses_pure
    · split
      · refine Uses.bind (uses_query.mpr trivial) fun _ => ?_
        exact (works_of_looks requireOperation_looks).bind fun _ => uses_pure
      · exact uses_pure

theorem verifyLoop_works {deadline : Int} (lastError : Option String) :
    (verifyLoop operation deadline fuel lastError).Uses ControlOp.Works := by
  induction fuel generalizing lastError with
  | zero => exact hang_uses trivial
  | succ fuel ih =>
    refine (works_of_looks now_looks).bind fun t => ?_
    split
    · refine verifyOnce_works.attempt.bind fun outcome => ?_
      split
      · exact uses_pure
      · exact (works_of_looks sleep_looks).bind fun _ => ih _
      · exact (works_of_looks sleep_looks).bind fun _ => ih _
    · exact giveUp_works

theorem verifyAndCompleteLocked_works :
    (verifyAndCompleteLocked operation fuel).Uses ControlOp.Works :=
  (works_of_looks now_looks).bind fun _ => verifyLoop_works none

/-- The verification of an operation that is read again first. -/
abbrev verifyRefreshed (id : String) (fuel : Nat) : ControlProgram NodeOperationRecord :=
  (requireOperation id).bind fun refreshed => verifyAndCompleteLocked refreshed fuel

theorem verifyRefreshed_works {id : String} : (verifyRefreshed id fuel).Uses ControlOp.Works :=
  (works_of_looks requireOperation_looks).bind fun _ =>
    verifyAndCompleteLocked_works

theorem plan_looks {input : MutationInput} : (plan input nodeId).Uses ControlOp.Looks := by
  unfold plan
  split <;> exact uses_askAgent.mpr trivial

theorem planMapped_looks {input : MutationInput} : (planMapped input nodeId).Uses ControlOp.Looks :=
  plan_looks.tryCatch fun _ => uses_throw

theorem assertServicesFree_looks {clusterId : String} {serviceIds : List String} :
    (assertServicesFree clusterId serviceIds).Uses ControlOp.Looks := by
  induction serviceIds with
  | nil => exact uses_pure
  | cons serviceId rest ih =>
    refine Uses.bind (uses_query.mpr trivial) fun found => ?_
    cases found with
    | some operation => exact uses_throw
    | none =>
      refine Uses.bind (uses_query.mpr trivial) fun found => ?_
      cases found with
      | some operation => exact uses_throw
      | none => exact ih

section Pieces

variable {settings : Settings} {A : ControlOp → Prop} {J : (β : Type) → ControlProgram β → Prop}
  (hpieces : Pieces .changeNodeOperation verifyRefreshed A J)

include hpieces

theorem giveUp_built : (giveUp operation code message).Built A J :=
  Built.bind (.of_uses (uses_query.mpr (hpieces.change _ _ nofun))) fun _ =>
    hpieces.built_of_looks requireOperation_looks

theorem reconcileLocked_built : (reconcileLocked operation fuel).Built A J := by
  refine (hpieces.built_of_looks inspectNode_looks).attempt.bind fun answer => ?_
  split
  · exact giveUp_built hpieces
  · split
    · split
      · exact Built.bind (.of_uses (uses_query.mpr (hpieces.change _ _ nofun))) fun _ =>
          hpieces.verify operation.id fuel
      · exact hpieces.verify operation.id fuel
    · split <;> exact giveUp_built hpieces

theorem resolvePriorNodeOperation_built {clusterId nodeId : String} :
    (resolvePriorNodeOperation clusterId nodeId fuel).Built A J := by
  refine Built.bind (.of_uses (uses_query.mpr (hpieces.looks _ trivial))) fun found => ?_
  cases found with
  | none => exact .pure _
  | some prior =>
    refine (reconcileLocked_built hpieces).bind fun reconciled => ?_
    split
    · exact .pure _
    · exact .throw _

variable {input : MutationInput} {clusterId : String}
  (hcreate : ∀ plan, A (.db (.createNodeOperation (intent input clusterId plan))))

omit hpieces in
include hcreate in
theorem persistIntent_built {lockedNode : NodeDetailResponse} {lockedServices : List String}
    {plan : NodeMutationPlan} :
    (persistIntent input clusterId lockedNode lockedServices plan).Built A J := by
  unfold persistIntent
  split
  · exact Built.bind (.of_uses (uses_query.mpr (hcreate plan))) fun _ => .pure _
  · exact .throw _

include hcreate in
theorem planAndPersist_built (nodeId : String) {affected : List String} :
    (planAndPersist input clusterId nodeId affected).Built A J := by
  refine (hpieces.built_of_looks inspectNode_looks).bind fun lockedNode => ?_
  split
  · refine (hpieces.built_of_looks planMapped_looks).bind fun plan => ?_
    change Built _ _ (if _ then _ else _)
    split
    · exact .throw _
    · exact (hpieces.built_of_looks assertServicesFree_looks).bind fun _ =>
        persistIntent_built hcreate
  · change Built _ _ (if _ then _ else _)
    split
    · exact .throw _
    · exact (hpieces.built_of_looks assertServicesFree_looks).bind fun _ =>
        (hpieces.built_of_looks planMapped_looks).bind fun plan =>
          persistIntent_built hcreate

variable (hdispatch : ∀ active operationId mutation,
  Built A J (dispatch settings active operationId mutation))

include hdispatch

theorem sendAndRecord_built {input : MutationInput} {plan : NodeMutationPlan} :
    (sendAndRecord settings admission input nodeId plan).Built A J := by
  unfold sendAndRecord
  split
  · exact .throw _
  · refine (hdispatch admission input.operationId _).bind fun accepted => ?_
    split
    · exact .of_uses (uses_query.mpr (hpieces.change _ _ nofun))
    · exact .throw _

theorem execute_built {input : MutationInput} {plan : NodeMutationPlan} :
    (execute settings admission input nodeId plan fuel).Built A J := by
  unfold execute
  split
  · exact hpieces.verify input.operationId fuel
  · refine (sendAndRecord_built hpieces hdispatch).attempt.bind fun outcome => ?_
    split
    · exact hpieces.verify input.operationId fuel
    · split
      · exact Built.bind (.of_uses (uses_query.mpr (hpieces.change _ _ nofun))) fun _ => .throw _
      · exact (hpieces.built_of_looks requireOperation_looks).bind
          fun operation => reconcileLocked_built hpieces

include hcreate in
theorem mutateLocked_built (nodeId : String) (affected : List String) (fuel : Nat)
    (admission : Option ActiveAdmission) :
    (mutateLocked settings input clusterId nodeId affected fuel admission).Built A J := by
  refine Built.bind (.of_uses (uses_query.mpr (hpieces.looks _ trivial))) fun found => ?_
  cases found with
  | some existing =>
    change Built _ _ (if _ then _ else _)
    split
    · split
      · exact .pure _
      · exact reconcileLocked_built hpieces
    · exact .throw _
  | none =>
    refine (resolvePriorNodeOperation_built hpieces).bind fun _ => ?_
    exact (planAndPersist_built hpieces hcreate nodeId).bind fun plan =>
      execute_built hpieces hdispatch

end Pieces

theorem pieces_of_works {A : ControlOp → Prop} (hworks : ∀ op : ControlOp, op.Works → A op)
    (J : (β : Type) → ControlProgram β → Prop) :
    Pieces .changeNodeOperation verifyRefreshed A J where
  looks _ hop := hworks _ hop.works
  change _ _ _ := hworks _ trivial
  verify _ _ := .of_uses (verifyRefreshed_works.mono hworks)

theorem reconcileLocked_works : (reconcileLocked operation fuel).Uses ControlOp.Works :=
  (reconcileLocked_built (pieces_of_works (fun _ => id) fun _ _ => False)).uses
    (fun _ => id) nofun

theorem initialImpact_looks {input : MutationInput} {initial : NodeDetailResponse} :
    (initialImpact input initial).Uses ControlOp.Looks := by
  refine Uses.bind (uses_query.mpr trivial) fun existing => ?_
  split
  · cases existing with
    | some operation => exact uses_pure
    | none =>
      refine plan_looks.attempt.bind fun planned => ?_
      split
      · exact uses_pure
      · refine Uses.bind (uses_query.mpr trivial) fun raced => ?_
        cases raced <;> simp
  · exact uses_pure

end NodeMutationService

/-! ## Deploy, redeploy and rollback -/

theorem deploymentVerdicts_any : DeploymentVerdicts fun _ => True :=
  ⟨fun _ _ => trivial, fun _ _ => trivial, fun _ _ => trivial, fun _ => trivial⟩

theorem rollbackVerdicts_any : RollbackVerdicts fun _ => True :=
  ⟨fun _ _ => trivial, fun _ _ => trivial, fun _ _ => trivial, fun _ => trivial⟩

theorem reconcileLocked_works {deployment : DeploymentRecord} (initialError : Option String)
    (fuel : Nat) : (reconcileLocked operation deployment initialError fuel).Uses ControlOp.Works :=
  have h : Reconciles (fun _ => True) (fun _ => True) deployment.id operation.id
      (reconcileLocked operation deployment initialError fuel) :=
    reconcileLocked_reconciles deploymentVerdicts_any (fun _ => trivial)
  h.works

theorem reconcileRollbackLocked_works {deployment : DeploymentRecord}
    {initialError : Option String} :
    (reconcileRollbackLocked operation deployment initialError fuel).Uses ControlOp.Works :=
  have h : Reconciles (fun _ => True) (fun _ => True) deployment.id operation.id
      (reconcileRollbackLocked operation deployment initialError fuel) :=
    reconcileRollbackLocked_reconciles rollbackVerdicts_any (fun _ => trivial)
  h.works

theorem settle_works {settlement : Settlement} :
    (settle settlement deploymentId operationId).Uses ControlOp.Works :=
  uses_query.mpr trivial

theorem conclude_works {settlement : Settlement} :
    (conclude settlement deploymentId operationId).Uses ControlOp.Works := by
  refine settle_works.bind fun _ => ?_
  exact requireDeployment_readsBack.mono fun op ⟨_, hop⟩ => hop ▸ trivial

theorem verifyAndComplete_works {plan : ServiceMutationPlan} {digest : String} {noOp : Bool}
    {health : HealthCheckConfig} :
    (verifyAndComplete deploymentId operationId plan digest noOp health fuel).Uses
      ControlOp.Works :=
  (verifyAndComplete_ends deploymentVerdicts_any).works

theorem verifyRollbackAndComplete_works {plan : ServiceMutationPlan} {digest : String}
    {health : HealthCheckConfig} :
    (verifyRollbackAndComplete deploymentId operationId plan digest health fuel).Uses
      ControlOp.Works :=
  (verifyRollbackAndComplete_ends rollbackVerdicts_any).works

namespace DeploymentService

theorem requireOperation_looks {id : String} : (requireOperation id).Uses ControlOp.Looks := by
  refine Uses.bind (uses_query.mpr trivial) fun found => ?_
  cases found <;> simp

theorem mapped_looks {p : ControlProgram α} (h : p.Uses ControlOp.Looks) {fallback : String} :
    (mapped p fallback).Uses ControlOp.Looks :=
  h.tryCatch fun _ => uses_throw

theorem assertServiceFree_looks {clusterId serviceId : String} :
    (assertServiceFree clusterId serviceId).Uses ControlOp.Looks := by
  refine Uses.bind (uses_query.mpr trivial) fun prior => ?_
  cases prior with
  | some prior => exact uses_throw
  | none =>
    refine Uses.bind (uses_query.mpr trivial) fun found => ?_
    cases found <;> simp

section Deploy

variable {settings : Settings} {A : ControlOp → Prop} (hworks : ∀ op : ControlOp, op.Works → A op)
  {clusterId targetId : String} {input : DeployRequest} {kind : DeploymentKind}
  (hcreate : ∀ targetImage plan before source id,
    A (.db (.createDeployment (deployOperation input clusterId targetImage plan before)
      (deployInput input targetId kind source plan before) id)))

include hworks hcreate in
theorem persistDeployment_uses {sourceDeploymentId : Option String} {targetImage : String}
    {before : ServiceDetailResponse} {plan : ServiceMutationPlan} :
    (persistDeployment clusterId targetId target input kind sourceDeploymentId targetImage before
      plan).Uses A := by
  refine Uses.bind (uses_of_looks hworks ?_) fun _ => ?_
  · split
    · exact uses_pure
    · exact assertAvailable_looks
  · refine (uses_of_looks hworks randomUUID_looks).bind fun id => ?_
    exact Uses.bind (uses_query.mpr (hcreate _ _ _ _ id)) fun _ => uses_pure

include hworks hcreate in
theorem planDeployment_uses {sourceDeploymentId : Option String} :
    (planDeployment clusterId targetId target release input kind sourceDeploymentId).Uses
      A := by
  refine (uses_of_looks hworks (mapped_looks inspectService_looks)).bind fun resolved => ?_
  split
  · refine (uses_of_looks hworks (mapped_looks inspectService_looks)).bind fun before => ?_
    refine (uses_of_looks hworks (mapped_looks (uses_askAgent.mpr trivial))).bind fun plan => ?_
    split
    · exact persistDeployment_uses hworks hcreate
    · exact uses_throw
  · exact uses_throw

theorem selectSource_looks {kind : DeploymentKind} {targetId releaseId : String} :
    (selectSource kind targetId releaseId).Uses ControlOp.Looks := by
  cases kind with
  | DEPLOY => exact uses_pure
  | HISTORICAL_REDEPLOY =>
    refine Uses.bind (uses_query.mpr trivial) fun source => ?_
    cases source <;> simp

include hworks in
theorem executeDeployment_asks {input : DeployRequest} {persisted : PersistedDeployment} :
    Asks settings A
      (executeDeployment settings admission target release input persisted fuel) := by
  have hmark (noOp : Bool) (version : Nat) : Uses ControlOp.Works
      ((settle (.markVerifying version) persisted.deployment.id input.operationId).bind fun _ =>
        verifyAndComplete persisted.deployment.id input.operationId persisted.plan
          release.imageDigest noOp input.health fuel) :=
    settle_works.bind fun _ => verifyAndComplete_works
  unfold executeDeployment
  dsimp only
  split
  · exact asks_of_works hworks (hmark true _)
  · refine Built.part (.dispatch admission input.operationId (.service _ _ _ _ _)) fun outcome => ?_
    split
    · split
      · exact asks_of_works hworks (settle_works.bind fun _ => uses_throw)
      · refine asks_of_works hworks ((works_of_looks requireOperation_looks).bind ?_)
        exact fun operation => reconcileLocked_works _ fuel
    · split
      · exact asks_of_works hworks (hmark false _)
      · exact asks_of_works hworks conclude_works

theorem resumeDeployment_works {targetId : String} {input : DeployRequest} {kind : DeploymentKind}
    {existing : OperationRecord} :
    (resumeDeployment targetId target input kind existing fuel).Uses ControlOp.Works := by
  unfold resumeDeployment
  split
  · refine Uses.bind (uses_query.mpr trivial) fun found => ?_
    cases found with
    | none => exact uses_throw
    | some deployment =>
      change Uses _ (if _ then _ else _)
      split
      · split
        · exact uses_pure
        · exact reconcileLocked_works none fuel
      · exact uses_throw
  · exact uses_throw

include hworks hcreate in
theorem deployLocked_asks :
    Asks settings A
      (deployLocked settings clusterId targetId target release input kind fuel admission) := by
  refine Built.bind (.of_uses (uses_query.mpr (hworks _ trivial))) fun found => ?_
  cases found with
  | some existing =>
    exact asks_of_works hworks resumeDeployment_works
  | none =>
    refine (asks_of_looks hworks selectSource_looks).bind fun source => ?_
    refine (asks_of_looks hworks assertServiceFree_looks).bind fun _ => ?_
    refine Built.bind (.of_uses (planDeployment_uses hworks hcreate)) fun persisted => ?_
    exact executeDeployment_asks hworks

end Deploy

theorem planRollback_looks {deployment : DeploymentRecord} {current : ServiceDetailResponse} :
    (planRollback target deployment previousRelease current).Uses ControlOp.Looks := by
  unfold planRollback
  split
  · exact uses_ofExcept _
  · refine (mapped_looks (uses_askAgent.mpr trivial)).bind fun plan => ?_
    split
    · exact assertAvailable_looks.bind fun _ => uses_pure
    · exact uses_throw

section Rollback

variable {settings : Settings} {A : ControlOp → Prop} (hworks : ∀ op : ControlOp, op.Works → A op)
  {clusterId : String} {deployment : DeploymentRecord} {input : RollbackRequest}
  (hcreate : ∀ plan,
    A (.db (.createRollback (rollbackOperation input clusterId plan) deployment.id)))

include hworks hcreate in
theorem persistRollback_uses :
    (persistRollback clusterId target deployment previousRelease input).Uses A := by
  refine (uses_of_looks hworks (mapped_looks inspectService_looks)).bind fun current => ?_
  refine (uses_of_looks hworks planRollback_looks).bind fun plan => ?_
  exact Uses.bind (uses_query.mpr (hcreate plan)) fun _ => uses_pure

include hworks in
theorem executeRollback_asks {deployment : DeploymentRecord} {input : RollbackRequest}
    {persisted : PersistedRollback} :
    Asks settings A
      (executeRollback settings admission target deployment previousRelease input persisted
        fuel) := by
  have hreconcile (initialError : Option String) : Uses ControlOp.Works
      ((requireOperation input.operationId).bind fun operation =>
        reconcileRollbackLocked operation deployment initialError fuel) :=
    (works_of_looks requireOperation_looks).bind fun operation =>
      reconcileRollbackLocked_works
  unfold executeRollback
  dsimp only
  split
  · exact asks_of_works hworks (hreconcile none)
  · refine Built.part (.dispatch admission input.operationId (.service _ _ _ _ _)) fun outcome => ?_
    split
    · split
      · exact asks_of_works hworks (settle_works.bind fun _ => uses_throw)
      · exact asks_of_works hworks (hreconcile _)
    · split
      · exact asks_of_works hworks (settle_works.bind fun _ =>
          verifyRollbackAndComplete_works)
      · exact asks_of_works hworks conclude_works

theorem resumeRollback_works {deployment : DeploymentRecord} {input : RollbackRequest}
    {existing : OperationRecord} :
    (resumeRollback target deployment input existing fuel).Uses ControlOp.Works := by
  unfold resumeRollback
  split
  · refine Uses.bind (uses_query.mpr trivial) fun found => ?_
    cases found with
    | none => exact uses_throw
    | some existingDeployment =>
      change Uses _ (if _ then _ else _)
      split
      · exact uses_throw
      · split
        · exact uses_ofExcept _
        · exact reconcileRollbackLocked_works
  · exact uses_throw

include hworks hcreate in
theorem rollbackLocked_asks (target : DeploymentTarget) (previousRelease : Release) (fuel : Nat)
    (admission : Option ActiveAdmission) :
    Asks settings A
      (rollbackLocked settings clusterId target deployment previousRelease input fuel
        admission) := by
  refine Built.bind (.of_uses (uses_query.mpr (hworks _ trivial))) fun found => ?_
  cases found with
  | some existing =>
    exact asks_of_works hworks resumeRollback_works
  | none =>
    refine (asks_of_looks hworks assertServiceFree_looks).bind fun _ => ?_
    refine Built.bind (.of_uses (persistRollback_uses hworks hcreate)) fun persisted => ?_
    exact executeRollback_asks hworks

end Rollback

end DeploymentService

end Docklane.Control
