import Docklane.Control.DeployCalls
import Docklane.Control.MaintenanceCalls

/-!
# The requests of whole calls

A call sends a mutation, and writes to the dispatch journal, in its dispatches only. It creates only
the operation it was asked for. Recovery, reconciliation and maintenance have no dispatch and create
nothing at all.
-/

namespace Docklane.Control

open Concurrent Concurrent.Program

/-- Requests that send nothing, create no operation and do not write to the dispatch journal. -/
def ControlOp.Ordinary : ControlOp → Prop
  | .send _ => False
  | .db op => op.creates = none ∧ ¬ (ControlOp.db op).Journals
  | _ => True

variable {op : ControlOp}

theorem ControlOp.Ordinary.apart (h : op.Ordinary) : op.Apart := by
  cases op with
  | send request => exact h
  | db op => exact h.2
  | _ => exact id

theorem ControlOp.Works.ordinary (h : op.Works) : op.Ordinary := by
  cases op with
  | db op => cases op <;> first | exact ⟨rfl, id⟩ | exact absurd h id
  | send request => exact h
  | _ => trivial

theorem ControlOp.Unlocking.ordinary (h : op.Unlocking) : op.Ordinary := by
  cases op with
  | db op => exact h.elim
  | send request => exact h
  | _ => trivial

theorem ControlOp.Maintains.ordinary (h : op.Maintains) : op.Ordinary := by
  cases op with
  | db op => cases op <;> first | exact ⟨rfl, h.2⟩ | exact h.1.elim
  | send request => exact h.2
  | _ => trivial

/-- Statements that write to `operations`, `node_operations`, `deployments` or
`rollback_attempts`. -/
def DbOp.Writes : DbOp → Prop
  | .createOperation _ | .createNodeOperation _ | .createDeployment _ _ _ | .createRollback _ _
  | .changeOperation _ _ | .changeNodeOperation _ _ | .backfillTargetRuntimeSpecHash _ _
  | .settle _ _ _ | .resolveEvidence _ _ _ => True
  | _ => False

/-- Requests that leave the recorded operations and deployments alone, and send nothing. -/
def ControlOp.Harmless : ControlOp → Prop
  | .db op => ¬ op.Writes
  | .send _ => False
  | _ => True

theorem ControlOp.Unlocking.harmless (h : op.Unlocking) : op.Harmless := by
  cases op with
  | db op => exact h.elim
  | send request => exact h
  | _ => trivial

section Parts

variable {α : Type} {J : (β : Type) → ControlProgram β → Prop} {A : ControlOp → Prop}
  (hA : ∀ op : ControlOp, op.Ordinary → A op)

include hA

variable {p : ControlProgram α}

theorem built_of_looks (h : p.Uses ControlOp.Looks) : p.Built A J :=
  .of_uses (h.mono fun _ hop => hA _ hop.works.ordinary)

theorem built_of_works (h : p.Uses ControlOp.Works) : p.Built A J :=
  .of_uses (h.mono fun _ hop => hA _ hop.ordinary)

theorem built_of_maintains (h : p.Uses ControlOp.Maintains) : p.Built A J :=
  .of_uses (h.mono fun _ hop => hA _ hop.ordinary)

theorem built_query {op : DbOp} (hcreates : op.creates = none)
    (hjournals : ¬ (ControlOp.db op).Journals) : (query op).Built A J :=
  .of_uses (uses_query.mpr (hA _ ⟨hcreates, hjournals⟩))

omit hA in
theorem ignoreResult_built (h : p.Built A J) : (ignoreResult p).Built A J :=
  h.bind fun _ => .pure ()

end Parts

/-! ## Locks and admissions -/

section Locks

variable {α : Type} {J : (β : Type) → ControlProgram β → Prop} {A : ControlOp → Prop}
  (hA : ∀ op : ControlOp, op.Ordinary → op.Harmless → A op)

include hA

variable {settings : Settings} {clusterId : String}

theorem assertRegistered_uses : (assertRegistered settings clusterId).Uses A := by
  unfold assertRegistered
  split
  · exact uses_throw
  split
  · exact uses_pure
  refine Uses.bind (Uses.attempt (uses_query.mpr (hA _ ⟨rfl, id⟩ id))) fun answer => ?_
  rcases answer with e | _ | record
  · exact uses_throw
  · exact uses_throw
  · change Uses _ (if _ then _ else _)
    split <;> simp

theorem releaseLocks_uses {names : List String} : (releaseLocks names).Uses A :=
  System.releaseLocks_unlocking.mono fun _ hop => hA _ hop.ordinary hop.harmless

theorem assertMaintenanceOpen_uses {type : ResourceType} {resourceId : String} :
    (assertMaintenanceOpen settings clusterId type resourceId).Uses A := by
  unfold assertMaintenanceOpen
  split
  · exact uses_pure
  · refine Uses.bind (Uses.attempt (uses_query.mpr (hA _ ⟨rfl, id⟩ id))) fun answer => ?_
    rcases answer with e | _ | row
    · exact uses_throw
    · exact uses_throw
    · change Uses _ (if _ then _ else _)
      split
      · refine Uses.bind (uses_perform.mpr (hA _ trivial trivial)) fun uuid => ?_
        refine Uses.bind (uses_query.mpr (hA _ ⟨rfl, id⟩ id)) fun (inserted : Bool) => ?_
        split <;> simp
      · exact uses_throw

variable {fn : ControlProgram α}

theorem withNamedLocks_built (hfn : fn.Built A J) {names : List String} (acquired : List String) :
    (withNamedLocks fn names acquired).Built A J := by
  have hrelease : (releaseLocks acquired).Built A J := .of_uses (releaseLocks_uses hA)
  induction names generalizing acquired with
  | nil => exact hfn.andFinally hrelease
  | cons name rest ih =>
    refine .request (hA _ trivial trivial) fun answer => ?_
    rcases answer with e | _ | _
    · exact Built.andFinally (.throw _) hrelease
    · exact Built.andFinally (.throw _) hrelease
    · exact ih _ (.of_uses (releaseLocks_uses hA))

theorem withResourceLocks_built (hfn : fn.Built A J) {keys : List LockKey} :
    (withResourceLocks settings keys fn).Built A J := by
  refine .request (hA _ trivial trivial) fun answer => ?_
  cases answer with
  | error e => exact .throw e
  | ok _ => exact withNamedLocks_built hA hfn _

theorem withRecoveryLocks_built (hfn : fn.Built A J) {keys : List LockKey} :
    ((assertRegistered settings clusterId).bind fun _ =>
      withResourceLocks settings keys fn).Built A J :=
  (Built.of_uses (assertRegistered_uses hA)).bind fun _ =>
    withResourceLocks_built hA hfn

theorem withCallLocks_built {fn : Option ActiveAdmission → ControlProgram α}
    (hfn : ∀ active, (fn active).Built A J) {clusterId : String} {keys : List LockKey}
    {type : ResourceType} {resourceId : String} :
    ((assertRegistered settings clusterId).bind fun _ => withResourceLocks settings keys
      (withAdmission settings clusterId type resourceId fn)).Built A J := by
  refine withRecoveryLocks_built hA ?_
  refine (Built.of_uses (assertMaintenanceOpen_uses hA)).bind
    fun active => (hfn active).andFinally ?_
  cases active with
  | none => exact .pure ()
  | some active => exact .of_uses (uses_query.mpr (hA _ ⟨rfl, id⟩ id))

end Locks

/-! ## Recovery and reconciliation -/

section Recovery

variable {A : ControlOp → Prop} {J : (β : Type) → ControlProgram β → Prop}
  (hA : ∀ op : ControlOp, op.Ordinary → op.Harmless → A op) (settings : Settings) (fuel : Nat)

include hA in
theorem MutationService.recoverOperation_built
    (hpieces : Pieces .changeOperation MutationService.verifyRefreshed A J)
    {operation : OperationRecord} :
    (MutationService.recoverOperation settings operation fuel).Built A J := by
  refine (Built.attempt (withRecoveryLocks_built hA ?_)).bind fun _ => .pure ()
  refine Built.bind (.of_uses (uses_query.mpr (hpieces.looks _ trivial))) fun found => ?_
  cases found with
  | none => exact .pure ()
  | some current =>
    change Built _ _ (if _ then _ else _)
    split
    · exact .pure ()
    · exact (reconcileLocked_built hpieces).bind fun _ => .pure ()

include hA in
theorem MutationService.onApplicationBootstrap_built
    (hpieces : Pieces .changeOperation MutationService.verifyRefreshed A J) :
    (MutationService.onApplicationBootstrap settings fuel).Built A J := by
  refine Built.bind (.of_uses (uses_query.mpr (hpieces.looks _ trivial)))
    fun (operations : List OperationRecord) => ?_
  induction operations with
  | nil => exact .pure ()
  | cons operation rest ih =>
    rw [recoverOperations]
    split
    · exact ih
    · exact (recoverOperation_built hA settings fuel hpieces).bind fun _ => ih

theorem MutationService.onApplicationBootstrap_ordinary :
    (MutationService.onApplicationBootstrap settings fuel).Built ControlOp.Ordinary J :=
  onApplicationBootstrap_built (fun _ h _ => h) settings fuel
    (pieces_of_works (fun _ h => h.ordinary) J)

include hA in
theorem NodeMutationService.recoverOperation_built
    (hpieces : Pieces .changeNodeOperation NodeMutationService.verifyRefreshed A J)
    {operation : NodeOperationRecord} :
    (NodeMutationService.recoverOperation settings operation fuel).Built A J := by
  refine (Built.attempt (withRecoveryLocks_built hA ?_)).bind fun _ => .pure ()
  refine Built.bind (.of_uses (uses_query.mpr (hpieces.looks _ trivial))) fun found => ?_
  cases found with
  | none => exact .pure ()
  | some current =>
    change Built _ _ (if _ then _ else _)
    split
    · exact .pure ()
    · exact (reconcileLocked_built hpieces).bind fun _ => .pure ()

include hA in
theorem NodeMutationService.onApplicationBootstrap_built
    (hpieces : Pieces .changeNodeOperation NodeMutationService.verifyRefreshed A J) :
    (NodeMutationService.onApplicationBootstrap settings fuel).Built A J := by
  refine Built.bind (.of_uses (uses_query.mpr (hpieces.looks _ trivial)))
    fun (operations : List NodeOperationRecord) => ?_
  induction operations with
  | nil => exact .pure ()
  | cons operation rest ih =>
    exact (recoverOperation_built hA settings fuel hpieces).bind fun _ => ih

theorem NodeMutationService.onApplicationBootstrap_ordinary :
    (NodeMutationService.onApplicationBootstrap settings fuel).Built ControlOp.Ordinary J :=
  onApplicationBootstrap_built (fun _ h _ => h) settings fuel
    (pieces_of_works (fun _ h => h.ordinary) J)

theorem DeploymentService.reconcileCurrent_works {current : OperationRecord} :
    (DeploymentService.reconcileCurrent current fuel).Uses ControlOp.Works := by
  unfold DeploymentService.reconcileCurrent
  split
  · refine Uses.bind (uses_query.mpr trivial) fun found => ?_
    cases found with
    | none => exact uses_pure
    | some d => exact reconcileRollbackLocked_works.bind fun _ => uses_pure
  · refine Uses.bind (uses_query.mpr trivial) fun found => ?_
    cases found with
    | none => exact uses_pure
    | some d => exact (Control.reconcileLocked_works none fuel).bind fun _ => uses_pure

theorem DeploymentService.reconcilePendingDeployments_built :
    (DeploymentService.reconcilePendingDeployments settings fuel).Built ControlOp.Ordinary J := by
  refine Built.bind (built_query (fun _ => id) rfl id) fun (operations : List OperationRecord) => ?_
  induction operations with
  | nil => exact .pure ()
  | cons operation rest ih =>
    rw [reconcileOperations]
    split
    · refine Built.bind
        (Built.bind (Built.attempt (withRecoveryLocks_built (fun _ h _ => h) (Built.bind
        (built_query (fun _ => id) rfl id) fun found => ?_))) fun _ => .pure ()) fun _ => ih
      cases found with
      | none => exact .pure ()
      | some current =>
        change Built _ _ (if _ then _ else _)
        split
        · exact built_of_works (fun _ => id) (reconcileCurrent_works fuel)
        · exact .pure ()
    · exact ih

end Recovery

/-! ## Mutations -/

section Pieces

variable {A : ControlOp → Prop} {J : (β : Type) → ControlProgram β → Prop} {settings : Settings}
  (hA : ∀ op : ControlOp, op.Ordinary → op.Harmless → A op)
  (hdispatch : ∀ active operationId mutation,
    Built A J (dispatch settings active operationId mutation)) (fuel : Nat)

include hA hdispatch

theorem MutationService.mutateService_built
    (hpieces : Pieces .changeOperation MutationService.verifyRefreshed A J)
    {kind : MutationService.Kind} (hplan : ∀ id, (kind.plan id).Uses ControlOp.Looks)
    {clusterId : String} {input : MutationService.MutationInput} (hcreate : ∀ plan,
      A (.db (.createOperation (MutationService.intent kind input clusterId plan))))
    (requested : String) :
    (MutationService.mutateService settings kind clusterId requested input fuel).Built A J := by
  unfold MutationService.mutateService
  split
  · exact .throw _
  · exact (hpieces.built_of_looks inspectService_looks).bind fun resolved =>
      withCallLocks_built hA (fun active => mutateLocked_built hpieces hdispatch hplan hcreate _
        fuel active)

theorem NodeMutationService.mutate_built
    (hpieces : Pieces .changeNodeOperation NodeMutationService.verifyRefreshed A J)
    {clusterId : String} {input : NodeMutationService.MutationInput} (hcreate : ∀ plan,
      A (.db (.createNodeOperation (NodeMutationService.intent input clusterId plan))))
    (nodeRef : String) :
    (NodeMutationService.mutate settings clusterId nodeRef input fuel).Built A J := by
  unfold NodeMutationService.mutate
  split
  · exact .throw _
  · exact (hpieces.built_of_looks inspectNode_looks).bind fun initial =>
      (hpieces.built_of_looks initialImpact_looks).bind fun impact =>
        Built.bind (.of_uses (uses_query.mpr (hpieces.looks _ trivial))) fun prior =>
          withCallLocks_built hA (fun active => mutateLocked_built hpieces hcreate hdispatch _ _
            fuel active)

end Pieces

variable {d : DeploymentRecord}

section Mutations

variable {A : ControlOp → Prop} (hA : ∀ op : ControlOp, op.Ordinary → A op) (settings : Settings)
  (fuel : Nat)

include hA

theorem MutationService.mutateService_asks {kind : MutationService.Kind}
    (hplan : ∀ id, (kind.plan id).Uses ControlOp.Looks) {clusterId : String}
    {input : MutationService.MutationInput} (hcreate : ∀ plan,
      A (.db (.createOperation (MutationService.intent kind input clusterId plan))))
    (requested : String) :
    Asks settings A
      (MutationService.mutateService settings kind clusterId requested input fuel) :=
  mutateService_built (fun _ h _ => hA _ h) (fun _ _ _ => .whole (.dispatch _ _ _)) fuel
    (pieces_of_works (fun _ h => hA _ h.ordinary) _) hplan hcreate requested

theorem NodeMutationService.mutate_asks {clusterId : String}
    {input : NodeMutationService.MutationInput} (hcreate : ∀ plan,
      A (.db (.createNodeOperation (NodeMutationService.intent input clusterId plan))))
    {nodeRef : String} :
    Asks settings A
      (NodeMutationService.mutate settings clusterId nodeRef input fuel) :=
  mutate_built (fun _ h _ => hA _ h) (fun _ _ _ => .whole (.dispatch _ _ _)) fuel
    (pieces_of_works (fun _ h => hA _ h.ordinary) _) hcreate nodeRef

section Deploy

variable {clusterId targetId : String} {input : DeploymentService.DeployRequest}

theorem DeploymentService.deployRelease_asks {kind : DeploymentKind}
    (hcreate : ∀ targetImage plan before source id, A (.db (.createDeployment
      (DeploymentService.deployOperation input clusterId targetImage plan before)
      (DeploymentService.deployInput input targetId kind source plan before) id))) :
    Asks settings A
      (DeploymentService.deployRelease settings clusterId targetId input kind fuel) := by
  refine Built.bind (built_query hA rfl id) fun found => ?_
  cases found with
  | none => exact .throw _
  | some target =>
    change Built _ _ (if _ then _ else _)
    split
    · exact .throw _
    · refine Built.bind (built_query hA rfl id) fun release => ?_
      cases release with
      | none => exact .throw _
      | some release =>
        change Built _ _ (if _ then _ else _)
        split
        · exact .throw _
        · exact withCallLocks_built (fun _ h _ => hA _ h) (fun active => deployLocked_asks
            (fun _ hop => hA _ hop.ordinary) hcreate)

theorem DeploymentService.unlessTerminal_asks
    {terminal : ControlProgram (Option DeploymentRecord)} {p : ControlProgram DeploymentRecord}
    (hterminal : terminal.Uses ControlOp.Works) (hp : Asks settings A p) :
    Asks settings A (terminal.bind fun found => match found with
      | some deployment => .pure deployment
      | none => p) := by
  refine (built_of_works hA hterminal).bind fun found => ?_
  cases found with
  | some d => exact .pure d
  | none => exact hp

theorem DeploymentService.deploy_asks
    (hcreate : ∀ targetImage plan before source id, A (.db (.createDeployment
      (DeploymentService.deployOperation input clusterId targetImage plan before)
      (DeploymentService.deployInput input targetId .DEPLOY source plan before) id))) :
    Asks settings A
      (DeploymentService.deploy settings clusterId targetId input fuel) :=
  unlessTerminal_asks hA settings
    (works_of_looks (findTerminalDeploymentRetry_looks clusterId targetId input .DEPLOY))
    (deployRelease_asks hA settings fuel hcreate)

theorem DeploymentService.historicalRedeploy_asks
    (hcreate : ∀ targetImage plan before source id, A (.db (.createDeployment
      (DeploymentService.deployOperation input clusterId targetImage plan before)
      (DeploymentService.deployInput input targetId .HISTORICAL_REDEPLOY source plan before)
      id))) :
    Asks settings A
      (DeploymentService.historicalRedeploy settings clusterId targetId input fuel) := by
  refine Built.bind (built_query hA rfl id) fun found => ?_
  cases found with
  | none => exact .throw _
  | some target =>
    change Built _ _ (if _ then _ else _)
    split
    · exact .throw _
    · refine Built.bind (built_query hA rfl id) fun release => ?_
      cases release with
      | none => exact .throw _
      | some release =>
        change Built _ _ (if _ then _ else _)
        split
        · exact .throw _
        · exact unlessTerminal_asks hA settings (works_of_looks (findTerminalDeploymentRetry_looks
            clusterId targetId input .HISTORICAL_REDEPLOY))
            (deployRelease_asks hA settings fuel hcreate)

end Deploy

omit hA in
theorem DeploymentService.findTerminalRollbackRetry_works {clusterId : String}
    {input : DeploymentService.RollbackRequest} {serviceId : String} :
    (DeploymentService.findTerminalRollbackRetry clusterId d input serviceId).Uses
      ControlOp.Works := by
  refine Uses.bind (uses_query.mpr trivial) fun found => ?_
  cases found with
  | none => exact uses_pure
  | some operation =>
    change Uses _ (if _ then _ else _)
    split
    · exact uses_pure
    · refine Uses.bind (uses_query.mpr trivial) fun latest =>
        Uses.bind (uses_query.mpr trivial) fun historical => ?_
      split
      · split
        · exact (uses_ofExcept _).bind fun _ => uses_pure
        · exact uses_throw
      · exact uses_throw

theorem DeploymentService.startRollback_asks {clusterId : String}
    {input : DeploymentService.RollbackRequest} (hcreate : ∀ plan,
      A (.db (.createRollback (DeploymentService.rollbackOperation input clusterId plan) d.id)))
    {target : DeploymentTarget} {previousRelease : Release} :
    Asks settings A (DeploymentService.startRollback settings clusterId target d
      previousRelease input fuel) := by
  refine Built.bind (built_query hA rfl id) fun attempted => ?_
  change Built _ _ (if _ then _ else _)
  split
  · exact .throw _
  · refine (built_of_looks hA (mapped_looks inspectService_looks)).bind fun resolved => ?_
    split
    · exact withCallLocks_built (fun _ h _ => hA _ h) (fun active => rollbackLocked_asks
        (fun _ hop => hA _ hop.ordinary) hcreate target previousRelease fuel active)
    · exact .throw _

theorem DeploymentService.rollbackDeployment_asks {clusterId : String}
    {input : DeploymentService.RollbackRequest} (hcreate : ∀ plan,
      A (.db (.createRollback (DeploymentService.rollbackOperation input clusterId plan) d.id))) :
    Asks settings A
      (DeploymentService.rollbackDeployment settings clusterId d input fuel) := by
  refine Built.bind (built_query hA rfl id) fun found => ?_
  cases found with
  | none => exact .throw _
  | some target =>
    change Built _ _ (if _ then _ else _)
    split
    · exact .throw _
    split
    · exact .throw _
    · refine Built.bind (built_query hA rfl id) fun release => ?_
      cases release with
      | none => exact .throw _
      | some previousRelease =>
        change Built _ _ (if _ then _ else _)
        split
        · exact .throw _
        · exact unlessTerminal_asks hA settings
            findTerminalRollbackRetry_works
            (startRollback_asks hA settings fuel hcreate)

theorem DeploymentService.rollback_asks {clusterId : String}
    {input : DeploymentService.RollbackRequest} (hcreate : ∀ plan id,
      A (.db (.createRollback (DeploymentService.rollbackOperation input clusterId plan) id)))
    {deploymentId : String} :
    Asks settings A
      (DeploymentService.rollback settings clusterId deploymentId input fuel) := by
  refine Built.bind (built_query hA rfl id) fun found => ?_
  cases found with
  | none => exact .throw _
  | some d => exact rollbackDeployment_asks hA settings fuel fun plan => hcreate plan d.id

end Mutations

/-! ## Evidence -/

section Evidence

variable {J : (β : Type) → ControlProgram β → Prop} (settings : Settings)

theorem MaintenanceService.recoverEvidence_built {input : ResolveEvidenceInput} :
    (MaintenanceService.recoverEvidence settings input).Built ControlOp.Ordinary J := by
  have hlocked (locked : LockedResource) :
      (MaintenanceService.resolveLocked input locked).Built ControlOp.Ordinary J :=
    (built_of_maintains (fun _ => id) observeResource_maintains).bind fun _ => built_query
    (fun _ => id) rfl id
  refine (built_of_looks (fun _ => id) requireRecord_looks).bind fun state => ?_
  split
  · exact .throw _
  split
  · exact built_query (fun _ => id) rfl id
  · refine Built.bind (built_query (fun _ => id) rfl id)
      fun (operations : List EvidenceOperation) => ?_
    split
    · split
      · exact .throw _
      · split <;> split
        · exact .throw _
        · exact withRecoveryLocks_built (fun _ h _ => h) (hlocked _)
        · exact .throw _
        · exact withRecoveryLocks_built (fun _ h _ => h) (hlocked _)
    · exact .throw _

theorem MaintenanceService.resolveEvidence_built {clusterId : String}
    {request : MaintenanceService.ResolveRequest} :
    (MaintenanceService.resolveEvidence settings clusterId request).Built ControlOp.Ordinary J := by
  refine Built.bind (.of_uses (uses_ofExcept _)) fun swarmClusterId => ?_
  refine (built_of_looks (fun _ => id) assertRegistered_looks).bind fun _ => ?_
  split
  · exact .throw _
  refine (built_of_looks (fun _ => id) randomUUID_looks).bind fun holderId => ?_
  refine Built.bind (built_query (fun _ => id) rfl id) fun lease => Built.andFinally ?_
    (built_of_maintains (fun _ => id) (Uses.bind (Uses.attempt (query_maintains trivial id))
      fun _ => uses_pure))
  refine (built_of_looks (fun _ => id) requireRecord_looks).bind fun current => ?_
  split
  · exact .throw _
  · exact (built_of_maintains (fun _ => id) blockAll_maintains).bind fun _ =>
      recoverEvidence_built settings

end Evidence

/-- Every call writes to the journal and sends mutations in its dispatches only. -/
theorem Call.asks {settings : Settings} {p : ControlProgram Unit} (h : Call settings p) :
    Asks settings ControlOp.Apart p := by
  have hA (op : ControlOp) (hop : op.Ordinary) : op.Apart := hop.apart
  cases h with
  | scale _ _ input replicas fuel =>
    exact ignoreResult_built (MutationService.mutateService_asks hA settings fuel
      MutationService.scaleKind_plan_looks (fun _ => id) _)
  | restart _ _ input fuel =>
    exact ignoreResult_built (MutationService.mutateService_asks hA settings fuel
      MutationService.restartKind_plan_looks (fun _ => id) _)
  | mutateNode _ _ input fuel =>
    exact ignoreResult_built (NodeMutationService.mutate_asks hA settings fuel (fun _ => id))
  | deploy _ _ input fuel =>
    exact ignoreResult_built (DeploymentService.deploy_asks hA settings fuel fun _ _ _ _ _ => id)
  | historicalRedeploy _ _ input fuel =>
    exact ignoreResult_built (DeploymentService.historicalRedeploy_asks hA settings fuel
      fun _ _ _ _ _ => id)
  | rollback _ _ input fuel =>
    exact ignoreResult_built (DeploymentService.rollback_asks hA settings fuel (fun _ _ => id))
  | recoverOperations fuel =>
    exact (MutationService.onApplicationBootstrap_ordinary settings fuel).mono hA
  | recoverNodeOperations fuel =>
    exact (NodeMutationService.onApplicationBootstrap_ordinary settings fuel).mono hA
  | reconcileDeployments fuel =>
    exact (DeploymentService.reconcilePendingDeployments_built settings fuel).mono hA
  | initializeMaintenance _ =>
    exact ignoreResult_built
      (built_of_maintains hA MaintenanceService.initializeMaintenance_maintains)
  | requestClosing _ _ =>
    exact ignoreResult_built (built_of_maintains hA MaintenanceService.requestClosing_maintains)
  | confirmClosed _ _ =>
    exact ignoreResult_built (built_of_maintains hA MaintenanceService.confirmClosed_maintains)
  | beginReconciliation _ _ =>
    exact ignoreResult_built
      (built_of_maintains hA MaintenanceService.beginReconciliation_maintains)
  | completeReconciliation _ _ =>
    exact ignoreResult_built
      (built_of_maintains hA MaintenanceService.completeReconciliation_maintains)
  | resumeManagers _ _ =>
    exact ignoreResult_built (built_of_maintains hA MaintenanceService.resumeManagers_maintains)
  | resolveEvidence _ request => exact (MaintenanceService.resolveEvidence_built settings).mono hA

end Docklane.Control
