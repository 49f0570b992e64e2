import Docklane.Control.Execution
import Docklane.Control.Requests

/-!
# At most one mutation request for an operation

A mutation is sent by the call whose transaction inserted the row of the operation, once, and by
nothing that runs later.
-/

namespace Docklane.Control

open Concurrent Concurrent.Program

/-- Requests that are not mutations. -/
def ControlOp.Silent : ControlOp → Prop
  | .send _ => False
  | _ => True

theorem ControlOp.Apart.silent {op : ControlOp} (h : op.Apart) : op.Silent := by
  cases op <;> trivial

/-- The programs that recover, reconcile or verify operations, at startup, periodically, after a
dispatch or by hand. -/
inductive RecoveryPath (settings : Settings) : (α : Type) → ControlProgram α → Prop where
  | recoverOperations (fuel) :
      RecoveryPath settings _ (MutationService.onApplicationBootstrap settings fuel)
  | recoverNodeOperations (fuel) :
      RecoveryPath settings _ (NodeMutationService.onApplicationBootstrap settings fuel)
  | reconcileDeployments (fuel) :
      RecoveryPath settings _ (DeploymentService.reconcilePendingDeployments settings fuel)
  | reconcileOperation (operation fuel) :
      RecoveryPath settings _ (MutationService.reconcileLocked operation fuel)
  | verifyOperation (operation fuel) :
      RecoveryPath settings _ (MutationService.verifyAndCompleteLocked operation fuel)
  | reconcileNodeOperation (operation fuel) :
      RecoveryPath settings _ (NodeMutationService.reconcileLocked operation fuel)
  | verifyNodeOperation (operation fuel) :
      RecoveryPath settings _ (NodeMutationService.verifyAndCompleteLocked operation fuel)
  | reconcileDeployment (operation deployment initialError fuel) :
      RecoveryPath settings _ (reconcileLocked operation deployment initialError fuel)
  | verifyDeployment (deploymentId operationId plan digest noOp health fuel) :
      RecoveryPath settings _
        (verifyAndComplete deploymentId operationId plan digest noOp health fuel)
  | reconcileRollback (operation deployment initialError fuel) :
      RecoveryPath settings _ (reconcileRollbackLocked operation deployment initialError fuel)
  | verifyRollback (deploymentId operationId plan digest health fuel) :
      RecoveryPath settings _
        (verifyRollbackAndComplete deploymentId operationId plan digest health fuel)
  | resolveEvidence (clusterId request) :
      RecoveryPath settings _ (MaintenanceService.resolveEvidence settings clusterId request)

theorem silent_of_works {α : Type} {p : ControlProgram α} (h : p.Uses ControlOp.Works) :
    p.Uses ControlOp.Silent :=
  h.mono fun _ hop => hop.mutates.apart.silent

theorem silent_of_built {α : Type} {p : ControlProgram α}
    (h : p.Built ControlOp.Ordinary fun _ _ => False) : p.Uses ControlOp.Silent :=
  h.uses (fun _ hop => hop.apart.silent) fun _ _ hfalse => hfalse.elim

theorem RecoveryPath.silent {settings : Settings} {α : Type} {p : ControlProgram α}
    (h : RecoveryPath settings α p) : p.Uses ControlOp.Silent := by
  cases h with
  | recoverOperations fuel =>
    exact silent_of_built (MutationService.onApplicationBootstrap_ordinary settings fuel)
  | recoverNodeOperations fuel =>
    exact silent_of_built (NodeMutationService.onApplicationBootstrap_ordinary settings fuel)
  | reconcileDeployments fuel =>
    exact silent_of_built (DeploymentService.reconcilePendingDeployments_built settings fuel)
  | reconcileOperation operation fuel =>
    exact silent_of_works MutationService.reconcileLocked_works
  | verifyOperation operation fuel =>
    exact silent_of_works (MutationService.verifyAndCompleteLocked_changes.mono
      fun _ => MutationService.Changes.works)
  | reconcileNodeOperation operation fuel =>
    exact silent_of_works NodeMutationService.reconcileLocked_works
  | verifyNodeOperation operation fuel =>
    exact silent_of_works NodeMutationService.verifyAndCompleteLocked_works
  | reconcileDeployment operation deployment initialError fuel =>
    exact silent_of_works (reconcileLocked_works initialError fuel)
  | verifyDeployment deploymentId operationId plan digest noOp health fuel =>
    exact silent_of_works verifyAndComplete_works
  | reconcileRollback operation deployment initialError fuel =>
    exact silent_of_works reconcileRollbackLocked_works
  | verifyRollback deploymentId operationId plan digest health fuel =>
    exact silent_of_works verifyRollbackAndComplete_works
  | resolveEvidence clusterId request =>
    exact silent_of_built (MaintenanceService.resolveEvidence_built settings)

section Sending

variable {Tid : Type} [DecidableEq Tid]

/-- When a call is about to send a mutation, its row is committed and no request for it was sent
before. Were the request sent now, the invariant and the guarantee of the call would hold after it:
the first says that the request is new, the second that the call has inserted the row. -/
theorem System.row_before_send {S : System Tid} {c : ControlConfig Tid}
    (hc : Safe S.machine S.protocol c) {i : Tid} {request : MutationRequest}
    {k : ControlOp.Ans (.send request) → ControlProgram Unit}
    (hi : c.thread i = some (.request (.send request) k)) (hallowed : S.Allowed i (.send request)
      c.state) : c.state.db.HasRow request.key ∧
      request.key ∉ c.state.sent.map MutationRequest.key := by
  let failed : ControlOp.Ans (.send request) := Except.error (.transport request.agentId "")
  have hperf : S.machine.perform i (.send request) c.state failed
      { c.state with sent := request :: c.state.sent } := ⟨hallowed, rfl⟩
  obtain ⟨hinv, hguar, -⟩ := hc.perform hi hperf
  have hnew : request.key ∉ c.state.sent.map MutationRequest.key :=
    (List.nodup_cons.mp hinv.dispatched.once).1
  refine ⟨?_, hnew⟩
  rcases hguar.sent request List.mem_cons_self with hold | hcreator
  · exact absurd (List.mem_map_of_mem hold) hnew
  · exact hc.inv.dispatched.created _ _ hcreator

/-- For every operation at most one mutation request is ever sent, and when it is sent the row of
the operation is committed. What recovers or verifies operations sends none. -/
theorem mutation_sent_at_most_once (P : Processes) (docker : Set Swarm) {c : ControlConfig Tid}
    (hc : ControlReachable docker AnyRequest P.settings c) :
    (c.state.sent.map MutationRequest.key).Nodup ∧
    (∀ i request k, c.thread i = some (.request (.send request) k) →
      c.state.db.HasRow request.key ∧ request.key ∉ c.state.sent.map MutationRequest.key) ∧
    ∀ settings ∈ P.settings, ∀ (α : Type) (p : ControlProgram α), RecoveryPath settings α p →
      p.Uses ControlOp.Silent := by
  have hsafe := System.safe_of_reachable (S := P.system docker AnyRequest) hc
  exact ⟨hsafe.inv.dispatched.once,
    fun i request k hi => System.row_before_send hsafe hi trivial,
    fun _ _ _ _ hp => hp.silent⟩

end Sending

theorem scaleSchedule_sends_once :
    (play scaleSchedule).state.sent.map MutationRequest.key = [(.service, "o")] ∧
      ((play scaleSchedule).state.sent.map MutationRequest.key).Nodup :=
  ⟨by decide +kernel,
    (mutation_sent_at_most_once plainProcess.alone {webSwarm} scaleSchedule_reachable).1⟩

end Docklane.Control
