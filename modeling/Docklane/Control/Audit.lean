import Docklane.Control.Carried

/-!
# The audit trail

The audit events that a transaction adds for an operation. Nothing reads them, so they are not part
of the tables. A transaction that ends an operation adds one.
-/

namespace Docklane.Control

def OperationType.text : OperationType → String
  | .SCALE => "SCALE"
  | .RESTART => "RESTART"
  | .DEPLOY => "DEPLOY"
  | .ROLLBACK => "ROLLBACK"

def NodeOperationType.text : NodeOperationType → String
  | .DRAIN => "DRAIN"
  | .ACTIVATE => "ACTIVATE"
  | .LABELS => "LABELS"

/-- The columns `operation_id` and `action` of `audit_events`. -/
structure AuditEvent where
  operationId : String
  action : String
  deriving DecidableEq, Repr

/-- What the mutation service records for a status that it writes. -/
def OperationChange.auditAction : OperationChange → Option String
  | .success _ => some "MUTATION_SUCCEEDED"
  | .failed code _ =>
    some (if code = "CONVERGENCE_FAILED" then "MUTATION_CONVERGENCE_FAILED" else
      "MUTATION_REJECTED")
  | .needsAttention _ _ => some "MUTATION_NEEDS_ATTENTION"
  | .running | .verifying _ | .verificationPending _ _ => none

/-- What the node mutation service records. -/
def OperationChange.nodeAuditAction (type : NodeOperationType) : OperationChange → Option String
  | .success _ => some ("NODE_" ++ type.text ++ "_SUCCEEDED")
  | .failed _ _ => some "NODE_MUTATION_REJECTED"
  | .needsAttention _ _ => some "NODE_MUTATION_NEEDS_ATTENTION"
  | .running | .verifying _ | .verificationPending _ _ => none

/-- `HISTORICAL_REDEPLOY` and `DEPLOY`, each with or without `NO_OP`. -/
def deployAction (kind : DeploymentKind) (noOp : Bool) (end_ : String) : String :=
  (match kind with | .HISTORICAL_REDEPLOY => "HISTORICAL_REDEPLOY" | .DEPLOY => "DEPLOY") ++
    (if noOp then "_NO_OP_" else "_") ++ end_

/-- What the deployment service records for a settlement of this deployment. -/
def Settlement.auditAction (deployment : Option DeploymentRecord) : Settlement → Option String
  | .markVerifying _ | .markRollbackVerifying _ => none
  | .verificationPending _ _ => some "DEPLOY_VERIFICATION_PENDING"
  | .deployed _ => some (match deployment with
    | some d => deployAction d.kind d.noOp "SUCCEEDED"
    | none => deployAction .DEPLOY false "SUCCEEDED")
  | .fail _ _ => some "DEPLOY_FAILED"
  | .attention _ _ => some "DEPLOY_NEEDS_ATTENTION"
  | .rollbackVerificationPending _ _ => some "ROLLBACK_VERIFICATION_PENDING"
  | .rolledBack _ => some "ROLLBACK_SUCCEEDED"
  | .rollbackRejected _ => some "ROLLBACK_REJECTED"
  | .rollbackFailed _ _ => some "ROLLBACK_FAILED"
  | .rollbackAttention _ _ => some "ROLLBACK_NEEDS_ATTENTION"

/-- The id of the operation that a dispatch was made for. -/
def EvidenceOperation.id : EvidenceOperation → String
  | .service op => op.id
  | .node op => op.id

/-- The audit events that a transaction adds for operations. The events of the cluster itself carry
a random id, and are left out. -/
def DbOp.auditEvents (db : Db) : DbOp → List AuditEvent
  | .createOperation input => [⟨input.id, input.type.text ++ "_STARTED"⟩]
  | .createNodeOperation input => [⟨input.id, "NODE_" ++ input.type.text ++ "_STARTED"⟩]
  | .createDeployment operation input _ =>
    [⟨operation.id, deployAction input.kind input.noOp "STARTED"⟩]
  | .createRollback operation _ => [⟨operation.id, "ROLLBACK_STARTED"⟩]
  | .changeOperation id change => (change.auditAction.map (⟨id, ·⟩)).toList
  | .changeNodeOperation id change =>
    (db.nodeOperations.filter (·.id = id)).flatMap fun row =>
      ((change.nodeAuditAction row.type).map (⟨id, ·⟩)).toList
  | .settle settlement deploymentId operationId =>
    ((settlement.auditAction (db.findDeployment deploymentId)).map (⟨operationId, ·⟩)).toList
  | .resolveEvidence input _ _ =>
    match input.type, db.dispatchOperations input.evidenceId input.clusterId with
    | .DISPATCH, [op] => if op.manualRecovery then [⟨op.id, "MUTATION_MANUALLY_RECONCILED"⟩] else []
    | _, _ => []
  | .audit operationId action => [⟨operationId, action⟩]
  | _ => []

/-- Every operation that has ended had done so before, or an event is added for it. -/
structure Db.Audited (events : List AuditEvent) (db db' : Db) : Prop where
  operations : ∀ o' ∈ db'.operations, o'.status.isTerminal = true →
    (∃ o ∈ db.operations, o.id = o'.id ∧ o.status = o'.status) ∨
      ∃ e ∈ events, e.operationId = o'.id
  nodeOperations : ∀ o' ∈ db'.nodeOperations, o'.status.isTerminal = true →
    (∃ o ∈ db.nodeOperations, o.id = o'.id ∧ o.status = o'.status) ∨
      ∃ e ∈ events, e.operationId = o'.id

variable {change : OperationChange}

namespace Db.Audited

variable {db db' : Db} {events : List AuditEvent}

theorem of_eq (hoperations : db'.operations = db.operations)
    (hnodes : db'.nodeOperations = db.nodeOperations) : db.Audited events db' where
  operations o' ho' _ := .inl ⟨o', hoperations ▸ ho', rfl, rfl⟩
  nodeOperations o' ho' _ := .inl ⟨o', hnodes ▸ ho', rfl, rfl⟩

theorem of_started {input : OperationInput}
    (hoperations : db'.operations = db.operations ++ [input.started])
    (hnodes : db'.nodeOperations = db.nodeOperations) : db.Audited events db' where
  operations o' ho' hterminal := by
    rcases List.mem_append.mp (hoperations ▸ ho') with hold | hnew
    · exact .inl ⟨o', hold, rfl, rfl⟩
    · rw [List.mem_singleton.mp hnew] at hterminal
      cases hterminal
  nodeOperations o' ho' _ := .inl ⟨o', hnodes ▸ ho', rfl, rfl⟩

theorem of_change {id : String}
    (hoperations : db'.operations = (db.changeOperation id change).operations)
    (hnodes : db'.nodeOperations = db.nodeOperations)
    (hevent : change.status.isTerminal = true → ∃ e ∈ events, e.operationId = id) :
    db.Audited events db' where
  operations o' ho' hterminal := by
    obtain ⟨o, ho, rfl⟩ := List.mem_map.mp (hoperations ▸ ho')
    split
    · next hid =>
      rw [if_pos hid] at hterminal
      obtain ⟨e, he, heid⟩ := hevent hterminal
      exact .inr ⟨e, he, heid.trans hid.1.symm⟩
    · exact .inl ⟨o, ho, rfl, rfl⟩
  nodeOperations o' ho' _ := .inl ⟨o', hnodes ▸ ho', rfl, rfl⟩

theorem of_changeNode {id : String}
    (hevent : change.status.isTerminal = true → ∀ row ∈ db.nodeOperations, row.id = id →
      ∃ e ∈ events, e.operationId = id) :
    db.Audited events (db.changeNodeOperation id change) where
  operations o' ho' _ := .inl ⟨o', ho', rfl, rfl⟩
  nodeOperations o' ho' hterminal := by
    obtain ⟨o, ho, rfl⟩ := List.mem_map.mp ho'
    split
    · next hid =>
      rw [if_pos hid] at hterminal
      obtain ⟨e, he, heid⟩ := hevent hterminal o ho hid.1
      exact .inr ⟨e, he, heid.trans hid.1.symm⟩
    · exact .inl ⟨o, ho, rfl, rfl⟩

end Db.Audited

/-! ## Events of the writers -/

theorem OperationChange.auditAction_isSome (h : change.status.isTerminal = true) :
    change.auditAction.isSome = true := by
  cases change <;> first | rfl | cases h

theorem OperationChange.nodeAuditAction_isSome (h : change.status.isTerminal = true)
    {type : NodeOperationType} : (change.nodeAuditAction type).isSome = true := by
  cases change <;> first | rfl | cases h

theorem Settlement.auditAction_isSome {settlement : Settlement}
    (h : settlement.operation.status.isTerminal = true) (d : Option DeploymentRecord) :
    (settlement.auditAction d).isSome = true := by
  cases settlement <;> first | rfl | cases h

theorem exists_event {action : Option String} (h : action.isSome = true) {id : String} :
    ∃ e ∈ (action.map (AuditEvent.mk id)).toList, e.operationId = id := by
  obtain ⟨a, rfl⟩ := Option.isSome_iff_exists.mp h
  exact ⟨⟨id, a⟩, List.mem_singleton_self _, rfl⟩

theorem closeNotObserved_audited (action : String) {db db' : Db} {clusterId reason : String}
    {op : EvidenceOperation} (h : db.closeNotObserved clusterId reason op = .ok db') :
    db.Audited [⟨op.id, action⟩] db' := by
  cases op with
  | node op =>
    cases h
    exact .of_changeNode fun _ _ _ _ => ⟨_, List.mem_singleton_self _, rfl⟩
  | service op =>
    have hevent : ∃ e ∈ [AuditEvent.mk op.id action], e.operationId = op.id :=
      ⟨_, List.mem_singleton_self _, rfl⟩
    rcases Db.closeNotObserved_service h with ⟨-, rfl⟩ | ⟨-, d, -, rfl⟩ <;>
      exact .of_change rfl rfl fun _ => hevent

theorem resolveEvidence_audited {db db' : Db} {input : ResolveEvidenceInput}
    {locked : Option LockedResource} {observed : Option ObservedUnchanged}
    (h : db.resolveEvidence input locked observed = .ok db') :
    db.Audited ((DbOp.resolveEvidence input locked observed).auditEvents db) db' := by
  obtain ⟨settled, rfl, ⟨-, rfl, -⟩ | ⟨htype, hsettled⟩⟩ := Db.resolveEvidence_ok h
  · exact .of_eq rfl rfl
  · rcases Db.resolveDispatch_ok hsettled with rfl | ⟨op, hop, -, hmanual, hclosed⟩
    · exact .of_eq rfl rfl
    · have haudited := closeNotObserved_audited "MUTATION_MANUALLY_RECONCILED" hclosed
      simp only [DbOp.auditEvents, htype, hop, hmanual, if_true]
      exact ⟨haudited.operations, haudited.nodeOperations⟩

/-- Every transaction that ends an operation adds an event for it. -/
theorem DbOp.exec_audited {op : DbOp} {db db' : Db} {reply : op.Reply}
    (h : op.exec db = .ok (reply, db')) : db.Audited (op.auditEvents db) db' := by
  by_cases hop : ¬ op.Writes
  · obtain ⟨hrows, -⟩ := DbOp.exec_sameRecords hop h
    exact .of_eq hrows.operations hrows.nodeOperations
  cases op with
  | createOperation input =>
    obtain ⟨-, rfl⟩ := Db.createOperation_ok (made_of_exec h)
    exact .of_started rfl rfl
  | createNodeOperation input =>
    obtain ⟨-, rfl⟩ := Db.createNodeOperation_ok (made_of_exec h)
    refine ⟨fun o' ho' _ => .inl ⟨o', ho', rfl, rfl⟩, fun o' ho' hterminal => ?_⟩
    rcases List.mem_append.mp ho' with hold | hnew
    · exact .inl ⟨o', hold, rfl, rfl⟩
    · rw [List.mem_singleton.mp hnew] at hterminal
      cases hterminal
  | createDeployment operation input id =>
    obtain ⟨-, -, -, -, -, -, rfl⟩ := Db.createDeployment_ok h
    exact .of_started rfl rfl
  | createRollback operation d =>
    obtain ⟨-, -, rfl⟩ := Db.createRollback_ok (made_of_exec h)
    exact .of_started rfl rfl
  | changeOperation id change =>
    cases h
    exact .of_change rfl rfl fun hterminal =>
      exists_event (OperationChange.auditAction_isSome hterminal)
  | changeNodeOperation id change =>
    cases h
    refine .of_changeNode fun hterminal row hrow hid => ?_
    obtain ⟨e, he, heid⟩ := exists_event (OperationChange.nodeAuditAction_isSome hterminal)
    exact ⟨e, List.mem_flatMap.mpr ⟨row, List.mem_filter.mpr ⟨hrow, by simpa using hid⟩, he⟩, heid⟩
  | settle settlement d o =>
    have hdb := DbOp.exec_settle h
    change db' = _ at hdb
    rw [hdb]
    exact .of_change rfl rfl fun hterminal =>
      exists_event (Settlement.auditAction_isSome hterminal _)
  | resolveEvidence input locked observed =>
    exact resolveEvidence_audited (made_of_exec h)
  | backfillTargetRuntimeSpecHash id hash =>
    cases h
    refine ⟨fun o' ho' _ => ?_, fun o' ho' _ => .inl ⟨o', ho', rfl, rfl⟩⟩
    obtain ⟨o, ho, rfl⟩ := List.mem_map.mp ho'
    refine .inl ⟨o, ho, ?_⟩
    split <;> exact ⟨rfl, rfl⟩
  | _ => exact (hop id).elim

end Docklane.Control
