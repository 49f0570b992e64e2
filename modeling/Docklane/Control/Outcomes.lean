import Docklane.Control.Effects

/-!
# What a transaction leaves behind

One lemma for each transaction that may refuse: what was true of the database when it was accepted,
and what the database is afterwards.
-/

namespace Docklane.Control

/-- The row of an operation as its call leaves it at first. -/
def OperationInput.started (input : OperationInput) : OperationRecord :=
  { input with status := .RUNNING, resultVersion := none, errorCode := none, errorMessage := none }

def NodeOperationInput.started (input : NodeOperationInput) : NodeOperationRecord :=
  { input with status := .RUNNING, resultVersion := none, errorCode := none, errorMessage := none }

variable {input : ResolveEvidenceInput} {clusterId : String} {generation : Nat}
  {lease : MaintenanceLease} {updated : Bool}

namespace Db

variable {db db' : Db}

theorem createOperation_ok {input : OperationInput} (h : db.createOperation input = .ok db') :
    (∀ o ∈ db.operations, o.id ≠ input.id) ∧
      db' = { db with operations := db.operations ++ [input.started] } := by
  simp only [createOperation, insertOperation] at h
  split at h
  · cases h
  · next hfresh =>
    have hne : ∀ o ∈ db.operations, o.id ≠ input.id := by simpa using hfresh
    refine ⟨hne, ?_⟩
    have hrows : (db.operations.map fun op =>
        if op.id = input.id ∧ op.status.isTerminal = false then OperationChange.running.apply op
        else op) = db.operations := by
      conv_rhs => rw [← List.map_id db.operations]
      exact List.map_congr_left fun o ho => by simp [hne o ho]
    cases h
    simp only [changeOperation, List.map_append, hrows]
    simp [OperationInput.started, OperationChange.apply, OperationChange.columns,
      OperationChange.status, OperationStatus.isTerminal]

theorem createNodeOperation_ok {input : NodeOperationInput}
    (h : db.createNodeOperation input = .ok db') :
    (∀ o ∈ db.nodeOperations, o.id ≠ input.id) ∧
      db' = { db with nodeOperations := db.nodeOperations ++ [input.started] } := by
  simp only [createNodeOperation] at h
  split at h
  · cases h
  · next hfresh =>
    have hne : ∀ o ∈ db.nodeOperations, o.id ≠ input.id := by simpa using hfresh
    refine ⟨hne, ?_⟩
    have hrows : (db.nodeOperations.map fun op =>
        if op.id = input.id ∧ op.status.isTerminal = false then
          OperationChange.running.applyNode op
        else op) = db.nodeOperations := by
      conv_rhs => rw [← List.map_id db.nodeOperations]
      exact List.map_congr_left fun o ho => by simp [hne o ho]
    cases h
    simp only [changeNodeOperation, List.map_append, hrows]
    simp [NodeOperationInput.started, OperationChange.applyNode, OperationChange.columns,
      OperationChange.status, OperationStatus.isTerminal]

theorem createDeployment_ok {operation : OperationInput} {input : DeploymentInput} {id : String}
    {d : DeploymentRecord} (h : db.createDeployment operation input id = .ok (d, db')) :
    (∀ o ∈ db.operations, o.id ≠ operation.id) ∧
      (∀ row ∈ db.deployments, row.id ≠ id ∧ row.operationId ≠ input.operationId) ∧
      d.toDeploymentInput = input ∧ d.id = id ∧
      d.status = (if input.noOp then .VERIFYING else .DEPLOYING) ∧
      d.rollbackOperationId = none ∧
      db' = { db with
        operations := db.operations ++ [operation.started]
        deployments := db.deployments ++ [d] } := by
  simp only [createDeployment, bind, Except.bind] at h
  split at h
  · cases h
  · next db₁ hcreate =>
    obtain ⟨hne, rfl⟩ := createOperation_ok hcreate
    split at h
    · cases h
    · next db₂ hinsert =>
      simp only [insertDeployment] at hinsert
      split at hinsert
      · cases hinsert
      · next hfresh =>
        cases hinsert
        cases h
        refine ⟨hne, ?_, rfl, rfl, rfl, rfl, rfl⟩
        simpa [not_or] using hfresh

theorem createRollback_ok {operation : OperationInput} {deploymentId : String}
    (h : db.createRollback operation deploymentId = .ok db') :
    (∀ o ∈ db.operations, o.id ≠ operation.id) ∧
      (∀ a ∈ db.rollbackAttempts, a.operationId ≠ operation.id) ∧
      db' = ({ db with
        operations := db.operations ++ [operation.started]
        rollbackAttempts := db.rollbackAttempts ++ [⟨operation.id, deploymentId⟩] } :
          Db).writeDeployment deploymentId (.rollingBack operation.id) := by
  simp only [createRollback, bind, Except.bind] at h
  split at h
  · cases h
  · next db₁ hcreate =>
    obtain ⟨hne, rfl⟩ := createOperation_ok hcreate
    split at h
    · cases h
    · next db₂ hinsert =>
      simp only [insertRollbackAttempt] at hinsert
      split at hinsert
      · cases hinsert
      · next hfresh =>
        cases hinsert
        cases h
        exact ⟨hne, by simpa using hfresh, rfl⟩

/-! ## Admissions and maintenance -/

theorem insertAdmission_ok {admission : Admission} {inserted : Bool}
    (h : db.insertAdmission clusterId generation admission = .ok (inserted, db')) :
    inserted = false ∧ db' = db ∨
      inserted = true ∧ db.findMaintenance clusterId = some ⟨clusterId, .OPEN, generation⟩ ∧
        (∀ a ∈ db.admissions, a.id ≠ admission.id) ∧
        db' = { db with admissions := db.admissions ++ [admission] } := by
  simp only [insertAdmission] at h
  split at h
  · next row hrow =>
    split at h
    · next hopen =>
      split at h
      · cases h
      · next hfresh =>
        cases h
        have hcluster : row.clusterId = clusterId := by
          simpa using List.find?_some hrow
        obtain ⟨c, state, g⟩ := row
        obtain ⟨rfl, rfl⟩ : state = .OPEN ∧ g = generation := hopen
        obtain rfl : c = clusterId := hcluster
        exact .inr ⟨rfl, hrow, by simpa using hfresh, rfl⟩
    · cases h
      exact .inl ⟨rfl, rfl⟩
  · cases h
    exact .inl ⟨rfl, rfl⟩

theorem commitClosed_ok {agentIds : List String}
    (h : db.commitClosed clusterId generation agentIds lease = .ok (updated, db')) :
    updated = false ∧ db' = db ∨
      updated = true ∧ db.atMaintenance clusterId .CLOSING generation = true ∧
        db.quiescent clusterId = true ∧ db.acknowledgedBy clusterId generation agentIds = true ∧
        db' = db.transitionMaintenance clusterId .CLOSING generation .CLOSED := by
  simp only [commitClosed, bind, Except.bind] at h
  split at h
  · cases h
  cases howner : db.assertOwner lease with
  | error e =>
    rw [howner] at h
    cases h
  | ok _ =>
    rw [howner] at h
    cases hat : db.atMaintenance clusterId .CLOSING generation <;>
      cases hquiet : db.quiescent clusterId <;>
      cases hacked : db.acknowledgedBy clusterId generation agentIds <;>
      simp [hat, hquiet, hacked, pure, Except.pure, throw, throwThe, MonadExceptOf.throw] at h <;>
      obtain ⟨rfl, rfl⟩ := h <;> simp

theorem commitReconciling_ok
    (h : db.commitReconciling clusterId generation lease = .ok (updated, db')) :
    updated = false ∧ db' = db ∨
      updated = true ∧ db.atMaintenance clusterId .CLOSED generation = true ∧
        db' = db.transitionMaintenance clusterId .CLOSED generation .RECONCILING := by
  simp only [commitReconciling, bind, Except.bind] at h
  split at h
  · cases h
  cases howner : db.assertOwner lease with
  | error e =>
    rw [howner] at h
    cases h
  | ok _ =>
    rw [howner] at h
    cases hat : db.atMaintenance clusterId .CLOSED generation <;>
      simp [hat, pure, Except.pure] at h <;>
      obtain ⟨rfl, rfl⟩ := h <;> simp

theorem commitOpen_ok {agentIds : List String}
    (h : db.commitOpen clusterId generation agentIds lease = .ok (updated, db')) :
    updated = false ∧ db' = db ∨
      updated = true ∧ db.atMaintenance clusterId .RECONCILING generation = true ∧
        db.quiescent clusterId = true ∧ db.acknowledgedBy clusterId generation agentIds = true ∧
        db' = db.transitionMaintenance clusterId .RECONCILING generation .OPEN := by
  simp only [commitOpen, bind, Except.bind] at h
  split at h
  · cases h
  split at h
  · cases h
  cases howner : db.assertOwner lease with
  | error e =>
    rw [howner] at h
    cases h
  | ok _ =>
    rw [howner] at h
    cases hat : db.atMaintenance clusterId .RECONCILING generation <;>
      cases hquiet : db.quiescent clusterId <;>
      cases hacked : db.acknowledgedBy clusterId generation agentIds <;>
      simp [hat, hquiet, hacked, pure, Except.pure, throw, throwThe, MonadExceptOf.throw] at h <;>
      obtain ⟨rfl, rfl⟩ := h <;> simp

theorem initializeOpen_ok (h : db.initializeOpen clusterId = .ok db') :
    db' = db ∨ db.findMaintenance clusterId = none ∧
      db' = { db with maintenance := db.maintenance ++ [⟨clusterId, .OPEN, 1⟩] } := by
  simp only [initializeOpen] at h
  split at h
  · cases h
  · split at h
    · cases h
      exact .inl rfl
    · next hnone =>
      cases h
      exact .inr ⟨by simpa using hnone, rfl⟩

/-! ## Evidence -/

theorem insertResolution_ok (h : db.insertResolution input = .ok db') :
    db' = { db with
      resolutions := db.resolutions ++ [⟨input.clusterId, input.type, input.evidenceId⟩] } := by
  simp only [insertResolution] at h
  split at h
  · cases h
  · exact (Except.ok.inj h).symm

/-- A resolution is recorded after the operation of a dispatch is settled. For an admission there is
nothing to settle. -/
theorem resolveEvidence_ok {locked : Option LockedResource} {observed : Option ObservedUnchanged}
    (h : db.resolveEvidence input locked observed = .ok db') :
    ∃ settled, db' = { settled with
        resolutions := settled.resolutions ++ [⟨input.clusterId, input.type, input.evidenceId⟩] } ∧
      (input.type = .ADMISSION ∧ settled = db ∧
          (∃ a ∈ db.admissions, a.id = input.evidenceId ∧ a.clusterId = input.clusterId) ∨
        input.type = .DISPATCH ∧ db.resolveDispatch input locked observed = .ok settled) := by
  simp only [resolveEvidence, bind, Except.bind] at h
  split at h
  · cases h
  · split at h
    · cases h
    · cases htype : input.type with
      | ADMISSION =>
        simp only [htype] at h
        split at h
        · next hfound =>
          refine ⟨db, htype ▸ insertResolution_ok h, .inl ⟨rfl, rfl, by simpa using hfound⟩⟩
        · cases h
      | DISPATCH =>
        simp only [htype] at h
        split at h
        · split at h
          · cases h
          · next settled hsettled =>
            exact ⟨settled, htype ▸ insertResolution_ok h, .inr ⟨rfl, hsettled⟩⟩
        · cases h

theorem resolveDispatch_ok {locked : Option LockedResource} {observed : Option ObservedUnchanged}
    (h : db.resolveDispatch input locked observed = .ok db') :
    db' = db ∨ ∃ op, db.dispatchOperations input.evidenceId input.clusterId = [op] ∧
      locked = some op.resource ∧ op.manualRecovery = true ∧
      db.closeNotObserved input.clusterId input.reason op = .ok db' := by
  simp only [resolveDispatch] at h
  split at h
  · next op hop =>
    split at h
    · cases h
    · split at h
      · cases h
      · next hlocked =>
        split at h
        · next hmanual =>
          split at h
          · exact .inr ⟨op, hop, not_not.mp hlocked, hmanual, h⟩
          · cases h
        · split at h
          · exact .inl (Except.ok.inj h).symm
          · cases h
  · cases h

theorem recoverableDeployment_ok {op : OperationRecord} {d : DeploymentRecord}
    (h : db.recoverableDeployment clusterId op = .ok d) :
    (if op.type = .ROLLBACK then db.findDeploymentByRollbackOperation op.id
      else db.findDeploymentByOperation op.id) = some d := by
  cases htype : op.type <;> simp only [recoverableDeployment, htype] at h <;>
  · split at h
    · cases h
    · next d' hlinked =>
      split at h
      · cases h
      · split at h
        · cases h
          simpa using hlinked
        · cases h

theorem closeNotObserved_service {clusterId reason : String} {op : OperationRecord}
    (h : db.closeNotObserved clusterId reason (.service op) = .ok db') :
    let closed := db.changeOperation op.id (.failed "MANUAL_MUTATION_NOT_OBSERVED" reason)
    (op.type ≠ .DEPLOY ∧ op.type ≠ .ROLLBACK) ∧ db' = closed ∨
      (op.type = .DEPLOY ∨ op.type = .ROLLBACK) ∧ ∃ d,
        db.recoverableDeployment clusterId op = .ok d ∧
        db' = closed.writeDeployment d.id (.failed reason) := by
  simp only [closeNotObserved, bind, Except.bind] at h
  split at h
  · next hdep =>
    split at h
    · cases h
    · next d hd =>
      exact .inr ⟨hdep, d, hd, (Except.ok.inj h).symm⟩
  · next hdep => exact .inl ⟨not_or.mp hdep, (Except.ok.inj h).symm⟩

end Db

end Docklane.Control
