import Docklane.Control.Machine
import Docklane.Control.Outcomes
import Docklane.Control.Retries
import Docklane.Storage.Rows

/-!
# What is carried on from state to state

Operations, deployments and rollback attempts are never deleted, and what a request asked for never
changes in its rows. A new row takes an id that was free. This is so for every statement on every
database, whoever makes it.
-/

namespace Docklane.Control

open Concurrent Storage

/-- The same request, whatever has become of it. The runtime hash may be filled in later. -/
def OperationRecord.SameIntent (o o' : OperationRecord) : Prop :=
  o'.toOperationInput =
    { o.toOperationInput with targetRuntimeSpecHash := o'.targetRuntimeSpecHash }

def NodeOperationRecord.SameIntent (o o' : NodeOperationRecord) : Prop :=
  o'.toNodeOperationInput = o.toNodeOperationInput

def DeploymentRecord.SameIntent (d d' : DeploymentRecord) : Prop :=
  d'.toDeploymentInput = d.toDeploymentInput ∧ d'.id = d.id

theorem OperationRecord.SameIntent.refl (o : OperationRecord) : o.SameIntent o := rfl

theorem NodeOperationRecord.SameIntent.refl (o : NodeOperationRecord) : o.SameIntent o := rfl

theorem DeploymentRecord.SameIntent.refl (d : DeploymentRecord) : d.SameIntent d := ⟨rfl, rfl⟩

variable {o o' : OperationRecord}

theorem OperationRecord.SameIntent.id_eq (h : o.SameIntent o') : o'.id = o.id := by
  have hid := congrArg OperationInput.id h
  exact hid

theorem OperationRecord.SameIntent.type_eq (h : o.SameIntent o') : o'.type = o.type := by
  have htype := congrArg OperationInput.type h
  exact htype

theorem OperationRecord.SameIntent.clusterId_eq (h : o.SameIntent o') :
    o'.clusterId = o.clusterId := by
  have hcluster := congrArg OperationInput.clusterId h
  exact hcluster

theorem DeploymentRecord.SameIntent.operationId_eq {d d' : DeploymentRecord} (h : d.SameIntent d') :
    d'.operationId = d.operationId :=
  congrArg DeploymentInput.operationId h.1

theorem DeploymentRecord.SameIntent.target_eq {d d' : DeploymentRecord} (h : d.SameIntent d') :
    d'.deploymentTargetId = d.deploymentTargetId :=
  congrArg DeploymentInput.deploymentTargetId h.1

theorem NodeOperationRecord.SameIntent.id_eq {o o' : NodeOperationRecord} (h : o.SameIntent o') :
    o'.id = o.id :=
  congrArg NodeOperationInput.id h

/-- The row that a statement inserts into `operations`. -/
def DbOp.inserts : DbOp → Option OperationInput
  | .createOperation input => some input
  | .createDeployment operation _ _ => some operation
  | .createRollback operation _ => some operation
  | _ => none

/-- The row that a statement inserts into `node_operations`. -/
def DbOp.insertsNode : DbOp → Option NodeOperationInput
  | .createNodeOperation input => some input
  | _ => none

theorem DbOp.creates_of_inserts {op : DbOp} {input : OperationInput}
    (h : op.inserts = some input) : op.creates = some (.service, input.id) := by
  cases op with
  | createOperation _ => cases h; rfl
  | createDeployment _ _ _ => cases h; rfl
  | createRollback _ _ => cases h; rfl
  | _ => cases h

theorem DbOp.creates_of_insertsNode {op : DbOp} {input : NodeOperationInput}
    (h : op.insertsNode = some input) : op.creates = some (.node, input.id) := by
  cases op with
  | createNodeOperation _ => cases h; rfl
  | _ => cases h

/-- The rows of `db` are still there. A new one was inserted by the statement `op`, under an id that
was free. -/
structure Db.Carries (op : Option DbOp) (db db' : Db) : Prop where
  operations : Extends OperationRecord.SameIntent
    (fun o => op.bind DbOp.inserts = some o.toOperationInput ∧ ∀ a ∈ db.operations, a.id ≠ o.id)
    db.operations db'.operations
  nodeOperations : Extends NodeOperationRecord.SameIntent
    (fun o => op.bind DbOp.insertsNode = some o.toNodeOperationInput ∧
      ∀ a ∈ db.nodeOperations, a.id ≠ o.id)
    db.nodeOperations db'.nodeOperations
  deployments : Extends DeploymentRecord.SameIntent
    (fun d => (∃ operation id, op = some (.createDeployment operation d.toDeploymentInput id)) ∧
      ∀ a ∈ db.deployments, a.id ≠ d.id ∧ a.operationId ≠ d.operationId)
    db.deployments db'.deployments
  rollbackAttempts : Extends Eq
    (fun attempt => (∃ operation, op = some (.createRollback operation attempt.deploymentId) ∧
        operation.id = attempt.operationId) ∧
      ∀ a ∈ db.rollbackAttempts, a.operationId ≠ attempt.operationId)
    db.rollbackAttempts db'.rollbackAttempts
  targets : ∀ {id t}, db.findDeploymentTarget id = some t → db'.findDeploymentTarget id = some t

/-- The tables of operations and deployments are the same. -/
structure Db.SameRecords (db db' : Db) : Prop where
  operations : db'.operations = db.operations
  nodeOperations : db'.nodeOperations = db.nodeOperations
  deployments : db'.deployments = db.deployments
  rollbackAttempts : db'.rollbackAttempts = db.rollbackAttempts

variable {id : String}

namespace Db

variable {op : Option DbOp} {db db' : Db}

theorem SameRecords.refl (db : Db) : db.SameRecords db := ⟨rfl, rfl, rfl, rfl⟩

theorem SameRecords.carries (h : db.SameRecords db')
    (htargets : ∀ {id t}, db.findDeploymentTarget id = some t →
      db'.findDeploymentTarget id = some t) : db.Carries op db' where
  operations := h.operations ▸ .refl OperationRecord.SameIntent.refl
  nodeOperations := h.nodeOperations ▸ .refl NodeOperationRecord.SameIntent.refl
  deployments := h.deployments ▸ .refl DeploymentRecord.SameIntent.refl
  rollbackAttempts := h.rollbackAttempts ▸ .refl fun _ => rfl
  targets h := htargets h

theorem Carries.refl (db : Db) : db.Carries op db := (SameRecords.refl db).carries id

/-! ## The writers -/

theorem changeOperation_sameIntent (change : OperationChange) (o : OperationRecord) :
    o.SameIntent (if o.id = id ∧ o.status.isTerminal = false then change.apply o else o) := by
  split <;> rfl

theorem changeOperation_carries (change : OperationChange) :
    db.Carries op (db.changeOperation id change) :=
  { Carries.refl db with
    operations := .of_forall₂ (forall₂_map_right fun o _ => changeOperation_sameIntent change o) }

theorem changeNodeOperation_carries (change : OperationChange) :
    db.Carries op (db.changeNodeOperation id change) :=
  { Carries.refl db with
    nodeOperations := .of_forall₂ (forall₂_map_right fun o _ => by split <;> rfl) }

theorem writeDeployment_sameIntent {write : DeploymentWrite} {now : Nat} {d : DeploymentRecord} :
    d.SameIntent (if d.id = id then write.apply now d else d) := by
  split <;> exact ⟨rfl, rfl⟩

theorem settled_carries {operationId deploymentId : String} {change : OperationChange}
    {write : DeploymentWrite} :
    db.Carries op
      ((db.changeOperation operationId change).writeDeployment deploymentId write) :=
  { changeOperation_carries change with
    deployments := .of_forall₂ (forall₂_map_right fun _ _ =>
      writeDeployment_sameIntent) }

theorem closeNotObserved_carries {clusterId reason : String} {row : EvidenceOperation}
    (h : db.closeNotObserved clusterId reason row = .ok db') : db.Carries op db' := by
  cases row with
  | node _ =>
    cases h
    exact changeNodeOperation_carries _
  | service _ =>
    rcases closeNotObserved_service h with ⟨-, rfl⟩ | ⟨-, d, -, rfl⟩
    · exact changeOperation_carries _
    · exact settled_carries

theorem resolveEvidence_carries {input : ResolveEvidenceInput} {locked : Option LockedResource}
    {observed : Option ObservedUnchanged} (h : db.resolveEvidence input locked observed = .ok db') :
    db.Carries op db' := by
  obtain ⟨settled, rfl, ⟨-, rfl, -⟩ | ⟨-, hsettled⟩⟩ := resolveEvidence_ok h
  · exact { Carries.refl settled with }
  · rcases resolveDispatch_ok hsettled with rfl | ⟨row, -, -, -, hclosed⟩
    · exact { Carries.refl settled with }
    · exact { closeNotObserved_carries hclosed with }

end Db

/-! ## Statements -/

theorem DbOp.exec_sameRecords {op : DbOp} {db db' : Db} {reply : op.Reply} (hop : ¬ op.Writes)
    (h : op.exec db = .ok (reply, db')) :
    db.SameRecords db' ∧ db'.targets = db.targets ∧ db'.releases = db.releases := by
  have hsame {db'' : Db} (hdb : db'' = db) :
      db.SameRecords db'' ∧ db''.targets = db.targets ∧ db''.releases = db.releases :=
    ⟨hdb ▸ .refl db'', congrArg Db.targets hdb, congrArg Db.releases hdb⟩
  cases op with
  | createOperation _ => exact absurd trivial hop
  | createNodeOperation _ => exact absurd trivial hop
  | createDeployment _ _ _ => exact absurd trivial hop
  | createRollback _ _ => exact absurd trivial hop
  | changeOperation _ _ => exact absurd trivial hop
  | changeNodeOperation _ _ => exact absurd trivial hop
  | backfillTargetRuntimeSpecHash _ _ => exact absurd trivial hop
  | settle _ _ _ => exact absurd trivial hop
  | resolveEvidence _ _ _ => exact absurd trivial hop
  | insertAdmission c g a =>
    rcases Db.insertAdmission_ok h with ⟨-, hdb⟩ | ⟨-, -, -, rfl⟩
    · exact hsame hdb
    · exact ⟨⟨rfl, rfl, rfl, rfl⟩, rfl, rfl⟩
  | insertDispatch d =>
    have hinsert := made_of_exec h
    simp only [Db.insertDispatch] at hinsert
    split at hinsert <;> cases hinsert
    exact ⟨⟨rfl, rfl, rfl, rfl⟩, rfl, rfl⟩
  | acquireLease c holder ttl =>
    simp only [DbOp.exec, Db.acquireLease] at h
    split at h <;> split at h <;> cases h <;> exact ⟨⟨rfl, rfl, rfl, rfl⟩, rfl, rfl⟩
  | initializeOpen c =>
    rcases Db.initializeOpen_ok (made_of_exec h) with hdb | ⟨-, rfl⟩
    · exact hsame hdb
    · exact ⟨⟨rfl, rfl, rfl, rfl⟩, rfl, rfl⟩
  | acknowledgeBarrier c a g =>
    cases h
    simp only [Db.acknowledgeBarrier]
    split <;> exact ⟨⟨rfl, rfl, rfl, rfl⟩, rfl, rfl⟩
  | commitClosed c g ids lease =>
    rcases Db.commitClosed_ok h with ⟨-, hdb⟩ | ⟨-, -, -, -, rfl⟩
    · exact hsame hdb
    · exact ⟨⟨rfl, rfl, rfl, rfl⟩, rfl, rfl⟩
  | commitReconciling c g lease =>
    rcases Db.commitReconciling_ok h with ⟨-, hdb⟩ | ⟨-, -, rfl⟩
    · exact hsame hdb
    · exact ⟨⟨rfl, rfl, rfl, rfl⟩, rfl, rfl⟩
  | commitOpen c g ids lease =>
    rcases Db.commitOpen_ok h with ⟨-, hdb⟩ | ⟨-, -, -, -, rfl⟩
    · exact hsame hdb
    · exact ⟨⟨rfl, rfl, rfl, rfl⟩, rfl, rfl⟩
  | _ => cases h; exact ⟨⟨rfl, rfl, rfl, rfl⟩, rfl, rfl⟩

theorem DbOp.exec_carries {op : DbOp} {db db' : Db} {reply : op.Reply}
    (h : op.exec db = .ok (reply, db')) : db.Carries (some op) db' := by
  by_cases hop : op.Writes
  · cases op with
    | createOperation input =>
      obtain ⟨hfresh, rfl⟩ := Db.createOperation_ok (made_of_exec h)
      exact { Db.Carries.refl db with
        operations := .insert OperationRecord.SameIntent.refl ⟨rfl, hfresh⟩ }
    | createNodeOperation input =>
      obtain ⟨hfresh, rfl⟩ := Db.createNodeOperation_ok (made_of_exec h)
      exact { Db.Carries.refl db with
        nodeOperations := .insert NodeOperationRecord.SameIntent.refl ⟨rfl, hfresh⟩ }
    | createDeployment operation input id =>
      obtain ⟨hfresh, hdeployment, hinput, hid, -, -, rfl⟩ := Db.createDeployment_ok h
      refine { Db.Carries.refl db with
        operations := .insert OperationRecord.SameIntent.refl ⟨rfl, hfresh⟩
        deployments := .insert DeploymentRecord.SameIntent.refl
          ⟨⟨operation, id, by rw [hinput]⟩, fun row hrow => ?_⟩ }
      rw [hid, hinput]
      exact hdeployment row hrow
    | createRollback operation d =>
      obtain ⟨hfresh, hattempt, rfl⟩ := Db.createRollback_ok (made_of_exec h)
      exact { Db.Carries.refl db with
        operations := .insert OperationRecord.SameIntent.refl ⟨rfl, hfresh⟩
        deployments := .of_forall₂ (forall₂_map_right fun row _ =>
          Db.writeDeployment_sameIntent)
        rollbackAttempts := .insert (fun _ => rfl) ⟨⟨operation, rfl, rfl⟩, hattempt⟩ }
    | changeOperation id change =>
      cases h
      exact Db.changeOperation_carries change
    | changeNodeOperation id change =>
      cases h
      exact Db.changeNodeOperation_carries change
    | backfillTargetRuntimeSpecHash id hash =>
      cases h
      exact { Db.Carries.refl db with
        operations := .of_forall₂ (forall₂_map_right fun o _ => by split <;> rfl) }
    | settle settlement d o =>
      have hdb := DbOp.exec_settle h
      change db' = _ at hdb
      rw [hdb]
      exact Db.settled_carries
    | resolveEvidence input locked observed =>
      exact Db.resolveEvidence_carries (made_of_exec h)
    | _ => exact hop.elim
  · obtain ⟨hrows, htargets, -⟩ := DbOp.exec_sameRecords hop h
    exact hrows.carries fun h => by simpa only [Db.findDeploymentTarget, htargets] using h

section Steps

variable {Tid : Type} [DecidableEq Tid] {docker : Set Swarm}
  {Allowed : Tid → ControlOp → World Tid → Prop} {w w' : World Tid}

theorem Performs.carries {i : Tid} {op : ControlOp} {answer : op.Ans}
    (h : Performs docker i op w answer w') :
    ∃ statement, w.db.Carries statement w'.db ∧ ∀ o, statement = some o → op = .db o := by
  by_cases hop : ∀ o, op ≠ .db o
  · refine ⟨none, ?_, fun o ho => absurd ho (Option.some_ne_none o).symm⟩
    rw [Performs.db h hop]
    exact .refl _
  · simp only [not_forall, not_not] at hop
    obtain ⟨o, rfl⟩ := hop
    rcases StatementStep.db h with hdb | ⟨reply, hexec⟩
    · refine ⟨none, ?_, fun o ho => absurd ho (Option.some_ne_none o).symm⟩
      rw [hdb]
      exact .refl _
    · refine ⟨some o, DbOp.exec_carries hexec, fun _ ho => ?_⟩
      rw [Option.some.inj ho]

theorem EnvStep.carries (h : EnvStep w w') : w.db.Carries none w'.db := by
  cases h with
  | loseSession _ => exact .refl _
  | tick _ => exact { Db.Carries.refl w.db with }
  | registration _ => exact { Db.Carries.refl w.db with }
  | release _ => exact { Db.Carries.refl w.db with }
  | target _ =>
    refine { Db.Carries.refl w.db with targets := fun {id t} ht => ?_ }
    simp only [Db.findDeploymentTarget] at ht ⊢
    rw [List.find?_append, ht]
    rfl

theorem step_carries {Entry : ControlProgram Unit → Prop}
    {c c' : Config Tid ControlOp ControlOp.Ans Failure Unit (World Tid)}
    (h : Step (controlMachine docker Allowed) Entry c c') :
    ∃ statement, c.state.db.Carries statement c'.state.db := by
  cases h with
  | spawn _ _ => exact ⟨none, .refl _⟩
  | finish _ _ => exact ⟨none, .refl _⟩
  | env henv => exact ⟨none, EnvStep.carries henv⟩
  | crash S hcrash =>
    refine ⟨none, ?_⟩
    rw [CrashStep.db hcrash]
    exact .refl _
  | perform _ hperform =>
    obtain ⟨statement, hcarries, -⟩ := Performs.carries hperform.2
    exact ⟨statement, hcarries⟩

end Steps

end Docklane.Control
