import Docklane.Control.Machine

/-!
# The protocol of the control plane

What one call guarantees to all the others, whatever it is doing, and the invariant of the database
that follows. A call creates an operation only under the named locks of what the operation touches,
settles a deployment only under the lock of its service, sends a mutation only for a row that its
own transaction inserted, and works under an admission of its own.

Some of these rules need an assumption about the surroundings; `Premises` collects those that a
result may make, and each rule names what it needs.
-/

namespace Docklane.Control

open Concurrent

/-- What may be assumed of the surroundings. -/
structure Premises where
  lockName : LockKey → String
  /-- No name of a service or node is the id of another one. -/
  clean : Prop
  /-- An admission is resolved by hand only when its call is no longer running. -/
  careful : Prop
  /-- A rollback gets its lock before another one has rolled the same deployment back. -/
  patient : Prop
  /-- Every process enforces maintenance. -/
  enforced : Prop

/-! ## Rows over time -/

/-- A row of `operations` after some transactions: its intent is the same, and a terminal status
stays. -/
structure OperationRecord.Evolves (o o' : OperationRecord) : Prop where
  id : o'.id = o.id
  clusterId : o'.clusterId = o.clusterId
  serviceId : o'.serviceId = o.serviceId
  type : o'.type = o.type
  terminal : o.status.isTerminal → o'.status = o.status

structure NodeOperationRecord.Evolves (o o' : NodeOperationRecord) : Prop where
  id : o'.id = o.id
  clusterId : o'.clusterId = o.clusterId
  nodeId : o'.nodeId = o.nodeId
  affected : o'.affectedServiceIds = o.affectedServiceIds
  terminal : o.status.isTerminal → o'.status = o.status

structure DeploymentRecord.Evolves (d d' : DeploymentRecord) : Prop where
  id : d'.id = d.id
  operationId : d'.operationId = d.operationId
  deploymentTargetId : d'.deploymentTargetId = d.deploymentTargetId

theorem OperationRecord.Evolves.refl (o : OperationRecord) : o.Evolves o :=
  ⟨rfl, rfl, rfl, rfl, fun _ => rfl⟩

theorem NodeOperationRecord.Evolves.refl (o : NodeOperationRecord) : o.Evolves o :=
  ⟨rfl, rfl, rfl, rfl, fun _ => rfl⟩

theorem DeploymentRecord.Evolves.refl (d : DeploymentRecord) : d.Evolves d := ⟨rfl, rfl, rfl⟩

theorem OperationRecord.Evolves.trans {o₁ o₂ o₃ : OperationRecord} (h : o₁.Evolves o₂)
    (h' : o₂.Evolves o₃) : o₁.Evolves o₃ where
  id := h'.id.trans h.id
  clusterId := h'.clusterId.trans h.clusterId
  serviceId := h'.serviceId.trans h.serviceId
  type := h'.type.trans h.type
  terminal ht := by
    have hstatus := h.terminal ht
    exact (h'.terminal (hstatus ▸ ht)).trans hstatus

theorem NodeOperationRecord.Evolves.trans {o₁ o₂ o₃ : NodeOperationRecord} (h : o₁.Evolves o₂)
    (h' : o₂.Evolves o₃) : o₁.Evolves o₃ where
  id := h'.id.trans h.id
  clusterId := h'.clusterId.trans h.clusterId
  nodeId := h'.nodeId.trans h.nodeId
  affected := h'.affected.trans h.affected
  terminal ht := by
    have hstatus := h.terminal ht
    exact (h'.terminal (hstatus ▸ ht)).trans hstatus

theorem DeploymentRecord.Evolves.trans {d₁ d₂ d₃ : DeploymentRecord} (h : d₁.Evolves d₂)
    (h' : d₂.Evolves d₃) : d₁.Evolves d₃ :=
  ⟨h'.id.trans h.id, h'.operationId.trans h.operationId,
    h'.deploymentTargetId.trans h.deploymentTargetId⟩

theorem OperationRecord.Evolves.isTerminal {o o' : OperationRecord} (h : o.Evolves o')
    (ht : o.status.isTerminal) : o'.status.isTerminal := by
  rw [h.terminal ht]
  exact ht

theorem NodeOperationRecord.Evolves.isTerminal {o o' : NodeOperationRecord} (h : o.Evolves o')
    (ht : o.status.isTerminal) : o'.status.isTerminal := by
  rw [h.terminal ht]
  exact ht

/-- The operations whose outcome is recorded in a deployment as well. -/
def OperationRecord.ofDeployment (o : OperationRecord) : Prop :=
  o.type = .DEPLOY ∨ o.type = .ROLLBACK

theorem OperationRecord.Evolves.ofDeployment {o o' : OperationRecord} (h : o.Evolves o') :
    o'.ofDeployment ↔ o.ofDeployment := by
  simp only [OperationRecord.ofDeployment, h.type]

/-- The status that no operation of the deployment is going to change. -/
def DeploymentStatus.isSettled : DeploymentStatus → Bool
  | .SUCCESS | .FAILED | .ROLLED_BACK => true
  | _ => false

/-- `ROLLING_BACK` is entered from `FAILED` only, and `SUCCESS` and `ROLLED_BACK` are final. -/
def RollbackRule (before after : DeploymentStatus) : Prop :=
  (after = .ROLLING_BACK → before = .ROLLING_BACK ∨ before = .FAILED) ∧
    (before = .SUCCESS ∨ before = .ROLLED_BACK → after = before)

theorem RollbackRule.refl (status : DeploymentStatus) : RollbackRule status status :=
  ⟨.inl, fun _ => rfl⟩

/-! ## The lock of a row -/

namespace Premises

variable (E : Premises)

/-- The lock that an operation on this service holds. -/
def serviceLock (clusterId serviceId : String) : String :=
  E.lockName ⟨.service, clusterId, serviceId⟩

def nodeLock (clusterId nodeId : String) : String :=
  E.lockName ⟨.node, clusterId, nodeId⟩

def lockOf (o : OperationRecord) : String :=
  E.serviceLock o.clusterId o.serviceId

/-- The locks that a node operation holds. -/
def locksOf (o : NodeOperationRecord) : List String :=
  E.nodeLock o.clusterId o.nodeId :: o.affectedServiceIds.map (E.serviceLock o.clusterId)

end Premises

/-- Nothing refers to this random id yet. -/
def Db.Unused (db : Db) (id : String) : Prop :=
  (∀ a ∈ db.admissions, a.id ≠ id) ∧
    ∀ clusterId, (⟨clusterId, .ADMISSION, id⟩ : Resolution) ∉ db.resolutions

/-- The deployment operation of a deployment has ended. -/
def Db.DeployEnded (db : Db) (d : DeploymentRecord) : Prop :=
  ∃ o ∈ db.operations, o.id = d.operationId ∧ o.status.isTerminal

/-! ## What a call relies on and guarantees -/

/-- What happens to the rows, when only the owner of the locks `own` changes what they protect. Rows
stay, new operations and ended ones are the owner's, and a deployment whose operation has ended
without success does not succeed any more. -/
structure DbStep (E : Premises) (own : String → Prop) (db db' : Db) : Prop where
  operations : ∀ o ∈ db.operations, ∃ o' ∈ db'.operations, o.Evolves o' ∧
    (E.clean → o.ofDeployment → ¬ own (E.lockOf o) → o'.status.isTerminal = o.status.isTerminal)
  operations_new : E.clean → ∀ o' ∈ db'.operations, ¬ own (E.lockOf o') →
    ∃ o ∈ db.operations, o.Evolves o'
  nodeOperations : ∀ o ∈ db.nodeOperations, ∃ o' ∈ db'.nodeOperations, o.Evolves o'
  nodeOperations_new : E.clean → ∀ o' ∈ db'.nodeOperations,
    (∃ name ∈ E.locksOf o', ¬ own name) → ∃ o ∈ db.nodeOperations, o.Evolves o'
  targets : ∀ id t, db.findDeploymentTarget id = some t → db'.findDeploymentTarget id = some t
  attempts : ∀ a ∈ db.rollbackAttempts, a ∈ db'.rollbackAttempts
  deployments : ∀ d ∈ db.deployments, ∃ d' ∈ db'.deployments, d.Evolves d' ∧
    (E.clean → ∀ t, db.findDeploymentTarget d.deploymentTargetId = some t →
      ¬ own (E.serviceLock t.clusterId t.dockerServiceId) → d'.status = d.status) ∧
    (E.clean → db.DeployEnded d → d.status ≠ .SUCCESS → d'.status ≠ .SUCCESS)

/-- The rules of manual rollback. -/
structure RollbackStep (db db' : Db) : Prop where
  attempts : ∀ a ∈ db'.rollbackAttempts, a ∈ db.rollbackAttempts ∨
    ∃ d ∈ db.deployments, d.id = a.deploymentId ∧ d.status = .FAILED
  deployments : ∀ d ∈ db.deployments, ∀ d' ∈ db'.deployments, d'.id = d.id →
    RollbackRule d.status d'.status

/-- The reason that a deployment has for the end of its rollback. -/
def OperationRecord.endReason (o : OperationRecord) : Option String :=
  if o.status = .FAILED then o.errorMessage else none

/-- Deployments with no unresolved operation. Such a row stays as it is until another rollback of it
is started, and a row that is written with the end of a rollback gets the reason from there. -/
structure SettledStep (db db' : Db) : Prop where
  kept : ∀ d ∈ db.deployments, d.status.isSettled = true → d ∈ db'.deployments ∨
    ∃ r, ⟨r, d.id⟩ ∈ db'.rollbackAttempts ∧ ⟨r, d.id⟩ ∉ db.rollbackAttempts
  reason : ∀ d' ∈ db'.deployments, d' ∈ db.deployments ∨ ∀ o' ∈ db'.operations,
    d'.rollbackOperationId = some o'.id → o'.status.isTerminal = true → d'.reason = o'.endReason

theorem SettledStep.of_eq {db db' : Db} (h : db'.deployments = db.deployments) :
    SettledStep db db' where
  kept _ hd _ := .inl (h ▸ hd)
  reason _ hd' := .inl (h ▸ hd')

namespace DbStep

variable {E : Premises} {own own' : String → Prop} {db db₁ db₂ : Db}

theorem refl (E : Premises) (own : String → Prop) (db : Db) : DbStep E own db db where
  operations o ho := ⟨o, ho, .refl o, fun _ _ _ => rfl⟩
  operations_new _ o ho _ := ⟨o, ho, .refl o⟩
  nodeOperations o ho := ⟨o, ho, .refl o⟩
  nodeOperations_new _ o ho _ := ⟨o, ho, .refl o⟩
  targets _ _ h := h
  attempts _ h := h
  deployments d hd := ⟨d, hd, .refl d, fun _ _ _ _ => rfl, fun _ _ h => h⟩

theorem mono (h : DbStep E own db db₁) (hown : ∀ name, own name → own' name) :
    DbStep E own' db db₁ where
  operations o ho := by
    obtain ⟨o', ho', he, hopen⟩ := h.operations o ho
    exact ⟨o', ho', he, fun hclean hdep hne => hopen hclean hdep fun ho => hne (hown _ ho)⟩
  operations_new hclean o' ho' hne := h.operations_new hclean o' ho' fun ho => hne (hown _ ho)
  nodeOperations := h.nodeOperations
  nodeOperations_new hclean o' ho' hne := by
    obtain ⟨name, hname, hne⟩ := hne
    exact h.nodeOperations_new hclean o' ho' ⟨name, hname, fun ho => hne (hown _ ho)⟩
  targets := h.targets
  attempts := h.attempts
  deployments d hd := by
    obtain ⟨d', hd', he, hfrozen, hsuccess⟩ := h.deployments d hd
    exact ⟨d', hd', he, fun hclean t ht hne => hfrozen hclean t ht fun ho => hne (hown _ ho),
      hsuccess⟩

theorem deployEnded (h : DbStep E own db db₁) {d d' : DeploymentRecord} (he : d.Evolves d')
    (hended : db.DeployEnded d) : db₁.DeployEnded d' := by
  obtain ⟨o, ho, hid, hterminal⟩ := hended
  obtain ⟨o', ho', heo, -⟩ := h.operations o ho
  exact ⟨o', ho', heo.id.trans (hid.trans he.operationId.symm), heo.isTerminal hterminal⟩

theorem trans (h : DbStep E own db db₁) (h' : DbStep E own db₁ db₂) : DbStep E own db db₂ where
  operations o₁ ho₁ := by
    obtain ⟨o₂, ho₂, he, hopen⟩ := h.operations o₁ ho₁
    obtain ⟨o₃, ho₃, he', hopen'⟩ := h'.operations o₂ ho₂
    have hlockOf : E.lockOf o₂ = E.lockOf o₁ := by
      simp only [Premises.lockOf, he.clusterId, he.serviceId]
    refine ⟨o₃, ho₃, he.trans he', fun hclean hdep hne => ?_⟩
    rw [hopen' hclean (he.ofDeployment.mpr hdep) (hlockOf ▸ hne)]
    exact hopen hclean hdep hne
  operations_new hclean o₃ ho₃ hne := by
    obtain ⟨o₂, ho₂, he'⟩ := h'.operations_new hclean o₃ ho₃ hne
    have hlockOf : E.lockOf o₃ = E.lockOf o₂ := by
      simp only [Premises.lockOf, he'.clusterId, he'.serviceId]
    obtain ⟨o₁, ho₁, he⟩ := h.operations_new hclean o₂ ho₂ (hlockOf ▸ hne)
    exact ⟨o₁, ho₁, he.trans he'⟩
  nodeOperations o₁ ho₁ := by
    obtain ⟨o₂, ho₂, he⟩ := h.nodeOperations o₁ ho₁
    obtain ⟨o₃, ho₃, he'⟩ := h'.nodeOperations o₂ ho₂
    exact ⟨o₃, ho₃, he.trans he'⟩
  nodeOperations_new hclean o₃ ho₃ hne := by
    obtain ⟨o₂, ho₂, he'⟩ := h'.nodeOperations_new hclean o₃ ho₃ hne
    have hlocksOf : E.locksOf o₃ = E.locksOf o₂ := by
      simp only [Premises.locksOf, he'.clusterId, he'.nodeId, he'.affected]
    obtain ⟨o₁, ho₁, he⟩ := h.nodeOperations_new hclean o₂ ho₂ (hlocksOf ▸ hne)
    exact ⟨o₁, ho₁, he.trans he'⟩
  targets id t ht := h'.targets id t (h.targets id t ht)
  attempts a ha := h'.attempts a (h.attempts a ha)
  deployments d₁ hd₁ := by
    obtain ⟨d₂, hd₂, he, hfrozen, hsuccess⟩ := h.deployments d₁ hd₁
    obtain ⟨d₃, hd₃, he', hfrozen', hsuccess'⟩ := h'.deployments d₂ hd₂
    refine ⟨d₃, hd₃, he.trans he', fun hclean t ht hne => ?_, fun hclean hended hne => ?_⟩
    · rw [hfrozen' hclean t (he.deploymentTargetId ▸ h.targets _ t ht) hne]
      exact hfrozen hclean t ht hne
    · exact hsuccess' hclean (h.deployEnded he hended) (hsuccess hclean hended hne)

end DbStep

section Protocol

variable {Tid : Type}

/-- What a call may count on between two of its own requests. -/
structure Rely (E : Premises) (j : Tid) (w w' : World Tid) : Prop where
  lock_old : ∀ name, w'.lock name = some j → w.lock name = some j
  lock_kept : ∀ name, w.lock name = some j → w'.lock name = some j ∨ w'.session j = .lost
  lost : w.session j = .lost → w'.session j = .lost
  admitted : w'.admitted j = w.admitted j
  lastRead : w'.lastRead j = w.lastRead j
  db : DbStep E (fun name => w'.lock name ≠ some j) w.db w'.db
  sent : ∀ r ∈ w'.sent, w.creator r.key = some j → r ∈ w.sent
  creator : ∀ key, w.creator key = some j → w'.creator key = some j
  issued : ∀ id, w.issued id = some j → w'.issued id = some j
  unused : ∀ id, w.issued id = some j → w.db.Unused id → w'.db.Unused id

/-- What every step of a call keeps to. -/
structure Guar (E : Premises) (i : Tid) (w w' : World Tid) : Prop where
  lock : ∀ name j, j ≠ i → (w'.lock name = some j ↔ w.lock name = some j)
  session : ∀ j, j ≠ i → w'.session j = w.session j
  admitted : ∀ j, j ≠ i → w'.admitted j = w.admitted j
  lastRead : ∀ j, j ≠ i → w'.lastRead j = w.lastRead j
  db : DbStep E (fun name => w.lock name = some i) w.db w'.db
  rollback : E.clean → E.patient → RollbackStep w.db w'.db
  settled : E.clean → SettledStep w.db w'.db
  sent : ∀ r ∈ w'.sent, r ∈ w.sent ∨ w.creator r.key = some i
  creator : ∀ key j, w.creator key = some j → w'.creator key = some j
  issued : ∀ id j, w.issued id = some j → w'.issued id = some j
  unused : ∀ id j, j ≠ i → w.issued id = some j → w.db.Unused id → w'.db.Unused id

theorem Rely.refl (E : Premises) (j : Tid) (w : World Tid) : Rely E j w w where
  lock_old _ h := h
  lock_kept _ h := .inl h
  lost h := h
  admitted := rfl
  lastRead := rfl
  db := .refl E _ w.db
  sent _ h _ := h
  creator _ h := h
  issued _ h := h
  unused _ _ h := h

theorem Rely.trans {E : Premises} {j : Tid} {w₁ w₂ w₃ : World Tid} (h : Rely E j w₁ w₂)
    (h' : Rely E j w₂ w₃) : Rely E j w₁ w₃ where
  lock_old name hlock := h.lock_old name (h'.lock_old name hlock)
  lock_kept name hlock := by
    rcases h.lock_kept name hlock with hlock | hlost
    · exact h'.lock_kept name hlock
    · exact .inr (h'.lost hlost)
  lost hlost := h'.lost (h.lost hlost)
  admitted := h'.admitted.trans h.admitted
  lastRead := h'.lastRead.trans h.lastRead
  db := (h.db.mono fun name hne hlock => hne (h'.lock_old name hlock)).trans h'.db
  sent r hr hcreator := h.sent r (h'.sent r hr (h.creator _ hcreator)) hcreator
  creator key hcreator := h'.creator key (h.creator key hcreator)
  issued id hissued := h'.issued id (h.issued id hissued)
  unused id hissued hunused := h'.unused id (h.issued id hissued) (h.unused id hissued hunused)

theorem Guar.rely {E : Premises} {i j : Tid} {w w' : World Tid} (hij : i ≠ j)
    (h : Guar E i w w') : Rely E j w w' := by
  have hne : j ≠ i := Ne.symm hij
  refine
    { lock_old := fun name => (h.lock name j hne).mp
      lock_kept := fun name hlock => .inl ((h.lock name j hne).mpr hlock)
      lost := fun hlost => (h.session j hne).trans hlost
      admitted := h.admitted j hne
      lastRead := h.lastRead j hne
      db := h.db.mono fun name hown hlock => ?_
      sent := fun r hr hcreator => ?_
      creator := fun key => h.creator key j
      issued := fun id => h.issued id j
      unused := fun id => h.unused id j hne }
  · have hold := (h.lock name j hne).mp hlock
    exact hij (Option.some.inj (hown.symm.trans hold))
  · refine (h.sent r hr).resolve_right fun hown => ?_
    exact hij (Option.some.inj (hown.symm.trans hcreator))

end Protocol

/-! ## The invariant -/

/-- Rows are found by their keys. -/
structure Db.Keyed (db : Db) : Prop where
  operations : (db.operations.map (·.id)).Nodup
  nodeOperations : (db.nodeOperations.map (·.id)).Nodup
  deployments : (db.deployments.map (·.id)).Nodup
  deploymentOperations : (db.deployments.map (·.operationId)).Nodup
  attempts : (db.rollbackAttempts.map (·.operationId)).Nodup
  maintenance : (db.maintenance.map (·.clusterId)).Nodup

/-- The two rows may be unresolved at the same time. -/
def NodeOperationRecord.Apart (o p : NodeOperationRecord) : Prop :=
  o.clusterId = p.clusterId →
    o.nodeId ≠ p.nodeId ∧ ∀ serviceId ∈ o.affectedServiceIds, serviceId ∉ p.affectedServiceIds

/-- No two unresolved operations touch one resource. -/
structure Db.Exclusive (db : Db) : Prop where
  services : ∀ o ∈ db.operations, ∀ p ∈ db.operations, o.status.isTerminal = false →
    p.status.isTerminal = false → o.clusterId = p.clusterId → o.serviceId = p.serviceId →
    o.id = p.id
  affected : ∀ o ∈ db.operations, ∀ p ∈ db.nodeOperations, o.status.isTerminal = false →
    p.status.isTerminal = false → o.clusterId = p.clusterId → o.serviceId ∉ p.affectedServiceIds
  nodes : ∀ o ∈ db.nodeOperations, ∀ p ∈ db.nodeOperations, o.status.isTerminal = false →
    p.status.isTerminal = false → o.id ≠ p.id → o.Apart p

/-- The operation belongs to the deployment, as the one that made it or as a rollback of it. -/
def Db.Linked (db : Db) (d : DeploymentRecord) (operationId : String) : Prop :=
  d.operationId = operationId ∨ ⟨operationId, d.id⟩ ∈ db.rollbackAttempts

/-- The operation concerns the service of the target. -/
def OperationRecord.On (o : OperationRecord) (t : DeploymentTarget) : Prop :=
  o.clusterId = t.clusterId ∧ o.serviceId = t.dockerServiceId

/-- An operation of this type for the deployment is recorded. -/
def Db.Recorded (db : Db) (d : DeploymentRecord) (operationId : String) (type : OperationType) :
    Prop :=
  ∃ t, db.findDeploymentTarget d.deploymentTargetId = some t ∧
    ∃ o ∈ db.operations, o.id = operationId ∧ o.type = type ∧ o.On t

/-- The statuses that a deployment and its operation may have together, as long as the deployment
is not rolled back. -/
def deployPair (noOp : Bool) : DeploymentStatus → OperationStatus → Bool
  | .DEPLOYING, .RUNNING | .VERIFYING, .VERIFYING | .SUCCESS, .SUCCESS | .FAILED, .FAILED
  | .NEEDS_ATTENTION, .NEEDS_ATTENTION => true
  | .VERIFYING, .RUNNING => noOp
  | _, _ => false

/-- The statuses that a deployment and its latest rollback may have together. -/
def rollbackPair : DeploymentStatus → OperationStatus → Bool
  | .ROLLING_BACK, .RUNNING | .ROLLBACK_VERIFYING, .VERIFYING | .ROLLED_BACK, .SUCCESS
  | .FAILED, .FAILED | .ROLLBACK_FAILED, .NEEDS_ATTENTION
  | .NEEDS_ATTENTION, .NEEDS_ATTENTION => true
  | _, _ => false

/-- The row of a deployment agrees with the rows of its operations. -/
structure Db.Agrees (db : Db) (d : DeploymentRecord) : Prop where
  deploy : d.rollbackOperationId = none →
    ∃ o ∈ db.operations, o.id = d.operationId ∧ deployPair d.noOp d.status o.status = true
  rollback : ∀ r, d.rollbackOperationId = some r →
    (∃ o ∈ db.operations, o.id = d.operationId ∧ o.status = .FAILED) ∧
      ⟨r, d.id⟩ ∈ db.rollbackAttempts ∧
      ∃ o ∈ db.operations, o.id = r ∧ rollbackPair d.status o.status = true
  attempted : ∀ a ∈ db.rollbackAttempts, a.deploymentId = d.id → d.rollbackOperationId ≠ none

/-- Deployments and their operations tell one story. -/
structure Db.Consistent (db : Db) : Prop where
  deploys : ∀ d ∈ db.deployments, db.Recorded d d.operationId .DEPLOY
  rollsBack : ∀ a ∈ db.rollbackAttempts, ∃ d ∈ db.deployments, d.id = a.deploymentId ∧
    db.Recorded d a.operationId .ROLLBACK
  settled : ∀ d ∈ db.deployments, d.status.isSettled = true ↔
    ∀ o ∈ db.operations, db.Linked d o.id → o.status.isTerminal = true
  agree : ∀ d ∈ db.deployments, db.Agrees d

/-- The row that a key names exists. -/
def Db.HasRow (db : Db) : OperationKey → Prop
  | (.service, id) => ∃ o ∈ db.operations, o.id = id
  | (.node, id) => ∃ o ∈ db.nodeOperations, o.id = id

def MaintenanceState.isShut : MaintenanceState → Bool
  | .CLOSED | .RECONCILING => true
  | .OPEN | .CLOSING => false

/-- Nothing of the cluster is unresolved. -/
def Db.Drained (db : Db) (clusterId : String) : Prop :=
  (∀ o ∈ db.operations, o.clusterId = clusterId → o.status.isTerminal = true) ∧
    ∀ o ∈ db.nodeOperations, o.clusterId = clusterId → o.status.isTerminal = true

section Invariant

variable {Tid : Type}

/-- One request for a row at most, and only after the row was inserted. -/
structure Dispatched (w : World Tid) : Prop where
  created : ∀ key i, w.creator key = some i → w.db.HasRow key
  once : (w.sent.map MutationRequest.key).Nodup
  sent : ∀ r ∈ w.sent, ∃ i, w.creator r.key = some i

/-- Admissions carry ids that were drawn for them. -/
structure Issued (w : World Tid) : Prop where
  admissions : ∀ a ∈ w.db.admissions, ∃ i, w.issued a.id = some i
  resolutions : ∀ r ∈ w.db.resolutions, r.type = .ADMISSION → ∃ i, w.issued r.evidenceId = some i

/-- The admission of a running callback is on record, and a cluster that is shut has neither
unresolved operations nor running callbacks. -/
structure Fenced (E : Premises) (w : World Tid) : Prop where
  recorded : ∀ i a, w.admitted i = some a →
    (∃ row ∈ w.db.admissions, row.id = a.id ∧ row.clusterId = a.clusterId) ∧
      (⟨a.clusterId, .ADMISSION, a.id⟩ : Resolution) ∉ w.db.resolutions
  distinct : ∀ i j a b, w.admitted i = some a → w.admitted j = some b → a.id = b.id → i = j
  shut : E.enforced → ∀ row ∈ w.db.maintenance, row.state.isShut = true →
    w.db.Drained row.clusterId ∧ ∀ i a, w.admitted i = some a → a.clusterId ≠ row.clusterId

structure Inv (E : Premises) (w : World Tid) : Prop where
  keyed : w.db.Keyed
  dispatched : Dispatched w
  issued : Issued w
  exclusive : E.clean → w.db.Exclusive
  consistent : E.clean → w.db.Consistent
  fenced : E.careful → Fenced E w

/-- The protocol of the control plane. Nothing is asked of a call that has ended: what it leaves
behind is the server's. -/
def controlProtocol (E : Premises) : Protocol Tid (World Tid) where
  Inv := Inv E
  Rely := Rely E
  Guar := Guar E
  Idle _ _ := True
  rely_refl := Rely.refl E
  rely_trans := Rely.trans
  rely_of_guar hij _ hguar := hguar.rely hij
  idle_rely _ _ := trivial

theorem Inv.emptyWorld (E : Premises) : Inv E (emptyWorld Tid) where
  keyed := by constructor <;> exact List.nodup_nil
  dispatched := by constructor <;> simp [Control.emptyWorld]
  issued := by constructor <;> simp [Control.emptyWorld, emptyDb]
  exclusive _ := by constructor <;> simp [Control.emptyWorld, emptyDb]
  consistent _ := by constructor <;> simp [Control.emptyWorld, emptyDb]
  fenced _ := by constructor <;> simp [Control.emptyWorld, emptyDb]

end Invariant

end Docklane.Control
