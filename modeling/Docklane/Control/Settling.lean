import Docklane.Control.Intents

/-!
# Outcomes

A settlement writes the outcome of an operation and the status of its deployment in one transaction.
Under the lock of the service it keeps the two in step. An operator who resolves evidence may close
an operation in the same way.
-/

namespace Docklane.Control

open Concurrent Storage

/-! ## Settlements -/

/-- The statuses a settlement writes belong together. -/
structure Settlement.Lawful (settlement : Settlement) (type : OperationType) : Prop where
  settled : settlement.deployment.status.isSettled = settlement.operation.status.isTerminal
  running : settlement.deployment.status ≠ .ROLLING_BACK
  success : settlement.deployment.status = .SUCCESS → type = .DEPLOY
  deploy : type = .DEPLOY → ∀ noOp,
    deployPair noOp settlement.deployment.status settlement.operation.status = true
  rollback : type = .ROLLBACK →
    rollbackPair settlement.deployment.status settlement.operation.status = true

namespace Db

/-- The operation has not ended, concerns this service and belongs to the deployment. -/
def Tracks (db : Db) (clusterId serviceId deploymentId operationId : String)
    (type : OperationType) : Prop :=
  ∃ o ∈ db.operations, o.id = operationId ∧ o.status.isTerminal = false ∧
    o.clusterId = clusterId ∧ o.serviceId = serviceId ∧ o.type = type ∧ o.ofDeployment ∧
    ∃ d ∈ db.deployments, d.id = deploymentId ∧ db.Linked d operationId

variable {db : Db} {o : OperationRecord} {d : DeploymentRecord} {id : String}

theorem mem_changeOperation {change : OperationChange} {q' : OperationRecord} :
    q' ∈ (db.changeOperation id change).operations ↔ ∃ q ∈ db.operations,
      (q.id = id ∧ q.status.isTerminal = false) ∧ q' = change.apply q ∨
        q' ∈ db.operations ∧ ¬ (q'.id = id ∧ q'.status.isTerminal = false) := by
  simp only [changeOperation, List.mem_map]
  constructor
  · rintro ⟨q, hq, rfl⟩
    by_cases hid : q.id = id ∧ q.status.isTerminal = false
    · rw [if_pos hid]
      exact ⟨q, hq, .inl ⟨hid, rfl⟩⟩
    · rw [if_neg hid]
      exact ⟨q, hq, .inr ⟨hq, hid⟩⟩
  · rintro ⟨q, hq, ⟨hid, rfl⟩ | ⟨hq', hid⟩⟩
    · exact ⟨q, hq, if_pos hid⟩
    · exact ⟨q', hq', if_neg hid⟩

theorem Consistent.linked_unique (hkeyed : db.Keyed) (h : db.Consistent) {d' : DeploymentRecord}
    (hd : d ∈ db.deployments) (hd' : d' ∈ db.deployments) (hl : db.Linked d id)
    (hl' : db.Linked d' id) : d = d' := by
  have hmixed : ∀ {d₁ d₂ : DeploymentRecord}, d₁ ∈ db.deployments → d₁.operationId = id →
      ¬ (⟨id, d₂.id⟩ : RollbackAttempt) ∈ db.rollbackAttempts := by
    rintro d₁ d₂ hd₁ rfl hattempt
    obtain ⟨-, -, q, hq, hqid, hqtype, -⟩ := h.deploys d₁ hd₁
    obtain ⟨-, -, -, -, -, r, hr, hrid, hrtype, -⟩ := h.rollsBack _ hattempt
    obtain rfl := List.inj_on_of_nodup_map hkeyed.operations hq hr (hqid.trans hrid.symm)
    rw [hqtype] at hrtype
    cases hrtype
  rcases hl with hop | ha <;> rcases hl' with hop' | ha'
  · exact List.inj_on_of_nodup_map hkeyed.deploymentOperations hd hd' (hop.trans hop'.symm)
  · exact absurd ha' (hmixed hd hop)
  · exact absurd ha (hmixed hd' hop')
  · have heq := List.inj_on_of_nodup_map hkeyed.attempts ha ha' rfl
    exact List.inj_on_of_nodup_map hkeyed.deployments hd hd' (congrArg (·.deploymentId) heq)

theorem Consistent.deploy_of_type (hkeyed : db.Keyed) (h : db.Consistent) (ho : o ∈ db.operations)
    (hl : db.Linked d o.id) (htype : o.type = .DEPLOY) : d.operationId = o.id := by
  rcases hl with hop | hattempt
  · exact hop
  · obtain ⟨-, -, -, -, -, q, hq, hqid, hqtype, -⟩ := h.rollsBack _ hattempt
    obtain rfl := List.inj_on_of_nodup_map hkeyed.operations hq ho hqid
    rw [htype] at hqtype
    cases hqtype

theorem Consistent.open_of_linked (h : db.Consistent) (hd : d ∈ db.deployments)
    (ho : o ∈ db.operations) (hl : db.Linked d o.id) (hopen : o.status.isTerminal = false) :
    ¬ d.status.isSettled = true := by
  intro hsettled
  have := (h.settled d hd).mp hsettled o ho hl
  simp [hopen] at this

variable {settlement : Settlement}

/-- The tables after a settlement. -/
abbrev settled (db : Db) (settlement : Settlement) (deploymentId operationId : String) : Db :=
  (db.changeOperation operationId settlement.operation).writeDeployment deploymentId
    settlement.deployment

theorem DeploymentWrite.apply_rollbackOperationId {write : DeploymentWrite}
    (h : write.status ≠ .ROLLING_BACK) (now : Nat) (d : DeploymentRecord) :
    (write.apply now d).rollbackOperationId = d.rollbackOperationId := by
  cases write <;> first | rfl | exact absurd rfl h

/-- An unresolved rollback of a deployment is the one that the deployment names. -/
theorem Consistent.latest (hkeyed : db.Keyed) (hexcl : db.Exclusive) (h : db.Consistent)
    (hd : d ∈ db.deployments) (ho : o ∈ db.operations) (hopen : o.status.isTerminal = false)
    (hl : ⟨o.id, d.id⟩ ∈ db.rollbackAttempts) : d.rollbackOperationId = some o.id := by
  cases hr : d.rollbackOperationId with
  | none => exact absurd hr ((h.agree d hd).attempted _ hl rfl)
  | some r =>
    obtain ⟨-, hattempt, p, hp, rfl, hpair⟩ := (h.agree d hd).rollback r hr
    have hunsettled := h.open_of_linked hd ho (.inr hl) hopen
    have hpopen : p.status.isTerminal = false := by
      cases hds : d.status <;> cases hps : p.status <;>
        simp_all [rollbackPair, OperationStatus.isTerminal, DeploymentStatus.isSettled]
    -- both operations are on the service of the target
    obtain ⟨t, ht, hon, -⟩ := h.linked hkeyed hd ho (.inr hl)
    obtain ⟨t', ht', hon', -⟩ := h.linked hkeyed hd hp (.inr hattempt)
    obtain rfl : t = t' := Option.some.inj (ht.symm.trans ht')
    rw [hexcl.services p hp o ho hpopen hopen (hon'.1.trans hon.1.symm) (hon'.2.trans hon.2.symm)]

/-- A settlement keeps the row of its deployment in agreement with the operation. -/
theorem Agrees.settle (hkeyed : db.Keyed) (hexcl : db.Exclusive) (h : db.Consistent)
    (ho : o ∈ db.operations) (hopen : o.status.isTerminal = false) (hd : d ∈ db.deployments)
    (hl : db.Linked d o.id) (hlawful : settlement.Lawful o.type) :
    (db.settled settlement d.id o.id).Agrees (settlement.deployment.apply db.clock d) := by
  have hrollback := DeploymentWrite.apply_rollbackOperationId hlawful.running db.clock d
  have hself : settlement.operation.apply o ∈ (db.settled settlement d.id o.id).operations :=
    mem_changeOperation.mpr ⟨o, ho, .inl ⟨⟨rfl, hopen⟩, rfl⟩⟩
  refine ⟨fun hnone => ?_, fun r hr => ?_, fun a ha hid => ?_⟩
  · rw [hrollback] at hnone
    rcases hl with hop | hattempt
    · obtain ⟨-, -, p, hp, hpid, hptype, -⟩ := h.deploys d hd
      obtain rfl := List.inj_on_of_nodup_map hkeyed.operations hp ho (hpid.trans hop)
      exact ⟨_, hself, hop.symm, hlawful.deploy hptype d.noOp⟩
    · exact absurd hnone ((h.agree d hd).attempted _ hattempt rfl)
  · rw [hrollback] at hr
    obtain ⟨⟨q, hq, hqid, hqfailed⟩, hattempt, -⟩ := (h.agree d hd).rollback r hr
    have hqkept : q ∈ (db.settled settlement d.id o.id).operations :=
      mem_changeOperation.mpr ⟨q, hq, .inr ⟨hq,
      fun hq' => by simp [hqfailed, OperationStatus.isTerminal] at hq'⟩⟩
    refine ⟨⟨q, hqkept, hqid, hqfailed⟩, hattempt, ?_⟩
    rcases hl with hop | hl
    · -- the operation that made the deployment has failed, so it is not the unresolved one
      obtain rfl := List.inj_on_of_nodup_map hkeyed.operations hq ho (hqid.trans hop)
      rw [hqfailed] at hopen
      cases hopen
    · obtain ⟨-, -, -, -, -, p, hp, hpid, hptype, -⟩ := h.rollsBack _ hl
      obtain rfl := List.inj_on_of_nodup_map hkeyed.operations hp ho hpid
      have hlatest := h.latest hkeyed hexcl hd ho hopen hl
      exact ⟨_, hself, Option.some.inj (hlatest.symm.trans hr), hlawful.rollback hptype⟩
  · rw [hrollback]
    exact (h.agree d hd).attempted a ha hid

theorem Consistent.settle (hkeyed : db.Keyed) (hexcl : db.Exclusive) (h : db.Consistent)
    (ho : o ∈ db.operations) (hopen : o.status.isTerminal = false) (hd : d ∈ db.deployments)
    (hl : db.Linked d o.id) (hlawful : settlement.Lawful o.type) :
    (db.settled settlement d.id o.id).Consistent := by
  have hevolves := db.changeOperation_evolves o.id settlement.operation
  -- the operation is not one of another deployment
  have hother : ∀ {d'}, d' ∈ db.deployments → d'.id ≠ d.id →
      ∀ q ∈ db.operations, db.Linked d' q.id → q.id ≠ o.id := by
    intro d' hd' hne q hq hlinked heq
    exact hne (congrArg (·.id) (h.linked_unique hkeyed hd' hd (heq ▸ hlinked) hl))
  refine ⟨fun d' hd' => ?_, fun a ha => ?_, fun d' hd' => ?_, fun d' hd' => ?_⟩
  · obtain ⟨d₀, hd₀, he, -⟩ := mem_writeDeployment.mp hd'
    rw [he.operationId]
    exact ((h.deploys d₀ hd₀).update hevolves rfl).evolves he
  · obtain ⟨d₀, hd₀, hid, hrec⟩ := h.rollsBack a ha
    obtain ⟨d', hd', he⟩ := exists_new_row (writeDeployment_evolves
      (db.changeOperation o.id settlement.operation) d.id settlement.deployment) hd₀
    exact ⟨d', hd', he.id.trans hid, (hrec.update hevolves rfl).evolves he⟩
  · obtain ⟨d₀, hd₀, he, ⟨hid, rfl⟩ | ⟨hid, rfl⟩⟩ := mem_writeDeployment.mp hd'
    · obtain rfl := List.inj_on_of_nodup_map hkeyed.deployments hd₀ hd hid
      change settlement.deployment.status.isSettled = true ↔ _
      rw [hlawful.settled]
      have hself : settlement.operation.apply o ∈
          (db.changeOperation o.id settlement.operation).operations :=
        mem_changeOperation.mpr ⟨o, ho, .inl ⟨⟨rfl, hopen⟩, rfl⟩⟩
      refine ⟨fun hterminal q' hq' hlinked => ?_, fun hall => hall _ hself hl⟩
      obtain ⟨q, hq, ⟨-, rfl⟩ | ⟨hq', hne⟩⟩ := mem_changeOperation.mp hq'
      · exact hterminal
      · -- any other operation of the deployment is on the same service, so it has ended
        by_contra hrunning
        simp only [Bool.not_eq_true] at hrunning
        obtain ⟨t, ht, hon, -⟩ := h.linked hkeyed hd₀ ho hl
        obtain ⟨t', ht', hon', -⟩ := h.linked hkeyed hd₀ hq' hlinked
        obtain rfl : t = t' := Option.some.inj (ht.symm.trans ht')
        have hsame := hexcl.services q' hq' o ho hrunning hopen (hon'.1.trans hon.1.symm)
          (hon'.2.trans hon.2.symm)
        exact hne ⟨hsame, hrunning⟩
    · rw [h.settled d' hd₀]
      refine ⟨fun hall q' hq' hlinked => ?_, fun hall q hq hlinked => ?_⟩
      · obtain ⟨q, hq, ⟨⟨hqid, -⟩, rfl⟩ | ⟨hq', -⟩⟩ := mem_changeOperation.mp hq'
        · exact absurd hqid (hother hd₀ hid q hq hlinked)
        · exact hall q' hq' hlinked
      · refine hall q (mem_changeOperation.mpr ⟨q, hq, .inr ⟨hq, fun hqid => ?_⟩⟩) hlinked
        exact hother hd₀ hid q hq hlinked hqid.1
  · obtain ⟨d₀, hd₀, he, ⟨hid, rfl⟩ | ⟨hid, rfl⟩⟩ := mem_writeDeployment.mp hd'
    · obtain rfl := List.inj_on_of_nodup_map hkeyed.deployments hd₀ hd hid
      exact .settle hkeyed hexcl h ho hopen hd hl hlawful
    · refine (h.agree d' hd₀).kept (fun _ ha => ha) (fun _ ha _ => ha)
        fun q hq hlinked => ⟨q, mem_changeOperation.mpr ⟨q, hq, .inr ⟨hq, fun hqid => ?_⟩⟩, rfl,
        rfl⟩
      exact hother hd₀ hid q hq hlinked hqid.1

theorem Keyed.settled (h : db.Keyed) (settlement : Settlement) (deploymentId operationId : String) :
    (db.settled settlement deploymentId operationId).Keyed := by
  have hops := keys_eq (fun _ _ he => he.id)
    (db.changeOperation_evolves operationId settlement.operation)
  have hdeps := writeDeployment_evolves (db.changeOperation operationId settlement.operation)
    deploymentId settlement.deployment
  exact { h with
    operations := hops ▸ h.operations
    deployments := keys_eq (fun _ _ he => he.id) hdeps ▸ h.deployments
    deploymentOperations := keys_eq (fun _ _ he => he.operationId) hdeps ▸ h.deploymentOperations }

end Db

theorem DbStep.tracks {E : Premises} {own : String → Prop} {db db' : Db}
    {clusterId serviceId deploymentId operationId : String} {type : OperationType}
    (h : DbStep E own db db') (hclean : E.clean) (hown : ¬ own (E.serviceLock clusterId serviceId))
    (ht : db.Tracks clusterId serviceId deploymentId operationId type) :
    db'.Tracks clusterId serviceId deploymentId operationId type := by
  obtain ⟨o, ho, hid, hopen, hcluster, hservice, htype, hdep, d, hd, hdid, hlinked⟩ := ht
  obtain ⟨o', ho', he, hsame⟩ := h.operations o ho
  obtain ⟨d', hd', hed, -⟩ := h.deployments d hd
  have hlock : E.lockOf o = E.serviceLock clusterId serviceId := by
    rw [Premises.lockOf, hcluster, hservice]
  refine ⟨o', ho', he.id.trans hid, (hsame hclean hdep (hlock ▸ hown)).trans hopen,
    he.clusterId.trans hcluster, he.serviceId.trans hservice, he.type.trans htype,
    he.ofDeployment.mpr hdep, d', hd', hed.id.trans hdid, ?_⟩
  rcases hlinked with hop | hattempt
  · exact .inl (hed.operationId.trans hop)
  · exact .inr (hed.id.symm ▸ h.attempts _ hattempt)

section Settle

variable {Tid : Type} {E : Premises} {w : World Tid} {i : Tid} {settlement : Settlement}
  {clusterId serviceId deploymentId operationId : String} {type : OperationType} {db' : Db}

theorem Fenced.update (h : Fenced E w)
    (hops : List.Forall₂ OperationRecord.Evolves w.db.operations db'.operations)
    (hnodes : List.Forall₂ NodeOperationRecord.Evolves w.db.nodeOperations db'.nodeOperations)
    (hmaintenance : db'.maintenance = w.db.maintenance)
    (hadmissions : db'.admissions = w.db.admissions)
    (hresolutions : db'.resolutions = w.db.resolutions) : Fenced E { w with db := db' } where
  recorded j a ha := by
    have hrec := h.recorded j a ha
    rwa [← hadmissions, ← hresolutions] at hrec
  distinct := h.distinct
  shut henforced row hrow hshut := by
    obtain ⟨hdrained, hnone⟩ := h.shut henforced row (hmaintenance ▸ hrow) hshut
    exact ⟨hdrained.update hops hnodes, hnone⟩

/-- What a call has to know before it settles an operation. -/
def MaySettle (E : Premises) (i : Tid) (clusterId serviceId deploymentId operationId : String)
    (type : OperationType) (w : World Tid) : Prop :=
  E.clean → w.lock (E.serviceLock clusterId serviceId) = some i ∧
    w.db.Tracks clusterId serviceId deploymentId operationId type

theorem settled_dbStep (hinv : Inv E w)
    (hmay : MaySettle E i clusterId serviceId deploymentId operationId type w)
    (hlawful : settlement.Lawful type) :
    DbStep E (fun name => w.lock name = some i) w.db
      (w.db.settled settlement deploymentId operationId) := by
  have hevolves := w.db.changeOperation_evolves operationId settlement.operation
  refine
    { operations := fun q hq => ?_
      operations_new := fun _ q hq _ => exists_old_row hevolves hq
      nodeOperations := fun q hq => ⟨q, hq, .refl q⟩
      nodeOperations_new := fun _ q hq _ => ⟨q, hq, .refl q⟩
      targets := fun _ _ ht => ht
      attempts := fun _ ha => ha
      deployments := fun d₀ hd₀ => ?_ }
  · by_cases hid : q.id = operationId ∧ q.status.isTerminal = false
    · refine ⟨settlement.operation.apply q, Db.mem_changeOperation.mpr ⟨q, hq, .inl ⟨hid, rfl⟩⟩,
        ⟨rfl, rfl, rfl, rfl, fun ht => absurd ht (by simp [hid.2])⟩, fun hclean _ hother => ?_⟩
      obtain ⟨hlock, o, ho, hoid, -, hcluster, hservice, -⟩ := hmay hclean
      obtain rfl := List.inj_on_of_nodup_map hinv.keyed.operations hq ho (hid.1.trans hoid.symm)
      rw [Premises.lockOf, hcluster, hservice] at hother
      exact absurd hlock hother
    · exact ⟨q, Db.mem_changeOperation.mpr ⟨q, hq, .inr ⟨hq, hid⟩⟩, .refl q, fun _ _ _ => rfl⟩
  · by_cases hid : d₀.id = deploymentId
    · refine ⟨settlement.deployment.apply w.db.clock d₀,
        Db.mem_writeDeployment.mpr ⟨d₀, hd₀, ⟨rfl, rfl, rfl⟩, .inl ⟨hid, rfl⟩⟩, ⟨rfl, rfl, rfl⟩,
        fun hclean t ht hother => ?_, fun hclean hended _ hsuccess => ?_⟩
      · obtain ⟨hlock, o, ho, rfl, -, hcluster, hservice, -, -, d, hd, hdid, hl⟩ := hmay hclean
        obtain rfl := List.inj_on_of_nodup_map hinv.keyed.deployments hd₀ hd (hid.trans hdid.symm)
        obtain ⟨t', ht', hon, -⟩ := (hinv.consistent hclean).linked hinv.keyed hd₀ ho hl
        obtain rfl : t = t' := Option.some.inj (ht.symm.trans ht')
        rw [← hon.1, ← hon.2, hcluster, hservice] at hother
        exact absurd hlock hother
      · -- only the deployment operation itself can succeed, and it has not ended
        obtain ⟨-, o, ho, rfl, hopen, -, -, rfl, -, d, hd, hdid, hl⟩ := hmay hclean
        obtain rfl := List.inj_on_of_nodup_map hinv.keyed.deployments hd₀ hd (hid.trans hdid.symm)
        have hop := (hinv.consistent hclean).deploy_of_type hinv.keyed ho hl
          (hlawful.success hsuccess)
        obtain ⟨p, hp, hpid, hterminal⟩ := hended
        obtain rfl := List.inj_on_of_nodup_map hinv.keyed.operations hp ho (hpid.trans hop)
        simp [hopen] at hterminal
    · exact ⟨d₀, Db.mem_writeDeployment.mpr ⟨d₀, hd₀, .refl d₀, .inr ⟨hid, rfl⟩⟩, .refl d₀,
        fun _ _ _ _ => rfl, fun _ _ hne => hne⟩

theorem settled_rollbackStep (hinv : Inv E w) (hclean : E.clean)
    (hmay : MaySettle E i clusterId serviceId deploymentId operationId type w)
    (hlawful : settlement.Lawful type) :
    RollbackStep w.db (w.db.settled settlement deploymentId operationId) := by
  refine ⟨fun a ha => .inl ha, fun d₀ hd₀ d' hd' hid => ?_⟩
  obtain ⟨d₁, hd₁, he, hcase⟩ := Db.mem_writeDeployment.mp hd'
  obtain rfl := List.inj_on_of_nodup_map hinv.keyed.deployments hd₁ hd₀ (he.id.symm.trans hid)
  rcases hcase with ⟨hdid, rfl⟩ | ⟨-, rfl⟩
  · obtain ⟨-, o, ho, rfl, hopen, -, -, -, -, d, hd, hdid', hl⟩ := hmay hclean
    obtain rfl := List.inj_on_of_nodup_map hinv.keyed.deployments hd₁ hd (hdid.trans hdid'.symm)
    have hunsettled := (hinv.consistent hclean).open_of_linked hd₁ ho hl hopen
    refine ⟨fun hrolling => absurd hrolling hlawful.running, fun hfinal => ?_⟩
    rcases hfinal with hfinal | hfinal <;> simp [hfinal, DeploymentStatus.isSettled] at hunsettled
  · exact .refl _

/-- A settlement that ends an operation writes one reason into both rows. -/
theorem Settlement.reason_eq (settlement : Settlement)
    (hterminal : settlement.operation.status.isTerminal = true) {o : OperationRecord} :
    settlement.deployment.reason = (settlement.operation.apply o).endReason := by
  cases settlement <;> first | rfl | cases hterminal

theorem settled_settledStep (hinv : Inv E w) (hclean : E.clean)
    (hmay : MaySettle E i clusterId serviceId deploymentId operationId type w)
    (hlawful : settlement.Lawful type) :
    SettledStep w.db (w.db.settled settlement deploymentId operationId) := by
  obtain ⟨-, o, ho, rfl, hopen, -, -, -, -, d, hd, rfl, hl⟩ := hmay hclean
  have hconsistent := hinv.consistent hclean
  constructor
  · intro d₀ hd₀ hsettled
    by_cases hid : d₀.id = d.id
    · obtain rfl := List.inj_on_of_nodup_map hinv.keyed.deployments hd₀ hd hid
      exact absurd hsettled (hconsistent.open_of_linked hd₀ ho hl hopen)
    · exact .inl (Db.mem_writeDeployment.mpr ⟨d₀, hd₀, .refl d₀, .inr ⟨hid, rfl⟩⟩)
  · intro d' hd'
    obtain ⟨d₀, hd₀, -, ⟨hid, rfl⟩ | ⟨-, rfl⟩⟩ := Db.mem_writeDeployment.mp hd'
    · obtain rfl := List.inj_on_of_nodup_map hinv.keyed.deployments hd₀ hd hid
      refine .inr fun o' ho' hr hterminal => ?_
      rw [Db.DeploymentWrite.apply_rollbackOperationId hlawful.running] at hr
      obtain ⟨q, hq, ⟨-, rfl⟩ | ⟨hold, hne⟩⟩ := Db.mem_changeOperation.mp ho'
      · exact settlement.reason_eq hterminal
      · -- the rollback that the deployment names is the one that is settled
        obtain ⟨⟨p, hp, hpid, hpfailed⟩, -⟩ := (hconsistent.agree d₀ hd₀).rollback _ hr
        rcases hl with hop | hattempt
        · obtain rfl := List.inj_on_of_nodup_map hinv.keyed.operations hp ho (hpid.trans hop)
          rw [hpfailed] at hopen
          cases hopen
        · have hlatest := hconsistent.latest hinv.keyed (hinv.exclusive hclean) hd₀ ho hopen
              hattempt
          obtain rfl := List.inj_on_of_nodup_map hinv.keyed.operations hold ho
            (Option.some.inj (hr.symm.trans hlatest))
          exact absurd ⟨rfl, hopen⟩ hne
    · exact .inl hd₀

theorem settled_step (hinv : Inv E w)
    (hmay : MaySettle E i clusterId serviceId deploymentId operationId type w)
    (hlawful : settlement.Lawful type) :
    let w' := { w with db := w.db.settled settlement deploymentId operationId }
    Inv E w' ∧ Guar E i w w' := by
  have hevolves := w.db.changeOperation_evolves operationId settlement.operation
  have hnodes : List.Forall₂ NodeOperationRecord.Evolves w.db.nodeOperations w.db.nodeOperations :=
    List.forall₂_same.mpr fun o _ => .refl o
  refine ⟨⟨hinv.keyed.settled settlement deploymentId operationId, ⟨fun key j hj => ?_,
      hinv.dispatched.once, hinv.dispatched.sent⟩,
      ⟨hinv.issued.admissions, hinv.issued.resolutions⟩,
      fun hclean => ?_, fun hclean => ?_, fun hcareful => ?_⟩,
    ⟨fun _ _ _ => Iff.rfl, fun _ _ => rfl, fun _ _ => rfl, fun _ _ => rfl,
      settled_dbStep hinv hmay hlawful, fun hclean _ => settled_rollbackStep hinv hclean hmay
        hlawful,
      fun hclean => settled_settledStep hinv hclean hmay hlawful, fun r hr => .inl hr,
      fun _ _ hc => hc, fun _ _ hi => hi, fun _ _ _ _ hu => hu⟩⟩
  · exact (hinv.dispatched.created key j hj).update hevolves hnodes
  · exact (hinv.exclusive hclean).update hevolves hnodes
  · obtain ⟨-, o, ho, rfl, hopen, -, -, rfl, -, d, hd, rfl, hl⟩ := hmay hclean
    exact (hinv.consistent hclean).settle hinv.keyed (hinv.exclusive hclean) ho hopen hd hl hlawful
  · exact (hinv.fenced hcareful).update hevolves hnodes rfl rfl rfl

theorem Db.Tracks.settled {db : Db}
    (h : db.Tracks clusterId serviceId deploymentId operationId type)
    (hopen : settlement.operation.status.isTerminal = false) :
    (db.settled settlement deploymentId operationId).Tracks clusterId serviceId deploymentId
      operationId type := by
  obtain ⟨o, ho, hid, hunresolved, hcluster, hservice, htype, hdep, d, hd, hdid, hl⟩ := h
  refine ⟨settlement.operation.apply o, Db.mem_changeOperation.mpr
    ⟨o, ho, .inl ⟨⟨hid, hunresolved⟩, rfl⟩⟩, hid, hopen, hcluster, hservice, htype, hdep,
    settlement.deployment.apply db.clock d,
    Db.mem_writeDeployment.mpr ⟨d, hd, ⟨rfl, rfl, rfl⟩, .inl ⟨hdid, rfl⟩⟩, hdid, hl⟩

variable [DecidableEq Tid] {w' : World Tid}

theorem settle_statement (hinv : Inv E w) (hlawful : settlement.Lawful type)
    (hmay : w.session i ≠ .lost → MaySettle E i clusterId serviceId deploymentId operationId type w)
    {answer : Except Failure (DbOp.settle settlement deploymentId operationId).Reply}
    (h : StatementStep i (DbOp.settle settlement deploymentId operationId) w answer w') :
    Inv E w' ∧ Guar E i w w' ∧
      (w' = w ∨ w' = { w with db := w.db.settled settlement deploymentId operationId }) := by
  rcases statement_effect rfl (fun _ _ => rfl) h with rfl | ⟨reply, db', hexec, hlive, rfl⟩
  · exact ⟨hinv, .refl E i hinv, .inl rfl⟩
  · obtain rfl : db' = _ := DbOp.exec_settle hexec
    obtain ⟨hinv', hguar⟩ := settled_step hinv (hmay hlive) hlawful
    exact ⟨hinv', hguar, .inr rfl⟩

end Settle

/-! ## Evidence -/

variable {op : OperationRecord}

section Evidence

variable {Tid : Type} {E : Premises} {w w₀ : World Tid} {i : Tid} {r : Resolution}

/-- A resolution is recorded, of a dispatch or of an admission that no call works under. -/
theorem resolution_step (hinv : Inv E w) (hguar : Guar E i w₀ w)
    (hadmission : r.type = .ADMISSION → ∃ a ∈ w.db.admissions, a.id = r.evidenceId)
    (hstill : ∀ a ∈ w.db.admissions, ∃ a₀ ∈ w₀.db.admissions, a₀.id = a.id)
    (hcareful : E.careful → r.type = .ADMISSION →
      ∀ j a, w.admitted j = some a → ¬ (a.clusterId = r.clusterId ∧ a.id = r.evidenceId)) :
    let w' := { w with db := { w.db with resolutions := w.db.resolutions ++ [r] } }
    Inv E w' ∧ Guar E i w₀ w' := by
  have hrows : w.db.SameRows { w.db with resolutions := w.db.resolutions ++ [r] } :=
    ⟨rfl, rfl, rfl, rfl, rfl, rfl⟩
  refine ⟨⟨hrows.keyed hinv.keyed,
      ⟨hinv.dispatched.created, hinv.dispatched.once, hinv.dispatched.sent⟩,
      ⟨hinv.issued.admissions, fun r' hr' htype => ?_⟩,
      fun hclean => hrows.exclusive (hinv.exclusive hclean),
      fun hclean => hrows.consistent (hinv.consistent hclean),
      fun hc => ⟨fun j a ha => ⟨((hinv.fenced hc).recorded j a ha).1, fun hmem => ?_⟩,
        (hinv.fenced hc).distinct, (hinv.fenced hc).shut⟩⟩,
    ⟨hguar.lock, hguar.session, hguar.admitted, hguar.lastRead, hrows.dbStep hguar.db,
      fun hclean hpatient => hrows.rollbackStep (hguar.rollback hclean hpatient),
      fun hclean => hrows.settledStep (hguar.settled hclean),
      hguar.sent, hguar.creator, hguar.issued, fun id j hj hissued hunused => ?_⟩⟩
  · rcases List.mem_append.mp hr' with hr' | hr'
    · exact hinv.issued.resolutions r' hr' htype
    · obtain rfl := List.mem_singleton.mp hr'
      obtain ⟨a, ha, hid⟩ := hadmission htype
      exact hid ▸ hinv.issued.admissions a ha
  · rcases List.mem_append.mp hmem with hmem | hmem
    · exact ((hinv.fenced hc).recorded j a ha).2 hmem
    · obtain rfl := List.mem_singleton.mp hmem
      exact hcareful hc rfl j a ha ⟨rfl, rfl⟩
  · have hold := hguar.unused id j hj hissued hunused
    refine ⟨hold.1, fun clusterId hmem => ?_⟩
    rcases List.mem_append.mp hmem with hmem | hmem
    · exact hold.2 clusterId hmem
    · obtain rfl := List.mem_singleton.mp hmem
      obtain ⟨a, ha, hid⟩ := hadmission rfl
      obtain ⟨a₀, ha₀, hid₀⟩ := hstill a ha
      exact hunused.1 a₀ ha₀ (hid₀.trans hid)

/-- A rollback that nobody has seen is closed with its deployment, like a failed deployment. -/
def notObserved (reason : String) : Settlement :=
  .fail "MANUAL_MUTATION_NOT_OBSERVED" reason

theorem notObserved_lawful {reason : String} {type : OperationType} :
    (notObserved reason).Lawful type :=
  ⟨rfl, nofun, nofun, fun _ _ => rfl, fun _ => rfl⟩

theorem mem_of_dispatchOperations {db : Db} {evidenceId clusterId : String}
    (h : .service op ∈ db.dispatchOperations evidenceId clusterId) :
    op ∈ db.operations ∧ op.clusterId = clusterId := by
  simp only [Db.dispatchOperations] at h
  split at h
  · cases h
  · simp only [List.mem_append, List.mem_map, List.mem_filter, decide_eq_true_eq] at h
    obtain ⟨q, ⟨hq, hmatch⟩, heq⟩ | ⟨q, -, heq⟩ := h
    · cases heq
      exact ⟨hq, hmatch.2⟩
    · cases heq

theorem linked_of_recoverable {db : Db} {clusterId : String} {d : DeploymentRecord}
    (h : db.recoverableDeployment clusterId op = .ok d) :
    d ∈ db.deployments ∧ db.Linked d op.id := by
  have hfound := Db.recoverableDeployment_ok h
  split at hfound
  · obtain ⟨a, ha, hd⟩ := Option.bind_eq_some_iff.mp hfound
    have hid : d.id = a.deploymentId := by simpa using List.find?_some hd
    have hop : a.operationId = op.id := by simpa using List.find?_some ha
    refine ⟨List.mem_of_find?_eq_some hd, .inr ?_⟩
    rw [hid, ← hop]
    exact List.mem_of_find?_eq_some ha
  · exact ⟨List.mem_of_find?_eq_some hfound, .inl (by simpa using List.find?_some hfound)⟩

theorem unresolved_of_manualRecovery (h : (EvidenceOperation.service op).manualRecovery = true) :
    op.status.isTerminal = false := by
  have hstatus : op.status = .NEEDS_ATTENTION ∨ op.status = .VERIFYING := by
    simp only [EvidenceOperation.manualRecovery] at h
    split at h <;> simp only [Bool.and_eq_true, decide_eq_true_eq] at h <;> simp [h.1]
  rcases hstatus with h | h <;> rw [h] <;> rfl

/-- An uncertain operation is closed as not observed, under the lock of its service. -/
theorem closeNotObserved_step (hinv : Inv E w) {clusterId reason evidenceId : String}
    {op : EvidenceOperation} {db' : Db} (hop : op ∈ w.db.dispatchOperations evidenceId clusterId)
    (hmanual : op.manualRecovery = true) (hlock : E.clean → ∀ id, op.resource = .service id →
      w.lock (E.serviceLock clusterId id) = some i)
    (h : w.db.closeNotObserved clusterId reason op = .ok db') :
    Inv E { w with db := db' } ∧ Guar E i w { w with db := db' } ∧
      db'.admissions = w.db.admissions := by
  have hgentle : ∀ {db₁}, w.db.Gentle db₁ →
      Inv E { w with db := db₁ } ∧ Guar E i w { w with db := db₁ } :=
    fun hg => ⟨hinv.gentle hg, .gentle i hinv hg⟩
  cases op with
  | node op =>
    cases h
    obtain ⟨hinv', hguar⟩ := hgentle (w.db.gentle_changeNodeOperation op.id
      (.failed "MANUAL_MUTATION_NOT_OBSERVED" reason))
    exact ⟨hinv', hguar, rfl⟩
  | service op =>
    obtain ⟨hmem, hcluster⟩ := mem_of_dispatchOperations hop
    obtain ⟨hplain, rfl⟩ | ⟨hdep, d, hd, rfl⟩ := Db.closeNotObserved_service h
    · obtain ⟨hinv', hguar⟩ := hgentle (Db.gentle_changeOperation hinv.keyed
        ⟨op, hmem, rfl, not_or.mpr hplain⟩ (.failed "MANUAL_MUTATION_NOT_OBSERVED" reason))
      exact ⟨hinv', hguar, rfl⟩
    · obtain ⟨hdmem, hlinked⟩ := linked_of_recoverable hd
      have hmay : MaySettle E i clusterId op.serviceId d.id op.id op.type w := fun hclean =>
        ⟨hlock hclean _ rfl, op, hmem, rfl, unresolved_of_manualRecovery hmanual, hcluster, rfl,
          rfl, hdep, d, hdmem, rfl, hlinked⟩
      obtain ⟨hinv', hguar⟩ := settled_step hinv hmay notObserved_lawful
      exact ⟨hinv', hguar, rfl⟩

variable [DecidableEq Tid] {w' : World Tid}

theorem resolveEvidence_statement (hinv : Inv E w) {input : ResolveEvidenceInput}
    {locked : Option LockedResource} {observed : Option ObservedUnchanged}
    (hlock : w.session i ≠ .lost → E.clean → ∀ id, locked = some (.service id) →
      w.lock (E.serviceLock input.clusterId id) = some i)
    (hcareful : E.careful → input.type = .ADMISSION → ∀ j a, w.admitted j = some a →
      ¬ (a.clusterId = input.clusterId ∧ a.id = input.evidenceId))
    {answer : Except Failure (DbOp.resolveEvidence input locked observed).Reply}
    (h : StatementStep i (DbOp.resolveEvidence input locked observed) w answer w') :
    Inv E w' ∧ Guar E i w w' := by
  rcases statement_effect rfl (fun _ _ => rfl) h with rfl | ⟨reply, db', hexec, hlive, rfl⟩
  · exact ⟨hinv, .refl E i hinv⟩
  obtain ⟨settled, rfl, hcase⟩ := Db.resolveEvidence_ok (made_of_exec hexec)
  have hfinish : ∀ {db₂ : Db}, Inv E { w with db := db₂ } → Guar E i w { w with db := db₂ } →
      db₂.admissions = w.db.admissions →
      (input.type = .ADMISSION → ∃ a ∈ db₂.admissions, a.id = input.evidenceId) →
      let w' := { w with db := { db₂ with resolutions :=
        db₂.resolutions ++ [⟨input.clusterId, input.type, input.evidenceId⟩] } }
      Inv E w' ∧ Guar E i w w' := fun hinv₂ hguar₂ hadm hexists =>
    resolution_step (r := ⟨input.clusterId, input.type, input.evidenceId⟩) hinv₂ hguar₂ hexists
      (fun a ha => ⟨a, hadm ▸ ha, rfl⟩) hcareful
  rcases hcase with ⟨-, rfl, a, ha, hid, -⟩ | ⟨htype, hdispatch⟩
  · exact hfinish hinv (.refl E i hinv) rfl fun _ => ⟨a, ha, hid⟩
  · have hnot : input.type = .ADMISSION → ∃ a ∈ settled.admissions, a.id = input.evidenceId := by
      rw [htype]
      nofun
    rcases Db.resolveDispatch_ok hdispatch with rfl | ⟨op, hops, hlocked, hmanual, hclose⟩
    · exact hfinish hinv (.refl E i hinv) rfl hnot
    · obtain ⟨hinv₂, hguar₂, hadm⟩ := closeNotObserved_step hinv (hops ▸ List.mem_singleton_self op)
        hmanual (fun hclean id hid => hlock hlive hclean id (hlocked.trans (congrArg some hid)))
          hclose
      exact hfinish hinv₂ hguar₂ hadm hnot

end Evidence

end Docklane.Control
