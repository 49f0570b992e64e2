import Docklane.Control.Outcomes
import Docklane.Control.Protocol
import Docklane.Storage.Rows

/-!
# Statements that need no knowledge

Most statements of a call can be run at any moment: reads, the dispatch journal, the control lease,
the maintenance transitions. They touch operations and deployments only in ways that every other
call can bear (`Db.Gentle`), so they keep the invariant and whatever the call itself knows.
-/

namespace Docklane.Control

open Concurrent Storage

/-! ## Tables that the invariant does not look at -/

/-- The two databases agree on operations, deployments and the maintenance of clusters. -/
structure Db.SameRows (db db' : Db) : Prop where
  operations : db'.operations = db.operations
  nodeOperations : db'.nodeOperations = db.nodeOperations
  deployments : db'.deployments = db.deployments
  rollbackAttempts : db'.rollbackAttempts = db.rollbackAttempts
  targets : db'.targets = db.targets
  maintenance : db'.maintenance = db.maintenance

namespace Db.SameRows

variable {db₀ db db' : Db} (h : db.SameRows db')

include h

theorem keyed (hk : db.Keyed) : db'.Keyed where
  operations := h.operations ▸ hk.operations
  nodeOperations := h.nodeOperations ▸ hk.nodeOperations
  deployments := h.deployments ▸ hk.deployments
  deploymentOperations := h.deployments ▸ hk.deploymentOperations
  attempts := h.rollbackAttempts ▸ hk.attempts
  maintenance := h.maintenance ▸ hk.maintenance

theorem exclusive (he : db.Exclusive) : db'.Exclusive where
  services := h.operations ▸ he.services
  affected := by
    rw [h.operations, h.nodeOperations]
    exact he.affected
  nodes := h.nodeOperations ▸ he.nodes

theorem consistent (hc : db.Consistent) : db'.Consistent where
  deploys := by
    simpa only [h.deployments, Recorded, findDeploymentTarget, h.targets, h.operations]
      using hc.deploys
  rollsBack := by
    simpa only [h.deployments, h.rollbackAttempts, Recorded, findDeploymentTarget, h.targets,
      h.operations] using hc.rollsBack
  settled := by
    simpa only [h.deployments, h.rollbackAttempts, h.operations, Linked] using hc.settled
  agree d hd := by
    have ha := hc.agree d (h.deployments ▸ hd)
    exact ⟨h.operations ▸ ha.deploy, by rw [h.operations, h.rollbackAttempts]; exact ha.rollback,
      h.rollbackAttempts ▸ ha.attempted⟩

theorem dbStep {E : Premises} {own : String → Prop} (hs : DbStep E own db₀ db) :
    DbStep E own db₀ db' where
  operations := h.operations ▸ hs.operations
  operations_new := h.operations ▸ hs.operations_new
  nodeOperations := h.nodeOperations ▸ hs.nodeOperations
  nodeOperations_new := h.nodeOperations ▸ hs.nodeOperations_new
  targets := by
    simpa only [findDeploymentTarget, h.targets] using hs.targets
  attempts := h.rollbackAttempts ▸ hs.attempts
  deployments := h.deployments ▸ hs.deployments

theorem rollbackStep (hs : RollbackStep db₀ db) : RollbackStep db₀ db' where
  attempts := h.rollbackAttempts ▸ hs.attempts
  deployments := h.deployments ▸ hs.deployments

theorem settledStep (hs : SettledStep db₀ db) : SettledStep db₀ db' where
  kept := by
    rw [h.deployments, h.rollbackAttempts]
    exact hs.kept
  reason := by
    rw [h.deployments, h.operations]
    exact hs.reason

end Db.SameRows

/-! ## Gentle changes -/

/-- A change of the database that leaves deployments, the status of their operations and
admissions alone. A cluster becomes shut only when it is quiescent. -/
structure Db.Gentle (db db' : Db) : Prop where
  operations : List.Forall₂ (fun o o' => o.Evolves o' ∧
    (o.ofDeployment → o'.status = o.status)) db.operations db'.operations
  nodeOperations : List.Forall₂ NodeOperationRecord.Evolves db.nodeOperations db'.nodeOperations
  deployments : db'.deployments = db.deployments
  rollbackAttempts : db'.rollbackAttempts = db.rollbackAttempts
  targets : db'.targets = db.targets
  admissions : List.Forall₂ (fun a a' => a'.id = a.id ∧ a'.clusterId = a.clusterId)
    db.admissions db'.admissions
  resolutions : db'.resolutions = db.resolutions
  clusters : (db.maintenance.map (·.clusterId)).Nodup → (db'.maintenance.map (·.clusterId)).Nodup
  shut : ∀ row' ∈ db'.maintenance, row'.state.isShut = true →
    (∃ row ∈ db.maintenance, row.state.isShut = true ∧ row.clusterId = row'.clusterId) ∨
      db.quiescent row'.clusterId = true

variable {id clusterId : String} {o : OperationRecord} {d : DeploymentRecord}

namespace Db

variable {db db' : Db}

theorem Gentle.refl (db : Db) : db.Gentle db where
  operations := List.forall₂_same.mpr fun o _ => ⟨.refl o, fun _ => rfl⟩
  nodeOperations := List.forall₂_same.mpr fun o _ => .refl o
  deployments := rfl
  rollbackAttempts := rfl
  targets := rfl
  admissions := List.forall₂_same.mpr fun _ _ => ⟨rfl, rfl⟩
  resolutions := rfl
  clusters h := h
  shut row hrow hshut := .inl ⟨row, hrow, hshut, rfl⟩

theorem changeNodeOperation_evolves (db : Db) (id : String) (change : OperationChange) :
    List.Forall₂ NodeOperationRecord.Evolves db.nodeOperations
      (db.changeNodeOperation id change).nodeOperations := by
  refine forall₂_map_right fun o _ => ?_
  split
  · next h => exact ⟨rfl, rfl, rfl, rfl, fun ht => absurd ht (by simp [h.2])⟩
  · exact .refl o

/-- The operation is a scale or a restart. -/
def Plain (db : Db) (id : String) : Prop :=
  ∃ o ∈ db.operations, o.id = id ∧ ¬ o.ofDeployment

theorem changeOperation_evolves (db : Db) (id : String) (change : OperationChange) :
    List.Forall₂ OperationRecord.Evolves db.operations
      (db.changeOperation id change).operations := by
  refine forall₂_map_right fun o _ => ?_
  split
  · next h => exact ⟨rfl, rfl, rfl, rfl, fun ht => absurd ht (by simp [h.2])⟩
  · exact .refl o

/-- Any status may be written to a scale or a restart. -/
theorem gentle_changeOperation (hkeyed : db.Keyed) (h : db.Plain id) (change : OperationChange) :
    db.Gentle (db.changeOperation id change) := by
  refine { Gentle.refl db with operations := forall₂_map_right fun o ho => ?_ }
  obtain ⟨p, hp, rfl, hplain⟩ := h
  by_cases hid : o.id = p.id
  · obtain rfl := List.inj_on_of_nodup_map hkeyed.operations ho hp hid
    refine ⟨?_, fun hdep => absurd hdep hplain⟩
    split
    · next h => exact ⟨rfl, rfl, rfl, rfl, fun ht => absurd ht (by simp [h.2])⟩
    · exact .refl _
  · rw [if_neg fun h => hid h.1]
    exact ⟨.refl o, fun _ => rfl⟩

theorem gentle_changeNodeOperation (db : Db) (id : String) (change : OperationChange) :
    db.Gentle (db.changeNodeOperation id change) :=
  { Gentle.refl db with nodeOperations := db.changeNodeOperation_evolves id change }

theorem gentle_backfillTargetRuntimeSpecHash (db : Db) (id hash : String) :
    db.Gentle (db.backfillTargetRuntimeSpecHash id hash) := by
  refine { Gentle.refl db with operations := forall₂_map_right fun o _ => ?_ }
  split
  · exact ⟨⟨rfl, rfl, rfl, rfl, fun _ => rfl⟩, fun _ => rfl⟩
  · exact ⟨.refl o, fun _ => rfl⟩

theorem gentle_linkAdmission (db : Db) (id clusterId operationId : String) :
    db.Gentle (db.linkAdmission id clusterId operationId).2 := by
  refine { Gentle.refl db with admissions := forall₂_map_right fun a _ => ?_ }
  split <;> exact ⟨rfl, rfl⟩

theorem transitionMaintenance_clusters (db : Db) (clusterId : String) (source : MaintenanceState)
    (generation : Nat) (target : MaintenanceState) :
    (db.transitionMaintenance clusterId source generation target).maintenance.map (·.clusterId) =
      db.maintenance.map (·.clusterId) := by
  simp only [transitionMaintenance, List.map_map]
  refine List.map_congr_left fun row _ => ?_
  simp only [Function.comp_apply]
  split <;> rfl

/-- A transition of the maintenance row is gentle, unless it shuts a cluster that was not shut and
is not quiescent. -/
theorem gentle_transitionMaintenance {source target : MaintenanceState} {generation : Nat}
    (h : target.isShut = true → source.isShut = true ∨ db.quiescent clusterId = true) :
    db.Gentle (db.transitionMaintenance clusterId source generation target) := by
  refine { Gentle.refl db with
    clusters := fun hnodup => by rwa [transitionMaintenance_clusters], shut := ?_ }
  intro row' hrow' hshut
  obtain ⟨row, hrow, rfl⟩ := List.mem_map.mp hrow'
  by_cases hmatch : row.clusterId = clusterId ∧ row.state = source ∧ row.generation = generation
  · rw [if_pos hmatch] at hshut ⊢
    rcases h hshut with hsource | hquiet
    · exact .inl ⟨row, hrow, hmatch.2.1 ▸ hsource, rfl⟩
    · exact .inr (hmatch.1 ▸ hquiet)
  · rw [if_neg hmatch] at hshut ⊢
    exact .inl ⟨row, hrow, hshut, rfl⟩

theorem gentle_initializeOpen (h : db.initializeOpen clusterId = .ok db') : db.Gentle db' := by
  rcases initializeOpen_ok h with rfl | ⟨hnone, rfl⟩
  · exact .refl _
  · refine { Gentle.refl db with clusters := fun hnodup => ?_, shut := ?_ }
    · refine nodup_keys_insert hnodup fun row hrow => ?_
      simpa using List.find?_eq_none.mp hnone row hrow
    · intro row hrow hshut
      rcases List.mem_append.mp hrow with hrow | hrow
      · exact .inl ⟨row, hrow, hshut, rfl⟩
      · rw [List.mem_singleton.mp hrow] at hshut
        cases hshut

end Db

/-- The statements that may be run without knowing anything. -/
def DbOp.Quiet : DbOp → Prop
  | .findDeployment _ | .createOperation _ | .createNodeOperation _ | .createDeployment _ _ _
  | .createRollback _ _ | .changeOperation _ _ | .settle _ _ _ | .insertAdmission _ _ _
  | .releaseAdmission _ | .resolveEvidence _ _ _ => False
  | _ => True

theorem DbOp.Quiet.gentle {op : DbOp} (hop : op.Quiet) {db db' : Db} {reply : op.Reply}
    (h : op.exec db = .ok (reply, db')) : db.Gentle db' := by
  cases op with
  | findDeployment _ => exact hop.elim
  | createOperation _ => exact hop.elim
  | createNodeOperation _ => exact hop.elim
  | createDeployment _ _ _ => exact hop.elim
  | createRollback _ _ => exact hop.elim
  | changeOperation _ _ => exact hop.elim
  | settle _ _ _ => exact hop.elim
  | insertAdmission _ _ _ => exact hop.elim
  | releaseAdmission _ => exact hop.elim
  | resolveEvidence _ _ _ => exact hop.elim
  | changeNodeOperation id change => cases h; exact db.gentle_changeNodeOperation id change
  | backfillTargetRuntimeSpecHash id hash =>
    cases h; exact db.gentle_backfillTargetRuntimeSpecHash id hash
  | linkAdmission id c o => cases h; exact db.gentle_linkAdmission id c o
  | insertDispatch d =>
    have hinsert := made_of_exec h
    simp only [Db.insertDispatch] at hinsert
    split at hinsert <;> cases hinsert
    exact { Db.Gentle.refl db with }
  | beginSend d => cases h; exact { Db.Gentle.refl db with }
  | transitionDispatch id source target => cases h; exact { Db.Gentle.refl db with }
  | acquireLease c holder ttl =>
    simp only [DbOp.exec, Db.acquireLease] at h
    split at h <;> split at h <;> cases h <;> exact { Db.Gentle.refl db with }
  | releaseLease lease => cases h; exact { Db.Gentle.refl db with }
  | initializeOpen c =>
    exact Db.gentle_initializeOpen (made_of_exec h)
  | requestClosing c g =>
    cases h
    exact Db.gentle_transitionMaintenance nofun
  | acknowledgeBarrier c a g =>
    cases h
    simp only [Db.acknowledgeBarrier]
    split <;> exact { Db.Gentle.refl db with }
  | commitClosed c g ids lease =>
    rcases Db.commitClosed_ok h with ⟨-, rfl⟩ | ⟨-, -, hquiet, -, rfl⟩
    · exact .refl _
    · exact Db.gentle_transitionMaintenance fun _ => .inr hquiet
  | commitReconciling c g lease =>
    rcases Db.commitReconciling_ok h with ⟨-, rfl⟩ | ⟨-, -, rfl⟩
    · exact .refl _
    · exact Db.gentle_transitionMaintenance fun _ => .inl rfl
  | commitOpen c g ids lease =>
    rcases Db.commitOpen_ok h with ⟨-, rfl⟩ | ⟨-, -, -, -, rfl⟩
    · exact .refl _
    · exact Db.gentle_transitionMaintenance nofun
  | _ => cases h; exact .refl _

/-! ## Invariants under changes of the rows -/

theorem OperationRecord.Evolves.unresolved {o o' : OperationRecord} (h : o.Evolves o')
    (ho' : o'.status.isTerminal = false) : o.status.isTerminal = false := by
  by_contra hne
  have := h.isTerminal (by simpa using hne)
  simp_all

theorem NodeOperationRecord.Evolves.unresolved {o o' : NodeOperationRecord} (h : o.Evolves o')
    (ho' : o'.status.isTerminal = false) : o.status.isTerminal = false := by
  by_contra hne
  have := h.isTerminal (by simpa using hne)
  simp_all

namespace Db

variable {db db' : Db}

theorem Exclusive.update (h : db.Exclusive)
    (hops : List.Forall₂ OperationRecord.Evolves db.operations db'.operations)
    (hnodes : List.Forall₂ NodeOperationRecord.Evolves db.nodeOperations db'.nodeOperations) :
    db'.Exclusive where
  services o' ho' p' hp' hopen hopen' hcluster hservice := by
    obtain ⟨o, ho, he⟩ := exists_old_row hops ho'
    obtain ⟨p, hp, he'⟩ := exists_old_row hops hp'
    rw [he.clusterId, he'.clusterId] at hcluster
    rw [he.serviceId, he'.serviceId] at hservice
    rw [he.id, he'.id]
    exact h.services o ho p hp (he.unresolved hopen) (he'.unresolved hopen') hcluster hservice
  affected o' ho' p' hp' hopen hopen' hcluster := by
    obtain ⟨o, ho, he⟩ := exists_old_row hops ho'
    obtain ⟨p, hp, he'⟩ := exists_old_row hnodes hp'
    rw [he.clusterId, he'.clusterId] at hcluster
    rw [he.serviceId, he'.affected]
    exact h.affected o ho p hp (he.unresolved hopen) (he'.unresolved hopen') hcluster
  nodes o' ho' p' hp' hopen hopen' hne := by
    obtain ⟨o, ho, he⟩ := exists_old_row hnodes ho'
    obtain ⟨p, hp, he'⟩ := exists_old_row hnodes hp'
    rw [he.id, he'.id] at hne
    have hapart := h.nodes o ho p hp (he.unresolved hopen) (he'.unresolved hopen') hne
    simpa only [NodeOperationRecord.Apart, he.clusterId, he'.clusterId, he.nodeId, he'.nodeId,
      he.affected, he'.affected] using hapart

theorem Consistent.linked (hkeyed : db.Keyed) (h : db.Consistent) (hd : d ∈ db.deployments)
    (ho : o ∈ db.operations) (hlinked : db.Linked d o.id) :
    ∃ t, db.findDeploymentTarget d.deploymentTargetId = some t ∧ o.On t ∧ o.ofDeployment := by
  rcases hlinked with hop | hattempt
  · obtain ⟨t, ht, p, hp, hpid, hptype, hpon⟩ := h.deploys d hd
    obtain rfl := List.inj_on_of_nodup_map hkeyed.operations hp ho (hpid.trans hop)
    exact ⟨t, ht, hpon, .inl hptype⟩
  · obtain ⟨d', hd', hid, t, ht, p, hp, hpid, hptype, hpon⟩ := h.rollsBack _ hattempt
    obtain rfl := List.inj_on_of_nodup_map hkeyed.deployments hd' hd hid
    obtain rfl := List.inj_on_of_nodup_map hkeyed.operations hp ho hpid
    exact ⟨t, ht, hpon, .inr hptype⟩

theorem Recorded.update {type : OperationType} (h : db.Recorded d id type)
    (hops : List.Forall₂ OperationRecord.Evolves db.operations db'.operations)
    (htargets : db'.targets = db.targets) : db'.Recorded d id type := by
  obtain ⟨t, ht, o, ho, hid, htype, hon⟩ := h
  obtain ⟨o', ho', he⟩ := exists_new_row hops ho
  refine ⟨t, by rwa [findDeploymentTarget, htargets], o', ho', he.id.trans hid,
    he.type.trans htype, ?_⟩
  simpa only [OperationRecord.On, he.clusterId, he.serviceId] using hon

/-- The operation of a deployment keeps its status when only the others change theirs. -/
theorem Consistent.kept (hkeyed : db.Keyed) (h : db.Consistent)
    (hops : List.Forall₂ (fun o o' => o.Evolves o' ∧
      (o.ofDeployment → o'.status = o.status)) db.operations db'.operations)
    (hd : d ∈ db.deployments) (ho : o ∈ db.operations) (hl : db.Linked d o.id) :
    ∃ o' ∈ db'.operations, o'.id = o.id ∧ o'.status = o.status := by
  obtain ⟨-, -, -, hdep⟩ := h.linked hkeyed hd ho hl
  obtain ⟨o', ho', he, hsame⟩ := exists_new_row hops ho
  exact ⟨o', ho', he.id, hsame hdep⟩

/-- The row of a deployment still agrees with the rows of its operations when these are kept. -/
theorem Agrees.kept (h : db.Agrees d)
    (hattempts : ∀ a ∈ db.rollbackAttempts, a ∈ db'.rollbackAttempts)
    (hback : ∀ a ∈ db'.rollbackAttempts, a.deploymentId = d.id → a ∈ db.rollbackAttempts)
    (hkept : ∀ o ∈ db.operations, db.Linked d o.id →
      ∃ o' ∈ db'.operations, o'.id = o.id ∧ o'.status = o.status) : db'.Agrees d where
  deploy hnone := by
    obtain ⟨o, ho, hid, hpair⟩ := h.deploy hnone
    obtain ⟨o', ho', hid', hstatus⟩ := hkept o ho (.inl hid.symm)
    exact ⟨o', ho', hid'.trans hid, hstatus ▸ hpair⟩
  rollback r hr := by
    obtain ⟨⟨o, ho, hid, hfailed⟩, hattempt, q, hq, hqid, hpair⟩ := h.rollback r hr
    obtain ⟨o', ho', hid', hstatus⟩ := hkept o ho (.inl hid.symm)
    obtain ⟨q', hq', hqid', hqstatus⟩ := hkept q hq (.inr (hqid ▸ hattempt))
    exact ⟨⟨o', ho', hid'.trans hid, hstatus.trans hfailed⟩, hattempts _ hattempt, q', hq',
      hqid'.trans hqid, hqstatus ▸ hpair⟩
  attempted a ha hid := h.attempted a (hback a ha hid) hid

/-- Operations that belong to no deployment may change by themselves. -/
theorem Consistent.update (hkeyed : db.Keyed) (h : db.Consistent)
    (hops : List.Forall₂ (fun o o' => o.Evolves o' ∧
      (o.ofDeployment → o'.status = o.status)) db.operations db'.operations)
    (hdeployments : db'.deployments = db.deployments)
    (hattempts : db'.rollbackAttempts = db.rollbackAttempts)
    (htargets : db'.targets = db.targets) : db'.Consistent := by
  have hevolves := hops.imp fun _ _ h => h.1
  refine ⟨fun d hd => ?_, fun a ha => ?_, fun d hd => ?_, fun d hd => ?_⟩
  · exact (h.deploys d (hdeployments ▸ hd)).update hevolves htargets
  · obtain ⟨d, hd, hid, hrec⟩ := h.rollsBack a (hattempts ▸ ha)
    exact ⟨d, hdeployments ▸ hd, hid, hrec.update hevolves htargets⟩
  · rw [hdeployments] at hd
    rw [h.settled d hd]
    simp only [Linked, hattempts]
    constructor
    · intro hall o' ho' hlinked
      obtain ⟨o, ho, he, -⟩ := exists_old_row hops ho'
      exact he.isTerminal (hall o ho (he.id ▸ hlinked))
    · intro hall o ho hlinked
      obtain ⟨o', ho', he, hsame⟩ := exists_new_row hops ho
      obtain ⟨-, -, -, hdep⟩ := h.linked hkeyed hd ho hlinked
      rw [← hsame hdep]
      exact hall o' ho' (he.id.symm ▸ hlinked)
  · rw [hdeployments] at hd
    exact (h.agree d hd).kept (fun a ha => hattempts ▸ ha) (fun a ha _ => hattempts ▸ ha)
      fun o ho hl => h.kept hkeyed hops hd ho hl

theorem Drained.update (h : db.Drained clusterId)
    (hops : List.Forall₂ OperationRecord.Evolves db.operations db'.operations)
    (hnodes : List.Forall₂ NodeOperationRecord.Evolves db.nodeOperations db'.nodeOperations) :
    db'.Drained clusterId := by
  constructor
  · intro o' ho' hcluster
    obtain ⟨o, ho, he⟩ := exists_old_row hops ho'
    exact he.isTerminal (h.1 o ho (he.clusterId ▸ hcluster))
  · intro o' ho' hcluster
    obtain ⟨o, ho, he⟩ := exists_old_row hnodes ho'
    exact he.isTerminal (h.2 o ho (he.clusterId ▸ hcluster))

theorem HasRow.update {key : OperationKey} (h : db.HasRow key)
    (hops : List.Forall₂ OperationRecord.Evolves db.operations db'.operations)
    (hnodes : List.Forall₂ NodeOperationRecord.Evolves db.nodeOperations db'.nodeOperations) :
    db'.HasRow key := by
  obtain ⟨type, id⟩ := key
  cases type with
  | service =>
    obtain ⟨o, ho, rfl⟩ := h
    obtain ⟨o', ho', he⟩ := exists_new_row hops ho
    exact ⟨o', ho', he.id⟩
  | node =>
    obtain ⟨o, ho, rfl⟩ := h
    obtain ⟨o', ho', he⟩ := exists_new_row hnodes ho
    exact ⟨o', ho', he.id⟩

theorem drained_of_quiescent (h : db.quiescent clusterId = true) : db.Drained clusterId := by
  simp only [quiescent, Bool.and_eq_true, List.isEmpty_iff] at h
  obtain ⟨⟨⟨-, hops⟩, hnodes⟩, -⟩ := h
  constructor
  · intro o ho hcluster
    by_contra hopen
    have : o ∈ db.unresolvedOperations clusterId := by
      simpa [unresolvedOperations, nonTerminalOperations, ho, hcluster] using hopen
    simp [hops] at this
  · intro o ho hcluster
    by_contra hopen
    have : o ∈ db.unresolvedNodeOperations clusterId := by
      simpa [unresolvedNodeOperations, nonTerminalNodeOperations, ho, hcluster] using hopen
    simp [hnodes] at this

/-- In a quiescent cluster every admission is resolved. -/
theorem resolved_of_quiescent (h : db.quiescent clusterId = true) {a : Admission}
    (ha : a ∈ db.admissions) (hcluster : a.clusterId = clusterId) :
    (⟨clusterId, .ADMISSION, a.id⟩ : Resolution) ∈ db.resolutions := by
  simp only [quiescent, Bool.and_eq_true, List.isEmpty_iff] at h
  obtain ⟨⟨⟨hadm, -⟩, -⟩, -⟩ := h
  by_contra hres
  have hne : ∀ r ∈ db.resolutions, r ≠ ⟨clusterId, .ADMISSION, a.id⟩ :=
    fun r hr heq => hres (heq ▸ hr)
  have : a ∈ db.unresolvedAdmissions clusterId := by
    simpa [unresolvedAdmissions, isResolved, ha, hcluster] using hne
  simp [hadm] at this

theorem Gentle.evolves (h : db.Gentle db') :
    List.Forall₂ OperationRecord.Evolves db.operations db'.operations :=
  h.operations.imp fun _ _ h => h.1

theorem Gentle.keyed (h : db.Gentle db') (hkeyed : db.Keyed) : db'.Keyed where
  operations := keys_eq (fun _ _ he => he.id) h.evolves ▸ hkeyed.operations
  nodeOperations := keys_eq (fun _ _ he => he.id) h.nodeOperations ▸ hkeyed.nodeOperations
  deployments := h.deployments ▸ hkeyed.deployments
  deploymentOperations := h.deployments ▸ hkeyed.deploymentOperations
  attempts := h.rollbackAttempts ▸ hkeyed.attempts
  maintenance := h.clusters hkeyed.maintenance

theorem Gentle.dbStep (h : db.Gentle db') (E : Premises) (own : String → Prop) :
    DbStep E own db db' where
  operations o ho := by
    obtain ⟨o', ho', he, hsame⟩ := exists_new_row h.operations ho
    exact ⟨o', ho', he, fun _ hdep _ => congrArg _ (hsame hdep)⟩
  operations_new _ o' ho' _ := exists_old_row h.evolves ho'
  nodeOperations o ho := exists_new_row h.nodeOperations ho
  nodeOperations_new _ o' ho' _ := exists_old_row h.nodeOperations ho'
  targets id t ht := by rwa [findDeploymentTarget, h.targets]
  attempts a ha := h.rollbackAttempts ▸ ha
  deployments d hd := ⟨d, h.deployments ▸ hd, .refl d, fun _ _ _ _ => rfl, fun _ _ hne => hne⟩

theorem Gentle.unused (h : db.Gentle db') (hunused : db.Unused id) : db'.Unused id := by
  refine ⟨fun a' ha' => ?_, h.resolutions ▸ hunused.2⟩
  obtain ⟨a, ha, hid, -⟩ := exists_old_row h.admissions ha'
  exact hid ▸ hunused.1 a ha

theorem Gentle.rollbackStep (h : db.Gentle db') (hkeyed : db.Keyed) : RollbackStep db db' where
  attempts a ha := .inl (h.rollbackAttempts ▸ ha)
  deployments d hd d' hd' hid := by
    obtain rfl := List.inj_on_of_nodup_map hkeyed.deployments (h.deployments ▸ hd') hd hid
    exact .refl _

end Db

section World

variable {Tid : Type} {E : Premises} {w : World Tid} {db' : Db} {i : Tid}

theorem Fenced.gentle (h : Fenced E w) (hg : w.db.Gentle db') : Fenced E { w with db := db' } where
  recorded i a ha := by
    obtain ⟨⟨row, hrow, hid, hcluster⟩, hres⟩ := h.recorded i a ha
    obtain ⟨row', hrow', hid', hcluster'⟩ := exists_new_row hg.admissions hrow
    exact ⟨⟨row', hrow', hid'.trans hid, hcluster'.trans hcluster⟩, hg.resolutions ▸ hres⟩
  distinct := h.distinct
  shut henforced row' hrow' hshut := by
    rcases hg.shut row' hrow' hshut with ⟨row, hrow, hold, hcluster⟩ | hquiet
    · rw [← hcluster]
      obtain ⟨hdrained, hnone⟩ := h.shut henforced row hrow hold
      exact ⟨hdrained.update hg.evolves hg.nodeOperations, hnone⟩
    · refine ⟨(Db.drained_of_quiescent hquiet).update hg.evolves hg.nodeOperations, ?_⟩
      intro i a ha hcluster
      obtain ⟨⟨row, hrow, hid, hrowCluster⟩, hres⟩ := h.recorded i a ha
      refine hres ?_
      rw [hcluster, ← hid]
      exact Db.resolved_of_quiescent hquiet hrow (hrowCluster.trans hcluster)

theorem Inv.gentle (h : Inv E w) (hg : w.db.Gentle db') : Inv E { w with db := db' } where
  keyed := hg.keyed h.keyed
  dispatched :=
    { h.dispatched with
      created := fun key i hi =>
        (h.dispatched.created key i hi).update hg.evolves hg.nodeOperations }
  issued :=
    { admissions := fun a' ha' => by
        obtain ⟨a, ha, hid, -⟩ := exists_old_row hg.admissions ha'
        exact hid ▸ h.issued.admissions a ha
      resolutions := fun r hr => h.issued.resolutions r (hg.resolutions ▸ hr) }
  exclusive hclean := (h.exclusive hclean).update hg.evolves hg.nodeOperations
  consistent hclean := (h.consistent hclean).update h.keyed hg.operations hg.deployments
    hg.rollbackAttempts hg.targets
  fenced hcareful := (h.fenced hcareful).gentle hg

theorem Guar.gentle (i : Tid) (h : Inv E w) (hg : w.db.Gentle db') :
    Guar E i w { w with db := db' } where
  lock _ _ _ := Iff.rfl
  session _ _ := rfl
  admitted _ _ := rfl
  lastRead _ _ := rfl
  db := hg.dbStep E _
  rollback _ _ := hg.rollbackStep h.keyed
  settled _ := .of_eq hg.deployments
  sent _ hr := .inl hr
  creator _ _ hc := hc
  issued _ _ hi := hi
  unused _ _ _ _ := hg.unused

theorem Rely.gentle (i : Tid) (hg : w.db.Gentle db') : Rely E i w { w with db := db' } where
  lock_old _ hlock := hlock
  lock_kept _ hlock := .inl hlock
  lost hlost := hlost
  admitted := rfl
  lastRead := rfl
  db := hg.dbStep E _
  sent _ hr _ := hr
  creator _ hc := hc
  issued _ hi := hi
  unused _ _ := hg.unused

theorem Guar.refl (E : Premises) (i : Tid) (h : Inv E w) : Guar E i w w :=
  .gentle i h (.refl w.db)

theorem randomUUID_step (hinv : Inv E w) (hnew : w.issued id = none) :
    let w' := { w with issued := Function.update w.issued id (some i) }
    Inv E w' ∧ Guar E i w w' ∧ Rely E i w w' := by
  have hkept : ∀ id' j, w.issued id' = some j →
      Function.update w.issued id (some i) id' = some j := by
    intro id' j hj
    have hne : id' ≠ id := by
      rintro rfl
      rw [hnew] at hj
      cases hj
    rwa [Function.update_of_ne hne]
  refine ⟨{ hinv with
      dispatched := ⟨?_, ?_, ?_⟩, issued := ⟨?_, ?_⟩, fenced := fun hcareful => ?_ },
    { Guar.refl E i hinv with issued := hkept }, { Rely.refl E i w with
      issued := fun id' => hkept id' i }⟩
  · exact hinv.dispatched.created
  · exact hinv.dispatched.once
  · exact hinv.dispatched.sent
  · intro a ha
    obtain ⟨j, hj⟩ := hinv.issued.admissions a ha
    exact ⟨j, hkept _ j hj⟩
  · intro r hr htype
    obtain ⟨j, hj⟩ := hinv.issued.resolutions r hr htype
    exact ⟨j, hkept _ j hj⟩
  · exact { hinv.fenced hcareful with }

end World

/-! ## Requests that need no knowledge -/

section Quiet

variable {Tid : Type} [DecidableEq Tid] {E : Premises} {w w' : World Tid} {i : Tid}

theorem DbOp.Quiet.statement {op : DbOp} (hop : op.Quiet) {answer : Except Failure op.Reply}
    (h : StatementStep i op w answer w') : ∃ db', w.db.Gentle db' ∧ w' = { w with db := db' } := by
  have hanswered : ∀ (v : World Tid) r, v.answered i op r = v := by
    intro v r
    cases op <;> first | exact hop.elim | rfl
  have hcommit : ∀ db, w.commit i op db = { w with db := db } := by
    intro db
    cases op <;> first | exact hop.elim | rfl
  cases h with
  | executed hexec _ => exact ⟨_, hop.gentle hexec, by rw [hanswered, hcommit]⟩
  | refused _ => exact ⟨w.db, .refl _, by rw [hanswered]⟩
  | failed _ => exact ⟨w.db, .refl _, by rw [hanswered]⟩
  | unacknowledged _ hexec _ => exact ⟨_, hop.gentle hexec, by rw [hanswered, hcommit]⟩

/-- The requests that may be made without knowing anything. -/
def ControlOp.Quiet : ControlOp → Prop
  | .db op => op.Quiet
  | .getConnection | .releaseConnection | .getLock _ | .releaseLock _ | .destroySession
  | .send _ => False
  | _ => True

/-- To the call that makes it, a quiet request is like a step of the others. -/
theorem ControlOp.Quiet.step {docker : Set Swarm} {op : ControlOp} (hop : op.Quiet)
    (hinv : Inv E w) {answer : op.Ans} (h : Performs docker i op w answer w') :
    Inv E w' ∧ Guar E i w w' ∧ Rely E i w w' := by
  have hsame : w' = w → Inv E w' ∧ Guar E i w w' ∧ Rely E i w w' := by
    rintro rfl
    exact ⟨hinv, .refl E i hinv, .refl E i _⟩
  cases op with
  | db op =>
    obtain ⟨db', hg, rfl⟩ := DbOp.Quiet.statement hop h
    exact ⟨hinv.gentle hg, .gentle i hinv hg, .gentle i hg⟩
  | randomUUID =>
    obtain ⟨hnew, rfl⟩ := h
    exact randomUUID_step hinv hnew
  | agent read => exact hsame h.1
  | hang => exact h.elim
  | getConnection => exact hop.elim
  | releaseConnection => exact hop.elim
  | getLock _ => exact hop.elim
  | releaseLock _ => exact hop.elim
  | destroySession => exact hop.elim
  | send _ => exact hop.elim
  | _ => exact hsame h

end Quiet

end Docklane.Control
