import Docklane.Control.Knowledge

/-!
# Intents

A call records what it is going to do before it does it. The row may be inserted when the call has
found the resource free under its locks and works under an admission of the cluster.
-/

namespace Docklane.Control

open Concurrent Storage

/-! ## Free resources -/

namespace Db

/-- No unresolved operation is on the service. -/
def Free (db : Db) (clusterId serviceId : String) : Prop :=
  ∀ o ∈ db.operations, o.clusterId = clusterId → o.serviceId = serviceId →
    o.status.isTerminal = true

/-- No other operation on the service is unresolved. -/
def FreeBut (db : Db) (clusterId serviceId operationId : String) : Prop :=
  ∀ o ∈ db.operations, o.clusterId = clusterId → o.serviceId = serviceId →
    o.status.isTerminal = false → o.id = operationId

/-- No unresolved node operation affects the service. -/
def Unaffected (db : Db) (clusterId serviceId : String) : Prop :=
  ∀ o ∈ db.nodeOperations, o.clusterId = clusterId → serviceId ∈ o.affectedServiceIds →
    o.status.isTerminal = true

/-- No unresolved operation is on the node. -/
def NodeFree (db : Db) (clusterId nodeId : String) : Prop :=
  ∀ o ∈ db.nodeOperations, o.clusterId = clusterId → o.nodeId = nodeId →
    o.status.isTerminal = true

/-- No other operation on the node is unresolved. -/
def NodeFreeBut (db : Db) (clusterId nodeId operationId : String) : Prop :=
  ∀ o ∈ db.nodeOperations, o.clusterId = clusterId → o.nodeId = nodeId →
    o.status.isTerminal = false → o.id = operationId

variable {db : Db} {clusterId id : String}

theorem free_of_find (h : db.findNonTerminalForService clusterId id = none) :
    db.Free clusterId id := by
  intro o ho hcluster hservice
  by_contra hopen
  have hmem : o ∈ db.nonTerminalOperations := by simpa [nonTerminalOperations, ho] using hopen
  simpa [hcluster, hservice] using List.find?_eq_none.mp h o hmem

theorem unaffected_of_find (h : db.findNonTerminalAffectingService clusterId id = none) :
    db.Unaffected clusterId id := by
  intro o ho hcluster haffected
  by_contra hopen
  have hmem : o ∈ db.nonTerminalNodeOperations := by
    simpa [nonTerminalNodeOperations, ho] using hopen
  simpa [hcluster, haffected] using List.find?_eq_none.mp h o hmem

theorem nodeFree_of_find (h : db.findNonTerminalForNode clusterId id = none) :
    db.NodeFree clusterId id := by
  intro o ho hcluster hnode
  by_contra hopen
  have hmem : o ∈ db.nonTerminalNodeOperations := by
    simpa [nonTerminalNodeOperations, ho] using hopen
  simpa [hcluster, hnode] using List.find?_eq_none.mp h o hmem

end Db

variable {operationId : String} {d : DeploymentRecord} {operation : OperationInput}

section Stability

variable {E : Premises} {own : String → Prop} {db db' : Db} {clusterId id : String}

theorem DbStep.free (h : DbStep E own db db') (hclean : E.clean)
    (hown : ¬ own (E.serviceLock clusterId id)) (hfree : db.Free clusterId id) :
    db'.Free clusterId id := by
  intro o' ho' hcluster hservice
  have hlock : E.lockOf o' = E.serviceLock clusterId id := by
    rw [Premises.lockOf, hcluster, hservice]
  obtain ⟨o, ho, he⟩ := h.operations_new hclean o' ho' (hlock ▸ hown)
  exact he.isTerminal (hfree o ho (he.clusterId ▸ hcluster) (he.serviceId ▸ hservice))

theorem DbStep.freeBut (h : DbStep E own db db') (hclean : E.clean)
    (hown : ¬ own (E.serviceLock clusterId id)) (hfree : db.FreeBut clusterId id operationId) :
    db'.FreeBut clusterId id operationId := by
  intro o' ho' hcluster hservice hopen
  have hlock : E.lockOf o' = E.serviceLock clusterId id := by
    rw [Premises.lockOf, hcluster, hservice]
  obtain ⟨o, ho, he⟩ := h.operations_new hclean o' ho' (hlock ▸ hown)
  rw [he.id]
  exact hfree o ho (he.clusterId ▸ hcluster) (he.serviceId ▸ hservice) (he.unresolved hopen)

theorem DbStep.unaffected (h : DbStep E own db db') (hclean : E.clean)
    (hown : ¬ own (E.serviceLock clusterId id)) (hfree : db.Unaffected clusterId id) :
    db'.Unaffected clusterId id := by
  intro o' ho' hcluster haffected
  have hlock : E.serviceLock clusterId id ∈ E.locksOf o' := by
    rw [Premises.locksOf, hcluster]
    exact List.mem_cons_of_mem _ (List.mem_map_of_mem haffected)
  obtain ⟨o, ho, he⟩ := h.nodeOperations_new hclean o' ho' ⟨_, hlock, hown⟩
  exact he.isTerminal (hfree o ho (he.clusterId ▸ hcluster) (he.affected ▸ haffected))

theorem DbStep.nodeFree (h : DbStep E own db db') (hclean : E.clean)
    (hown : ¬ own (E.nodeLock clusterId id)) (hfree : db.NodeFree clusterId id) :
    db'.NodeFree clusterId id := by
  intro o' ho' hcluster hnode
  have hlock : E.nodeLock clusterId id ∈ E.locksOf o' := by
    rw [Premises.locksOf, hcluster, hnode]
    exact List.mem_cons_self
  obtain ⟨o, ho, he⟩ := h.nodeOperations_new hclean o' ho' ⟨_, hlock, hown⟩
  exact he.isTerminal (hfree o ho (he.clusterId ▸ hcluster) (he.nodeId ▸ hnode))

theorem DbStep.nodeFreeBut (h : DbStep E own db db') (hclean : E.clean)
    (hown : ¬ own (E.nodeLock clusterId id)) (hfree : db.NodeFreeBut clusterId id operationId) :
    db'.NodeFreeBut clusterId id operationId := by
  intro o' ho' hcluster hnode hopen
  have hlock : E.nodeLock clusterId id ∈ E.locksOf o' := by
    rw [Premises.locksOf, hcluster, hnode]
    exact List.mem_cons_self
  obtain ⟨o, ho, he⟩ := h.nodeOperations_new hclean o' ho' ⟨_, hlock, hown⟩
  rw [he.id]
  exact hfree o ho (he.clusterId ▸ hcluster) (he.nodeId ▸ hnode) (he.unresolved hopen)

end Stability

/-! ## Inserted rows -/

namespace Db

variable {db db' : Db} {o : OperationRecord} {p : NodeOperationRecord}

theorem Exclusive.insert_operation (h : db.Exclusive) (hfree : db.Free o.clusterId o.serviceId)
    (hunaffected : db.Unaffected o.clusterId o.serviceId)
    (hops : db'.operations = db.operations ++ [o])
    (hnodes : db'.nodeOperations = db.nodeOperations) : db'.Exclusive := by
  have hsplit : ∀ {q}, q ∈ db'.operations → q ∈ db.operations ∨ q = o := by
    intro q hq
    simpa [hops] using hq
  refine ⟨fun q hq r hr hqopen hropen hcluster hservice => ?_,
    fun q hq r hr hqopen hropen hcluster haffected => ?_, ?_⟩
  · rcases hsplit hq with hq | rfl <;> rcases hsplit hr with hr | rfl
    · exact h.services q hq r hr hqopen hropen hcluster hservice
    · simp [hfree q hq hcluster hservice] at hqopen
    · simp [hfree r hr hcluster.symm hservice.symm] at hropen
    · rfl
  · rw [hnodes] at hr
    rcases hsplit hq with hq | rfl
    · exact h.affected q hq r hr hqopen hropen hcluster haffected
    · simp [hunaffected r hr hcluster.symm haffected] at hropen
  · rw [hnodes]
    exact h.nodes

theorem Exclusive.insert_nodeOperation (h : db.Exclusive)
    (hfree : db.NodeFree p.clusterId p.nodeId)
    (hservices : ∀ s ∈ p.affectedServiceIds, db.Free p.clusterId s ∧ db.Unaffected p.clusterId s)
    (hops : db'.operations = db.operations)
    (hnodes : db'.nodeOperations = db.nodeOperations ++ [p]) : db'.Exclusive := by
  have hsplit : ∀ {q}, q ∈ db'.nodeOperations → q ∈ db.nodeOperations ∨ q = p := by
    intro q hq
    simpa [hnodes] using hq
  refine ⟨hops ▸ h.services, fun q hq r hr hqopen hropen hcluster haffected => ?_,
    fun q hq r hr hqopen hropen hne hcluster => ?_⟩
  · rw [hops] at hq
    rcases hsplit hr with hr | rfl
    · exact h.affected q hq r hr hqopen hropen hcluster haffected
    · simp [(hservices _ haffected).1 q hq hcluster rfl] at hqopen
  · rcases hsplit hq with hq | rfl <;> rcases hsplit hr with hr | rfl
    · exact h.nodes q hq r hr hqopen hropen hne hcluster
    · refine ⟨fun hnode => ?_, fun s hs hs' => ?_⟩
      · simp [hfree q hq hcluster hnode] at hqopen
      · simp [(hservices s hs').2 q hq hcluster hs] at hqopen
    · refine ⟨fun hnode => ?_, fun s hs hs' => ?_⟩
      · simp [hfree r hr hcluster.symm hnode.symm] at hropen
      · simp [(hservices s hs).2 r hr hcluster.symm hs'] at hropen
    · exact absurd rfl hne

theorem HasRow.of_subset {key : OperationKey} (h : db.HasRow key)
    (hops : ∀ o ∈ db.operations, o ∈ db'.operations)
    (hnodes : ∀ o ∈ db.nodeOperations, o ∈ db'.nodeOperations) : db'.HasRow key := by
  obtain ⟨type, id⟩ := key
  cases type with
  | service =>
    obtain ⟨o, ho, hid⟩ := h
    exact ⟨o, hops o ho, hid⟩
  | node =>
    obtain ⟨o, ho, hid⟩ := h
    exact ⟨o, hnodes o ho, hid⟩

theorem Consistent.insert_operation (h : db.Consistent)
    (hfresh : ∀ q ∈ db.operations, q.id ≠ o.id) :
    ({ db with operations := db.operations ++ [o] } : Db).Consistent := by
  have hrecorded : ∀ {d id type}, db.Recorded d id type →
      ({ db with operations := db.operations ++ [o] } : Db).Recorded d id type := by
    rintro d id type ⟨t, ht, q, hq, hrest⟩
    exact ⟨t, ht, q, List.mem_append_left _ hq, hrest⟩
  refine ⟨fun d hd => hrecorded (h.deploys d hd), fun a ha => ?_, fun d hd => ?_,
    fun d hd => (h.agree d hd).kept (fun _ ha => ha) (fun _ ha _ => ha) fun q hq _ =>
      ⟨q, List.mem_append_left _ hq, rfl, rfl⟩⟩
  · obtain ⟨d, hd, hid, hrec⟩ := h.rollsBack a ha
    exact ⟨d, hd, hid, hrecorded hrec⟩
  · rw [h.settled d hd]
    refine ⟨fun hall q hq hlinked => ?_, fun hall q hq => hall q (List.mem_append_left _ hq)⟩
    rcases List.mem_append.mp hq with hq | hq
    · exact hall q hq hlinked
    · -- a deployment mentions only operations that exist, and this one is new
      rw [List.mem_singleton.mp hq] at hlinked
      rcases hlinked with hop | hattempt
      · obtain ⟨t, -, r, hr, hid, -⟩ := h.deploys d hd
        exact absurd (hid.trans hop) (hfresh r hr)
      · obtain ⟨-, -, -, t, -, r, hr, hid, -⟩ := h.rollsBack _ hattempt
        exact absurd hid (hfresh r hr)

theorem Consistent.insert_deployment (h : db.Consistent)
    (hfresh : ∀ row ∈ db.deployments, row.id ≠ d.id)
    (hrecorded : db.Recorded d d.operationId .DEPLOY) (hopen : ¬ d.status.isSettled = true)
    (ho : ∃ o ∈ db.operations, o.id = d.operationId ∧ o.status.isTerminal = false ∧
      deployPair d.noOp d.status o.status = true) (hnone : d.rollbackOperationId = none) :
    ({ db with deployments := db.deployments ++ [d] } : Db).Consistent := by
  refine ⟨fun d' hd' => ?_, fun a ha => ?_, fun d' hd' => ?_, fun d' hd' => ?_⟩
  · rcases List.mem_append.mp hd' with hd' | hd'
    · exact h.deploys d' hd'
    · obtain rfl := List.mem_singleton.mp hd'
      exact hrecorded
  · obtain ⟨d', hd', hid, hrec⟩ := h.rollsBack a ha
    exact ⟨d', List.mem_append_left _ hd', hid, hrec⟩
  · rcases List.mem_append.mp hd' with hd' | hd'
    · exact h.settled d' hd'
    · obtain rfl := List.mem_singleton.mp hd'
      refine iff_of_false hopen fun hall => ?_
      obtain ⟨o, ho, hid, hrunning, -⟩ := ho
      have := hall o ho (.inl hid.symm)
      simp [hrunning] at this
  · rcases List.mem_append.mp hd' with hd' | hd'
    · exact ⟨(h.agree d' hd').deploy, (h.agree d' hd').rollback, (h.agree d' hd').attempted⟩
    · obtain rfl := List.mem_singleton.mp hd'
      obtain ⟨o, ho, hid, -, hpair⟩ := ho
      refine ⟨fun _ => ⟨o, ho, hid, hpair⟩, fun r hr => ?_, fun a ha hid => ?_⟩
      · rw [hnone] at hr
        cases hr
      · -- the attempts that are recorded belong to older deployments
        obtain ⟨d₀, hd₀, hid₀, -⟩ := h.rollsBack a ha
        exact absurd (hid₀.trans hid) (hfresh d₀ hd₀)

theorem writeDeployment_evolves (db : Db) (id : String) (write : DeploymentWrite) :
    List.Forall₂ DeploymentRecord.Evolves db.deployments
      (db.writeDeployment id write).deployments := by
  refine forall₂_map_right fun d _ => ?_
  split
  · exact ⟨rfl, rfl, rfl⟩
  · exact .refl d

theorem mem_writeDeployment {id : String} {write : DeploymentWrite} {d' : DeploymentRecord} :
    d' ∈ (db.writeDeployment id write).deployments ↔ ∃ d ∈ db.deployments, d.Evolves d' ∧
      (d.id = id ∧ d' = write.apply db.clock d ∨ d.id ≠ id ∧ d' = d) := by
  simp only [writeDeployment, List.mem_map]
  constructor
  · rintro ⟨d, hd, rfl⟩
    by_cases hid : d.id = id
    · rw [if_pos hid]
      exact ⟨d, hd, ⟨rfl, rfl, rfl⟩, .inl ⟨hid, rfl⟩⟩
    · rw [if_neg hid]
      exact ⟨d, hd, .refl d, .inr ⟨hid, rfl⟩⟩
  · rintro ⟨d, hd, -, ⟨hid, rfl⟩ | ⟨hid, rfl⟩⟩
    · exact ⟨d, hd, if_pos hid⟩
    · exact ⟨d', hd, if_neg hid⟩

theorem Recorded.evolves {d d' : DeploymentRecord} {id : String} {type : OperationType}
    (h : db.Recorded d id type) (he : d.Evolves d') : db.Recorded d' id type := by
  rwa [Recorded, he.deploymentTargetId]

/-- The operation of a deployment that has failed or was rolled back has failed. -/
theorem Agrees.deploy_failed (h : db.Agrees d)
    (hended : d.status = .FAILED ∨ d.status = .ROLLED_BACK) :
    ∃ o ∈ db.operations, o.id = d.operationId ∧ o.status = .FAILED := by
  cases hr : d.rollbackOperationId with
  | none =>
    obtain ⟨o, ho, hid, hpair⟩ := h.deploy hr
    refine ⟨o, ho, hid, ?_⟩
    rcases hended with hended | hended <;> rw [hended] at hpair <;>
      cases hs : o.status <;> simp_all [deployPair]
  | some r => exact (h.rollback r hr).1

/-- A new rollback of a deployment, for an operation that is recorded and has not ended. -/
theorem Consistent.insert_attempt (h : db.Consistent) (hkeyed : db.Keyed) (hd : d ∈ db.deployments)
    (hrecorded : db.Recorded d operationId .ROLLBACK)
    (ho : ∃ o ∈ db.operations, o.id = operationId ∧ o.status = .RUNNING)
    (hfailed : ∃ o ∈ db.operations, o.id = d.operationId ∧ o.status = .FAILED) :
    (({ db with rollbackAttempts := db.rollbackAttempts ++ [⟨operationId, d.id⟩] } :
      Db).writeDeployment d.id (.rollingBack operationId)).Consistent := by
  refine ⟨fun d' hd' => ?_, fun a ha => ?_, fun d' hd' => ?_, fun d' hd' => ?_⟩
  · obtain ⟨d₀, hd₀, he, -⟩ := mem_writeDeployment.mp hd'
    rw [he.operationId]
    exact (h.deploys d₀ hd₀).evolves he
  · have hnew : ∀ {d₀ id}, d₀ ∈ db.deployments → d₀.id = a.deploymentId →
        db.Recorded d₀ id .ROLLBACK → ∃ d' ∈ (({ db with rollbackAttempts :=
          db.rollbackAttempts ++ [⟨operationId, d.id⟩] } : Db).writeDeployment d.id
          (.rollingBack operationId)).deployments, d'.id = a.deploymentId ∧
          db.Recorded d' id .ROLLBACK := by
      intro d₀ id hd₀ hid hrec
      obtain ⟨d', hd', he⟩ := exists_new_row (writeDeployment_evolves ({ db with rollbackAttempts :=
          db.rollbackAttempts ++ [⟨operationId, d.id⟩] } : Db) d.id
          (.rollingBack operationId)) hd₀
      exact ⟨d', hd', he.id.trans hid, hrec.evolves he⟩
    rcases List.mem_append.mp ha with ha | ha
    · obtain ⟨d₀, hd₀, hid, hrec⟩ := h.rollsBack a ha
      exact hnew hd₀ hid hrec
    · obtain rfl := List.mem_singleton.mp ha
      exact hnew hd rfl hrecorded
  · obtain ⟨d₀, hd₀, he, ⟨hid, rfl⟩ | ⟨hid, rfl⟩⟩ := mem_writeDeployment.mp hd'
    · refine iff_of_false (by simp [DeploymentWrite.apply, DeploymentWrite.status,
        DeploymentStatus.isSettled]) fun hall => ?_
      obtain ⟨o, ho, rfl, hrunning⟩ := ho
      have hlinked : (⟨o.id, d₀.id⟩ : RollbackAttempt) ∈
          db.rollbackAttempts ++ [⟨o.id, d.id⟩] :=
        List.mem_append_right _ (List.mem_singleton.mpr (by rw [hid]))
      have := hall o ho (.inr hlinked)
      simp [hrunning, OperationStatus.isTerminal] at this
    · rw [h.settled d' hd₀]
      have hlinked : ∀ x, (({ db with rollbackAttempts := db.rollbackAttempts ++
          [⟨operationId, d.id⟩] } : Db).writeDeployment d.id
            (.rollingBack operationId)).Linked d' x ↔ db.Linked d' x := by
        intro x
        simp [Linked, writeDeployment, hid]
      simp only [hlinked]
      rfl
  · obtain ⟨d₀, hd₀, he, ⟨hid, rfl⟩ | ⟨hid, rfl⟩⟩ := mem_writeDeployment.mp hd'
    · obtain rfl := List.inj_on_of_nodup_map hkeyed.deployments hd₀ hd hid
      obtain ⟨o, ho, hoid, hrunning⟩ := ho
      refine ⟨fun hnone => (by cases hnone), fun r hr => ?_, fun _ _ _ hnone => (by cases hnone)⟩
      obtain rfl := Option.some.inj hr
      refine ⟨hfailed, List.mem_append_right _ (List.mem_singleton_self _), o, ho, hoid, ?_⟩
      rw [hrunning]
      rfl
    · refine (h.agree d' hd₀).kept (fun a ha => List.mem_append_left _ ha)
        (fun a ha haid => ?_) fun o ho _ => ⟨o, ho, rfl, rfl⟩
      rcases List.mem_append.mp ha with ha | ha
      · exact ha
      · obtain rfl := List.mem_singleton.mp ha
        exact absurd haid.symm hid

end Db

/-! ## The step of an intent -/

section Create

variable {Tid : Type} {E : Premises} {w : World Tid} {i : Tid} {db' : Db} {clusterId : String}

/-- The call works under an admission of the cluster, where it needs one. -/
def Admitted (E : Premises) (i : Tid) (clusterId : String) (w : World Tid) : Prop :=
  E.careful → E.enforced → ∃ a, w.admitted i = some a ∧ a.clusterId = clusterId

theorem Admitted.stable (clusterId : String) :
    Stable (controlProtocol E) i (Admitted E i clusterId) := by
  intro w w' h hr _ hcareful henforced
  rw [hr.admitted]
  exact h hcareful henforced

/-- The call has inserted the row and has not sent its request. -/
def Unsent (i : Tid) (key : OperationKey) (w : World Tid) : Prop :=
  w.creator key = some i ∧ ∀ r ∈ w.sent, r.key ≠ key

theorem Unsent.stable (key : OperationKey) : Stable (controlProtocol E) i (Unsent i key) := by
  intro w w' h hr _
  refine ⟨hr.creator key h.1, fun r hmem heq => ?_⟩
  exact h.2 r (hr.sent r hmem (heq ▸ h.1)) heq

theorem Fenced.insert (h : Fenced E w)
    (hadmitted : E.enforced → ∃ a, w.admitted i = some a ∧ a.clusterId = clusterId)
    (hmaintenance : db'.maintenance = w.db.maintenance)
    (hadmissions : db'.admissions = w.db.admissions)
    (hresolutions : db'.resolutions = w.db.resolutions)
    (hops : ∀ o ∈ db'.operations, o ∈ w.db.operations ∨ o.clusterId = clusterId)
    (hnodes : ∀ o ∈ db'.nodeOperations, o ∈ w.db.nodeOperations ∨ o.clusterId = clusterId) :
    Fenced E { w with db := db' } where
  recorded j a ha := by
    have hrec := h.recorded j a ha
    rwa [← hadmissions, ← hresolutions] at hrec
  distinct := h.distinct
  shut henforced row hrow hshut := by
    obtain ⟨a, ha, hcluster⟩ := hadmitted henforced
    obtain ⟨⟨hops', hnodes'⟩, hnone⟩ := h.shut henforced row (hmaintenance ▸ hrow) hshut
    have hother : clusterId ≠ row.clusterId := hcluster ▸ hnone i a ha
    refine ⟨⟨fun o ho hc => ?_, fun o ho hc => ?_⟩, hnone⟩
    · rcases hops o ho with ho | ho
      · exact hops' o ho hc
      · exact absurd (ho.symm.trans hc) hother
    · rcases hnodes o ho with ho | ho
      · exact hnodes' o ho hc
      · exact absurd (ho.symm.trans hc) hother

/-- What the transaction of an intent has to keep, table by table. -/
structure Inserts (E : Premises) (i : Tid) (clusterId : String) (key : OperationKey)
    (w : World Tid) (db' : Db) : Prop where
  fresh : ¬ w.db.HasRow key
  row : db'.HasRow key
  operations : ∀ o ∈ w.db.operations, o ∈ db'.operations
  nodeOperations : ∀ o ∈ w.db.nodeOperations, o ∈ db'.nodeOperations
  operations_new : ∀ o ∈ db'.operations, o ∈ w.db.operations ∨ o.clusterId = clusterId
  nodeOperations_new : ∀ o ∈ db'.nodeOperations, o ∈ w.db.nodeOperations ∨ o.clusterId = clusterId
  maintenance : db'.maintenance = w.db.maintenance
  admissions : db'.admissions = w.db.admissions
  resolutions : db'.resolutions = w.db.resolutions
  keyed : db'.Keyed
  exclusive : E.clean → db'.Exclusive
  consistent : E.clean → db'.Consistent
  step : DbStep E (fun name => w.lock name = some i) w.db db'
  rollback : E.clean → E.patient → RollbackStep w.db db'
  settled : E.clean → SettledStep w.db db'

theorem Inserts.sound {key : OperationKey} (h : Inserts E i clusterId key w db') (hinv : Inv E w)
    (hadmitted : Admitted E i clusterId w) :
    let w' := { w with db := db', creator := Function.update w.creator key (some i) }
    Inv E w' ∧ Guar E i w w' ∧ Unsent i key w' := by
  have hnone : w.creator key = none := by
    by_contra hne
    obtain ⟨j, hj⟩ := Option.ne_none_iff_exists'.mp hne
    exact h.fresh (hinv.dispatched.created key j hj)
  have hkept : ∀ key' j, w.creator key' = some j →
      Function.update w.creator key (some i) key' = some j := by
    intro key' j hj
    have hne : key' ≠ key := by
      rintro rfl
      rw [hnone] at hj
      cases hj
    rwa [Function.update_of_ne hne]
  have hunused : ∀ {id}, w.db.Unused id → db'.Unused id := by
    intro id hu
    rwa [Db.Unused, h.admissions, h.resolutions]
  refine ⟨⟨h.keyed, ⟨?_, hinv.dispatched.once, ?_⟩, ⟨?_, ?_⟩, h.exclusive, h.consistent, ?_⟩,
    ⟨fun _ _ _ => Iff.rfl, fun _ _ => rfl, fun _ _ => rfl, fun _ _ => rfl, h.step, h.rollback,
      h.settled, fun r hr => .inl hr, hkept, fun _ _ hi => hi, fun _ _ _ _ => hunused⟩,
    Function.update_self _ _ _, ?_⟩
  · intro key' j hj
    by_cases hkey : key' = key
    · exact hkey ▸ h.row
    · have hj' : w.creator key' = some j := (Function.update_of_ne hkey _ _).symm.trans hj
      exact (hinv.dispatched.created key' j hj').of_subset h.operations h.nodeOperations
  · intro r hr
    obtain ⟨j, hj⟩ := hinv.dispatched.sent r hr
    exact ⟨j, hkept _ j hj⟩
  · exact fun a ha => hinv.issued.admissions a (h.admissions ▸ ha)
  · exact fun r hr => hinv.issued.resolutions r (h.resolutions ▸ hr)
  · intro hcareful
    have hf := (hinv.fenced hcareful).insert (hadmitted hcareful) h.maintenance h.admissions
      h.resolutions h.operations_new h.nodeOperations_new
    exact ⟨hf.recorded, hf.distinct, hf.shut⟩
  · rintro r hr rfl
    obtain ⟨j, hj⟩ := hinv.dispatched.sent r hr
    rw [hnone] at hj
    cases hj

/-- What a call has to know before it inserts an operation on a service. -/
def MayOperate (E : Premises) (i : Tid) (clusterId serviceId : String) (w : World Tid) : Prop :=
  E.clean → w.lock (E.serviceLock clusterId serviceId) = some i ∧ w.db.Free clusterId serviceId ∧
    w.db.Unaffected clusterId serviceId

theorem inserts_operation {o : OperationRecord} (hinv : Inv E w)
    (hmay : MayOperate E i o.clusterId o.serviceId w) (hfresh : ∀ q ∈ w.db.operations, q.id ≠ o.id)
    (hops : db'.operations = w.db.operations ++ [o])
    (hnodes : db'.nodeOperations = w.db.nodeOperations) (htargets : db'.targets = w.db.targets)
    (hmaintenance : db'.maintenance = w.db.maintenance)
    (hadmissions : db'.admissions = w.db.admissions)
    (hresolutions : db'.resolutions = w.db.resolutions) (hkeyed : db'.Keyed)
    (hconsistent : E.clean → db'.Consistent)
    (hattempts : ∀ a ∈ w.db.rollbackAttempts, a ∈ db'.rollbackAttempts)
    (hdeployments : ∀ d ∈ w.db.deployments, ∃ d' ∈ db'.deployments, d.Evolves d' ∧
      (E.clean → ∀ t, w.db.findDeploymentTarget d.deploymentTargetId = some t →
        ¬ w.lock (E.serviceLock t.clusterId t.dockerServiceId) = some i → d'.status = d.status) ∧
      (E.clean → w.db.DeployEnded d → d.status ≠ .SUCCESS → d'.status ≠ .SUCCESS))
    (hrollback : E.clean → E.patient → RollbackStep w.db db')
    (hsettled : E.clean → SettledStep w.db db') :
    Inserts E i o.clusterId (.service, o.id) w db' where
  fresh := by
    rintro ⟨q, hq, hid⟩
    exact hfresh q hq hid
  row := ⟨o, by simp [hops], rfl⟩
  operations q hq := by simp [hops, hq]
  nodeOperations q hq := hnodes ▸ hq
  operations_new q hq := by
    rw [hops] at hq
    rcases List.mem_append.mp hq with hq | hq
    · exact .inl hq
    · exact .inr (by rw [List.mem_singleton.mp hq])
  nodeOperations_new q hq := .inl (hnodes ▸ hq)
  maintenance := hmaintenance
  admissions := hadmissions
  resolutions := hresolutions
  keyed := hkeyed
  exclusive hclean :=
    (hinv.exclusive hclean).insert_operation (hmay hclean).2.1 (hmay hclean).2.2 hops hnodes
  consistent := hconsistent
  step :=
    { operations := fun q hq => ⟨q, by simp [hops, hq], .refl q, fun _ _ _ => rfl⟩
      operations_new := fun hclean q hq hother => by
        rw [hops] at hq
        rcases List.mem_append.mp hq with hq | hq
        · exact ⟨q, hq, .refl q⟩
        · obtain rfl := List.mem_singleton.mp hq
          exact absurd (hmay hclean).1 hother
      nodeOperations := fun q hq => ⟨q, hnodes ▸ hq, .refl q⟩
      nodeOperations_new := fun _ q hq _ => ⟨q, hnodes ▸ hq, .refl q⟩
      targets := fun id t ht => by rwa [Db.findDeploymentTarget, htargets]
      attempts := hattempts
      deployments := hdeployments }
  rollback := hrollback
  settled := hsettled

theorem createOperation_inserts {input : OperationInput} (hinv : Inv E w)
    (hmay : MayOperate E i input.clusterId input.serviceId w)
    (h : w.db.createOperation input = .ok db') :
    Inserts E i input.clusterId (.service, input.id) w db' := by
  obtain ⟨hfresh, rfl⟩ := Db.createOperation_ok h
  refine inserts_operation (o := input.started) hinv hmay hfresh rfl rfl rfl rfl rfl rfl
    { hinv.keyed with operations := nodup_keys_insert hinv.keyed.operations hfresh }
    (fun hclean => (hinv.consistent hclean).insert_operation (o := input.started) hfresh)
    (fun _ ha => ha)
    (fun d hd => ⟨d, hd, .refl d, fun _ _ _ _ => rfl, fun _ _ hne => hne⟩) (fun _ _ => ?_)
    fun _ => .of_eq rfl
  have hgentle := (Db.Gentle.refl w.db).rollbackStep hinv.keyed
  exact ⟨hgentle.attempts, hgentle.deployments⟩

theorem createDeployment_inserts {input : DeploymentInput} {id : String} {t : DeploymentTarget}
    (hinv : Inv E w) (hmay : MayOperate E i operation.clusterId operation.serviceId w)
    (hoperation : operation.id = input.operationId) (htype : operation.type = .DEPLOY)
    (htarget : w.db.findDeploymentTarget input.deploymentTargetId = some t)
    (hon : E.clean → operation.clusterId = t.clusterId ∧ operation.serviceId = t.dockerServiceId)
    (h : w.db.createDeployment operation input id = .ok (d, db')) :
    Inserts E i operation.clusterId (.service, operation.id) w db' := by
  obtain ⟨hfresh, hrows, rfl, rfl, hstatus, hnone, rfl⟩ := Db.createDeployment_ok h
  have hrecorded : E.clean → ({ w.db with operations := w.db.operations ++ [operation.started] } :
      Db).Recorded d d.operationId .DEPLOY := fun hclean =>
    ⟨t, htarget, operation.started, by simp, hoperation, htype, hon hclean⟩
  have hopen : ¬ d.status.isSettled = true := by
    rw [hstatus]
    split <;> simp [DeploymentStatus.isSettled]
  refine inserts_operation (o := operation.started) hinv hmay hfresh rfl rfl rfl rfl rfl rfl
    { hinv.keyed with
      operations := nodup_keys_insert hinv.keyed.operations hfresh
      deployments := nodup_keys_insert hinv.keyed.deployments fun row hrow => (hrows row hrow).1
      deploymentOperations := nodup_keys_insert hinv.keyed.deploymentOperations
        fun row hrow => (hrows row hrow).2 }
    (fun hclean => ?_) (fun _ ha => ha)
    (fun d' hd' => ⟨d', List.mem_append_left _ hd', .refl d', fun _ _ _ _ => rfl,
      fun _ _ hne => hne⟩) (fun _ _ => ⟨fun a ha => .inl ha, fun d₀ hd₀ d' hd' hid => ?_⟩)
    fun _ => ⟨fun d' hd' _ => .inl (List.mem_append_left _ hd'), fun d' hd' => ?_⟩
  · refine ((hinv.consistent hclean).insert_operation (o := operation.started)
      hfresh).insert_deployment
      (fun row hrow => (hrows row hrow).1) (hrecorded hclean) hopen ?_ hnone
    refine ⟨operation.started, by simp, hoperation, rfl, ?_⟩
    rw [hstatus]
    cases d.noOp <;> rfl
  · rcases List.mem_append.mp hd' with hd' | hd'
    · obtain rfl := List.inj_on_of_nodup_map hinv.keyed.deployments hd' hd₀ hid
      exact .refl _
    · obtain rfl := List.mem_singleton.mp hd'
      exact absurd hid.symm (hrows d₀ hd₀).1
  · refine (List.mem_append.mp hd').imp_right fun hd' o' _ hr => ?_
    rw [List.mem_singleton.mp hd', hnone] at hr
    cases hr

theorem createRollback_settledStep {db db' : Db}
    (hcreate : db.createRollback operation d.id = .ok db') : SettledStep db db' := by
  obtain ⟨hfresh, hattempts, rfl⟩ := Db.createRollback_ok hcreate
  constructor
  · intro d₀ hd₀ _
    by_cases hid : d₀.id = d.id
    · refine .inr ⟨operation.id, ?_, fun hold => hattempts _ hold rfl⟩
      rw [hid]
      exact List.mem_append_right _ List.mem_cons_self
    · exact .inl (Db.mem_writeDeployment.mpr ⟨d₀, hd₀, .refl d₀, .inr ⟨hid, rfl⟩⟩)
  · intro d' hd'
    obtain ⟨d₀, hd₀, -, ⟨-, rfl⟩ | ⟨-, rfl⟩⟩ := Db.mem_writeDeployment.mp hd'
    · refine .inr fun o' ho' hr hterminal => ?_
      rcases List.mem_append.mp ho' with hold | hnew
      · exact absurd (Option.some.inj hr).symm (hfresh o' hold)
      · rw [List.mem_singleton.mp hnew] at hterminal
        cases hterminal
    · exact .inl hd₀

theorem createRollback_inserts {t : DeploymentTarget} (hinv : Inv E w)
    (hmay : MayOperate E i operation.clusterId operation.serviceId w)
    (htype : operation.type = .ROLLBACK) (hd : d ∈ w.db.deployments)
    (htarget : w.db.findDeploymentTarget d.deploymentTargetId = some t)
    (hon : E.clean → operation.clusterId = t.clusterId ∧ operation.serviceId = t.dockerServiceId)
    (hended : E.clean → d.status = .FAILED ∨ d.status = .ROLLED_BACK)
    (hfailed : E.clean → E.patient → d.status = .FAILED)
    (h : w.db.createRollback operation d.id = .ok db') :
    Inserts E i operation.clusterId (.service, operation.id) w db' := by
  obtain ⟨hfresh, hattempts, rfl⟩ := Db.createRollback_ok h
  have hrecorded : E.clean → ({ w.db with operations := w.db.operations ++ [operation.started] } :
      Db).Recorded d operation.id .ROLLBACK := fun hclean =>
    ⟨t, htarget, operation.started, by simp, rfl, htype, hon hclean⟩
  have hids := keys_eq (fun _ _ he => he.id) (w.db.writeDeployment_evolves d.id
    (.rollingBack operation.id))
  have hoperationIds := keys_eq (fun _ _ he => he.operationId) (w.db.writeDeployment_evolves d.id
    (.rollingBack operation.id))
  refine inserts_operation (o := operation.started) hinv hmay hfresh rfl rfl rfl rfl rfl rfl
    { hinv.keyed with
      operations := nodup_keys_insert hinv.keyed.operations hfresh
      deployments := hids ▸ hinv.keyed.deployments
      deploymentOperations := hoperationIds ▸ hinv.keyed.deploymentOperations
      attempts := nodup_keys_insert hinv.keyed.attempts hattempts }
    (fun hclean => ?_) (fun _ ha => List.mem_append_left _ ha) (fun d₀ hd₀ => ?_)
    (fun hclean hpatient => ⟨fun a ha => ?_, fun d₀ hd₀ d' hd' hid => ?_⟩)
    fun _ => createRollback_settledStep h
  · obtain ⟨q, hq, hqid, hqstatus⟩ := ((hinv.consistent hclean).agree d hd).deploy_failed
      (hended hclean)
    exact ((hinv.consistent hclean).insert_operation (o := operation.started)
      hfresh).insert_attempt { hinv.keyed with
        operations := nodup_keys_insert hinv.keyed.operations hfresh } hd (hrecorded hclean)
      ⟨operation.started, by simp, rfl, rfl⟩ ⟨q, List.mem_append_left _ hq, hqid, hqstatus⟩
  · by_cases hid : d₀.id = d.id
    · refine ⟨(DeploymentWrite.rollingBack operation.id).apply w.db.clock d₀,
        Db.mem_writeDeployment.mpr ⟨d₀, hd₀, ⟨rfl, rfl, rfl⟩, .inl ⟨hid, rfl⟩⟩,
        ⟨rfl, rfl, rfl⟩, fun hclean t' ht' hother => ?_, fun _ _ _ => nofun⟩
      -- the deployment is on the service of the operation, whose lock is held
      obtain rfl := List.inj_on_of_nodup_map hinv.keyed.deployments hd₀ hd hid
      obtain rfl : t = t' := Option.some.inj (htarget.symm.trans ht')
      obtain ⟨hcluster, hservice⟩ := hon hclean
      rw [← hcluster, ← hservice] at hother
      exact absurd (hmay hclean).1 hother
    · exact ⟨d₀, Db.mem_writeDeployment.mpr ⟨d₀, hd₀, .refl d₀, .inr ⟨hid, rfl⟩⟩, .refl d₀,
        fun _ _ _ _ => rfl, fun _ _ hne => hne⟩
  · rcases List.mem_append.mp ha with ha | ha
    · exact .inl ha
    · obtain rfl := List.mem_singleton.mp ha
      exact .inr ⟨d, hd, rfl, hfailed hclean hpatient⟩
  · obtain ⟨d₁, hd₁, he, hcase⟩ := Db.mem_writeDeployment.mp hd'
    obtain rfl := List.inj_on_of_nodup_map hinv.keyed.deployments hd₁ hd₀ (he.id.symm.trans hid)
    rcases hcase with ⟨hdid, rfl⟩ | ⟨-, rfl⟩
    · obtain rfl := List.inj_on_of_nodup_map hinv.keyed.deployments hd₁ hd hdid
      rw [hfailed hclean hpatient]
      exact ⟨fun _ => .inr rfl, by simp⟩
    · exact .refl _

/-- What a call has to know before it inserts an operation on a node. -/
def MayOperateNode (E : Premises) (i : Tid) (clusterId nodeId : String) (services : List String)
    (w : World Tid) : Prop :=
  E.clean → w.lock (E.nodeLock clusterId nodeId) = some i ∧ w.db.NodeFree clusterId nodeId ∧
    ∀ s ∈ services, w.lock (E.serviceLock clusterId s) = some i ∧ w.db.Free clusterId s ∧
      w.db.Unaffected clusterId s

theorem createNodeOperation_inserts {input : NodeOperationInput} (hinv : Inv E w)
    (hmay : MayOperateNode E i input.clusterId input.nodeId input.affectedServiceIds w)
    (h : w.db.createNodeOperation input = .ok db') :
    Inserts E i input.clusterId (.node, input.id) w db' := by
  obtain ⟨hfresh, rfl⟩ := Db.createNodeOperation_ok h
  have hrefl := DbStep.refl E (fun name => w.lock name = some i) w.db
  refine
    { fresh := fun ⟨q, hq, hid⟩ => hfresh q hq hid
      row := ⟨input.started, by simp, rfl⟩
      operations := fun q hq => hq
      nodeOperations := fun q hq => List.mem_append_left _ hq
      operations_new := fun q hq => .inl hq
      nodeOperations_new := fun q hq => ?_
      maintenance := rfl
      admissions := rfl
      resolutions := rfl
      keyed := { hinv.keyed with
        nodeOperations := nodup_keys_insert hinv.keyed.nodeOperations hfresh }
      exclusive := fun hclean => ?_
      consistent := fun hclean => ?_
      step := { hrefl with
        nodeOperations := fun q hq => ⟨q, List.mem_append_left _ hq, .refl q⟩
        nodeOperations_new := fun hclean q hq hother => ?_ }
      rollback := fun _ _ => ?_
      settled := fun _ => .of_eq rfl }
  · rcases List.mem_append.mp hq with hq | hq
    · exact .inl hq
    · exact .inr (by rw [List.mem_singleton.mp hq]; rfl)
  · obtain ⟨-, hfree, hservices⟩ := hmay hclean
    exact (hinv.exclusive hclean).insert_nodeOperation (p := input.started) hfree
      (fun s hs => (hservices s hs).2) rfl rfl
  · have hc := hinv.consistent hclean
    exact ⟨hc.deploys, hc.rollsBack, hc.settled, fun d hd => { hc.agree d hd with }⟩
  · rcases List.mem_append.mp hq with hq | hq
    · exact ⟨q, hq, .refl q⟩
    · obtain rfl := List.mem_singleton.mp hq
      obtain ⟨hnode, -, hservices⟩ := hmay hclean
      obtain ⟨name, hname, hother⟩ := hother
      rcases List.mem_cons.mp hname with rfl | hname
      · exact absurd hnode hother
      · obtain ⟨s, hs, rfl⟩ := List.mem_map.mp hname
        exact absurd (hservices s hs).1 hother
  · have hr := (Db.Gentle.refl w.db).rollbackStep hinv.keyed
    exact ⟨hr.attempts, hr.deployments⟩

end Create

end Docklane.Control
