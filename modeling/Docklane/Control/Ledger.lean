import Docklane.Control.Carried

/-!
# Requests and what is recorded of them

A request of a client names its operation by an id of its own choice. `Request` lists the requests
of the eight kinds, each with the row that it may create and with the condition that the row
recorded under its id was asked for differently. `Ledger` is the invariant of the rows: they were
created by accepted requests, a deployment operation has its deployment, and the cluster of a
deployment is that of its target.
-/

namespace Docklane.Control

open Concurrent Concurrent.Program Storage

/-! ## Requests -/

/-- The two patches set the same labels and remove the same ones. -/
def SamePatch : Option LabelPatch → Option LabelPatch → Prop
  | some left, some right => (∀ key, left.set.lookup key = right.set.lookup key) ∧
      ∀ key, key ∈ left.remove ↔ key ∈ right.remove
  | none, none => True
  | _, _ => False

/-- The operation has the kind, cluster, service, actor and parameters that the request asks for.
The service may be any that `ref` is resolved to. -/
def MutationService.AskedBy (docker : Set Swarm) (kind : MutationService.Kind)
    (input : MutationService.MutationInput) (clusterId ref : String) (o : OperationRecord) : Prop :=
  o.type = kind.type ∧ o.clusterId = clusterId ∧
    (∃ swarm ∈ docker, ∃ s, swarm.service ref = some s ∧ s.id = o.serviceId) ∧
    o.actorId = input.actorId ∧ o.expectedVersion = input.expectedVersion ∧
    o.targetReplicas = kind.targetReplicas

def NodeMutationService.AskedBy (docker : Set Swarm) (input : NodeMutationService.MutationInput)
    (clusterId ref : String) (o : NodeOperationRecord) : Prop :=
  o.type = input.type ∧ o.clusterId = clusterId ∧
    (∃ swarm ∈ docker, ∃ n, swarm.node ref = some n ∧ n.id = o.nodeId) ∧
    o.actorId = input.actorId ∧ o.expectedVersion = input.expectedVersion ∧
    SamePatch o.labelPatch input.labelPatch

/-- The operation of this id is recorded, and was asked for differently. -/
def MutationService.Differs (docker : Set Swarm) (kind : MutationService.Kind)
    (input : MutationService.MutationInput) (clusterId ref : String) (db : Db) : Prop :=
  ∃ o ∈ db.operations, o.id = input.operationId ∧
    ¬ MutationService.AskedBy docker kind input clusterId ref o

def NodeMutationService.Differs (docker : Set Swarm) (input : NodeMutationService.MutationInput)
    (clusterId ref : String) (db : Db) : Prop :=
  ∃ o ∈ db.nodeOperations, o.id = input.operationId ∧
    ¬ NodeMutationService.AskedBy docker input clusterId ref o

/-- The resource of a deployment is its target. -/
def DeploymentService.AskedBy (kind : DeploymentKind) (input : DeploymentService.DeployRequest)
    (targetId : String) (d : DeploymentRecord) : Prop :=
  d.kind = kind ∧ d.deploymentTargetId = targetId ∧ d.releaseId = input.releaseId ∧
    d.health = input.health ∧ d.createdBy = input.actorId

def DeploymentService.Differs (kind : DeploymentKind) (input : DeploymentService.DeployRequest)
    (clusterId targetId : String) (db : Db) : Prop :=
  ∃ o ∈ db.operations, o.id = input.operationId ∧
    ¬ (o.type = .DEPLOY ∧ o.clusterId = clusterId ∧ o.actorId = input.actorId ∧
      ∃ d ∈ db.deployments, d.operationId = o.id ∧
        DeploymentService.AskedBy kind input targetId d)

/-- The resource of a rollback is the deployment that it rolls back. -/
def DeploymentService.RollbackDiffers (input : DeploymentService.RollbackRequest)
    (clusterId deploymentId : String) (db : Db) : Prop :=
  ∃ o ∈ db.operations, o.id = input.operationId ∧
    ¬ (o.type = .ROLLBACK ∧ o.clusterId = clusterId ∧ o.actorId = input.actorId ∧
      ⟨o.id, deploymentId⟩ ∈ db.rollbackAttempts)

/-- The requests of clients: the row that a request may create, the condition that the recorded row
was asked for differently, and the call. -/
inductive Request (docker : Set Swarm) (settings : Settings) :
    OperationKey → (Db → Prop) → ControlProgram Unit → Prop where
  | scale (clusterId serviceId input replicas fuel) :
      Request docker settings (.service, input.operationId)
        (MutationService.Differs docker (MutationService.scaleKind input.expectedVersion replicas)
          input clusterId serviceId)
        (ignoreResult (MutationService.scale settings clusterId serviceId input replicas fuel))
  | restart (clusterId serviceId input fuel) :
      Request docker settings (.service, input.operationId)
        (MutationService.Differs docker (MutationService.restartKind input.expectedVersion) input
          clusterId serviceId)
        (ignoreResult (MutationService.restart settings clusterId serviceId input fuel))
  | mutateNode (clusterId nodeRef input fuel) :
      Request docker settings (.node, input.operationId)
        (NodeMutationService.Differs docker input clusterId nodeRef)
        (ignoreResult (NodeMutationService.mutate settings clusterId nodeRef input fuel))
  | deploy (clusterId targetId input fuel) :
      Request docker settings (.service, input.operationId)
        (DeploymentService.Differs .DEPLOY input clusterId targetId)
        (ignoreResult (DeploymentService.deploy settings clusterId targetId input fuel))
  | historicalRedeploy (clusterId targetId input fuel) :
      Request docker settings (.service, input.operationId)
        (DeploymentService.Differs .HISTORICAL_REDEPLOY input clusterId targetId)
        (ignoreResult (DeploymentService.historicalRedeploy settings clusterId targetId input fuel))
  | rollback (clusterId deploymentId input fuel) :
      Request docker settings (.service, input.operationId)
        (DeploymentService.RollbackDiffers input clusterId deploymentId)
        (ignoreResult (DeploymentService.rollback settings clusterId deploymentId input fuel))

theorem Request.call {docker : Set Swarm} {settings : Settings} {key : OperationKey}
    {differs : Db → Prop} {p : ControlProgram Unit} (h : Request docker settings key differs p) :
    Call settings p := by
  cases h with
  | scale _ _ _ _ _ => exact .scale _ _ _ _ _
  | restart _ _ _ _ => exact .restart _ _ _ _
  | mutateNode _ _ _ _ => exact .mutateNode _ _ _ _
  | deploy _ _ _ _ => exact .deploy _ _ _ _
  | historicalRedeploy _ _ _ _ => exact .historicalRedeploy _ _ _ _
  | rollback _ _ _ _ => exact .rollback _ _ _ _

/-- The calls of a control plane whose clients use only the keys in `Accepts`: their requests, and
the calls that are no request of this kind. -/
def ClientCalls (docker : Set Swarm) (settings : Set Settings) (Accepts : OperationKey → Prop)
    (p : ControlProgram Unit) : Prop :=
  ∃ s ∈ settings, (∃ key differs, Request docker s key differs p ∧ Accepts key) ∨
    Call s p ∧ ∀ key differs, ¬ Request docker s key differs p

/-! ## The rows of accepted requests -/

/-- The target is registered, and belongs to the cluster. -/
def Db.InCluster (db : Db) (targetId clusterId : String) : Prop :=
  ∃ t, db.findDeploymentTarget targetId = some t ∧ t.clusterId = clusterId

structure Db.Ledger (Accepts : OperationKey → Prop) (db : Db) : Prop where
  operations : ∀ o ∈ db.operations, Accepts (.service, o.id)
  nodeOperations : ∀ o ∈ db.nodeOperations, Accepts (.node, o.id)
  /-- A deployment operation is created with its deployment. -/
  linked : ∀ o ∈ db.operations, o.type = .DEPLOY → ∃ d ∈ db.deployments, d.operationId = o.id
  /-- A rollback operation is created with its attempt. -/
  attempted : ∀ o ∈ db.operations, o.type = .ROLLBACK →
    ∃ a ∈ db.rollbackAttempts, a.operationId = o.id
  /-- The cluster of a deployment is the cluster of its target. -/
  homed : ∀ d ∈ db.deployments, Holds (·.id) d.operationId
    (fun o => db.InCluster d.deploymentTargetId o.clusterId) db.operations
  /-- A rollback is made in the cluster of the deployment. -/
  rolledHome : ∀ a ∈ db.rollbackAttempts, ∃ d ∈ db.deployments, d.id = a.deploymentId ∧
    Holds (·.id) a.operationId (fun o => db.InCluster d.deploymentTargetId o.clusterId)
      db.operations

/-- What a call has made sure of: the cluster of a target, the target of a deployment, or the
cluster of a deployment. -/
inductive Home where
  | unknown
  | target (clusterId targetId : String)
  | recorded (targetId deploymentId : String)
  | deployment (clusterId deploymentId : String)

def Db.At (db : Db) : Home → Prop
  | .unknown => True
  | .target clusterId targetId => db.InCluster targetId clusterId
  | .recorded targetId deploymentId =>
    ∃ d ∈ db.deployments, d.id = deploymentId ∧ d.deploymentTargetId = targetId
  | .deployment clusterId deploymentId =>
    ∃ d ∈ db.deployments, d.id = deploymentId ∧ db.InCluster d.deploymentTargetId clusterId

/-- What a request may record once it has made sure of `home`. -/
def DbOp.Records (Accepts : OperationKey → Prop) (home : Home) (op : DbOp) : Prop :=
  (∀ key, op.creates = some key → Accepts key) ∧
    match op with
    | .createOperation input => input.type ≠ .DEPLOY ∧ input.type ≠ .ROLLBACK
    | .createRollback operation deploymentId => operation.type ≠ .DEPLOY ∧
        home = .deployment operation.clusterId deploymentId
    | .createDeployment operation input _ => operation.type ≠ .ROLLBACK ∧
        operation.id = input.operationId ∧
        home = .target operation.clusterId input.deploymentTargetId
    | _ => True

section Ledger

variable {Accepts : OperationKey → Prop} {home : Home} {db db' : Db} {op : Option DbOp}

theorem Db.Carries.inCluster (h : db.Carries op db') {targetId clusterId : String}
    (hin : db.InCluster targetId clusterId) : db'.InCluster targetId clusterId := by
  obtain ⟨t, ht, hcluster⟩ := hin
  exact ⟨t, h.targets ht, hcluster⟩

theorem Db.Carries.stays (h : db.Carries op db') (hhome : db.At home) : db'.At home := by
  cases home with
  | unknown => trivial
  | target clusterId targetId => exact h.inCluster hhome
  | recorded targetId deploymentId =>
    obtain ⟨d, hd, hid, htarget⟩ := hhome
    obtain ⟨d', hd', hsame⟩ := h.deployments.old hd
    exact ⟨d', hd', hsame.2.trans hid, hsame.target_eq.trans htarget⟩
  | deployment clusterId deploymentId =>
    obtain ⟨d, hd, hid, hin⟩ := hhome
    obtain ⟨d', hd', hsame⟩ := h.deployments.old hd
    exact ⟨d', hd', hsame.2.trans hid, hsame.target_eq ▸ h.inCluster hin⟩

theorem Db.Carries.holds (h : db.Carries op db') {id targetId : String}
    (hrows : Holds (·.id) id (fun o => db.InCluster targetId o.clusterId) db.operations) :
    Holds (·.id) id (fun o => db'.InCluster targetId o.clusterId) db'.operations := by
  have hmoved : Holds (·.id) id (fun o => db'.InCluster targetId o.clusterId) db.operations :=
    ⟨hrows.1, fun o ho hid => h.inCluster (hrows.2 o ho hid)⟩
  exact hmoved.extends h.operations (fun _ _ => (·.id_eq))
    (fun _ _ hab hin => hab.clusterId_eq ▸ hin) fun _ hfresh => hfresh.2

theorem holds_inserted {operation : OperationInput} {id : String} {B : OperationRecord → Prop}
    (hfresh : ∀ o ∈ db.operations, o.id ≠ operation.id) (hid : operation.id = id)
    (hB : B operation.started) : Holds (·.id) id B (db.operations ++ [operation.started]) := by
  refine ⟨⟨_, List.mem_append_right _ (List.mem_singleton_self _), hid⟩, fun o ho hoid => ?_⟩
  rcases List.mem_append.mp ho with hold | hnew
  · exact absurd (hoid.trans hid.symm) (hfresh o hold)
  · rw [List.mem_singleton.mp hnew]
    exact hB

/-- The ledger is kept when the rows are carried on and a new one is one that a call may record. -/
theorem Db.Ledger.carried (home : Home) (h : db.Ledger Accepts) (hcarries : db.Carries op db')
    (hop : ∀ o, op = some o → o.Records Accepts home ∧ db.At home ∧
      ∃ reply, o.exec db = .ok (reply, db')) : db'.Ledger Accepts where
  operations o' ho' := by
    rcases hcarries.operations.origin ho' with ⟨o, ho, hsame⟩ | ⟨hnew, -⟩
    · exact hsame.id_eq ▸ h.operations o ho
    · obtain ⟨statement, rfl, hinserts⟩ := Option.bind_eq_some_iff.mp hnew
      exact (hop statement rfl).1.1 _ (DbOp.creates_of_inserts hinserts)
  nodeOperations o' ho' := by
    rcases hcarries.nodeOperations.origin ho' with ⟨o, ho, hsame⟩ | ⟨hnew, -⟩
    · exact hsame.id_eq ▸ h.nodeOperations o ho
    · obtain ⟨statement, rfl, hinserts⟩ := Option.bind_eq_some_iff.mp hnew
      exact (hop statement rfl).1.1 _ (DbOp.creates_of_insertsNode hinserts)
  linked o' ho' htype := by
    rcases hcarries.operations.origin ho' with ⟨o, ho, hsame⟩ | ⟨hnew, -⟩
    · obtain ⟨d, hd, hid⟩ := h.linked o ho (hsame.type_eq.symm.trans htype)
      obtain ⟨d', hd', hsame'⟩ := hcarries.deployments.old hd
      exact ⟨d', hd', hsame'.operationId_eq.trans (hid.trans hsame.id_eq.symm)⟩
    · obtain ⟨statement, rfl, hinserts⟩ := Option.bind_eq_some_iff.mp hnew
      obtain ⟨hrecords, -, reply, hexec⟩ := hop statement rfl
      cases statement with
      | createOperation input =>
        cases hinserts
        exact absurd htype hrecords.2.1
      | createRollback operation id =>
        cases hinserts
        exact absurd htype hrecords.2.1
      | createDeployment operation input id =>
        cases hinserts
        obtain ⟨-, -, hinput, -, -, -, rfl⟩ := Db.createDeployment_ok hexec
        refine ⟨reply, List.mem_append_right _ (List.mem_singleton_self _), ?_⟩
        exact (congrArg DeploymentInput.operationId hinput).trans hrecords.2.2.1.symm
      | _ => cases hinserts
  attempted o' ho' htype := by
    rcases hcarries.operations.origin ho' with ⟨o, ho, hsame⟩ | ⟨hnew, -⟩
    · obtain ⟨a, ha, hid⟩ := h.attempted o ho (hsame.type_eq.symm.trans htype)
      obtain ⟨_, ha', rfl⟩ := hcarries.rollbackAttempts.old ha
      exact ⟨a, ha', hid.trans hsame.id_eq.symm⟩
    · obtain ⟨statement, rfl, hinserts⟩ := Option.bind_eq_some_iff.mp hnew
      obtain ⟨hrecords, -, reply, hexec⟩ := hop statement rfl
      cases statement with
      | createOperation input =>
        cases hinserts
        exact absurd htype hrecords.2.2
      | createRollback operation id =>
        cases hinserts
        obtain ⟨-, -, rfl⟩ := Db.createRollback_ok (made_of_exec hexec)
        exact ⟨_, List.mem_append_right _ (List.mem_singleton_self _), rfl⟩
      | createDeployment operation input id =>
        cases hinserts
        exact absurd htype hrecords.2.1
      | _ => cases hinserts
  homed d' hd' := by
    rcases hcarries.deployments.origin hd' with ⟨d, hd, hsame⟩ | ⟨⟨operation, id, rfl⟩, -⟩
    · rw [hsame.target_eq, hsame.operationId_eq]
      exact hcarries.holds (h.homed d hd)
    · obtain ⟨⟨-, -, hid, rfl⟩, hhome, reply, hexec⟩ := hop _ rfl
      have hin := hcarries.inCluster hhome
      obtain ⟨hfresh, -, -, -, -, -, rfl⟩ := Db.createDeployment_ok hexec
      exact holds_inserted hfresh hid hin
  rolledHome a' ha' := by
    rcases hcarries.rollbackAttempts.origin ha' with ⟨a, ha, rfl⟩ | ⟨⟨operation, rfl, hid⟩, -⟩
    · obtain ⟨d, hd, hdid, hrows⟩ := h.rolledHome a ha
      obtain ⟨d', hd', hsame⟩ := hcarries.deployments.old hd
      exact ⟨d', hd', hsame.2.trans hdid, hsame.target_eq ▸ hcarries.holds hrows⟩
    · obtain ⟨⟨-, -, rfl⟩, hhome, reply, hexec⟩ := hop _ rfl
      obtain ⟨d, hd, hdid, hin⟩ := hcarries.stays hhome
      obtain ⟨hfresh, -, rfl⟩ := Db.createRollback_ok (made_of_exec hexec)
      exact ⟨d, hd, hdid, holds_inserted hfresh hid hin⟩

end Ledger

/-! ## The requests of the calls -/

section Footprint

variable {Accepts : OperationKey → Prop} {home : Home} {docker : Set Swarm}
  {settings : Settings} {α : Type} {p : ControlProgram α}

def ControlOp.Records (Accepts : OperationKey → Prop) (home : Home) : ControlOp → Prop
  | .db op => op.Records Accepts home
  | _ => True

theorem ControlOp.records_of_creates {op : DbOp} (h : op.creates = none) :
    (ControlOp.db op).Records Accepts home := by
  refine ⟨fun key hkey => absurd (h.symm.trans hkey) (Option.some_ne_none key).symm, ?_⟩
  cases op <;> trivial

theorem ControlOp.Ordinary.records {op : ControlOp} (h : op.Ordinary) :
    op.Records Accepts home := by
  cases op with
  | db op => exact ControlOp.records_of_creates h.1
  | _ => trivial

theorem ControlOp.Journals.records {op : ControlOp} (h : op.Journals) :
    op.Records Accepts home := by
  cases op with
  | db op => exact ControlOp.records_of_creates (by cases op <;> first | rfl | exact h.elim)
  | _ => trivial

theorem records_of_asks (h : Asks settings (ControlOp.Records Accepts home) p) :
    p.Uses (ControlOp.Records Accepts home) := by
  refine h.uses (fun _ => id) fun β q hq => ?_
  cases hq with
  | dispatch active operationId mutation =>
    refine dispatch_sendsOnce.uses ?_ ?_ ?_
    · rintro op (hop | hop)
      · exact hop.works.ordinary.records
      · exact hop.records
    · rintro op ⟨request, -, rfl⟩
      trivial
    · exact fun op hop => hop.records

theorem records_of_ordinary (h : p.Built ControlOp.Ordinary fun _ _ => False) :
    p.Uses (ControlOp.Records Accepts home) :=
  h.uses (fun _ hop => hop.records) fun _ _ hfalse => hfalse.elim

end Footprint

/-! ## The ledger over whole runs -/

section Runs

variable {Tid : Type} [DecidableEq Tid] {docker : Set Swarm}
  {Allowed : Tid → ControlOp → World Tid → Prop} {Accepts : OperationKey → Prop}

/-- Targets stay registered, and the ledger is kept. -/
def ledgerProtocol (Tid : Type) (Accepts : OperationKey → Prop) : Protocol Tid (World Tid) where
  Inv w := w.db.Ledger Accepts
  Rely _ w w' := ∀ home, w.db.At home → w'.db.At home
  Guar _ w w' := ∀ home, w.db.At home → w'.db.At home
  Idle _ _ := True
  rely_refl _ _ _ h := h
  rely_trans h h' home hhome := h' home (h home hhome)
  rely_of_guar _ _ h := h
  idle_rely _ _ := trivial

variable {i : Tid} {w : World Tid} {home : Home} {α : Type}

theorem ledger_step {op : ControlOp} (hop : op.Records Accepts home) {answer : op.Ans}
    {w' : World Tid} (hinv : w.db.Ledger Accepts) (hhome : w.db.At home)
    (h : Performs docker i op w answer w') :
    w'.db.Ledger Accepts ∧ (∀ home, w.db.At home → w'.db.At home) ∧ w'.db.At home := by
  obtain ⟨statement, hcarries, -⟩ := Performs.carries h
  refine ⟨?_, fun home => hcarries.stays, hcarries.stays hhome⟩
  by_cases hdb : ∀ o, op ≠ .db o
  · rw [Performs.db h hdb]
    exact hinv
  · simp only [not_forall, not_not] at hdb
    obtain ⟨o, rfl⟩ := hdb
    rcases StatementStep.db h with hdb | ⟨reply, hexec⟩
    · rw [hdb]
      exact hinv
    · refine hinv.carried home (DbOp.exec_carries hexec) fun o' ho' => ?_
      obtain rfl := Option.some.inj ho'
      exact ⟨hop, hhome, reply, hexec⟩

omit [DecidableEq Tid] in
theorem home_stable : Stable (ledgerProtocol Tid Accepts) i fun w => w.db.At home :=
  fun hhome hrely _ => hrely home hhome

theorem wp_records {p : ControlProgram α} (hp : p.Uses (ControlOp.Records Accepts home))
    (hhome : w.db.At home) :
    wp (controlMachine docker Allowed) (ledgerProtocol Tid Accepts) i p Whatever w :=
  wp_whatever (wp_uses home_stable
    (fun _ hop _ _ _ hinv hs hperf => ledger_step hop hinv hs hperf.2) hp hhome)

theorem wp_ledger_ignoreResult {p : ControlProgram α} (hinv : w.db.Ledger Accepts)
    (hp : wp (controlMachine docker Allowed) (ledgerProtocol Tid Accepts) i p Whatever w) :
    wp (controlMachine docker Allowed) (ledgerProtocol Tid Accepts) i (ignoreResult p) Whatever
      w := by
  refine wp_bind hinv (wp_mono hp fun r s _ _ => ?_)
  cases r <;> exact fun _ _ _ => trivial

/-- A query reads what is there, and what the call has made sure of stays so. -/
theorem wp_ledger_query {op : DbOp} {f : Db → op.Reply} (hf : ∀ db, op.exec db = .ok (f db, db))
    (hop : op.creates = none) (home : Home) (hhome : w.db.At home) {k : op.Reply → ControlProgram α}
    (hk : ∀ s : World Tid, s.db.At home →
      wp (controlMachine docker Allowed) (ledgerProtocol Tid Accepts) i (k (f s.db)) Whatever s) :
    wp (controlMachine docker Allowed) (ledgerProtocol Tid Accepts) i ((query op).bind k) Whatever
      w := by
  refine wp_request home_stable hhome fun s hinv hs answer s' hperf => ?_
  have hrecords : (ControlOp.db op).Records Accepts home := ControlOp.records_of_creates hop
  obtain ⟨hinv', hguar, hs'⟩ := ledger_step hrecords hinv hs hperf.2
  refine ⟨hinv', hguar, ?_⟩
  cases hperf.2 with
  | refused _ => exact fun _ _ _ => trivial
  | failed _ => exact fun _ _ _ => trivial
  | unacknowledged _ _ _ => exact fun _ _ _ => trivial
  | @executed reply db hexec _ =>
    rw [hf] at hexec
    cases hexec
    have hnext := hk _ hs'
    rw [World.answered_db] at hnext
    exact hnext

/-- A part of a call that goes on once the target is known to be one of the cluster. -/
theorem wp_targeted {clusterId targetId : String} {e : Failure} (before after : Home)
    (hbefore : w.db.At before)
    (hafter : ∀ db : Db, db.At before → db.InCluster targetId clusterId → db.At after)
    {f : DeploymentTarget → ControlProgram DeploymentRecord}
    (hf : ∀ t, t.clusterId = clusterId → (f t).Uses (ControlOp.Records Accepts after)) :
    wp (controlMachine docker Allowed) (ledgerProtocol Tid Accepts) i
      ((findDeploymentTarget targetId).bind fun found =>
        match found with
        | none => .throw e
        | some target => if target.clusterId ≠ clusterId then .throw e else f target) Whatever
            w := by
  refine wp_ledger_query (fun _ => rfl) rfl before hbefore fun s hs => ?_
  change wp _ _ _ (match s.db.findDeploymentTarget targetId with
    | none => .throw e
    | some target => if target.clusterId ≠ clusterId then .throw e else f target) _ _
  cases htarget : s.db.findDeploymentTarget targetId with
  | none => exact fun _ _ _ => trivial
  | some t =>
    dsimp only
    split
    · exact fun _ _ _ => trivial
    · next hcluster =>
      exact wp_records (hf t (not_not.mp hcluster)) (hafter _ hs ⟨t, htarget, not_not.mp hcluster⟩)

section Deploy

variable (settings : Settings) (clusterId targetId : String)
  (input : DeploymentService.DeployRequest) (kind : DeploymentKind) (fuel : Nat)
  (hkey : Accepts (.service, input.operationId))

include hkey

theorem deployRelease_records :
    (DeploymentService.deployRelease settings clusterId targetId input kind fuel).Uses
      (ControlOp.Records Accepts (.target clusterId targetId)) := by
  refine records_of_asks (DeploymentService.deployRelease_asks (fun _ hop => hop.records) settings
    fuel fun _ _ _ _ _ => ⟨?_, nofun, rfl, rfl⟩)
  rintro _ ⟨⟩
  exact hkey

theorem historicalRedeploy_records :
    (DeploymentService.historicalRedeploy settings clusterId targetId input fuel).Uses
      (ControlOp.Records Accepts (.target clusterId targetId)) := by
  refine records_of_asks (DeploymentService.historicalRedeploy_asks (fun _ hop => hop.records)
    settings fuel fun _ _ _ _ _ => ⟨?_, nofun, rfl, rfl⟩)
  rintro _ ⟨⟩
  exact hkey

theorem wp_deployRelease_ledger :
    wp (controlMachine docker Allowed) (ledgerProtocol Tid Accepts) i
      (DeploymentService.deployRelease settings clusterId targetId input kind fuel) Whatever w := by
  refine wp_targeted .unknown (.target clusterId targetId) trivial (fun _ _ h => h) fun t ht => ?_
  have hrest := (deployRelease_records settings clusterId targetId input kind fuel hkey).2
    (.ok (some t))
  change Uses _ (if _ then _ else _) at hrest
  rwa [if_neg (not_not.mpr ht)] at hrest

theorem wp_historicalRedeploy_ledger :
    wp (controlMachine docker Allowed) (ledgerProtocol Tid Accepts) i
      (DeploymentService.historicalRedeploy settings clusterId targetId input fuel) Whatever
      w := by
  refine wp_targeted .unknown (.target clusterId targetId) trivial (fun _ _ h => h) fun t ht => ?_
  have hrest := (historicalRedeploy_records settings clusterId targetId input fuel hkey).2
    (.ok (some t))
  change Uses _ (if _ then _ else _) at hrest
  rwa [if_neg (not_not.mpr ht)] at hrest

end Deploy

section Rollback

variable (settings : Settings) (clusterId : String) (input : DeploymentService.RollbackRequest)
  (fuel : Nat) (hkey : Accepts (.service, input.operationId))

include hkey

theorem rollbackDeployment_records (d : DeploymentRecord) :
    (DeploymentService.rollbackDeployment settings clusterId d input fuel).Uses
      (ControlOp.Records Accepts (.deployment clusterId d.id)) := by
  refine records_of_asks (DeploymentService.rollbackDeployment_asks (fun _ hop => hop.records)
    settings fuel fun plan => ⟨?_, nofun, rfl⟩)
  rintro _ ⟨⟩
  exact hkey

theorem wp_rollback_ledger {deploymentId : String} :
    wp (controlMachine docker Allowed) (ledgerProtocol Tid Accepts) i
      (DeploymentService.rollback settings clusterId deploymentId input fuel) Whatever w := by
  refine wp_ledger_query (fun _ => rfl) rfl .unknown trivial fun s _ => ?_
  cases hfound : s.db.findDeployment deploymentId with
  | none => exact fun _ _ _ => trivial
  | some d =>
    have hrecorded : s.db.At (.recorded d.deploymentTargetId d.id) :=
      ⟨d, List.mem_of_find?_eq_some hfound, rfl, rfl⟩
    refine wp_targeted _ (.deployment clusterId d.id) hrecorded ?_ fun t ht => ?_
    · rintro db ⟨row, hrow, hid, htarget⟩ hin
      exact ⟨row, hrow, hid, htarget ▸ hin⟩
    · have hrest := (rollbackDeployment_records settings clusterId input fuel hkey d).2
        (.ok (some t))
      change Uses _ (if _ then _ else _) at hrest
      rwa [if_neg (not_not.mpr ht)] at hrest

end Rollback

theorem wp_request_ledger {settings : Settings} {key : OperationKey} {differs : Db → Prop}
    {p : ControlProgram Unit} (h : Request docker settings key differs p) (hkey : Accepts key)
    (hinv : w.db.Ledger Accepts) :
    wp (controlMachine docker Allowed) (ledgerProtocol Tid Accepts) i p Whatever w := by
  have hordinary (op : ControlOp) (hop : op.Ordinary) : op.Records Accepts .unknown := hop.records
  cases h with
  | scale clusterId serviceId input replicas fuel =>
    refine wp_records (records_of_asks (ignoreResult_built (MutationService.mutateService_asks
      hordinary settings fuel MutationService.scaleKind_plan_looks
      (fun plan => ⟨?_, nofun, nofun⟩) _))) trivial
    rintro _ ⟨⟩
    exact hkey
  | restart clusterId serviceId input fuel =>
    refine wp_records (records_of_asks (ignoreResult_built (MutationService.mutateService_asks
      hordinary settings fuel MutationService.restartKind_plan_looks
      (fun plan => ⟨?_, nofun, nofun⟩) _))) trivial
    rintro _ ⟨⟩
    exact hkey
  | mutateNode clusterId nodeRef input fuel =>
    refine wp_records (records_of_asks (ignoreResult_built (NodeMutationService.mutate_asks
      hordinary settings fuel (fun plan => ⟨?_, trivial⟩)))) trivial
    rintro _ ⟨⟩
    exact hkey
  | deploy clusterId targetId input fuel =>
    have hretry : (DeploymentService.findTerminalDeploymentRetry clusterId targetId input
        .DEPLOY).Uses (ControlOp.Records Accepts .unknown) :=
      (DeploymentService.findTerminalDeploymentRetry_looks clusterId targetId input .DEPLOY).mono
        fun _ hop => hop.works.ordinary.records
    refine wp_ledger_ignoreResult hinv (wp_bind hinv (wp_mono (wp_records hretry trivial)
      fun r s hinv _ => ?_))
    rcases r with e | _ | d
    · exact fun _ _ _ => trivial
    · exact wp_deployRelease_ledger settings clusterId targetId input .DEPLOY fuel hkey
    · exact fun _ _ _ => trivial
  | historicalRedeploy clusterId targetId input fuel =>
    exact wp_ledger_ignoreResult hinv
      (wp_historicalRedeploy_ledger settings clusterId targetId input fuel hkey)
  | rollback clusterId deploymentId input fuel =>
    exact wp_ledger_ignoreResult hinv (wp_rollback_ledger settings clusterId input fuel hkey)

theorem upkeep_records {settings : Settings} {p : ControlProgram Unit} (h : Call settings p)
    (hno : ∀ key differs, ¬ Request docker settings key differs p) :
    p.Uses (ControlOp.Records Accepts .unknown) := by
  have hmaintains {α : Type} {q : ControlProgram α} (hq : q.Uses ControlOp.Maintains) :
      (ignoreResult q).Uses (ControlOp.Records Accepts .unknown) :=
    records_of_ordinary (ignoreResult_built (built_of_maintains (fun _ => id) hq))
  cases h with
  | scale _ _ _ _ _ => exact absurd (.scale _ _ _ _ _) (hno _ _)
  | restart _ _ _ _ => exact absurd (.restart _ _ _ _) (hno _ _)
  | mutateNode _ _ _ _ => exact absurd (.mutateNode _ _ _ _) (hno _ _)
  | deploy _ _ _ _ => exact absurd (.deploy _ _ _ _) (hno _ _)
  | historicalRedeploy _ _ _ _ => exact absurd (.historicalRedeploy _ _ _ _) (hno _ _)
  | rollback _ _ _ _ => exact absurd (.rollback _ _ _ _) (hno _ _)
  | recoverOperations fuel =>
    exact records_of_ordinary (MutationService.onApplicationBootstrap_ordinary settings fuel)
  | recoverNodeOperations fuel =>
    exact records_of_ordinary (NodeMutationService.onApplicationBootstrap_ordinary settings fuel)
  | reconcileDeployments fuel =>
    exact records_of_ordinary (DeploymentService.reconcilePendingDeployments_built settings fuel)
  | initializeMaintenance _ =>
    exact hmaintains MaintenanceService.initializeMaintenance_maintains
  | requestClosing _ _ => exact hmaintains MaintenanceService.requestClosing_maintains
  | confirmClosed _ _ => exact hmaintains MaintenanceService.confirmClosed_maintains
  | beginReconciliation _ _ =>
    exact hmaintains MaintenanceService.beginReconciliation_maintains
  | completeReconciliation _ _ =>
    exact hmaintains MaintenanceService.completeReconciliation_maintains
  | resumeManagers _ _ => exact hmaintains MaintenanceService.resumeManagers_maintains
  | resolveEvidence _ request =>
    exact records_of_ordinary (MaintenanceService.resolveEvidence_built settings)

theorem ledger_of_reachable {settings : Set Settings}
    {c : Config Tid ControlOp ControlOp.Ans Failure Unit (World Tid)}
    (h : Reachable (controlMachine docker Allowed) (ClientCalls docker settings Accepts)
      (emptyWorld Tid) c) : c.state.db.Ledger Accepts := by
  have hsound : Sound (controlMachine docker Allowed) (ledgerProtocol Tid Accepts)
      (ClientCalls docker settings Accepts) := by
    refine ⟨fun {i p w} hcall hinv _ => ?_, fun hinv henv => ?_, fun hinv hcrash => ?_⟩
    · obtain ⟨s, -, ⟨key, differs, hrequest, hkey⟩ | ⟨hother, hno⟩⟩ := hcall
      · exact wp_request_ledger hrequest hkey hinv
      · exact wp_records (upkeep_records hother hno) trivial
    · have hcarries := EnvStep.carries henv
      refine ⟨hinv.carried .unknown hcarries fun o ho => ?_, fun _ _ => hcarries.stays⟩
      exact absurd ho (Option.some_ne_none o).symm
    · have hdb := CrashStep.db hcrash
      refine ⟨?_, fun _ _ => trivial, fun _ _ _ hhome => ?_⟩
      · change Db.Ledger _ _
        rw [hdb]
        exact hinv
      · rw [hdb]
        exact hhome
  have hempty : (ledgerProtocol Tid Accepts).Inv (emptyWorld Tid) :=
    ⟨fun _ h => (List.not_mem_nil h).elim, fun _ h => (List.not_mem_nil h).elim,
      fun _ h => (List.not_mem_nil h).elim, fun _ h => (List.not_mem_nil h).elim,
      fun _ h => (List.not_mem_nil h).elim, fun _ h => (List.not_mem_nil h).elim⟩
  exact (Reachable.safe hsound hempty (fun _ => trivial) h).inv

end Runs

end Docklane.Control
