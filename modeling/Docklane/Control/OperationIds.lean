import Docklane.Control.Execution
import Docklane.Control.Ledger

/-!
# Operation ids

An operation id names at most one operation. A request whose id is in use makes no operation and
sends nothing; it comes to a result only if it asks for what was recorded, and otherwise leaves
every row as it is. The ids of services and of nodes are kept in two tables that know nothing of
each other, so this is so as long as no id is used in both.
-/

namespace Docklane.Control

open Concurrent Concurrent.Program Storage

/-- The ids of all operations, on services and on nodes. -/
def Db.operationIds (db : Db) : List String :=
  db.operations.map (·.id) ++ db.nodeOperations.map (·.id)

/-- No operation, deployment or rollback attempt is created. -/
structure Db.NothingNew (db db' : Db) : Prop where
  operations : db'.operations.map (·.id) = db.operations.map (·.id)
  nodeOperations : db'.nodeOperations.map (·.id) = db.nodeOperations.map (·.id)
  deployments : db'.deployments.map (·.id) = db.deployments.map (·.id)
  rollbackAttempts : db'.rollbackAttempts = db.rollbackAttempts

section Law

variable {Tid : Type} [DecidableEq Tid]

/-- What holds of the requests of clients that use the keys in `Accepts`, at a configuration `c`. -/
structure ControlConfig.NamesOnce (docker : Set Swarm) (settings : Set Settings)
    (Accepts : OperationKey → Prop) (c : ControlConfig Tid) : Prop where
  /-- At most one operation has a given id. -/
  unique : c.state.db.operationIds.Nodup
  /-- A request that finds its id in use, from when it is taken up until it ends. -/
  reused : ∀ {i s key differs p c'}, s ∈ settings → Request docker s key differs p → Accepts key →
    c.thread i = none → key.2 ∈ c.state.db.operationIds →
    Relation.ReflTransGen
      (Continues (controlMachine docker AnyRequest) (ClientCalls docker settings Accepts) i)
      ⟨Function.update c.thread i (some p), c.state⟩ c' →
    (∀ {op k answer w'}, c'.thread i = some (.request op k) →
      Performs docker i op c'.state answer w' →
        c'.state.db.NothingNew w'.db ∧ w'.sent = c'.state.sent) ∧
    -- A request that differs from the one on record is refused, and changes no row.
    (differs c.state.db → c'.thread i ≠ some (.pure ()) ∧
      ∀ {op k answer w'}, c'.thread i = some (.request op k) →
        Performs docker i op c'.state answer w' → c'.state.db.SameRecords w'.db)

/-- An operation id names one operation, in every run. -/
def OperationIdLaw (Tid : Type) [DecidableEq Tid] (docker : Set Swarm) (settings : Set Settings)
    (Accepts : OperationKey → Prop) : Prop :=
  ∀ c : ControlConfig Tid, Reachable (controlMachine docker AnyRequest)
    (ClientCalls docker settings Accepts) (emptyWorld Tid) c → c.NamesOnce docker settings Accepts

end Law

/-! ## Answers while something is on record -/

variable {ref : String} {d : DeploymentRecord}

section Answers

variable {Tid : Type} [DecidableEq Tid]

/-- What call `i` may be answered as long as `K` holds of the database. -/
def AnsweredIn (docker : Set Swarm) (i : Tid) (K : Db → Prop) (op : ControlOp) (answer : op.Ans) :
    Prop :=
  ∃ w w', K w.db ∧ Performs docker i op w answer w'

/-- Knowledge that no statement falsifies. -/
def Kept (K : Db → Prop) : Prop := ∀ {op db db'}, Db.Carries op db db' → K db → K db'

variable {docker : Set Swarm} {i : Tid} {K : Db → Prop}

theorem answered_query {op : DbOp} {f : Db → op.Reply} (hf : ∀ db, op.exec db = .ok (f db, db))
    {reply : op.Reply} (h : AnsweredIn docker i K (.db op) (.ok reply)) :
    ∃ db, K db ∧ reply = f db := by
  obtain ⟨w, w', hK, hstep⟩ := h
  cases hstep with
  | executed hexec _ =>
    rw [hf] at hexec
    cases hexec
    exact ⟨w.db, hK, rfl⟩

theorem answered_inspectService {reply : ServiceDetailResponse}
    (h : AnsweredIn docker i K (.agent (.inspectService ref)) (.ok reply)) :
    ∃ swarm ∈ docker, ∃ s, swarm.service ref = some s ∧ s.id = reply.service.id := by
  obtain ⟨w, w', -, -, hanswer⟩ := h
  obtain ⟨swarm, hswarm, s, hs, hreply⟩ := hanswer reply rfl
  exact ⟨swarm, hswarm, s, hs, by rw [hreply]⟩

theorem answered_inspectNode {reply : NodeDetailResponse}
    (h : AnsweredIn docker i K (.agent (.inspectNode ref)) (.ok reply)) :
    ∃ swarm ∈ docker, ∃ n, swarm.node ref = some n ∧ n.id = reply.node.id := by
  obtain ⟨w, w', -, -, hanswer⟩ := h
  obtain ⟨swarm, hswarm, hreply⟩ := hanswer reply rfl
  exact ⟨swarm, hswarm, reply.node, hreply, rfl⟩

end Answers

/-! ## Rows on record -/

section Rows

variable {id : String}

theorem kept_operation {B : OperationRecord → Prop} (hB : ∀ o o', o.SameIntent o' → B o → B o') :
    Kept fun db => Holds (·.id) id B db.operations :=
  fun hcarries h => h.extends hcarries.operations (fun _ _ => (·.id_eq)) hB fun _ hnew => hnew.2

theorem kept_nodeOperation {B : NodeOperationRecord → Prop}
    (hB : ∀ o o', o.SameIntent o' → B o → B o') :
    Kept fun db => Holds (·.id) id B db.nodeOperations :=
  fun hcarries h => h.extends hcarries.nodeOperations (fun _ _ => (·.id_eq)) hB
    fun _ hnew => hnew.2

theorem kept_deploymentOf {B : DeploymentRecord → Prop}
    (hB : ∀ d d', d.SameIntent d' → B d → B d') :
    Kept fun db => Holds (·.operationId) id B db.deployments :=
  fun hcarries h => h.extends hcarries.deployments (fun _ _ => (·.operationId_eq)) hB
    fun _ hnew a ha => (hnew.2 a ha).2

theorem kept_deployment {B : DeploymentRecord → Prop} (hB : ∀ d d', d.SameIntent d' → B d → B d') :
    Kept fun db => Holds (·.id) id B db.deployments :=
  fun hcarries h => h.extends hcarries.deployments (fun _ _ => (·.2)) hB
    fun _ hnew a ha => (hnew.2 a ha).1

theorem kept_attempt {B : RollbackAttempt → Prop} :
    Kept fun db => Holds (·.operationId) id B db.rollbackAttempts :=
  fun hcarries h => h.extends hcarries.rollbackAttempts (fun _ _ hab => hab ▸ rfl)
    (fun _ _ hab hB => hab ▸ hB) fun _ hnew => hnew.2

theorem kept_target {t : DeploymentTarget} : Kept fun db => db.findDeploymentTarget id = some t :=
  fun hcarries h => hcarries.targets h

theorem Kept.and {K L : Db → Prop} (hK : Kept K) (hL : Kept L) : Kept fun db => K db ∧ L db :=
  fun hcarries h => ⟨hK hcarries h.1, hL hcarries h.2⟩

end Rows

/-! ## Requests whose id is in use -/

section Requests

variable {Tid : Type} [DecidableEq Tid] {docker : Set Swarm} {i : Tid} {settings : Settings}
  {key : OperationKey} {differs : Db → Prop} {p : ControlProgram Unit} {db : Db}

/-- The row of the key is on record. -/
def Db.Taken (db : Db) : OperationKey → Prop
  | (.service, id) => Holds (·.id) id (fun _ => True) db.operations
  | (.node, id) => Holds (·.id) id (fun _ => True) db.nodeOperations

theorem kept_taken {key : OperationKey} : Kept fun db => db.Taken key := by
  obtain ⟨_ | _, id⟩ := key
  · exact fun hcarries => kept_operation (fun _ _ _ h => h) hcarries
  · exact fun hcarries => kept_nodeOperation (fun _ _ _ h => h) hcarries

variable {K : Db → Prop} {id : String} {Accepts : OperationKey → Prop}

theorem operation_found {B : OperationRecord → Prop}
    (hK : ∀ db, K db → Holds (·.id) id B db.operations) {found : Option OperationRecord}
    (h : AnsweredIn docker i K (.db (.findOperation id)) (.ok found)) :
    ∃ o, found = some o ∧ B o := by
  obtain ⟨db, hdb, rfl⟩ := answered_query (fun _ => rfl) h
  exact (hK db hdb).find

theorem found_of_taken (hK : ∀ db, K db → db.Taken (.service, id)) {found : Option OperationRecord}
    (h : AnsweredIn docker i K (.db (.findOperation id)) (.ok found)) : found ≠ none := by
  obtain ⟨o, rfl, -⟩ := operation_found hK h
  exact Option.some_ne_none o

theorem nodeFound_of_taken (hK : ∀ db, K db → db.Taken (.node, id))
    {found : Option NodeOperationRecord}
    (h : AnsweredIn docker i K (.db (.findNodeOperation id)) (.ok found)) : found ≠ none := by
  obtain ⟨db, hdb, rfl⟩ := answered_query (fun _ => rfl) h
  obtain ⟨o, ho, -⟩ := (hK db hdb).find
  exact fun hnone => Option.some_ne_none o (ho.symm.trans hnone)

/-- A request whose row exists makes no other and sends nothing. -/
theorem Request.resumes (h : Request docker settings key differs p) :
    p.Given (AnsweredIn docker i fun db => db.Taken key) ControlOp.Resumes fun _ => True := by
  cases h with
  | scale clusterId serviceId input replicas fuel =>
    exact ignoreResult_given (MutationService.mutateService_resumes settings fuel
      fun _ => found_of_taken fun _ h => h)
  | restart clusterId serviceId input fuel =>
    exact ignoreResult_given (MutationService.mutateService_resumes settings fuel
      fun _ => found_of_taken fun _ h => h)
  | mutateNode clusterId nodeRef input fuel =>
    exact ignoreResult_given (NodeMutationService.mutate_resumes settings fuel
      fun _ => nodeFound_of_taken fun _ h => h)
  | deploy clusterId targetId input fuel =>
    exact ignoreResult_given (DeploymentService.unlessTerminal_resumes settings fuel
      fun _ => found_of_taken fun _ h => h)
  | historicalRedeploy clusterId targetId input fuel =>
    exact ignoreResult_given (DeploymentService.historicalRedeploy_resumes settings fuel
      fun _ => found_of_taken fun _ h => h)
  | rollback clusterId deploymentId input fuel =>
    exact ignoreResult_given (DeploymentService.rollback_resumes settings fuel
      fun _ => found_of_taken fun _ h => h)

/-- Knowledge that makes a request be refused. -/
def Refuses (docker : Set Swarm) (i : Tid) (p : ControlProgram Unit) (db : Db) : Prop :=
  ∃ K : Db → Prop, K db ∧ Kept K ∧
    p.Given (AnsweredIn docker i K) ControlOp.Harmless Refused

theorem MutationService.refuses {kind : MutationService.Kind}
    {input : MutationService.MutationInput} {clusterId ref : String} (hkeyed : db.Keyed)
    (h : MutationService.Differs docker kind input clusterId ref db) (fuel : Nat) :
    Refuses docker i (ignoreResult
      (MutationService.mutateService settings kind clusterId ref input fuel)) db := by
  obtain ⟨o, ho, hid, hdiffers⟩ := h
  have hkept : Kept fun db => Holds (·.id) input.operationId
      (fun o => ¬ MutationService.AskedBy docker kind input clusterId ref o) db.operations := by
    refine kept_operation fun o o' hsame hB hall => hB ?_
    have hsame : o'.toOperationInput = _ := hsame
    rw [MutationService.AskedBy, hsame] at hall
    exact hall
  refine ⟨_, Holds.of_mem hkeyed.operations ho hid hdiffers, hkept, ignoreResult_refused ?_⟩
  refine mutateService_refused settings fuel
    (S := fun id => ∃ swarm ∈ docker, ∃ s, swarm.service ref = some s ∧ s.id = id)
    (fun reply => answered_inspectService) fun found hfound => ?_
  obtain ⟨existing, rfl, hB⟩ := operation_found (fun _ h => h) hfound
  refine ⟨existing, rfl, fun id hservice => ?_⟩
  by_contra hidem
  simp only [assertIdempotent, Bool.not_eq_false, Bool.and_eq_true, decide_eq_true_eq] at hidem
  obtain ⟨⟨⟨⟨⟨htype, hcluster⟩, hid⟩, hactor⟩, hversion⟩, hreplicas⟩ := hidem
  exact hB ⟨htype, hcluster, hid ▸ hservice, hactor, hversion, hreplicas⟩

theorem mem_iff_of_mergeSort_eq {left right : List String} {le : String → String → Bool}
    (h : left.mergeSort le = right.mergeSort le) (key : String) : key ∈ left ↔ key ∈ right := by
  rw [← (List.mergeSort_perm left le).mem_iff, h, (List.mergeSort_perm right le).mem_iff]

theorem lookup_eq_of_sameLabels {left right : Labels} (h : sameLabels left right = true)
    (key : String) : left.lookup key = right.lookup key := by
  simp only [sameLabels, Bool.and_eq_true, decide_eq_true_eq, List.all_eq_true] at h
  obtain ⟨hkeys, hvalues⟩ := h
  by_cases hkey : key ∈ left.map (·.1)
  · exact hvalues key hkey
  · have hnone {labels : Labels} (hlabels : key ∉ labels.map (·.1)) : labels.lookup key = none := by
      refine List.lookup_eq_none_iff.mpr fun p hp => ?_
      simp only [bne_iff_ne, ne_eq]
      rintro rfl
      exact hlabels (List.mem_map_of_mem hp)
    rw [hnone hkey, hnone (mt (mem_iff_of_mergeSort_eq hkeys key).mpr hkey)]

theorem samePatch_of_sameLabelPatch {left right : Option LabelPatch}
    (h : NodeMutationService.sameLabelPatch left right = true) : SamePatch left right := by
  cases left with
  | none => cases right <;> trivial
  | some left =>
    cases right with
    | none => cases h
    | some right =>
      simp only [NodeMutationService.sameLabelPatch, Bool.and_eq_true, decide_eq_true_eq] at h
      exact ⟨lookup_eq_of_sameLabels h.1, mem_iff_of_mergeSort_eq h.2⟩

theorem NodeMutationService.refuses {input : NodeMutationService.MutationInput}
    {clusterId ref : String} (hkeyed : db.Keyed)
    (h : NodeMutationService.Differs docker input clusterId ref db) (fuel : Nat) :
    Refuses docker i (ignoreResult
      (NodeMutationService.mutate settings clusterId ref input fuel)) db := by
  obtain ⟨o, ho, hid, hdiffers⟩ := h
  have hkept : Kept fun db => Holds (·.id) input.operationId
      (fun o => ¬ NodeMutationService.AskedBy docker input clusterId ref o) db.nodeOperations := by
    refine kept_nodeOperation fun o o' hsame hB hall => hB ?_
    have hsame : o'.toNodeOperationInput = _ := hsame
    rw [NodeMutationService.AskedBy, hsame] at hall
    exact hall
  refine ⟨_, Holds.of_mem hkeyed.nodeOperations ho hid hdiffers, hkept, ignoreResult_refused ?_⟩
  refine mutate_refused settings fuel
    (S := fun id => ∃ swarm ∈ docker, ∃ n, swarm.node ref = some n ∧ n.id = id)
    (fun reply => answered_inspectNode) fun found hfound => ?_
  obtain ⟨db, hdb, rfl⟩ := answered_query (fun _ => rfl) hfound
  obtain ⟨existing, hexisting, hB⟩ := hdb.find
  refine ⟨existing, hexisting, fun id hnode => ?_⟩
  by_contra hidem
  simp only [assertIdempotent, Bool.not_eq_false, Bool.and_eq_true, decide_eq_true_eq] at hidem
  obtain ⟨⟨⟨⟨⟨hcluster, hid⟩, htype⟩, hactor⟩, hversion⟩, hpatch⟩ := hidem
  exact hB ⟨htype, hcluster, hid ▸ hnode, hactor, hversion, samePatch_of_sameLabelPatch hpatch⟩

theorem DeploymentService.sameDeployment_iff {kind : DeploymentKind}
    {input : DeploymentService.DeployRequest} {targetId : String} :
    DeploymentService.sameDeployment targetId input kind d = true ↔
      DeploymentService.AskedBy kind input targetId d := by
  simp only [sameDeployment, AskedBy, Bool.and_eq_true, decide_eq_true_eq]
  tauto

section Deploy

variable {kind : DeploymentKind} {input : DeploymentService.DeployRequest}
  {clusterId targetId : String} {o : OperationRecord}

open DeploymentService

/-- Knowledge under which a deployment is not the one on record. -/
def DeploymentService.KnownToDiffer (docker : Set Swarm) (i : Tid) (kind : DeploymentKind)
    (input : DeployRequest) (clusterId targetId : String) (db : Db) : Prop :=
  ∃ K : Db → Prop, K db ∧ Kept K ∧ ∃ B D T,
    DiffersFrom (AnsweredIn docker i K) clusterId targetId input kind B D T

theorem DeploymentService.differs_operation (hkeyed : db.Keyed) (ho : o ∈ db.operations)
    (hid : o.id = input.operationId) (hkind : ¬ (o.type = .DEPLOY ∧ o.actorId = input.actorId)) :
    KnownToDiffer docker i kind input clusterId targetId db := by
  have hkept : Kept fun db => Holds (·.id) input.operationId
      (fun o => ¬ (o.type = .DEPLOY ∧ o.actorId = input.actorId)) db.operations := by
    refine kept_operation fun o o' hsame hB hall => hB ?_
    have hsame : o'.toOperationInput = _ := hsame
    rw [hsame] at hall
    exact hall
  refine ⟨_, Holds.of_mem hkeyed.operations ho hid hkind, hkept, _, fun _ => True, fun _ => True,
    ⟨fun found => operation_found fun _ h => h, fun _ _ => trivial, fun _ _ => trivial,
      fun o d hB _ hall => hB ⟨hall.1, hall.2.2.1⟩, fun o d t hB _ _ _ hall => hB ?_⟩⟩
  simp only [sameMutation, Bool.and_eq_true, decide_eq_true_eq] at hall
  exact hall.1.1

theorem DeploymentService.differs_deployment (hkeyed : db.Keyed) (ho : o ∈ db.operations)
    (hid : o.id = input.operationId) (hd : d ∈ db.deployments) (hdid : d.operationId = o.id)
    (hasked : ¬ DeploymentService.AskedBy kind input targetId d) :
    KnownToDiffer docker i kind input clusterId targetId db := by
  have hkept : Kept fun db => db.Taken (.service, input.operationId) ∧
      Holds (·.operationId) input.operationId
        (fun d => ¬ DeploymentService.AskedBy kind input targetId d) db.deployments := by
    refine Kept.and kept_taken (kept_deploymentOf fun d d' hsame hB hall => hB ?_)
    rw [DeploymentService.AskedBy, hsame.1] at hall
    exact hall
  refine ⟨_, ⟨Holds.of_mem hkeyed.operations ho hid trivial,
    Holds.of_mem hkeyed.deploymentOperations hd (hdid.trans hid) hasked⟩, hkept, fun _ => True,
    fun d => ¬ DeploymentService.AskedBy kind input targetId d, fun _ => True,
    ⟨fun found => operation_found fun _ h => h.1, fun d hfound => ?_, fun _ _ => trivial,
      fun _ _ _ hD hall => hD (sameDeployment_iff.mp hall.2.2.2),
      fun _ _ _ _ hD _ _ hall => hD (sameDeployment_iff.mp hall.2)⟩⟩
  obtain ⟨db, hdb, hreply⟩ := answered_query (fun _ => rfl) hfound
  obtain ⟨d', hd', hB⟩ := hdb.2.find
  rw [Option.some.inj (hreply.trans hd')]
  exact hB

/-- The operation was made in another cluster, which is that of the target. -/
theorem DeploymentService.differs_cluster (hkeyed : db.Keyed) (ho : o ∈ db.operations)
    (hid : o.id = input.operationId) (hhome : db.InCluster targetId o.clusterId)
    (hcluster : o.clusterId ≠ clusterId) :
    KnownToDiffer docker i kind input clusterId targetId db := by
  obtain ⟨t, ht, hsame⟩ := hhome
  have hkept : Kept fun db => Holds (·.id) input.operationId
      (fun o => o.clusterId ≠ clusterId) db.operations ∧
        db.findDeploymentTarget targetId = some t :=
    Kept.and (kept_operation fun o o' hsame hB => hsame.clusterId_eq ▸ hB) kept_target
  refine ⟨_, ⟨Holds.of_mem hkeyed.operations ho hid hcluster, ht⟩, hkept, _, fun _ => True,
    fun t' => t' = t, ⟨fun found => operation_found fun _ h => h.1, fun _ _ => trivial,
      fun t' hfound => ?_, fun o d hB _ hall => hB hall.2.1, ?_⟩⟩
  · obtain ⟨db, hdb, hreply⟩ := answered_query (fun _ => rfl) hfound
    exact Option.some.inj (hreply.trans hdb.2)
  · rintro _ _ _ - - rfl heq -
    exact hcluster (hsame.symm.trans heq)

theorem DeploymentService.knownToDiffer (hkeyed : db.Keyed) (hledger : db.Ledger Accepts)
    (h : Differs kind input clusterId targetId db) :
    KnownToDiffer docker i kind input clusterId targetId db := by
  obtain ⟨o, ho, hid, hdiffers⟩ := h
  by_cases hkind : o.type = .DEPLOY ∧ o.actorId = input.actorId
  · obtain ⟨d, hd, hdid⟩ := hledger.linked o ho hkind.1
    by_cases hasked : DeploymentService.AskedBy kind input targetId d
    · have hhome := (hledger.homed d hd).2 o ho hdid.symm
      rw [hasked.2.1] at hhome
      refine differs_cluster hkeyed ho hid hhome fun hcluster => hdiffers ?_
      exact ⟨hkind.1, hcluster, hkind.2, d, hd, hdid, hasked⟩
    · exact differs_deployment hkeyed ho hid hd hdid hasked
  · exact differs_operation hkeyed ho hid hkind

end Deploy

section Rollback

variable {input : DeploymentService.RollbackRequest} {clusterId deploymentId : String}
  {o : OperationRecord}

open DeploymentService

/-- Knowledge under which a rollback is not the one on record. -/
def DeploymentService.RollbackKnownToDiffer (docker : Set Swarm) (i : Tid)
    (input : RollbackRequest) (clusterId deploymentId : String) (db : Db) : Prop :=
  ∃ K : Db → Prop, K db ∧ Kept K ∧ ∃ B A D T,
    RollbackDiffersFrom (AnsweredIn docker i K) clusterId deploymentId input B A D T

theorem DeploymentService.rollbackDiffers_operation (hkeyed : db.Keyed) (ho : o ∈ db.operations)
    (hid : o.id = input.operationId) (hkind : ¬ (o.type = .ROLLBACK ∧ o.actorId = input.actorId)) :
    RollbackKnownToDiffer docker i input clusterId deploymentId db := by
  have hkept : Kept fun db => Holds (·.id) input.operationId
      (fun o => ¬ (o.type = .ROLLBACK ∧ o.actorId = input.actorId)) db.operations := by
    refine kept_operation fun o o' hsame hB hall => hB ?_
    have hsame : o'.toOperationInput = _ := hsame
    rw [hsame] at hall
    exact hall
  exact ⟨_, Holds.of_mem hkeyed.operations ho hid hkind, hkept, _, fun _ => True, fun _ => True,
    fun _ => True, ⟨fun found => operation_found fun _ h => h, fun _ _ => trivial,
      fun _ _ => trivial, fun _ _ _ _ => trivial,
      fun o _ _ _ hB _ _ _ _ hall => hB ⟨hall.1, hall.2.1⟩⟩⟩

/-- The rollback on record is one of another deployment. -/
theorem DeploymentService.rollbackDiffers_deployment {a : RollbackAttempt} (hkeyed : db.Keyed)
    (ho : o ∈ db.operations) (hid : o.id = input.operationId) (ha : a ∈ db.rollbackAttempts)
    (haid : a.operationId = o.id) (hother : a.deploymentId ≠ deploymentId) :
    RollbackKnownToDiffer docker i input clusterId deploymentId db := by
  have hkept : Kept fun db => db.Taken (.service, input.operationId) ∧
      Holds (·.operationId) input.operationId (fun a => a.deploymentId ≠ deploymentId)
        db.rollbackAttempts :=
    Kept.and kept_taken kept_attempt
  refine ⟨_, ⟨Holds.of_mem hkeyed.operations ho hid trivial,
    Holds.of_mem hkeyed.attempts ha (haid.trans hid) hother⟩, hkept, fun _ => True,
    fun d => d.id ≠ deploymentId, fun d => d.id = deploymentId, fun _ => True,
    ⟨fun found => operation_found fun _ h => h.1, fun d hfound => ?_, fun d hfound => ?_,
      fun _ _ _ _ => trivial,
      fun _ a d _ _ hA hD _ _ hall => hA (hall.2.2.trans hD)⟩⟩
  · obtain ⟨db, hdb, hreply⟩ := answered_query (fun _ => rfl) hfound
    obtain ⟨a, hfind, hB⟩ := hdb.2.find
    have hd : db.findDeployment a.deploymentId = some d := by
      rw [Db.findDeploymentByRollbackOperation, hfind] at hreply
      exact hreply.symm
    have hdid : d.id = a.deploymentId := by simpa using List.find?_some hd
    exact hdid ▸ hB
  · obtain ⟨db, -, hreply⟩ := answered_query (fun _ => rfl) hfound
    simpa using List.find?_some hreply.symm

/-- The rollback on record was made in another cluster, which is that of the deployment. -/
theorem DeploymentService.rollbackDiffers_cluster (hkeyed : db.Keyed) (ho : o ∈ db.operations)
    (hid : o.id = input.operationId) (hd : d ∈ db.deployments) (hdid : d.id = deploymentId)
    (hhome : db.InCluster d.deploymentTargetId o.clusterId) (hcluster : o.clusterId ≠ clusterId) :
    RollbackKnownToDiffer docker i input clusterId deploymentId db := by
  obtain ⟨t, ht, hsame⟩ := hhome
  have hkept : Kept fun db => db.Taken (.service, input.operationId) ∧
      Holds (·.id) deploymentId (fun row => row.deploymentTargetId = d.deploymentTargetId)
        db.deployments ∧
      db.findDeploymentTarget d.deploymentTargetId = some t :=
    Kept.and kept_taken
      (Kept.and (kept_deployment fun _ _ hab htarget => hab.target_eq.trans htarget) kept_target)
  refine ⟨_, ⟨Holds.of_mem hkeyed.operations ho hid trivial,
    Holds.of_mem hkeyed.deployments hd hdid rfl, ht⟩, hkept, fun _ => True, fun _ => True,
    fun row => row.deploymentTargetId = d.deploymentTargetId, fun t' => t' = t,
    ⟨fun found => operation_found fun _ h => h.1, fun _ _ => trivial, fun row hfound => ?_,
      fun row t' hrow hfound => ?_, ?_⟩⟩
  · obtain ⟨db, hdb, hreply⟩ := answered_query (fun _ => rfl) hfound
    obtain ⟨row', hrow', hB⟩ := hdb.2.1.find
    rw [Option.some.inj (hreply.trans hrow')]
    exact hB
  · rw [hrow] at hfound
    obtain ⟨db, hdb, hreply⟩ := answered_query (fun _ => rfl) hfound
    exact Option.some.inj (hreply.trans hdb.2.2)
  · rintro _ _ _ _ - - - rfl heq -
    exact hcluster (hsame.symm.trans heq)

theorem DeploymentService.rollbackKnownToDiffer (hkeyed : db.Keyed) (hledger : db.Ledger Accepts)
    (h : RollbackDiffers input clusterId deploymentId db) :
    RollbackKnownToDiffer docker i input clusterId deploymentId db := by
  obtain ⟨o, ho, hid, hdiffers⟩ := h
  by_cases hkind : o.type = .ROLLBACK ∧ o.actorId = input.actorId
  · obtain ⟨a, ha, haid⟩ := hledger.attempted o ho hkind.1
    by_cases hsame : a.deploymentId = deploymentId
    · obtain ⟨d, hd, hdid, hhome⟩ := hledger.rolledHome a ha
      refine rollbackDiffers_cluster hkeyed ho hid hd (hdid.trans hsame) (hhome.2 o ho haid.symm)
        fun hcluster => hdiffers ⟨hkind.1, hcluster, hkind.2, ?_⟩
      obtain ⟨operationId, deploymentId'⟩ := a
      cases haid
      cases hsame
      exact ha
    · exact rollbackDiffers_deployment hkeyed ho hid ha haid hsame
  · exact rollbackDiffers_operation hkeyed ho hid hkind

end Rollback

theorem Request.refuses (h : Request docker settings key differs p) (hkeyed : db.Keyed)
    (hledger : db.Ledger Accepts) (hdiffers : differs db) : Refuses docker i p db := by
  cases h with
  | scale clusterId serviceId input replicas fuel =>
    exact MutationService.refuses hkeyed hdiffers fuel
  | restart clusterId serviceId input fuel => exact MutationService.refuses hkeyed hdiffers fuel
  | mutateNode clusterId nodeRef input fuel =>
    exact NodeMutationService.refuses hkeyed hdiffers fuel
  | deploy clusterId targetId input fuel =>
    have hknown : DeploymentService.KnownToDiffer docker i _ input clusterId targetId db :=
      DeploymentService.knownToDiffer hkeyed hledger hdiffers
    obtain ⟨K, hK, hkept, B, D, T, hfrom⟩ := hknown
    exact ⟨K, hK, hkept,
      ignoreResult_refused (DeploymentService.unlessTerminal_refused settings fuel hfrom)⟩
  | historicalRedeploy clusterId targetId input fuel =>
    have hknown : DeploymentService.KnownToDiffer docker i _ input clusterId targetId db :=
      DeploymentService.knownToDiffer hkeyed hledger hdiffers
    obtain ⟨K, hK, hkept, B, D, T, hfrom⟩ := hknown
    exact ⟨K, hK, hkept,
      ignoreResult_refused (DeploymentService.historicalRedeploy_refused settings fuel hfrom)⟩
  | rollback clusterId deploymentId input fuel =>
    have hknown : DeploymentService.RollbackKnownToDiffer docker i input clusterId deploymentId
        db :=
      DeploymentService.rollbackKnownToDiffer hkeyed hledger hdiffers
    obtain ⟨K, hK, hkept, B, A, D, T, hfrom⟩ := hknown
    exact ⟨K, hK, hkept,
      ignoreResult_refused (DeploymentService.rollback_refused settings fuel hfrom)⟩

end Requests

/-! ## Every run -/

section Runs

variable {Tid : Type} [DecidableEq Tid] {docker : Set Swarm} {i : Tid} {op : ControlOp}
  {answer : op.Ans} {w w' : World Tid}

theorem ControlOp.Resumes.performs (hop : op.Resumes) (h : Performs docker i op w answer w') :
    w.db.NothingNew w'.db ∧ w'.sent = w.sent := by
  obtain ⟨statement, hcarries, hstatement⟩ := Performs.carries h
  have hcreates (o : DbOp) (ho : statement = some o) : o.creates = none := by
    have hdb := hstatement o ho
    subst hdb
    exact hop
  have hsent : ∀ request, op ≠ .send request := by
    rintro request rfl
    exact hop
  refine ⟨⟨?_, ?_, ?_, ?_⟩, Performs.sent h hsent⟩
  · refine hcarries.operations.keys_eq (fun _ _ => (·.id_eq)) fun r hnew => ?_
    obtain ⟨o, ho, hinserts⟩ := Option.bind_eq_some_iff.mp hnew.1
    cases (hcreates o ho).symm.trans (DbOp.creates_of_inserts hinserts)
  · refine hcarries.nodeOperations.keys_eq (fun _ _ => (·.id_eq)) fun r hnew => ?_
    obtain ⟨o, ho, hinserts⟩ := Option.bind_eq_some_iff.mp hnew.1
    cases (hcreates o ho).symm.trans (DbOp.creates_of_insertsNode hinserts)
  · refine hcarries.deployments.keys_eq (fun _ _ => (·.2)) fun r hnew => ?_
    obtain ⟨⟨operation, id, ho⟩, -⟩ := hnew
    cases hcreates _ ho
  · have hids : w'.db.rollbackAttempts.map id = w.db.rollbackAttempts.map id := by
      refine hcarries.rollbackAttempts.keys_eq (fun _ _ hab => hab.symm) fun r hnew => ?_
      obtain ⟨⟨operation, ho, -⟩, -⟩ := hnew
      cases hcreates _ ho
    simpa using hids

theorem ControlOp.Harmless.performs (hop : op.Harmless) (h : Performs docker i op w answer w') :
    w.db.SameRecords w'.db := by
  by_cases hdb : ∀ o, op ≠ .db o
  · rw [Performs.db h hdb]
    exact .refl _
  · simp only [not_forall, not_not] at hdb
    obtain ⟨o, rfl⟩ := hdb
    rcases StatementStep.db h with hdb | ⟨reply, hexec⟩
    · rw [hdb]
      exact .refl _
    · exact (DbOp.exec_sameRecords hop hexec).1

variable {settings : Set Settings} {Accepts : OperationKey → Prop}

theorem given_alongside {K : Db → Prop} (hkept : Kept K) {p : ControlProgram Unit}
    {allowed : ControlOp → Prop} {Q : Except Failure Unit → Prop}
    (hp : p.Given (AnsweredIn docker i K) allowed Q) {c c' : ControlConfig Tid} (hK : K c.state.db)
    (h : Relation.ReflTransGen
      (Continues (controlMachine docker AnyRequest) (ClientCalls docker settings Accepts) i)
      ⟨Function.update c.thread i (some p), c.state⟩ c') :
    ∃ q, c'.thread i = some q ∧ q.Given (AnsweredIn docker i K) allowed Q := by
  have hstep {c c' : ControlConfig Tid}
      (hstep : Step (controlMachine docker AnyRequest) (ClientCalls docker settings Accepts) c c')
      (hK : K c.state.db) : K c'.state.db := by
    obtain ⟨statement, hcarries⟩ := step_carries hstep
    exact hkept hcarries hK
  have hanswers {op : ControlOp} {w w' : World Tid} {answer : op.Ans} (hw : K w.db)
      (hperform : (controlMachine docker AnyRequest).perform i op w answer w') :
      AnsweredIn docker i K op answer := ⟨w, w', hw, hperform.2⟩
  exact (Given.alongside (K := fun w => K w.db) hp (by simp) hK hstep hanswers h).2

/-- An id is in use for the kind of resource that it is accepted for. -/
theorem Db.Ledger.taken {db : Db} (hledger : db.Ledger Accepts)
    (hids : ∀ id, Accepts (.service, id) → ¬ Accepts (.node, id)) {key : OperationKey}
    (hkey : Accepts key) (hused : key.2 ∈ db.operationIds) : db.Taken key := by
  obtain ⟨type, id⟩ := key
  rcases List.mem_append.mp hused with hmem | hmem
  · obtain ⟨o, ho, rfl⟩ := List.mem_map.mp hmem
    cases type with
    | service => exact ⟨⟨o, ho, rfl⟩, fun _ _ _ => trivial⟩
    | node => exact absurd hkey (hids _ (hledger.operations o ho))
  · obtain ⟨o, ho, rfl⟩ := List.mem_map.mp hmem
    cases type with
    | service => exact absurd (hledger.nodeOperations o ho) (hids _ hkey)
    | node => exact ⟨⟨o, ho, rfl⟩, fun _ _ _ => trivial⟩

end Runs

/-- As long as the clients use no id for a service and for a node, an operation id names one
operation. -/
theorem operation_id_names_one {Tid : Type} [DecidableEq Tid] (P : Processes) (docker : Set Swarm)
    (Accepts : OperationKey → Prop)
    (hids : ∀ id, Accepts (.service, id) → ¬ Accepts (.node, id)) :
    OperationIdLaw Tid docker P.settings Accepts := by
  intro c hc
  have hledger := ledger_of_reachable hc
  have hkeyed : c.state.db.Keyed := by
    refine (System.safe_of_reachable (S := P.system docker AnyRequest)
      (hc.mono fun p ⟨s, hs, hcall⟩ => ⟨s, hs, ?_⟩)).inv.keyed
    rcases hcall with ⟨key, differs, hrequest, -⟩ | ⟨hother, -⟩
    · exact hrequest.call
    · exact hother
  refine ⟨?_, fun {i s key differs p c'} hs hrequest hkey hnone hused hsteps => ⟨?_, ?_⟩⟩
  · refine List.nodup_append.mpr ⟨hkeyed.operations, hkeyed.nodeOperations, ?_⟩
    rintro id hservice _ hnode rfl
    obtain ⟨o, ho, rfl⟩ := List.mem_map.mp hservice
    obtain ⟨o', ho', hid⟩ := List.mem_map.mp hnode
    exact hids _ (hledger.operations o ho) (hid ▸ hledger.nodeOperations o' ho')
  · intro op k answer w' hthread hperform
    obtain ⟨q, hq, hgiven⟩ := given_alongside kept_taken hrequest.resumes
      (hledger.taken hids hkey hused) hsteps
    rw [hthread] at hq
    cases hq
    exact ControlOp.Resumes.performs hgiven.1 hperform
  · intro hdiffers
    obtain ⟨K, hK, hkept, hrefused⟩ := hrequest.refuses (i := i) hkeyed hledger hdiffers
    obtain ⟨q, hq, hgiven⟩ := given_alongside hkept hrefused hK hsteps
    refine ⟨fun hreturned => ?_, fun {op k answer w'} hthread hperform => ?_⟩
    · rw [hreturned] at hq
      cases hq
      exact hgiven () rfl
    · rw [hthread] at hq
      cases hq
      exact ControlOp.Harmless.performs hgiven.1 hperform

/-- One id for the service and another one for the nodes. -/
theorem webSwarm_operationIdLaw :
    "o" ∈ (play scaleSchedule).state.db.operationIds ∧
      OperationIdLaw Nat {webSwarm} plainProcess.alone.settings
        fun key => key = (.service, "o") ∨ key = (.node, "n") :=
  ⟨by decide +kernel, operation_id_names_one plainProcess.alone {webSwarm} _ (by simp)⟩

/-! ## An id that is used in both tables -/

/-- A service and a node. -/
def mixedSwarm : Swarm := ⟨[webService], [⟨"x", "h", 1, "one", .active, []⟩]⟩

/-- The service is scaled and the node drained, with one operation id. -/
def sharedIdSchedule : List Move :=
  [.start 0 (ignoreResult (MutationService.scale plainProcess "c" "web" ⟨"o", "actor", 1⟩ 2 1)),
    .run 0 { read := mixedSwarm.agent "two" } 13,
    .start 1 (ignoreResult (NodeMutationService.mutate plainProcess "c" "x"
      ⟨"o", "actor", 1, .DRAIN, ⟨[], []⟩⟩ 1)),
    .run 1 { read := mixedSwarm.agent "two" } 11]

theorem sharedIdSchedule_reachable : ControlReachable {mixedSwarm} AnyRequest
    plainProcess.alone.settings (play sharedIdSchedule) :=
  play_reachable ⟨.start (.scale ..), .run rfl rfl, .start (.mutateNode ..), .run rfl rfl⟩

/-- With any ids, two operations may have one. -/
theorem shared_id_names_two :
    ¬ OperationIdLaw Nat {mixedSwarm} plainProcess.alone.settings fun _ => True := by
  intro hlaw
  have hcalls (p : ControlProgram Unit) : (∃ s ∈ plainProcess.alone.settings, Call s p) →
      ClientCalls {mixedSwarm} plainProcess.alone.settings (fun _ => True) p := by
    rintro ⟨s, hs, hcall⟩
    refine ⟨s, hs, ?_⟩
    by_cases hrequest : ∃ key differs, Request {mixedSwarm} s key differs p
    · obtain ⟨key, differs, h⟩ := hrequest
      exact .inl ⟨key, differs, h, trivial⟩
    · exact .inr ⟨hcall, fun key differs h => hrequest ⟨key, differs, h⟩⟩
  have hunique := (hlaw _ (Reachable.mono hcalls sharedIdSchedule_reachable)).unique
  have htwice : (play sharedIdSchedule).state.db.operationIds = ["o", "o"] := by decide +kernel
  rw [htwice] at hunique
  simp at hunique

end Docklane.Control
