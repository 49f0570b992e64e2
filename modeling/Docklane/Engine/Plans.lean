import Docklane.Control.NodeMutations
import Docklane.Engine.Interference
import Docklane.Engine.Wire
import Mathlib.Data.List.Sort

/-!
# Plans and what is made of them

A plan and the mutation built from it compute the target spec twice, in different functions. With
the object as the plan has seen it, the mutation passes all its checks and Docker gets the planned
spec. With anything else going on in the Swarm, an update takes effect only on the planned version,
and installs the planned spec.
-/

namespace Docklane.Engine

open Concurrent Concurrent.Program
open Control (Availability LabelPatch MutationRequest NodeAction NodeMutationPlan NodeOperationType
  ServiceAction ServiceMutationPlan)

/-! ## Plans -/

section Plans

variable {α β : Type} {d : Docker} {ref : String} {version : UInt64} (H : Hashes) (U : Unicode)

/-- A sequence that has returned came through its first part, which only read. -/
theorem result_bind {p : EngineProgram α} {f : α → EngineProgram β} {b : β}
    (hp : p.Uses DockerOp.Reads) (h : (execute (p.bind f) d).result = .ok b) :
    ∃ a, (execute p d).result = .ok a ∧ (execute (f a) d).result = .ok b := by
  rw [execute, run_bind, state_of_reads hp] at h
  cases hresult : (execute p d).result with
  | error e => rw [hresult] at h; cases h
  | ok a =>
    rw [hresult] at h
    exact ⟨a, rfl, h⟩

theorem result_require {condition : Prop} [Decidable condition] {error : EngineError} {u : Unit}
    (h : (execute (require condition error) d).result = .ok u) : condition := by
  unfold require at h
  split at h
  · assumption
  · cases h

/-- The endpoint that plans an action. -/
def planService : ServiceAction → String → UInt64 → EngineProgram ServiceMutationPlan
  | .scale replicas, ref, version => Reader.planScaleService H ref version (.ofNat replicas)
  | .restart, ref, version => Reader.planRestartService H ref version
  | .image image, ref, version => Reader.planUpdateServiceImage H ref version image
  | .rollback, ref, version => Reader.planRollbackService H ref version

/-- The action replaces the image, so its plan has to name the image and the task. -/
def changesImage : ServiceAction → Bool
  | .image _ | .rollback => true
  | .scale _ | .restart => false

/-- What a plan of an action says about the service it has looked at. -/
structure PlansService (action : ServiceAction) (s : Service) (target : ServiceSpec)
    (p : ServiceMutationPlan) : Prop where
  serviceId : p.serviceId = s.id
  version : p.version = s.version.toNat
  before : p.beforeSpecHash = H.service s.spec
  hash : p.targetSpecHash = H.service target
  forceUpdate : p.targetForceUpdate = target.taskTemplate.forceUpdate.toNat
  computed : ∀ ref version before hash, (serviceRoute action).change.target ref s
    (serviceBody action version before hash) = .ok target
  task : changesImage action = true → p.targetImage = omitEmpty target.taskTemplate.image ∧
    p.targetTaskSpecHash = omitEmpty (H.task target.taskTemplate) ∧
    p.targetRuntimeSpecHash = omitEmpty (H.taskRuntime target.taskTemplate)

variable {H U}

theorem inspectVersion_ok {s : Service}
    (h : (execute (Reader.inspectVersion ref version) d).result = .ok s) : s ∈ d.services := by
  obtain ⟨found, hfound, hrest⟩ := result_bind serviceInspect_reads h
  obtain ⟨-, -, hs⟩ := result_bind uses_require hrest
  obtain rfl := Except.ok.inj hs
  simp only [execute, serviceInspect, run_request, Docker.answer] at hfound
  split at hfound
  · rename_i s' hs'
    obtain rfl := Except.ok.inj hfound
    rcases Option.or_eq_some_iff.mp hs' with hid | ⟨-, hname⟩
    · exact List.mem_of_find?_eq_some hid
    · exact List.mem_of_find?_eq_some hname
  · cases hfound

theorem inspectVersion_reads {ref : String} {version : UInt64} :
    (Reader.inspectVersion ref version).Uses DockerOp.Reads :=
  serviceInspect_reads.bind fun _ => uses_require.bind fun _ => uses_pure

theorem scaleChange_target {s : Service} {input : ServiceMutationRequest} {replicas : UInt64}
    (hmode : s.spec.mode.isReplicated = true) (hinput : input.replicas = some replicas) :
    scaleChange.target ref s input = .ok (s.spec.withReplicas replicas) := by
  simp only [scaleChange, hinput]
  cases hkind : s.spec.mode with
  | replicated n => rfl
  | _ => rw [hkind] at hmode; cases hmode

theorem imageTarget_eq {s : Service} {image : String} {target : ServiceSpec}
    (h : imageTarget ref image s = .ok target) (ref' : String) :
    imageTarget ref' image s = .ok target ∧ target.taskTemplate.image = image := by
  unfold imageTarget at h ⊢
  split at h
  · rename_i hsupported
    obtain rfl := Except.ok.inj h
    refine ⟨if_pos hsupported, ?_⟩
    have hcontainer := (Bool.and_eq_true_iff.mp hsupported).2
    obtain ⟨container, hcontainer⟩ := Option.isSome_iff_exists.mp hcontainer
    simp [ServiceSpec.withImage, TaskSpec.image, hcontainer]
  · cases h

theorem previousTarget_eq {s : Service} {target : ServiceSpec}
    (h : previousTarget ref s = .ok target) {ref' : String} :
    previousTarget ref' s = .ok target := by
  obtain ⟨hprevious, hsupported⟩ := previousTarget_ok h
  simp only [previousTarget, hprevious, hsupported, if_true]

/-- A plan has computed the target as the mutation will. -/
theorem planService_ok {action : ServiceAction} {p : ServiceMutationPlan}
    (h : (execute (planService H action ref version) d).result = .ok p) :
    ∃ s ∈ d.services, ∃ target, PlansService H action s target p := by
  cases action with
  | scale replicas =>
    obtain ⟨s, hs, h⟩ := result_bind inspectVersion_reads h
    obtain ⟨_, hmode, hp⟩ := result_bind uses_require h
    obtain rfl := Except.ok.inj hp
    exact ⟨s, inspectVersion_ok hs, _, rfl, rfl, rfl, rfl, rfl,
      fun _ _ _ _ => scaleChange_target (result_require hmode) rfl, nofun⟩
  | restart =>
    obtain ⟨s, hs, hp⟩ := result_bind inspectVersion_reads h
    obtain rfl := Except.ok.inj hp
    exact ⟨s, inspectVersion_ok hs, _, rfl, rfl, rfl, rfl, rfl, fun _ _ _ _ => rfl, nofun⟩
  | image image =>
    obtain ⟨_, hpinned, h⟩ := result_bind uses_require h
    obtain ⟨s, hs, h⟩ := result_bind inspectVersion_reads h
    obtain ⟨target, htarget, hp⟩ := result_bind (uses_ofExcept _) h
    obtain rfl := Except.ok.inj hp
    have htarget : imageTarget ref image s = .ok target := by rwa [execute, run_ofExcept] at htarget
    refine ⟨s, inspectVersion_ok hs, target, rfl, rfl, rfl, rfl, rfl, fun ref' _ _ _ => ?_,
      fun _ => ?_⟩
    · exact (if_pos (result_require hpinned)).trans (imageTarget_eq htarget ref').1
    · rw [(imageTarget_eq htarget ref).2]
      exact ⟨rfl, rfl, rfl⟩
  | rollback =>
    obtain ⟨s, hs, h⟩ := result_bind inspectVersion_reads h
    obtain ⟨target, htarget, hp⟩ := result_bind (uses_ofExcept _) h
    obtain rfl := Except.ok.inj hp
    have htarget : previousTarget ref s = .ok target := by rwa [execute, run_ofExcept] at htarget
    exact ⟨s, inspectVersion_ok hs, target, rfl, rfl, rfl, rfl, rfl,
      fun ref' _ _ _ => previousTarget_eq htarget, fun _ => ⟨rfl, rfl, rfl⟩⟩

/-- What is planned for a node. -/
inductive NodePlanning where
  | drain
  | activate
  | labels (patch : LabelPatch)
  deriving DecidableEq, Repr

namespace NodePlanning

def type : NodePlanning → NodeOperationType
  | drain => .DRAIN
  | activate => .ACTIVATE
  | labels _ => .LABELS

/-- The spec that the node is to have. -/
def target (spec : NodeSpec) : NodePlanning → NodeSpec
  | drain => { spec with availability := .drain }
  | activate => { spec with availability := .active }
  | labels patch => { spec with labels := patchLabels spec.labels ⟨0, patch.set, patch.remove⟩ }

end NodePlanning

variable (H U) in
/-- The endpoint that plans it. -/
def planNode (planning : NodePlanning) (ref : String) (version : UInt64) :
    EngineProgram NodeMutationPlan :=
  match planning with
  | .drain => Reader.planDrainNode H ref version
  | .activate => Reader.planActivateNode H ref version
  | .labels patch => Reader.planNodeLabels H U ref ⟨version, patch.set, patch.remove⟩

variable (H) in
/-- What a plan says about the node it has looked at. -/
structure PlansNode (planning : NodePlanning) (n : Node) (p : NodeMutationPlan) : Prop where
  nodeId : p.nodeId = n.id
  version : p.version = n.version.toNat
  before : p.beforeSpecHash = H.node n.spec
  hash : p.targetSpecHash = H.node (planning.target n.spec)
  availability : p.targetAvailability = (planning.target n.spec).availability
  labels : planning.type = .LABELS → p.targetLabels = some (planning.target n.spec).labels

theorem resolveNode_ok {n : Node}
    (h : (execute (Reader.resolveNode ref) d).result = .ok n) : n ∈ d.nodes := by
  obtain ⟨nodes, hnodes, h⟩ := result_bind nodeList_reads h
  obtain rfl : d.nodes = nodes := Except.ok.inj hnodes
  cases hfound : findNode d.nodes ref with
  | none => rw [hfound] at h; cases h
  | some node =>
    rw [hfound] at h
    obtain rfl := Except.ok.inj h
    exact (findRef_some hfound).1

theorem planNodeAvailability_ok {target : Availability} {p : NodeMutationPlan}
    (h : (execute (Reader.planNodeAvailability H ref version target) d).result = .ok p) :
    ∃ n ∈ d.nodes, ∃ ids, p = ⟨n.id, n.version.toNat, H.node n.spec,
      H.node { n.spec with availability := target }, target, ids, none⟩ := by
  obtain ⟨n, hn, h⟩ := result_bind resolveNode_reads h
  obtain ⟨_, -, h⟩ := result_bind uses_require h
  obtain ⟨detail, -, hp⟩ := result_bind node_reads h
  exact ⟨n, resolveNode_ok hn, _, (Except.ok.inj hp).symm⟩

theorem planNode_ok {planning : NodePlanning} {p : NodeMutationPlan}
    (h : (execute (planNode H U planning ref version) d).result = .ok p) :
    ∃ n ∈ d.nodes, PlansNode H planning n p := by
  cases planning with
  | drain =>
    obtain ⟨n, hn, ids, rfl⟩ := planNodeAvailability_ok h
    exact ⟨n, hn, rfl, rfl, rfl, rfl, rfl, nofun⟩
  | activate =>
    obtain ⟨n, hn, ids, rfl⟩ := planNodeAvailability_ok h
    exact ⟨n, hn, rfl, rfl, rfl, rfl, rfl, nofun⟩
  | labels patch =>
    obtain ⟨n, hn, h⟩ := result_bind resolveNode_reads h
    obtain ⟨_, -, h⟩ := result_bind uses_require h
    obtain ⟨ids, -, hp⟩ := result_bind serviceIDsAffected_reads h
    obtain rfl := Except.ok.inj hp
    exact ⟨n, resolveNode_ok hn, rfl, rfl, rfl, rfl, rfl, fun _ => rfl⟩

end Plans

/-! ## Plans and mutations together -/

/-- What a plan promises about the call that is built from it. -/
structure Promise (D : Decoder) (H : Hashes) (U : Unicode) (call : MutationCall) (e : Expectation)
    (unchanged : Docker → Prop) : Prop where
  /-- With the planned object still there, the call passes its checks and makes one update. -/
  alone : ∀ d, unchanged d → ∃ reply d' update,
    Performs (handleMutation D H U call) d reply d' [update] ∧ update.isUpdate = true ∧
      (∀ status code error, reply ≠ .refused status code error) ∧ Fulfils H call.id e d d'
  /-- Whatever happens meanwhile, nothing is written but the planned spec over the planned version.
    -/
  shared : ∀ (V : Versions) (t : List Encounter) (q : EngineProgram MutationReply),
    Trace (handleMutation D H U call) (t.map (·.event)) q → (∀ x ∈ t, x.Real V call.id) →
      ∀ x ∈ t, x.after = x.before ∨ Fulfils H call.id e x.before x.after

/-- The service that was planned for is found under its id, in the cluster of the request. -/
structure ServiceKept (d : Docker) (request : MutationRequest) (id : String) (d' : Docker) :
    Prop where
  manages : d'.Manages request.expectedClusterId
  named : id ≠ ""
  found : ∀ s ∈ d.services, s.id = id → d'.services.find? (·.id = id) = some s

/-- The services that a plan for a node affects. -/
def affectedServices (U : Unicode) (d : Docker) (planning : NodePlanning) (n : Node) :
    Except EngineError (List String) :=
  match planning with
  | .drain | .activate => .ok ((Reader.serviceIdsOf (Reader.tasksOn d.tasks n.id)).mergeSort
      (· ≤ ·))
  | .labels _ => serviceIDsAffectedByNodeLabels U d.services
      (changedNodeLabelKeys n.spec.labels (planning.target n.spec).labels)

/-- The node that was planned for is found under its id, and a drain or new labels still affect the
services of the plan. -/
structure NodeKept (U : Unicode) (d : Docker) (request : MutationRequest) (planning : NodePlanning)
    (p : NodeMutationPlan) (d' : Docker) : Prop where
  manages : d'.Manages request.expectedClusterId
  named : p.nodeId ≠ ""
  found : ∀ n ∈ d.nodes, n.id = p.nodeId → findNode d'.nodes p.nodeId = some n ∧
    (planning ≠ .activate → affectedServices U d' planning n = .ok p.affectedServiceIds)

theorem mergeSort_mergeSort {ids : List String} :
    (ids.mergeSort (· ≤ ·)).mergeSort (· ≤ ·) = ids.mergeSort (· ≤ ·) :=
  List.mergeSort_of_pairwise (by simpa using List.pairwise_mergeSort' (· ≤ ·) ids)

theorem mergeSort_affectedServices {U : Unicode} {d : Docker} {planning : NodePlanning} {n : Node}
    {ids : List String} (h : affectedServices U d planning n = .ok ids) :
    ids.mergeSort (· ≤ ·) = ids := by
  have hlabels (keys : List String) (hkeys : serviceIDsAffectedByNodeLabels U d.services keys =
      .ok ids) : ids.mergeSort (· ≤ ·) = ids := by
    unfold serviceIDsAffectedByNodeLabels at hkeys
    split at hkeys
    · obtain rfl := Except.ok.inj hkeys
      exact List.mergeSort_nil
    · cases hmodes : validateAffectedServiceModes U d.services keys with
      | error e => rw [hmodes] at hkeys; cases hkeys
      | ok _ =>
        rw [hmodes] at hkeys
        obtain rfl := Except.ok.inj hkeys
        exact mergeSort_mergeSort
  cases planning with
  | labels patch => exact hlabels _ h
  | _ =>
    obtain rfl := Except.ok.inj h
    exact mergeSort_mergeSort

section Together

variable {W : Wire} {D : Decoder} {H : Hashes} {U : Unicode} {d d' : Docker}
  {request : MutationRequest} (hW : W.Decodes D request.mutation)

include hW

/-- The call of a plan for a service, in a Swarm where the service is still the same. -/
theorem performs_serviceCall {action : ServiceAction} {s : Service} {target : ServiceSpec}
    {p : ServiceMutationPlan}
    (hrequest : request.mutation =
      .service p.serviceId action p.version p.beforeSpecHash p.targetSpecHash)
    (hp : PlansService H action s target p) (hmanages : d'.Manages request.expectedClusterId)
    (hid : s.id ≠ "") (hfound : d'.services.find? (·.id = s.id) = some s) :
    ∃ update : DockerOp, update.isUpdate = true ∧
      Performs (handleMutation D H U (W.call request)) d'
        (.service ⟨s.id, (d'.index + 1).toNat, H.service target,
          target.taskTemplate.forceUpdate.toNat, d'.warnings⟩)
        (d'.installService s.id target) [update] := by
  rw [hrequest] at hW
  have hmissing : (serviceRoute action).missing
      (serviceBody action p.version p.beforeSpecHash p.targetSpecHash) = none := by
    cases action <;> rfl
  refine ⟨.serviceUpdate s.id s.version ((serviceRoute action).change.sent s target)
    (serviceRoute action).change.rollback, rfl, ?_⟩
  have hcall : handleMutation D H U (W.call request) =
      admitted [request.expectedClusterId] (fun cluster => (serviceRoute action).mutate H cluster
        s.id (serviceBody action p.version p.beforeSpecHash p.targetSpecHash)) .service := by
    simp only [handleMutation, Wire.call, hrequest, mutationRoute, handleService, mutationObject,
      hp.serviceId, hid, if_false]
    rw [← hp.serviceId, hW]
    simp only [hmissing]
  rw [hcall]
  refine performs_admitted hmanages ?_
  rw [ServiceRoute.mutate_eq]
  refine performs_changeService H hmanages (serviceRoute action).installs hfound ?_ ?_ ?_ ?_
  · simp [serviceBody, hp.version]
  · exact hp.before.symm
  · exact hp.computed _ _ _ _
  · exact hp.hash.symm

/-- The call of a plan for a node, in a Swarm where the node and what it affects are the same. -/
theorem performs_nodeCall {planning : NodePlanning} {n : Node} {p : NodeMutationPlan}
    {action : NodeAction}
    (haction : Control.NodeMutationService.action planning.type p = some action)
    (hrequest : request.mutation =
      .node p.nodeId action p.version p.beforeSpecHash p.targetSpecHash)
    (hp : PlansNode H planning n p) (hmanages : d'.Manages request.expectedClusterId)
    (hid : n.id ≠ "") (hfound : findNode d'.nodes n.id = some n)
    (haffected : planning ≠ .activate →
      affectedServices U d' planning n = .ok p.affectedServiceIds) :
    ∃ update : DockerOp, update.isUpdate = true ∧
      Performs (handleMutation D H U (W.call request)) d'
        (.node ⟨n.id, (d'.index + 1).toNat, H.node (planning.target n.spec),
          (planning.target n.spec).availability⟩)
        (d'.installNode n.id (planning.target n.spec)) [update] := by
  rw [hrequest] at hW
  have hversion : n.version =
      (nodeBody action p.version p.beforeSpecHash p.targetSpecHash).expectedVersion := by
    simp [nodeBody, hp.version]
  have hmissing : (nodeRoute action).missing
      (nodeBody action p.version p.beforeSpecHash p.targetSpecHash) = none := by
    cases action <;> rfl
  have hcall : handleMutation D H U (W.call request) =
      admitted [request.expectedClusterId] (fun cluster => (nodeRoute action).mutate H U cluster
        n.id (nodeBody action p.version p.beforeSpecHash p.targetSpecHash)) .node := by
    simp only [handleMutation, Wire.call, hrequest, mutationRoute, handleNode, mutationObject,
      hp.nodeId, hid, if_false]
    rw [← hp.nodeId, hW]
    simp only [hmissing]
  refine ⟨.nodeUpdate n.id n.version (planning.target n.spec), rfl, ?_⟩
  rw [hcall]
  refine performs_admitted hmanages ?_
  cases planning with
  | drain =>
    obtain rfl := Option.some.inj haction
    have hids := haffected nofun
    refine performs_updateNodeAvailability H hmanages hfound hversion (fun _ => ?_) hp.before.symm
      hp.hash.symm
    exact (Except.ok.inj hids).trans (mergeSort_affectedServices hids).symm
  | activate =>
    obtain rfl := Option.some.inj haction
    exact performs_updateNodeAvailability H hmanages hfound hversion nofun hp.before.symm
      hp.hash.symm
  | labels patch =>
    obtain ⟨labels, hlabels, rfl⟩ := Option.map_eq_some_iff.mp haction
    obtain rfl := Option.some.inj (hlabels.symm.trans (hp.labels rfl))
    have hids := haffected nofun
    refine performs_updateNodeLabels H U hmanages hfound hversion rfl hp.before.symm ?_ hp.hash.symm
    exact hids.trans (congrArg Except.ok (mergeSort_affectedServices hids).symm)

theorem expectation_call {id : String} {version : Nat} {before target : String}
    (hrequest : (∃ action, request.mutation = .service id action version before target) ∨
      ∃ action, request.mutation = .node id action version before target) :
    expectation D (W.call request) = some ⟨.ofNat version, before, target⟩ := by
  rcases hrequest with ⟨action, hrequest⟩ | ⟨action, hrequest⟩
  · rw [hrequest, Wire.Decodes] at hW
    simp only [expectation, Wire.call, hrequest, mutationRoute, hW]
    rfl
  · rw [hrequest, Wire.Decodes] at hW
    simp only [expectation, Wire.call, hrequest, mutationRoute, hW]
    rfl

end Together

/-- Hashes that tell whether a node has labels. -/
def labelHashes : Hashes :=
  ⟨fun _ => "service", fun n => if n.labels = [] then "before" else "after", fun _ => "task"⟩

/-- A manager and a worker without labels. -/
def smallSwarm (availability : Control.Availability) : Docker where
  clusterId := "swarm"
  nodeId := "m1"
  services := []
  nodes :=
    [⟨"m1", 3, ⟨[], "manager", .active, ""⟩, ⟨"manager", ⟨"", ""⟩, 0, 0, []⟩, .ready, ""⟩,
      ⟨"w1", 5, ⟨[], "worker", availability, ""⟩, ⟨"worker", ⟨"", ""⟩, 0, 0, []⟩, .ready, ""⟩]
  tasks := []
  index := 6
  warnings := []

def zonePlanning : NodePlanning := .labels ⟨[("zone", "a")], []⟩

def zonePlan (availability : Control.Availability) : NodeMutationPlan :=
  ⟨"w1", 5, "before", "after", availability, [], some [("zone", "a")]⟩

def zoneAction : Control.NodeAction := .labels [] [("zone", "a")]

def zoneRequest : MutationRequest :=
  ⟨"agent", "swarm", none, "op1", .node "w1" zoneAction 5 "before" "after"⟩

def zoneWire : Wire := ⟨fun _ => "", fun _ _ => "", fun _ => ⟨"POST", [], [], rfl, [], []⟩⟩

/-- The decoder of the one body. -/
def zoneDecoder : Decoder := ⟨.error, fun _ => .ok (nodeBody zoneAction 5 "before" "after")⟩

theorem plan_smallSwarm {availability : Control.Availability} :
    (execute (planNode labelHashes .ascii zonePlanning "w1" 5) (smallSwarm availability)).result =
      .ok (zonePlan availability) := by
  cases availability <;> decide +kernel

theorem smallSwarm_kept {availability : Control.Availability} :
    NodeKept .ascii (smallSwarm availability) zoneRequest zonePlanning (zonePlan availability)
      (smallSwarm availability) where
  manages := ⟨rfl, by decide +kernel, by simp [smallSwarm], _, by rfl, rfl⟩
  named := by simp [zonePlan]
  found n hn hid := by
    simp only [smallSwarm, List.mem_cons, List.not_mem_nil, or_false] at hn
    rcases hn with rfl | rfl
    · simp [zonePlan] at hid
    · refine ⟨rfl, fun _ => ?_⟩
      cases availability <;> decide +kernel

/-- The manager has the id of the worker for its hostname. -/
def namesakeSwarm : Docker :=
  { smallSwarm .active with nodes := (smallSwarm .active).nodes.map fun n =>
      if n.id = "m1" then { n with description := { n.description with hostname := "w1" } } else n }

end Docklane.Engine
