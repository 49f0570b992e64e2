import Docklane.Engine.Handlers

/-!
# Which object a reference stands for

The Agent takes the first object of Docker's list whose id or whose name is the reference. The
control plane passes ids. An id reaches its own object exactly if no object before it in the list
has that id for a name.
-/

namespace Docklane.Engine

open Concurrent Concurrent.Program
open Control (Availability NodeMutationPlan ServiceDetailResponse NodeDetailResponse)

/-! ## The first match -/

section

variable {α : Type} {id name : α → String} {before after : List α} {x : α}

/-- No object before `x` in the list is named with the id of `x`. -/
def Unaliased (id name : α → String) (before : List α) (x : α) : Prop :=
  ∀ y ∈ before, name y ≠ id x

variable (name) in
/-- An id reaches its own object exactly if nothing before it is named like that, and else another
object. -/
theorem findRef_self_or_other (hids : ((before ++ x :: after).map id).Nodup) :
    Unaliased id name before x ∧ findRef id name (before ++ x :: after) (id x) = some x ∨
      ¬ Unaliased id name before x ∧
        ∃ y, findRef id name (before ++ x :: after) (id x) = some y ∧ id y ≠ id x := by
  have hne : ∀ y ∈ before, id y ≠ id x := by
    rw [List.map_append, List.map_cons, List.nodup_append] at hids
    exact fun y hy => hids.2.2 _ (List.mem_map_of_mem hy) _ (List.mem_cons_self ..)
  have hfirst : findRef id name (before ++ x :: after) (id x) =
      (findRef id name before (id x)).or (some x) := by
    simp [findRef, List.find?_append]
  cases hfind : findRef id name before (id x) with
  | none =>
    refine .inl ⟨fun y hy hname => ?_, by rw [hfirst, hfind]; rfl⟩
    simpa [hname] using List.find?_eq_none.mp hfind y hy
  | some y =>
    have hy := List.mem_of_find?_eq_some hfind
    have hmatch := List.find?_some hfind
    have hname : name y = id x := by simpa [hne y hy] using hmatch
    exact .inr ⟨fun h => h y hy hname, y, by rw [hfirst, hfind]; rfl, hne y hy⟩

end

/-! ## The programs of the Agent, by the object they resolve -/

variable {service : Service} {node : Node}

section

variable (H : Hashes) (U : Unicode) (net : Net) {d : Docker} {ref : String}

/-- The answer of `Reader.service` about a service. -/
def serviceDetail (tasks : List Task) (service : Service) : ServiceDetailResponse :=
  let own := (tasks.filter (·.serviceId = service.id)).map (toTaskSummary H)
  { service := { toServiceSummary H service with runningReplicas := countDesiredRunningTasks own }
    tasks := own }

/-- The answer of `Reader.node` about a node. -/
def nodeDetail (tasks : List Task) (node : Node) : NodeDetailResponse where
  node := toNodeSummary H node
  tasks := (Reader.tasksOn tasks node.id).map (toTaskSummary H)
  serviceIds := Reader.serviceIdsOf (Reader.tasksOn tasks node.id)

theorem run_service (h : findService d.services ref = some service) :
    (execute (Reader.service H ref) d).result = .ok (serviceDetail H d.tasks service) := by
  simp [Reader.service, serviceList, Reader.serviceTasks, taskList, request_bind, h, serviceDetail]

theorem run_node (h : findNode d.nodes ref = some node) :
    execute (Reader.node H ref) d = ⟨.ok (nodeDetail H d.tasks node), d,
    [.nodeList, .taskList]⟩ := by
  simp [Reader.node, Reader.resolveNode, nodeList, taskList, request_bind, h, nodeDetail, Run.after]

theorem findRef_some {α : Type} {id name : α → String} {objects : List α} {x : α}
    (h : findRef id name objects ref = some x) : x ∈ objects ∧ (id x = ref ∨ name x = ref) :=
  ⟨List.mem_of_find?_eq_some h, by simpa using List.find?_some h⟩

theorem node_found {H : Hashes} {detail : NodeDetailResponse}
    (h : (execute (Reader.node H ref) d).result = .ok detail) :
    ∃ node, findNode d.nodes ref = some node ∧ detail = nodeDetail H d.tasks node := by
  cases hfound : findNode d.nodes ref with
  | none =>
    simp [Reader.node, Reader.resolveNode, nodeList, request_bind, hfound, orNotFound] at h
  | some node =>
    rw [run_node H hfound] at h
    exact ⟨node, rfl, (Except.ok.inj h).symm⟩

/-- The answer of `Reader.checkServiceCapacity` about a service. -/
def capacityAnswer (d : Docker) (service : Service) (input : CapacityCheckRequest) :
    Except EngineError CapacityCheckResponse :=
  if service.version ≠ input.expectedVersion then
    .error (Reader.versionConflict "service" input.expectedVersion service.version)
  else .ok (evaluateServiceCapacity U net service d.nodes d.tasks input)

theorem run_checkServiceCapacity (h : findService d.services ref = some service)
    (input : CapacityCheckRequest) :
    (execute (Reader.checkServiceCapacity U net ref input) d).result =
      capacityAnswer U net d service input := by
  by_cases hversion : service.version = input.expectedVersion
  · simp [Reader.checkServiceCapacity, Reader.resolveServiceForCapacity, serviceList, nodeList,
      taskList, request_bind, h, capacityAnswer, hversion]
  · simp [Reader.checkServiceCapacity, Reader.resolveServiceForCapacity, serviceList,
      request_bind, h, capacityAnswer, hversion]

theorem run_checkServicePlacement (h : findService d.services ref = some service) :
    (execute (Reader.checkServicePlacement U net ref) d).result =
      .ok (evaluateServicePlacement U net service d.nodes d.tasks) := by
  simp [Reader.checkServicePlacement, Reader.resolveServiceForCapacity, serviceList, nodeList,
    taskList, request_bind, h]

theorem placement_found {U : Unicode} {net : Net} {response : ServicePlacementResponse}
    (h : (execute (Reader.checkServicePlacement U net ref) d).result = .ok response) :
    ∃ service, findService d.services ref = some service ∧
      response = evaluateServicePlacement U net service d.nodes d.tasks := by
  cases hfound : findService d.services ref with
  | none =>
    simp [Reader.checkServicePlacement, Reader.resolveServiceForCapacity, serviceList,
      request_bind, hfound, orNotFound] at h
  | some service =>
    rw [run_checkServicePlacement U net hfound] at h
    exact ⟨service, rfl, (Except.ok.inj h).symm⟩

/-- The answer of the availability plans about a node. -/
def availabilityPlan (d : Docker) (node : Node) (expectedVersion : UInt64)
    (target : Availability) : Except EngineError NodeMutationPlan :=
  if node.version = expectedVersion then
    .ok
      { nodeId := node.id
        version := node.version.toNat
        beforeSpecHash := H.node node.spec
        targetSpecHash := H.node { node.spec with availability := target }
        targetAvailability := target
        affectedServiceIds := (nodeDetail H d.tasks node).serviceIds.mergeSort (· ≤ ·)
        targetLabels := none }
  else .error (Reader.versionConflict "node" expectedVersion node.version)

/-- A plan resolves its node twice, the second time by its id. -/
theorem run_planNodeAvailability (h : findNode d.nodes ref = some node)
    (hself : findNode d.nodes node.id = some node) {expectedVersion : UInt64}
    {target : Availability} :
    (execute (Reader.planNodeAvailability H ref expectedVersion target) d).result =
      availabilityPlan H d node expectedVersion target := by
  have hnode := run_node H hself
  by_cases hversion : node.version = expectedVersion
  · simp [Reader.planNodeAvailability, Reader.resolveNode, nodeList, request_bind, h, require,
      availabilityPlan, hversion, run_bind, hnode]
  · simp [Reader.planNodeAvailability, Reader.resolveNode, nodeList, request_bind, h, require,
      availabilityPlan, hversion]

/-- The answer of the label plan about a node. -/
def labelsPlan (d : Docker) (node : Node) (input : NodeLabelPatchRequest) :
    Except EngineError NodeMutationPlan :=
  let labels := patchLabels node.spec.labels input
  if node.version = input.expectedVersion then
    (serviceIDsAffectedByNodeLabels U d.services
      (changedNodeLabelKeys node.spec.labels labels)).map fun serviceIds =>
      { nodeId := node.id
        version := node.version.toNat
        beforeSpecHash := H.node node.spec
        targetSpecHash := H.node { node.spec with labels }
        targetAvailability := node.spec.availability
        affectedServiceIds := serviceIds
        targetLabels := some labels }
  else .error (Reader.versionConflict "node" input.expectedVersion node.version)

theorem run_serviceIDsAffected (changedKeys : List String) :
    (execute (Reader.serviceIDsAffected U changedKeys) d).result =
      serviceIDsAffectedByNodeLabels U d.services changedKeys := by
  unfold Reader.serviceIDsAffected
  split
  next hnone => simp [serviceIDsAffectedByNodeLabels, hnone]
  next => simp [serviceList, request_bind]

theorem run_planNodeLabels (h : findNode d.nodes ref = some node) (input : NodeLabelPatchRequest) :
    (execute (Reader.planNodeLabels H U ref input) d).result = labelsPlan H U d node input := by
  by_cases hversion : node.version = input.expectedVersion
  · have haffected := run_serviceIDsAffected U (d := d)
      (changedNodeLabelKeys node.spec.labels (patchLabels node.spec.labels input))
    simp only [Reader.planNodeLabels, Reader.resolveNode, nodeList, request_bind, run_request,
      Docker.answer_nodeList, wrapped_ok, pure_bind, h, orNotFound_some, require, hversion, if_true,
      run_bind, haffected, labelsPlan, Run.result_after]
    cases serviceIDsAffectedByNodeLabels U d.services
      (changedNodeLabelKeys node.spec.labels (patchLabels node.spec.labels input)) <;> rfl
  · simp [Reader.planNodeLabels, Reader.resolveNode, nodeList, request_bind, h, require,
      labelsPlan, hversion]

/-! ## The mutations -/

/-- The request updates nothing but this node. -/
def DockerOp.UpdatesOnly (nodeId : String) : DockerOp → Prop
  | .nodeUpdate id _ _ => id = nodeId
  | .serviceUpdate _ _ _ _ => False
  | _ => True

theorem uses_of_reads {α : Type} {p : EngineProgram α} (hp : p.Uses DockerOp.Reads)
    {nodeId : String} : p.Uses (DockerOp.UpdatesOnly nodeId) := by
  refine Uses.mono (fun op hop => ?_) hp
  cases op <;> trivial

theorem nodeUpdate_uses {id : String} {version : UInt64} {spec : NodeSpec} {stale failed : String} :
    (nodeUpdate id version spec stale failed).Uses (DockerOp.UpdatesOnly id) := by
  refine ⟨rfl, fun answer => ?_⟩
  match answer with
  | .ok _ => trivial
  | .error (.conflict _) => trivial
  | .error (.other _) => trivial

theorem applyAvailability_uses {cluster : Option String} {node : Node}
    {input : NodeMutationRequest} {target : Availability} :
    (Reader.applyAvailability H cluster node input target).Uses
      (DockerOp.UpdatesOnly node.id) := by
  refine uses_require.bind fun _ => Uses.bind ?_ fun _ => uses_require.bind fun _ =>
    uses_require.bind fun _ => (uses_of_reads requireFinalMutationCluster_reads).bind fun _ =>
    nodeUpdate_uses.bind fun _ => Uses.bind ⟨trivial, uses_wrapped⟩ fun _ => trivial
  split
  · exact (uses_of_reads node_reads).bind fun _ => uses_require
  · trivial

theorem applyLabels_uses {cluster : Option String} {node : Node} {input : NodeMutationRequest} :
    (Reader.applyLabels H U cluster node input).Uses (DockerOp.UpdatesOnly node.id) := by
  exact uses_require.bind fun _ => uses_orNotFound.bind fun _ => uses_require.bind fun _ =>
    (uses_of_reads serviceIDsAffected_reads).bind fun _ => uses_require.bind fun _ =>
    uses_require.bind fun _ =>
    (uses_of_reads requireFinalMutationCluster_reads).bind fun _ =>
    nodeUpdate_uses.bind fun _ => Uses.bind ⟨trivial, uses_wrapped⟩ fun _ => trivial

/-! ## Canonical ids -/

/-- What the Agent answers about the id of a service, when it answers about that service. -/
structure ServiceAnswers (d : Docker) (x : Service) : Prop where
  detail : (execute (Reader.service H x.id) d).result = .ok (serviceDetail H d.tasks x)
  capacity : ∀ input, (execute (Reader.checkServiceCapacity U net x.id input) d).result =
    capacityAnswer U net d x input
  placement : (execute (Reader.checkServicePlacement U net x.id) d).result =
    .ok (evaluateServicePlacement U net x d.nodes d.tasks)

/-- A mutation by reference is the mutation of this node, and updates nothing else. -/
def Mutates (d : Docker) (x : Node)
    (byRef onNode : EngineProgram Control.NodeMutationResponse) : Prop :=
  execute byRef d = (execute onNode d).after [.nodeList] ∧
    ∀ op ∈ (execute byRef d).asked, op.UpdatesOnly x.id

/-- What the Agent answers about the id of a node and does with it, when it takes it for that
node. -/
structure NodeAnswers (d : Docker) (x : Node) : Prop where
  detail : (execute (Reader.node H x.id) d).result = .ok (nodeDetail H d.tasks x)
  planDrain : ∀ version, (execute (Reader.planDrainNode H x.id version) d).result =
    availabilityPlan H d x version .drain
  planActivate : ∀ version, (execute (Reader.planActivateNode H x.id version) d).result =
    availabilityPlan H d x version .active
  planLabels : ∀ input, (execute (Reader.planNodeLabels H U x.id input) d).result =
    labelsPlan H U d x input
  drain : ∀ cluster input, Mutates d x (Reader.drainNode H cluster x.id input)
    (Reader.applyAvailability H cluster x input .drain)
  activate : ∀ cluster input, Mutates d x (Reader.activateNode H cluster x.id input)
    (Reader.applyAvailability H cluster x input .active)
  labels : ∀ cluster input, Mutates d x (Reader.updateNodeLabels H U cluster x.id input)
    (Reader.applyLabels H U cluster x input)

variable {H U net}

theorem serviceAnswers_of_found {x : Service} (h : findService d.services x.id = some x) :
    ServiceAnswers H U net d x :=
  ⟨run_service H h, run_checkServiceCapacity U net h, run_checkServicePlacement U net h⟩

theorem mutates_of_found {x : Node} (h : findNode d.nodes x.id = some x)
    {onNode : Node → EngineProgram Control.NodeMutationResponse}
    (huses : (onNode x).Uses (DockerOp.UpdatesOnly x.id)) :
    Mutates d x ((Reader.resolveNode x.id).bind onNode) (onNode x) := by
  have hrun : execute ((Reader.resolveNode x.id).bind onNode) d =
      (execute (onNode x) d).after [.nodeList] := by
    simp [Reader.resolveNode, nodeList, request_bind, h]
  refine ⟨hrun, fun op hop => ?_⟩
  rw [hrun] at hop
  rcases List.mem_cons.mp hop with rfl | hop
  · trivial
  · exact huses.asked_run _ _ op hop

theorem nodeAnswers_of_found {x : Node} (h : findNode d.nodes x.id = some x) :
    NodeAnswers H U d x where
  detail := by rw [run_node H h]
  planDrain _ := run_planNodeAvailability H h h
  planActivate _ := run_planNodeAvailability H h h
  planLabels := run_planNodeLabels H U h
  drain _ _ := mutates_of_found h (applyAvailability_uses H)
  activate _ _ := mutates_of_found h (applyAvailability_uses H)
  labels _ _ := mutates_of_found h (applyLabels_uses H U)

/-- A canonical id reaches its own object, in the reads, the checks, the plans and the mutations of
the Agent, exactly if no object before it in Docker's list has that id as its name or hostname. -/
theorem canonical_id_resolves_iff (H : Hashes) (U : Unicode) (net : Net) (d : Docker) :
    (∀ before x after, d.services = before ++ x :: after → (d.services.map (·.id)).Nodup →
      (ServiceAnswers H U net d x ↔ Unaliased (·.id) (·.spec.name) before x)) ∧
    (∀ before x after, d.nodes = before ++ x :: after → (d.nodes.map (·.id)).Nodup →
      (NodeAnswers H U d x ↔ Unaliased (·.id) (·.description.hostname) before x)) := by
  constructor
  · intro before x after hlist hids
    rw [hlist] at hids
    rcases findRef_self_or_other (·.spec.name) hids with
      ⟨halias, hself⟩ | ⟨halias, y, hother, hne⟩
    · refine iff_of_true (serviceAnswers_of_found ?_) halias
      rw [hlist]
      exact hself
    · refine iff_of_false (fun hanswers => hne ?_) halias
      have hfound : findService d.services x.id = some y := by rw [hlist]; exact hother
      have hdetail := (run_service H hfound).symm.trans hanswers.detail
      exact congrArg (·.service.id) (Except.ok.inj hdetail)
  · intro before x after hlist hids
    rw [hlist] at hids
    rcases findRef_self_or_other (·.description.hostname) hids with
      ⟨halias, hself⟩ | ⟨halias, y, hother, hne⟩
    · refine iff_of_true (nodeAnswers_of_found ?_) halias
      rw [hlist]
      exact hself
    · refine iff_of_false (fun hanswers => hne ?_) halias
      have hfound : findNode d.nodes x.id = some y := by rw [hlist]; exact hother
      have hdetail := hanswers.detail
      rw [run_node H hfound] at hdetail
      exact congrArg (·.node.id) (Except.ok.inj hdetail)

end

/-- Hashes that tell nothing apart. -/
def blankHashes : Hashes :=
  ⟨fun _ => "", fun _ => "", fun _ => ""⟩

/-- A Swarm with `webService` after another service, of the given name. -/
def twoServices (name : String) : Docker where
  clusterId := "swarm"
  nodeId := "worker"
  services := [{ webService with id := "api", spec := { webService.spec with name } }, webService]
  nodes := [workerNode]
  tasks := [webTask]
  index := 7
  warnings := []

theorem unaliased_web_answers :
    ServiceAnswers blankHashes .ascii noNet (twoServices "api") webService ∧
      NodeAnswers blankHashes .ascii (twoServices "api") workerNode := by
  have hiff := canonical_id_resolves_iff blankHashes .ascii noNet (twoServices "api")
  constructor
  · refine (hiff.1 [{ webService with id := "api", spec := { webService.spec with name := "api" } }]
      webService [] rfl (by decide +kernel)).mpr ?_
    intro y hy
    obtain rfl := List.mem_singleton.mp hy
    decide
  · refine (hiff.2 [] workerNode [] rfl (by decide +kernel)).mpr ?_
    intro y hy
    exact absurd hy List.not_mem_nil

/-- The id `web` reaches the service `api`, which is named `web` and listed first. -/
theorem id_reaches_namesake : ¬ ∀ (H : Hashes) (U : Unicode) (net : Net) (d : Docker),
    (d.services.map (·.id)).Nodup → (d.nodes.map (·.id)).Nodup →
      (∀ x ∈ d.services, ServiceAnswers H U net d x) ∧ ∀ x ∈ d.nodes, NodeAnswers H U d x := by
  intro hclaim
  have hanswers := (hclaim blankHashes .ascii noNet (twoServices "web") (by decide +kernel)
    (by decide +kernel)).1 webService (by decide +kernel)
  have hreached : (execute (Reader.service blankHashes webService.id)
      (twoServices "web")).result.toOption.map (·.service.id) = some "api" := by decide +kernel
  rw [hanswers.detail] at hreached
  exact absurd hreached (by decide +kernel)

end Docklane.Engine
