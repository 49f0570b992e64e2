import Docklane.Engine.Constraints

/-!
# The placement check

`evaluateServicePlacement` of `dockerengine/placement.go`: whether the running tasks of a service
are as many as they should be and where they may be.
-/

namespace Docklane.Engine

open Control (PlacementStatus)

structure PlacementViolation where
  taskId : String
  nodeId : String
  reason : String
  deriving DecidableEq, Repr

structure ServicePlacementResponse where
  serviceId : String
  status : PlacementStatus
  desiredReplicas : UInt64
  runningReplicas : Nat
  reasons : List String
  unsupportedConstraints : List String
  violations : List PlacementViolation
  deriving DecidableEq, Repr

/-- `nodeByID[id]`: the last node with this id. -/
def nodeById (nodes : List Node) (id : String) : Option Node :=
  nodes.reverse.find? (·.id = id)

/-- The tasks that the check looks at. -/
def runningTasks (service : Service) (tasks : List Task) : List Task :=
  tasks.filter fun task => task.serviceId = service.id && task.state = .running

section

variable (U : Unicode) (net : Net)

/-- What is wrong with the place of a running task. -/
def placementViolation (service : Service) (nodes : List Node) (task : Task) :
    Option PlacementViolation :=
  let placement := service.spec.taskTemplate.placement
  match nodeById nodes task.nodeId with
  | none => some ⟨task.id, task.nodeId, "NODE_NOT_FOUND"⟩
  | some node =>
    if matchesPlatforms U node (platformsOf placement) = false then
      some ⟨task.id, task.nodeId, "PLATFORM_MISMATCH"⟩
    else if matchesConstraints U net node (parseCapacityConstraints U placement).1 = false then
      some ⟨task.id, task.nodeId, "PLACEMENT_CONSTRAINT_MISMATCH"⟩
    else none

def evaluateServicePlacement (service : Service) (nodes : List Node) (tasks : List Task) :
    ServicePlacementResponse :=
  match service.spec.mode with
  | .replicated replicas =>
    let desired := replicas.getD 0
    let unsupported := (parseCapacityConstraints U service.spec.taskTemplate.placement).2
    if unsupported ≠ [] then
      { serviceId := service.id, status := .UNKNOWN, desiredReplicas := desired
        runningReplicas := 0, reasons := ["UNSUPPORTED_PLACEMENT_CONSTRAINT"]
        unsupportedConstraints := unsupported, violations := [] }
    else
      let running := runningTasks service tasks
      let violations := running.filterMap (placementViolation U net service nodes)
      let reasons :=
        (if running.length ≠ desired.toNat then ["REPLICA_CONVERGENCE_PENDING"] else []) ++
          if violations ≠ [] then ["PLACEMENT_CONVERGENCE_PENDING"] else []
      { serviceId := service.id, status := if reasons = [] then .CONVERGED else .PENDING
        desiredReplicas := desired, runningReplicas := running.length, reasons
        unsupportedConstraints := [], violations }
  | _ =>
    { serviceId := service.id, status := .UNKNOWN, desiredReplicas := 0, runningReplicas := 0
      reasons := ["SERVICE_MODE_NOT_REPLICATED"], unsupportedConstraints := [], violations := [] }

/-- The running tasks of a service are as many as it wants, and each is on a listed node that
matches its platforms and all of its constraints. -/
structure Placed (service : Service) (nodes : List Node) (tasks : List Task) : Prop where
  replicated : ∃ replicas, service.spec.mode = .replicated replicas ∧
    (runningTasks service tasks).length = (replicas.getD 0).toNat
  supported : (parseCapacityConstraints U service.spec.taskTemplate.placement).2 = []
  places : ∀ task ∈ runningTasks service tasks, ∃ node ∈ nodes, node.id = task.nodeId ∧
    matchesPlatforms U node (platformsOf service.spec.taskTemplate.placement) = true ∧
    ∀ constraint ∈ (parseCapacityConstraints U service.spec.taskTemplate.placement).1,
      constraintMatchesNode U net constraint node = true

variable {U net} {service : Service} {nodes : List Node} {tasks : List Task}

theorem placementViolation_eq_none {task : Task}
    (h : placementViolation U net service nodes task = none) :
    ∃ node ∈ nodes, node.id = task.nodeId ∧
      matchesPlatforms U node (platformsOf service.spec.taskTemplate.placement) = true ∧
      ∀ constraint ∈ (parseCapacityConstraints U service.spec.taskTemplate.placement).1,
        constraintMatchesNode U net constraint node = true := by
  simp only [placementViolation] at h
  split at h
  next => cases h
  next node hnode =>
    split at h
    next => cases h
    next hplatforms =>
      split at h
      next => cases h
      next hconstraints =>
        have hmem := List.mem_of_find?_eq_some hnode
        have hid := List.find?_some hnode
        rw [Bool.not_eq_false, matchesConstraints, List.all_eq_true] at hconstraints
        exact ⟨node, List.mem_reverse.mp hmem, by simpa using hid, by simpa using hplatforms,
          hconstraints⟩

/-- The check says `CONVERGED` only of a service that is where it should be. -/
theorem placed_of_converged
    (h : (evaluateServicePlacement U net service nodes tasks).status = .CONVERGED) :
    Placed U net service nodes tasks := by
  unfold evaluateServicePlacement at h
  split at h
  next replicas hmode =>
    dsimp only at h
    split at h
    next => cases h
    next hsupported =>
      rw [not_not] at hsupported
      by_cases hcount : (runningTasks service tasks).length = (replicas.getD 0).toNat
      · by_cases hviolations :
            (runningTasks service tasks).filterMap (placementViolation U net service nodes) = []
        · refine ⟨⟨replicas, hmode, hcount⟩, hsupported, fun task htask => ?_⟩
          exact placementViolation_eq_none (List.filterMap_eq_nil_iff.mp hviolations task htask)
        · simp [hcount, hviolations] at h
      · simp [hcount] at h
  next => cases h

end

end Docklane.Engine
