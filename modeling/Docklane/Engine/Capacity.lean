import Docklane.Engine.Constraints
import Docklane.Numbers.BoundedSums
import Mathlib.Algebra.Order.Group.Int
import Mathlib.Algebra.Ring.Int.Defs

/-!
# The capacity check

`evaluateServiceCapacity` of `dockerengine/capacity.go`: whether the nodes of the Swarm have room
for the replicas that a change of a service adds. The arithmetic is that of the source, on 64 bits
with saturation.

The other side is what the check is for: an assignment of the new replicas to nodes, in whole
numbers without a bound (`Feasible`). The check is exact. It finds as many replicas as can be placed
(`exists_feasible_iff`), and its verdict is wrong in neither direction.
-/

namespace Docklane.Engine

open Control (CapacityStatus)

structure CapacityCheckRequest where
  expectedVersion : UInt64
  targetReplicas : UInt64
  includeUpdateOverlap : Bool
  deriving DecidableEq, Repr

structure CapacityResource where
  nanoCPUs : Int64
  memoryBytes : Int64
  deriving DecidableEq, Repr

structure CapacityNode where
  nodeId : String
  hostname : String
  availableNanoCPUs : Int64
  availableMemoryBytes : Int64
  existingServiceTasks : Nat
  maxAdditionalReplicas : UInt64
  deriving DecidableEq, Repr

structure CapacityCheckResponse where
  serviceId : String
  status : CapacityStatus
  currentReplicas : UInt64
  targetReplicas : UInt64
  updateOverlapReplicas : UInt64
  requiredAdditionalReplicas : UInt64
  schedulableAdditionalReplicas : UInt64
  unplacedReplicas : UInt64
  eligibleNodeCount : Nat
  reservation : CapacityResource
  reasons : List String
  unsupportedConstraints : List String
  nodes : List CapacityNode
  deriving DecidableEq, Repr

/-! ## Arithmetic -/

/-- `math.MaxUint64` -/
def maxUint64 : UInt64 := 18446744073709551615

def saturatingAdd (left right : UInt64) : UInt64 :=
  if maxUint64 - left < right then maxUint64 else left + right

def saturatingInt64Add (left right : Int64) : Int64 :=
  if right > 0 ∧ left > Int64.maxValue - right then Int64.maxValue else left + right

def minUint64 (left right : UInt64) : UInt64 :=
  if left < right then left else right

def clampNonNegative (value : Int64) : Int64 :=
  if value < 0 then 0 else value

def unplacedReplicas (required schedulable : UInt64) : UInt64 :=
  if schedulable ≥ required then 0 else required - schedulable

def slotsForResource (available reservation : Int64) (cap : UInt64) : UInt64 :=
  if reservation ≤ 0 then cap
  else if available ≤ 0 then 0
  else
    let slots := (available / reservation).toUInt64
    if slots > cap then cap else slots

theorem toNat_saturatingAdd (left right : UInt64) :
    (saturatingAdd left right).toNat = min (2 ^ 64 - 1) (left.toNat + right.toNat) := by
  have hmax : maxUint64.toNat = 2 ^ 64 - 1 := rfl
  have hleft := left.toNat_lt
  have hright := right.toNat_lt
  have hsub : (maxUint64 - left).toNat = maxUint64.toNat - left.toNat :=
    UInt64.toNat_sub_of_le _ _ (UInt64.le_iff_toNat_le.mpr (by omega))
  unfold saturatingAdd
  split
  next h =>
    rw [UInt64.lt_iff_toNat_lt, hsub] at h
    omega
  next h =>
    rw [UInt64.lt_iff_toNat_lt, hsub] at h
    rw [UInt64.toNat_add]
    omega

theorem toNat_minUint64 (left right : UInt64) :
    (minUint64 left right).toNat = min left.toNat right.toNat := by
  unfold minUint64
  split
  next h =>
    rw [UInt64.lt_iff_toNat_lt] at h
    omega
  next h =>
    rw [UInt64.lt_iff_toNat_lt] at h
    omega

theorem toNat_unplacedReplicas (required schedulable : UInt64) :
    (unplacedReplicas required schedulable).toNat = required.toNat - schedulable.toNat := by
  unfold unplacedReplicas
  split
  next h =>
    have := UInt64.le_iff_toNat_le.mp h
    simp only [UInt64.toNat_zero]
    omega
  next h =>
    rw [ge_iff_le, UInt64.le_iff_toNat_le] at h
    exact UInt64.toNat_sub_of_le _ _ (UInt64.le_iff_toNat_le.mpr (by omega))

theorem toInt_saturatingInt64Add {left right : Int64} (hleft : 0 ≤ left.toInt)
    (hright : 0 ≤ right.toInt) :
    (saturatingInt64Add left right).toInt = min (2 ^ 63 - 1) (left.toInt + right.toInt) := by
  have hmax := Int64.toInt_maxValue
  have hlt := left.toInt_lt
  have hlt' := right.toInt_lt
  have hsub : (Int64.maxValue - right).toInt = Int64.maxValue.toInt - right.toInt :=
    Int64.toInt_sub_of_le _ _ (Int64.le_iff_toInt_le.mpr hright)
      (Int64.le_iff_toInt_le.mpr (by omega))
  unfold saturatingInt64Add
  split
  next h =>
    rw [gt_iff_lt, gt_iff_lt, Int64.lt_iff_toInt_lt, Int64.lt_iff_toInt_lt, hsub] at h
    omega
  next h =>
    rw [gt_iff_lt, gt_iff_lt, Int64.lt_iff_toInt_lt, Int64.lt_iff_toInt_lt, hsub] at h
    have hzero : (0 : Int64).toInt = 0 := rfl
    rw [Int64.toInt_add, Int.bmod_eq_of_le (by omega) (by omega)]
    omega

/-- What is free of a capacity, when both sides of the difference are not negative. -/
theorem toInt_clampNonNegative_sub {total used : Int64} (htotal : 0 ≤ total.toInt)
    (hused : 0 ≤ used.toInt) :
    (clampNonNegative (total - used)).toInt = max 0 (total.toInt - used.toInt) := by
  have hlt := total.toInt_lt
  have hlt' := used.toInt_lt
  have hsub : (total - used).toInt = total.toInt - used.toInt := by
    rw [Int64.toInt_sub, Int.bmod_eq_of_le (by omega) (by omega)]
  unfold clampNonNegative
  split
  next h =>
    rw [Int64.lt_iff_toInt_lt, hsub, Int64.toInt_zero] at h
    rw [Int64.toInt_zero]
    omega
  next h =>
    rw [Int64.lt_iff_toInt_lt, hsub, Int64.toInt_zero] at h
    omega

variable {k : ℕ} {r : Resource} {node : Node} {required : UInt64}

/-- Within `cap`, the slots are as many as fit into what is available. -/
theorem le_toNat_slotsForResource {available reservation : Int64} (havailable : 0 ≤ available.toInt)
    {cap : UInt64} (hk : k ≤ cap.toNat) :
    k ≤ (slotsForResource available reservation cap).toNat ↔
      (0 < reservation.toInt → k * reservation.toInt ≤ available.toInt) := by
  unfold slotsForResource
  split
  next h =>
    rw [Int64.le_iff_toInt_le, Int64.toInt_zero] at h
    exact ⟨fun _ hpos => absurd hpos (by omega), fun _ => hk⟩
  next h =>
    rw [Int64.le_iff_toInt_le, Int64.toInt_zero, not_le] at h
    split
    next h' =>
      rw [Int64.le_iff_toInt_le, Int64.toInt_zero] at h'
      have hzero : available.toInt = 0 := by omega
      simp only [UInt64.toNat_zero, Nat.le_zero, h, forall_const, hzero]
      constructor
      · rintro rfl
        simp
      · intro hle
        by_contra hne
        exact absurd (Int.mul_pos (Int.natCast_pos.mpr (Nat.pos_of_ne_zero hne)) h) (by omega)
    next h' =>
      have hmin : available ≠ Int64.minValue := by
        rintro rfl
        exact absurd havailable (by decide)
      have hdiv : (available / reservation).toInt = available.toInt / reservation.toInt := by
        rw [Int64.toInt_div_of_ne_left _ _ hmin, Int.tdiv_eq_ediv_of_nonneg havailable]
      have hnonneg : 0 ≤ available.toInt / reservation.toInt := Int.ediv_nonneg havailable h.le
      have hslots : (available / reservation).toUInt64.toNat =
          (available.toInt / reservation.toInt).toNat := by
        rw [Int64.toNat_toUInt64_of_le (Int64.le_iff_toInt_le.mpr (hdiv ▸ hnonneg)), ← hdiv]
        rfl
      have hiff : k ≤ (available.toInt / reservation.toInt).toNat ↔
          k * reservation.toInt ≤ available.toInt := by
        rw [Int.le_toNat hnonneg, Int.le_ediv_iff_mul_le h]
      simp only [h, forall_const, ← hiff, ← hslots]
      split
      next hcap =>
        rw [gt_iff_lt, UInt64.lt_iff_toNat_lt] at hcap
        omega
      next => rfl

/-! ## What the tasks of a node use -/

/-- The two resources that are counted. -/
inductive Resource where
  | nanoCPUs
  | memoryBytes
  deriving DecidableEq, Repr

def Resource.reserved (r : Resource) (resources : Resources) : Int64 :=
  match r with
  | nanoCPUs => resources.nanoCPUs
  | memoryBytes => resources.memoryBytes

def Resource.capacity (r : Resource) (node : Node) : Int64 :=
  match r with
  | nanoCPUs => node.description.nanoCPUs
  | memoryBytes => node.description.memoryBytes

/-- `nodeUsage`. The counter of the tasks does not wrap around, since a slice is shorter than
that. -/
structure NodeUsage where
  nanoCPUs : Int64
  memoryBytes : Int64
  serviceTasks : Nat
  deriving DecidableEq, Repr

def Resource.used (r : Resource) (usage : NodeUsage) : Int64 :=
  match r with
  | nanoCPUs => usage.nanoCPUs
  | memoryBytes => usage.memoryBytes

def countsTowardReplicaLimit : TaskState → Bool
  | .new | .allocated | .pending | .assigned | .accepted | .preparing | .ready | .starting
  | .running | .complete => true
  | _ => false

/-- The usage with one more task. -/
def NodeUsage.count (serviceId : String) (current : NodeUsage) (task : Task) : NodeUsage where
  nanoCPUs :=
    match task.spec.reservations with
    | some reservations => saturatingInt64Add current.nanoCPUs reservations.nanoCPUs
    | none => current.nanoCPUs
  memoryBytes :=
    match task.spec.reservations with
    | some reservations => saturatingInt64Add current.memoryBytes reservations.memoryBytes
    | none => current.memoryBytes
  serviceTasks :=
    if task.serviceId = serviceId ∧ countsTowardReplicaLimit task.desiredState then
      current.serviceTasks + 1
    else current.serviceTasks

/-- The usage by node id. -/
def capacityUsage (tasks : List Task) (serviceId : String) : String → NodeUsage :=
  tasks.foldl
    (fun usage task =>
      if task.nodeId = "" ∨ isTerminalTaskState task.state then usage
      else Function.update usage task.nodeId ((usage task.nodeId).count serviceId task))
    fun _ => ⟨0, 0, 0⟩

/-- The task is on the node and has not ended. -/
def Task.IsOn (task : Task) (nodeId : String) : Prop :=
  task.nodeId ≠ "" ∧ isTerminalTaskState task.state = false ∧ task.nodeId = nodeId

instance (task : Task) (nodeId : String) : Decidable (task.IsOn nodeId) :=
  inferInstanceAs (Decidable (_ ∧ _ ∧ _))

/-- The usage of a node comes from the tasks on it, one after the other. -/
theorem capacityUsage_apply (tasks : List Task) (serviceId nodeId : String) :
    capacityUsage tasks serviceId nodeId =
      (tasks.filter (·.IsOn nodeId)).foldl (NodeUsage.count serviceId) ⟨0, 0, 0⟩ := by
  unfold capacityUsage
  generalize hstart : (fun _ : String => (⟨0, 0, 0⟩ : NodeUsage)) = start
  have hzero : (⟨0, 0, 0⟩ : NodeUsage) = start nodeId := by rw [← hstart]
  rw [hzero]
  clear hstart hzero
  induction tasks generalizing start with
  | nil => rfl
  | cons task tasks ih =>
    rw [List.foldl_cons, ih]
    by_cases hon : task.IsOn nodeId
    · rw [List.filter_cons_of_pos (by simpa using hon), List.foldl_cons]
      obtain ⟨hid, hstate, rfl⟩ := hon
      rw [if_neg (by simp [hid, hstate]), Function.update_self]
    · rw [List.filter_cons_of_neg (by simpa using hon)]
      split
      next => rfl
      next hcounted =>
        have hne : nodeId ≠ task.nodeId := by
          rintro rfl
          exact hon ⟨by tauto, by simpa using fun h => hcounted (.inr h), rfl⟩
        rw [Function.update_of_ne hne]

/-- What a task reserves, in whole numbers. -/
def Task.reserves (r : Resource) (task : Task) : ℤ :=
  task.spec.reservations.elim 0 fun reservations => (r.reserved reservations).toInt

theorem toInt_used_count {usage : NodeUsage} {task : Task} (serviceId : String)
    (husage : 0 ≤ (r.used usage).toInt) (htask : 0 ≤ task.reserves r) :
    (r.used (usage.count serviceId task)).toInt =
      min (2 ^ 63 - 1) ((r.used usage).toInt + task.reserves r) := by
  have hlt := (r.used usage).toInt_lt
  cases hres : task.spec.reservations with
  | none =>
    have hsame : r.used (usage.count serviceId task) = r.used usage := by
      cases r <;> simp [Resource.used, NodeUsage.count, hres]
    rw [hsame, Task.reserves, hres]
    simp only [Option.elim_none]
    omega
  | some reservations =>
    simp only [Task.reserves, hres, Option.elim_some] at htask ⊢
    have hadd : r.used (usage.count serviceId task) =
        saturatingInt64Add (r.used usage) (r.reserved reservations) := by
      cases r <;> simp [Resource.used, Resource.reserved, NodeUsage.count, hres]
    rw [hadd, toInt_saturatingInt64Add husage htask]

theorem toInt_used_foldl_count {serviceId : String} {tasks : List Task}
    (htasks : ∀ task ∈ tasks, 0 ≤ task.reserves r) {usage : NodeUsage}
    (husage : 0 ≤ (r.used usage).toInt) :
    (r.used (tasks.foldl (NodeUsage.count serviceId) usage)).toInt =
      (tasks.map (Task.reserves r)).foldl (fun sum x => min (2 ^ 63 - 1) (sum + x))
        (r.used usage).toInt := by
  induction tasks generalizing usage with
  | nil => rfl
  | cons task tasks ih =>
    have htask := htasks task (by simp)
    have hcount := toInt_used_count serviceId husage htask
    have hnonneg : 0 ≤ (r.used (usage.count serviceId task)).toInt := by omega
    rw [List.foldl_cons, ih (fun t ht => htasks t (by simp [ht])) hnonneg, hcount, List.map_cons,
      List.foldl_cons]

/-- The usage is the true sum of the reservations, cut off at the largest number. -/
theorem toInt_used_capacityUsage {tasks : List Task} (htasks : ∀ task ∈ tasks, 0 ≤ task.reserves r)
    (serviceId nodeId : String) :
    (r.used (capacityUsage tasks serviceId nodeId)).toInt =
      min (2 ^ 63 - 1) ((tasks.filter (·.IsOn nodeId)).map (Task.reserves r)).sum := by
  have hon : ∀ task ∈ tasks.filter (·.IsOn nodeId), 0 ≤ task.reserves r :=
    fun task htask => htasks task (List.mem_of_mem_filter htask)
  have hmap : ∀ x ∈ (tasks.filter (·.IsOn nodeId)).map (Task.reserves r), 0 ≤ x :=
    List.forall_mem_map.mpr hon
  have hzero : (r.used ⟨0, 0, 0⟩).toInt = min (2 ^ 63 - 1) 0 := by cases r <;> rfl
  rw [capacityUsage_apply, toInt_used_foldl_count hon (by cases r <;> decide), hzero,
    BoundedSums.foldl_min_add hmap, zero_add]

/-- The tasks of the service on a node that count toward its limit. -/
def Task.countsFor (serviceId : String) (task : Task) : Bool :=
  task.serviceId = serviceId && countsTowardReplicaLimit task.desiredState

theorem serviceTasks_capacityUsage {tasks : List Task} {serviceId nodeId : String} :
    (capacityUsage tasks serviceId nodeId).serviceTasks =
      (tasks.filter (·.IsOn nodeId)).countP (Task.countsFor serviceId) := by
  have hfold : ∀ (l : List Task) (usage : NodeUsage),
      (l.foldl (NodeUsage.count serviceId) usage).serviceTasks =
        usage.serviceTasks + l.countP (Task.countsFor serviceId) := by
    intro l
    induction l with
    | nil => simp
    | cons task l ih =>
      intro usage
      rw [List.foldl_cons, ih, List.countP_cons]
      by_cases h : task.serviceId = serviceId ∧ countsTowardReplicaLimit task.desiredState = true
      · simp [NodeUsage.count, Task.countsFor, h]
        omega
      · have hc : Task.countsFor serviceId task = false := by simpa [Task.countsFor] using h
        simp [NodeUsage.count, h, hc]
  rw [capacityUsage_apply, hfold, Nat.zero_add]

/-! ## The check -/

section

variable (U : Unicode) (net : Net)

def updateOverlapReplicas (service : Service) (targetReplicas : UInt64) (includeOverlap : Bool) :
    UInt64 :=
  match service.spec.updateConfig with
  | none => 0
  | some config =>
    if includeOverlap = false ∨ targetReplicas = 0 ∨ config.order ≠ .startFirst then 0
    else if config.parallelism = 0 ∨ config.parallelism > targetReplicas then targetReplicas
    else config.parallelism

/-- The reservations of the service, all zero where it has none. -/
def reservationsOf (service : Service) : Resources :=
  service.spec.taskTemplate.reservations.getD ⟨0, 0, []⟩

/-- `placement.MaxReplicas`, where zero is no limit. -/
def maxReplicasOf (service : Service) : UInt64 :=
  service.spec.taskTemplate.placement.elim 0 (·.maxReplicas)

/-- The node takes part in the loop. -/
def eligibleNode (service : Service) (node : Node) : Bool :=
  node.state = .ready && node.spec.availability = .active &&
    matchesPlatforms U node (platformsOf service.spec.taskTemplate.placement) &&
    matchesConstraints U net node
      (parseCapacityConstraints U service.spec.taskTemplate.placement).1

/-- What the loop finds for one eligible node. -/
def capacityNode (service : Service) (required : UInt64) (usage : String → NodeUsage)
    (node : Node) : CapacityNode :=
  let reservations := reservationsOf service
  let maxReplicas := maxReplicasOf service
  let nodeUsage := usage node.id
  let availableCPU := clampNonNegative (node.description.nanoCPUs - nodeUsage.nanoCPUs)
  let availableMemory := clampNonNegative (node.description.memoryBytes - nodeUsage.memoryBytes)
  let slots := minUint64
    (minUint64 required (slotsForResource availableCPU reservations.nanoCPUs required))
    (slotsForResource availableMemory reservations.memoryBytes required)
  let capacity :=
    if maxReplicas > 0 then
      minUint64 slots <|
        if nodeUsage.serviceTasks < maxReplicas.toNat then
          maxReplicas - UInt64.ofNat nodeUsage.serviceTasks
        else 0
    else slots
  { nodeId := node.id
    hostname := node.description.hostname
    availableNanoCPUs := availableCPU
    availableMemoryBytes := availableMemory
    existingServiceTasks := nodeUsage.serviceTasks
    maxAdditionalReplicas := capacity }

/-- The sum of the loop, which does not go beyond what is required. -/
def addSchedulable (required schedulable : UInt64) (node : CapacityNode) : UInt64 :=
  let sum := saturatingAdd schedulable node.maxAdditionalReplicas
  if sum > required then required else sum

/-- The response when the loop is done, up to the verdict. -/
def capacityFindings (service : Service) (nodes : List Node) (tasks : List Task)
    (response : CapacityCheckResponse) : CapacityCheckResponse :=
  let required := response.requiredAdditionalReplicas
  let found := (nodes.filter (eligibleNode U net service)).map
    (capacityNode service required (capacityUsage tasks service.id))
  { response with
    unsupportedConstraints := (parseCapacityConstraints U service.spec.taskTemplate.placement).2
    nodes := found
    schedulableAdditionalReplicas := found.foldl (addSchedulable required) 0
    eligibleNodeCount := found.length }

/-- The verdict on what the loop has found. -/
def capacityVerdict (service : Service) (response : CapacityCheckResponse) :
    CapacityCheckResponse :=
  let reservations := reservationsOf service
  let required := response.requiredAdditionalReplicas
  let schedulable := response.schedulableAdditionalReplicas
  let unplaced := unplacedReplicas required schedulable
  if response.eligibleNodeCount = 0 then
    { response with
      status := .INSUFFICIENT, unplacedReplicas := required, reasons := ["NO_ELIGIBLE_NODES"] }
  else if response.unsupportedConstraints ≠ [] then
    { response with
      unplacedReplicas := unplaced, reasons := ["UNSUPPORTED_PLACEMENT_CONSTRAINT"] }
  else if reservations.genericResources ≠ [] then
    { response with
      unplacedReplicas := unplaced, reasons := ["GENERIC_RESOURCE_RESERVATION_UNSUPPORTED"] }
  else if reservations.nanoCPUs = 0 ∧ reservations.memoryBytes = 0 then
    if maxReplicasOf service > 0 ∧ schedulable < required then
      { response with
        status := .INSUFFICIENT, unplacedReplicas := unplaced
        reasons := ["MAX_REPLICAS_PER_NODE_LIMIT"] }
    else
      { response with unplacedReplicas := unplaced, reasons := ["NO_CPU_OR_MEMORY_RESERVATION"] }
  else if unplaced > 0 then
    { response with
      status := .INSUFFICIENT, unplacedReplicas := unplaced
      reasons := ["INSUFFICIENT_ELIGIBLE_CAPACITY"] }
  else { response with status := .SUFFICIENT, unplacedReplicas := unplaced }

/-- The response with nothing found out yet. -/
def emptyResponse (service : Service) (input : CapacityCheckRequest) : CapacityCheckResponse where
  serviceId := service.id
  status := .UNKNOWN
  currentReplicas := 0
  targetReplicas := input.targetReplicas
  updateOverlapReplicas := 0
  requiredAdditionalReplicas := 0
  schedulableAdditionalReplicas := 0
  unplacedReplicas := 0
  eligibleNodeCount := 0
  reservation := ⟨0, 0⟩
  reasons := []
  unsupportedConstraints := []
  nodes := []

/-- The response with what a replicated service requires. -/
def requirement (service : Service) (replicas : Option UInt64) (input : CapacityCheckRequest) :
    CapacityCheckResponse :=
  let currentReplicas := replicas.getD 0
  let additional :=
    if input.targetReplicas > currentReplicas then input.targetReplicas - currentReplicas else 0
  let overlap := updateOverlapReplicas service input.targetReplicas input.includeUpdateOverlap
  let reservations := reservationsOf service
  { emptyResponse service input with
    currentReplicas, updateOverlapReplicas := overlap
    requiredAdditionalReplicas := saturatingAdd additional overlap
    reservation := ⟨reservations.nanoCPUs, reservations.memoryBytes⟩ }

def evaluateServiceCapacity (service : Service) (nodes : List Node) (tasks : List Task)
    (input : CapacityCheckRequest) : CapacityCheckResponse :=
  match service.spec.mode with
  | .replicated replicas =>
    let response := requirement service replicas input
    if response.requiredAdditionalReplicas = 0 then { response with status := .SUFFICIENT }
    else capacityVerdict service (capacityFindings U net service nodes tasks response)
  | _ => { emptyResponse service input with reasons := ["SERVICE_MODE_NOT_REPLICATED"] }

/-! ## What the check is for -/

/-- The true amount that the tasks on a node reserve. -/
def reservedOn (r : Resource) (tasks : List Task) (node : Node) : ℤ :=
  ((tasks.filter (·.IsOn node.id)).map (Task.reserves r)).sum

/-- How many tasks of the service a node has already. -/
def existingReplicas (service : Service) (tasks : List Task) (node : Node) : ℕ :=
  (tasks.filter (·.IsOn node.id)).countP (Task.countsFor service.id)

/-- A node can take `k` more replicas of a service. -/
structure Takes (service : Service) (tasks : List Task) (node : Node) (k : ℕ) : Prop where
  ready : node.state = .ready
  active : node.spec.availability = .active
  platforms : matchesPlatforms U node (platformsOf service.spec.taskTemplate.placement) = true
  constraints : ∀ constraint ∈ (parseCapacityConstraints U service.spec.taskTemplate.placement).1,
    constraintMatchesNode U net constraint node = true
  fits : ∀ r : Resource, 0 < (r.reserved (reservationsOf service)).toInt →
    k * (r.reserved (reservationsOf service)).toInt ≤
      (r.capacity node).toInt - reservedOn r tasks node
  limit : 0 < maxReplicasOf service →
    k + existingReplicas service tasks node ≤ (maxReplicasOf service).toNat

/-- Every node can take the replicas that are assigned to it. -/
def Feasible (service : Service) (nodes : List Node) (tasks : List Task) (a : String → ℕ) : Prop :=
  ∀ node ∈ nodes, 0 < a node.id → Takes U net service tasks node (a node.id)

/-- All the replicas that are assigned. -/
def assigned (nodes : List Node) (a : String → ℕ) : ℕ :=
  (nodes.map fun node => a node.id).sum

variable {U net} {service : Service} {nodes : List Node} {tasks : List Task}

theorem eligibleNode_iff : eligibleNode U net service node = true ↔
    node.state = .ready ∧ node.spec.availability = .active ∧
      matchesPlatforms U node (platformsOf service.spec.taskTemplate.placement) = true ∧
      ∀ constraint ∈ (parseCapacityConstraints U service.spec.taskTemplate.placement).1,
        constraintMatchesNode U net constraint node = true := by
  simp [eligibleNode, matchesConstraints, and_assoc]

variable (service tasks) in
/-- The slots that the loop computes for one resource. -/
def slotsOn (required : UInt64) (node : Node) (r : Resource) : UInt64 :=
  slotsForResource
    (clampNonNegative (r.capacity node - r.used (capacityUsage tasks service.id node.id)))
    (r.reserved (reservationsOf service)) required

/-- The slots are the replicas that fit into what a resource of a node has left. -/
theorem le_slotsOn_iff (hnode : 0 ≤ (r.capacity node).toInt)
    (htasks : ∀ task ∈ tasks, 0 ≤ task.reserves r) (hk : k ≤ required.toNat) (hpos : 0 < k) :
    k ≤ (slotsOn service tasks required node r).toNat ↔
      (0 < (r.reserved (reservationsOf service)).toInt →
        k * (r.reserved (reservationsOf service)).toInt ≤
          (r.capacity node).toInt - reservedOn r tasks node) := by
  have hused := toInt_used_capacityUsage htasks service.id node.id
  change _ = min (2 ^ 63 - 1) (reservedOn r tasks node) at hused
  have hsum : 0 ≤ reservedOn r tasks node := by
    refine List.sum_nonneg (List.forall_mem_map.mpr fun task htask => ?_)
    exact htasks task (List.mem_of_mem_filter htask)
  have hnonneg : 0 ≤ (r.used (capacityUsage tasks service.id node.id)).toInt := by omega
  have havailable := toInt_clampNonNegative_sub hnode hnonneg
  have hlt := (r.capacity node).toInt_lt
  rw [slotsOn, le_toNat_slotsForResource (by omega) hk, havailable, hused]
  -- a usage that was cut off leaves nothing, and neither does the true sum
  refine imp_congr_right fun hres => ?_
  have hmul : 0 < k * (r.reserved (reservationsOf service)).toInt :=
    Int.mul_pos (Int.natCast_pos.mpr hpos) hres
  omega

theorem le_remaining_iff {maxReplicas : UInt64} {existing k : ℕ} (hpos : 0 < k) :
    k ≤ (if existing < maxReplicas.toNat then maxReplicas - UInt64.ofNat existing else 0).toNat ↔
      k + existing ≤ maxReplicas.toNat := by
  have hlt := maxReplicas.toNat_lt
  split
  next h =>
    have hexisting : (UInt64.ofNat existing).toNat = existing :=
      UInt64.toNat_ofNat_of_lt' (h.trans hlt)
    rw [UInt64.toNat_sub_of_le _ _ (UInt64.le_iff_toNat_le.mpr (by omega)), hexisting]
    omega
  next h =>
    rw [UInt64.toNat_zero]
    omega

/-- The numbers that the source takes to be not negative. -/
structure NonNegative (nodes : List Node) (tasks : List Task) : Prop where
  nodes : ∀ node ∈ nodes, ∀ r : Resource, 0 ≤ (r.capacity node).toInt
  tasks : ∀ task ∈ tasks, ∀ r : Resource, 0 ≤ task.reserves r

variable (U net service tasks) in
/-- The room that the check finds on a node. -/
def roomOf (required : UInt64) (node : Node) : ℕ :=
  if eligibleNode U net service node then
    (capacityNode service required (capacityUsage tasks service.id)
      node).maxAdditionalReplicas.toNat
  else 0

/-- The room of an eligible node is bounded by its resources and by the limit, and by nothing
else. -/
theorem le_maxAdditionalReplicas_iff (hpos : 0 < k) :
    k ≤ (capacityNode service required
        (capacityUsage tasks service.id) node).maxAdditionalReplicas.toNat ↔
      k ≤ required.toNat ∧ (∀ r, k ≤ (slotsOn service tasks required node r).toNat) ∧
        (0 < maxReplicasOf service →
          k + existingReplicas service tasks node ≤ (maxReplicasOf service).toNat) := by
  have hslots : (∀ r, k ≤ (slotsOn service tasks required node r).toNat) ↔
      k ≤ (slotsOn service tasks required node .nanoCPUs).toNat ∧
        k ≤ (slotsOn service tasks required node .memoryBytes).toNat :=
    ⟨fun h => ⟨h _, h _⟩, fun h r => by cases r with
      | nanoCPUs => exact h.1
      | memoryBytes => exact h.2⟩
  have hboth : k ≤ (minUint64 (minUint64 required (slotsOn service tasks required node .nanoCPUs))
        (slotsOn service tasks required node .memoryBytes)).toNat ↔
      k ≤ required.toNat ∧ ∀ r, k ≤ (slotsOn service tasks required node r).toNat := by
    rw [toNat_minUint64, toNat_minUint64, le_min_iff, le_min_iff, and_assoc, hslots]
  have hexisting : (capacityUsage tasks service.id node.id).serviceTasks =
      existingReplicas service tasks node := serviceTasks_capacityUsage
  change k ≤ (ite (maxReplicasOf service > 0) (minUint64 (minUint64 (minUint64 required
    (slotsOn service tasks required node .nanoCPUs)) (slotsOn service tasks required node
    .memoryBytes)) _) _).toNat ↔ _
  rw [hexisting, ← and_assoc, ← hboth]
  split
  next hlimit =>
    rw [toNat_minUint64, le_min_iff, le_remaining_iff hpos]
    simp [hlimit]
  next hlimit => exact ⟨fun h => ⟨h, fun hpos => absurd hpos hlimit⟩, And.left⟩

theorem le_roomOf_iff (h : NonNegative nodes tasks) (hnode : node ∈ nodes)
    (hk : k ≤ required.toNat) :
    k ≤ roomOf U net service tasks required node ↔
      (0 < k → Takes U net service tasks node k) := by
  rcases Nat.eq_zero_or_pos k with rfl | hpos
  · simp
  simp only [hpos, forall_const]
  by_cases helig : eligibleNode U net service node = true
  · have hfits : (∀ r, k ≤ (slotsOn service tasks required node r).toNat) ↔ _ :=
      forall_congr' fun r =>
        le_slotsOn_iff (h.nodes node hnode r) (fun task ht => h.tasks task ht r) hk hpos
    rw [roomOf, if_pos helig, le_maxAdditionalReplicas_iff hpos, hfits]
    obtain ⟨hready, hactive, hplatforms, hconstraints⟩ := eligibleNode_iff.mp helig
    exact ⟨fun ⟨_, hf, hl⟩ => ⟨hready, hactive, hplatforms, hconstraints, hf, hl⟩,
      fun htakes => ⟨hk, htakes.fits, htakes.limit⟩⟩
  · rw [roomOf, if_neg helig]
    refine iff_of_false (by omega) fun htakes => helig ?_
    exact eligibleNode_iff.mpr ⟨htakes.ready, htakes.active, htakes.platforms, htakes.constraints⟩

/-! ## The sum of the loop -/

theorem toNat_addSchedulable (required schedulable : UInt64) (node : CapacityNode) :
    (addSchedulable required schedulable node).toNat =
      min required.toNat (schedulable.toNat + node.maxAdditionalReplicas.toNat) := by
  have hsum := toNat_saturatingAdd schedulable node.maxAdditionalReplicas
  have hrequired := required.toNat_lt
  simp only [addSchedulable, gt_iff_lt, UInt64.lt_iff_toNat_lt]
  split <;> omega

variable (U net service nodes tasks) in
/-- The replicas that the check finds a place for. -/
def schedulable (required : UInt64) : UInt64 :=
  ((nodes.filter (eligibleNode U net service)).map
    (capacityNode service required (capacityUsage tasks service.id))).foldl
      (addSchedulable required) 0

theorem toNat_schedulable (required : UInt64) :
    (schedulable U net service nodes tasks required).toNat =
      min required.toNat ((nodes.map (roomOf U net service tasks required)).sum) := by
  have hfold : ∀ (found : List CapacityNode) (start : UInt64),
      (found.foldl (addSchedulable required) start).toNat =
        (found.map (·.maxAdditionalReplicas.toNat)).foldl
          (fun sum x => min required.toNat (sum + x)) start.toNat := by
    intro found
    induction found with
    | nil => intro start; rfl
    | cons node found ih =>
      intro start
      rw [List.foldl_cons, ih, toNat_addSchedulable, List.map_cons, List.foldl_cons]
  have hrooms : ((nodes.filter (eligibleNode U net service)).map fun node =>
      (capacityNode service required
        (capacityUsage tasks service.id) node).maxAdditionalReplicas.toNat).sum =
        (nodes.map (roomOf U net service tasks required)).sum := by
    unfold roomOf
    rw [List.sum_map_ite]
    simp
  have hzero : (0 : UInt64).toNat = min required.toNat 0 := by simp
  rw [schedulable, hfold, hzero, BoundedSums.foldl_min_add (by simp), List.map_map, zero_add]
  exact congrArg _ hrooms

/-- The check finds exactly as many places as an assignment can use. -/
theorem exists_feasible_iff (hids : (nodes.map (·.id)).Nodup) (h : NonNegative nodes tasks)
    {total : ℕ} (htotal : total ≤ required.toNat) :
    (∃ a, Feasible U net service nodes tasks a ∧ assigned nodes a = total) ↔
      total ≤ (schedulable U net service nodes tasks required).toNat := by
  rw [toNat_schedulable, le_min_iff]
  constructor
  · rintro ⟨a, hfeasible, rfl⟩
    refine ⟨htotal, List.sum_le_sum fun node hnode => ?_⟩
    have hle : a node.id ≤ assigned nodes a :=
      List.single_le_sum (by simp) _ (List.mem_map_of_mem hnode)
    exact (le_roomOf_iff h hnode (hle.trans htotal)).mpr (hfeasible node hnode)
  · rintro ⟨-, hle⟩
    obtain ⟨a, hroom, hsum⟩ := BoundedSums.exists_shares hids hle
    refine ⟨a, fun node hnode => ?_, hsum⟩
    have hle : a node.id ≤ assigned nodes a :=
      List.single_le_sum (by simp) _ (List.mem_map_of_mem hnode)
    refine (le_roomOf_iff h hnode ?_).mp (hroom node hnode)
    exact hle.trans (hsum.trans_le htotal)

/-! ## The verdict -/

/-- The increase of the replicas together with the overlap of a start-first update. -/
def requiredReplicas (service : Service) (current : UInt64) (input : CapacityCheckRequest) : ℕ :=
  (input.targetReplicas.toNat - current.toNat) +
    (updateOverlapReplicas service input.targetReplicas input.includeUpdateOverlap).toNat

/-- The service reserves neither CPU nor memory. -/
def ReservesNothing (service : Service) : Prop :=
  ∀ r : Resource, r.reserved (reservationsOf service) = 0

/-- What is not decided: there is a node for the service, but a part of its placement or of its
reservations is not understood, or it reserves nothing and no limit stands in the way. -/
def Undecided (U : Unicode) (net : Net) (service : Service) (nodes : List Node) (tasks : List Task)
    (total : ℕ) : Prop :=
  (∃ node ∈ nodes, eligibleNode U net service node = true) ∧
    ((parseCapacityConstraints U service.spec.taskTemplate.placement).2 ≠ [] ∨
      (reservationsOf service).genericResources ≠ [] ∨
      ReservesNothing service ∧ (maxReplicasOf service = 0 ∨
        ∃ a, Feasible U net service nodes tasks a ∧ assigned nodes a = total))

theorem reservesNothing_iff : ReservesNothing service ↔
    (reservationsOf service).nanoCPUs = 0 ∧ (reservationsOf service).memoryBytes = 0 :=
  ⟨fun h => ⟨h .nanoCPUs, h .memoryBytes⟩, fun h r => by
    cases r with
    | nanoCPUs => exact h.1
    | memoryBytes => exact h.2⟩

variable (service) in
/-- The verdict, in terms of what the loop has found. -/
theorem status_capacityVerdict (response : CapacityCheckResponse)
    (hunknown : response.status = .UNKNOWN) :
    ((capacityVerdict service response).status = .INSUFFICIENT →
      response.eligibleNodeCount = 0 ∨
        response.schedulableAdditionalReplicas < response.requiredAdditionalReplicas) ∧
    ((capacityVerdict service response).status = .SUFFICIENT →
      ¬ response.schedulableAdditionalReplicas < response.requiredAdditionalReplicas) ∧
    ((capacityVerdict service response).status = .UNKNOWN ↔
      response.eligibleNodeCount ≠ 0 ∧
        (response.unsupportedConstraints ≠ [] ∨ (reservationsOf service).genericResources ≠ [] ∨
          ReservesNothing service ∧ (maxReplicasOf service = 0 ∨
            ¬ response.schedulableAdditionalReplicas < response.requiredAdditionalReplicas))) := by
  have hunplaced : unplacedReplicas response.requiredAdditionalReplicas
      response.schedulableAdditionalReplicas > 0 ↔
        response.schedulableAdditionalReplicas < response.requiredAdditionalReplicas := by
    rw [gt_iff_lt, UInt64.lt_iff_toNat_lt, toNat_unplacedReplicas, UInt64.lt_iff_toNat_lt,
      UInt64.toNat_zero]
    omega
  have hlimit : maxReplicasOf service > 0 ↔ maxReplicasOf service ≠ 0 := UInt64.pos_iff_ne_zero
  rw [reservesNothing_iff]
  simp only [capacityVerdict, hunplaced, hlimit]
  split
  next hnone => simp [hnone]
  next hsome =>
    split
    next hunsupported => simp [hunknown, hsome, hunsupported]
    next hsupported =>
      split
      next hgeneric => simp [hunknown, hsome, hgeneric]
      next hplain =>
        rw [not_not] at hsupported hplain
        split
        next hnothing =>
          split
          next hshort => simp [hsupported, hplain, hshort]
          next hplaced =>
            rw [not_and_or, not_not, UInt64.not_lt] at hplaced
            simp [hunknown, hsome, hnothing, hplaced]
        next hreserves =>
          split
          next hshort => simp [hsupported, hplain, hreserves, hshort]
          next hplaced => simp [hsupported, hplain, hreserves, hplaced]

theorem toNat_requirement (service : Service) (replicas : Option UInt64)
    (input : CapacityCheckRequest) :
    (requirement service replicas input).requiredAdditionalReplicas.toNat =
      min (2 ^ 64 - 1) (requiredReplicas service (replicas.getD 0) input) := by
  have hadditional : (if input.targetReplicas > replicas.getD 0 then
      input.targetReplicas - replicas.getD 0 else 0).toNat =
        input.targetReplicas.toNat - (replicas.getD 0).toNat := by
    split
    next h =>
      exact UInt64.toNat_sub_of_le _ _ (UInt64.le_iff_toNat_le.mpr (UInt64.lt_iff_toNat_lt.mp h).le)
    next h =>
      rw [gt_iff_lt, UInt64.lt_iff_toNat_lt] at h
      rw [UInt64.toNat_zero]
      omega
  simp only [requirement, toNat_saturatingAdd, hadditional, requiredReplicas]

@[simp] theorem requiredAdditionalReplicas_capacityVerdict (response : CapacityCheckResponse) :
    (capacityVerdict service response).requiredAdditionalReplicas =
      response.requiredAdditionalReplicas := by
  simp only [capacityVerdict]
  split_ifs <;> rfl

@[simp] theorem schedulableAdditionalReplicas_capacityVerdict (response : CapacityCheckResponse) :
    (capacityVerdict service response).schedulableAdditionalReplicas =
      response.schedulableAdditionalReplicas := by
  simp only [capacityVerdict]
  split_ifs <;> rfl

theorem schedulable_eq_zero (hnone : (nodes.filter (eligibleNode U net service)).length = 0) :
    schedulable U net service nodes tasks required = 0 := by
  rw [schedulable, List.length_eq_zero_iff.mp hnone]
  rfl

theorem length_filter_ne_zero {p : Node → Bool} :
    (nodes.filter p).length ≠ 0 ↔ ∃ node ∈ nodes, p node = true := by
  rw [← Nat.pos_iff_ne_zero, List.length_filter_pos_iff]

variable (U net service) in
/-- The verdict on what the loop has found is exact. -/
theorem verdict_capacityFindings (hids : (nodes.map (·.id)).Nodup) (h : NonNegative nodes tasks)
    {response : CapacityCheckResponse} (hunknown : response.status = .UNKNOWN)
    (hrequired : response.requiredAdditionalReplicas ≠ 0) : let status := (capacityVerdict service
      (capacityFindings U net service nodes tasks response)).status
    let required := response.requiredAdditionalReplicas.toNat
    (status = .INSUFFICIENT →
      ¬ ∃ a, Feasible U net service nodes tasks a ∧ assigned nodes a = required) ∧
    (status = .SUFFICIENT →
      ∃ a, Feasible U net service nodes tasks a ∧ assigned nodes a = required) ∧
    (status = .UNKNOWN ↔ Undecided U net service nodes tasks required) := by
  intro status required
  have hplaced : (∃ a, Feasible U net service nodes tasks a ∧ assigned nodes a = required) ↔
      ¬ schedulable U net service nodes tasks response.requiredAdditionalReplicas <
        response.requiredAdditionalReplicas := by
    rw [exists_feasible_iff hids h le_rfl, UInt64.lt_iff_toNat_lt, not_lt]
  have hcount : (capacityFindings U net service nodes tasks response).eligibleNodeCount =
      (nodes.filter (eligibleNode U net service)).length := List.length_map _
  obtain ⟨hinsufficient, hsufficient, hundecided⟩ := status_capacityVerdict service
    (capacityFindings U net service nodes tasks response) hunknown
  rw [hcount] at hinsufficient hundecided
  refine ⟨fun hs => ?_, fun hs => hplaced.mpr (hsufficient hs), hundecided.trans ?_⟩
  · rw [hplaced, not_not]
    rcases hinsufficient hs with hnone | hshort
    · rw [schedulable_eq_zero hnone]
      exact UInt64.pos_iff_ne_zero.mpr hrequired
    · exact hshort
  · rw [length_filter_ne_zero, Undecided, hplaced]
    rfl

end

/-! A service that reserves one CPU per replica, on one node with four. -/

def webService : Service where
  id := "web"
  version := 7
  spec :=
    { name := "web-frontend"
      taskTemplate :=
        { containerSpec := some ⟨"web:1", ""⟩
          reservations := some ⟨1000000000, 0, []⟩
          placement := some ⟨["node.role == worker"], [], 3, []⟩
          forceUpdate := 0
          runtime := ""
          rest := "" }
      mode := .replicated (some 1)
      updateConfig := none
      rest := "" }
  previousSpec := none
  updateStatus := none
  serviceStatus := none

def workerNode : Node where
  id := "worker"
  version := 2
  spec := ⟨[], "worker", .active, ""⟩
  description := ⟨"worker-1", ⟨"x86_64", "linux"⟩, 4000000000, 0, []⟩
  state := .ready
  addr := "10.0.0.2"

def webTask : Task where
  id := "web.1"
  serviceId := "web"
  nodeId := "worker"
  slot := 1
  spec := webService.spec.taskTemplate
  state := .running
  desiredState := .running

/-- A `net` package that reads no address. -/
def noNet : Net :=
  ⟨fun _ => none, fun _ => none⟩

end Docklane.Engine
