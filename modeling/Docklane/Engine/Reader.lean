import Docklane.Engine.Client
import Docklane.Engine.Capacity
import Docklane.Engine.Placement

/-!
# What the Agent reads

The reading half of `dockerengine/reader.go`, `capacity.go` and `placement.go`. An object is found
in the list that Docker gives by its id or its name, whichever the first match has.
-/

namespace Docklane.Engine

open Concurrent
open Control (ServiceSummary TaskSummary NodeSummary ServiceDetailResponse NodeDetailResponse)

/-- The hashes of `fingerprint.go`: SHA-256 of the JSON text of a spec. -/
structure Hashes where
  service : ServiceSpec → String
  node : NodeSpec → String
  task : TaskSpec → String

namespace Hashes

variable (H : Hashes)

/-- `taskRuntimeSpecHash`: without the placement, and with the default runtime written out. -/
def taskRuntime (spec : TaskSpec) : String :=
  H.task { spec with
    placement := none
    runtime := if spec.containerSpec.isSome ∧ spec.runtime = "" then "container" else spec.runtime }

end Hashes

/-! ## Summaries -/

/-- A field with `omitempty`, as the control plane reads it. -/
def omitEmpty (text : String) : Option String :=
  if text = "" then none else some text

def TaskState.text : TaskState → String
  | new => "new"
  | allocated => "allocated"
  | pending => "pending"
  | assigned => "assigned"
  | accepted => "accepted"
  | preparing => "preparing"
  | ready => "ready"
  | starting => "starting"
  | running => "running"
  | complete => "complete"
  | shutdown => "shutdown"
  | failed => "failed"
  | rejected => "rejected"
  | remove => "remove"
  | orphaned => "orphaned"
  | other text => text

/-- The state as the control plane reads it. -/
def TaskState.summary (state : TaskState) : Control.TaskState :=
  if state.text = "running" then .running else .other state.text

def ServiceMode.summary : ServiceMode → Control.ServiceMode
  | replicated _ => .replicated
  | global => .other "global"
  | replicatedJob => .other "replicated-job"
  | globalJob => .other "global-job"
  | unknown => .other "unknown"

/-- The image of a spec, empty without a container. -/
def TaskSpec.image (spec : TaskSpec) : String :=
  spec.containerSpec.elim "" (·.image)

section

variable (H : Hashes)

def toNodeSummary (node : Node) : NodeSummary where
  id := node.id
  hostname := node.description.hostname
  version := node.version.toNat
  specHash := H.node node.spec
  availability := node.spec.availability
  labels := node.spec.labels

def toTaskSummary (task : Task) : TaskSummary where
  serviceId := task.serviceId
  runtimeSpecHash := H.taskRuntime task.spec
  slot := task.slot
  desiredState := task.desiredState.summary
  state := task.state.summary
  forceUpdate := task.spec.forceUpdate.toNat
  image := omitEmpty task.spec.image

/-- The replicas that a service wants and has, before its tasks are counted. -/
def replicaCounts (service : Service) : UInt64 × UInt64 :=
  match service.serviceStatus with
  | some status => (status.desiredTasks, status.runningTasks)
  | none =>
    match service.spec.mode with
    | .replicated (some replicas) => (replicas, 0)
    | _ => (0, 0)

def toServiceSummary (service : Service) : ServiceSummary where
  id := service.id
  name := service.spec.name
  version := service.version.toNat
  specHash := H.service service.spec
  forceUpdate := service.spec.taskTemplate.forceUpdate.toNat
  taskSpecHash := omitEmpty (H.task service.spec.taskTemplate)
  runtimeSpecHash := omitEmpty (H.taskRuntime service.spec.taskTemplate)
  image := omitEmpty service.spec.taskTemplate.image
  mode := service.spec.mode.summary
  desiredReplicas := (replicaCounts service).1.toNat
  runningReplicas := (replicaCounts service).2.toNat
  updateState := service.updateStatus

def countDesiredRunningTasks (tasks : List TaskSummary) : Nat :=
  tasks.countP fun task => task.desiredState = .running && task.state = .running

end

/-! ## Requests -/

def serviceList : EngineProgram (List Service) :=
  .request .serviceList (wrapped "list swarm services")

def nodeList : EngineProgram (List Node) :=
  .request .nodeList (wrapped "list swarm nodes")

def taskList (context : String) : EngineProgram (List Task) :=
  .request .taskList (wrapped context)

/-- The first object of the list with this id or name. -/
def findRef {α : Type} (id name : α → String) (objects : List α) (ref : String) : Option α :=
  objects.find? fun object => id object = ref || name object = ref

def findService (services : List Service) (ref : String) : Option Service :=
  findRef (·.id) (·.spec.name) services ref

def findNode (nodes : List Node) (ref : String) : Option Node :=
  findRef (·.id) (·.description.hostname) nodes ref

/-- The object, or the error that there is none. -/
def orNotFound {α : Type} (error : EngineError) : Option α → EngineProgram α
  | some a => .pure a
  | none => .throw error

@[simp] theorem orNotFound_some {α : Type} (error : EngineError) (a : α) :
    orNotFound error (some a) = .pure a := rfl

namespace Reader

def resolveNode (ref : String) : EngineProgram Node :=
  nodeList.bind fun nodes => orNotFound (.notFound "node" ref) (findNode nodes ref)

def resolveServiceForCapacity (ref : String) : EngineProgram Service :=
  serviceList.bind fun services =>
    orNotFound (.other ("service " ++ quoted ref ++ " not found")) (findService services ref)

variable (H : Hashes) (U : Unicode) (net : Net)

def serviceTasks (serviceId : String) : EngineProgram (List TaskSummary) :=
  (taskList "list service tasks").bind fun tasks =>
    .pure ((tasks.filter (·.serviceId = serviceId)).map (toTaskSummary H))

def service (ref : String) : EngineProgram ServiceDetailResponse :=
  serviceList.bind fun services =>
    (orNotFound (.notFound "service" ref) (findService services ref)).bind fun found =>
      (serviceTasks H found.id).bind fun tasks =>
        .pure
          { service := { toServiceSummary H found with
              runningReplicas := countDesiredRunningTasks tasks }
            tasks }

/-- The tasks that are listed with a node. -/
def tasksOn (tasks : List Task) (nodeId : String) : List Task :=
  tasks.filter fun task => task.nodeId = nodeId && !isTerminalTaskState task.state

/-- The services that have a task among these, sorted. -/
def serviceIdsOf (tasks : List Task) : List String :=
  ((tasks.map (·.serviceId)).filter (· ≠ "")).dedup.mergeSort (· ≤ ·)

def node (ref : String) : EngineProgram NodeDetailResponse :=
  (resolveNode ref).bind fun node =>
    (taskList "list node tasks").bind fun tasks =>
      .pure
        { node := toNodeSummary H node
          tasks := (tasksOn tasks node.id).map (toTaskSummary H)
          serviceIds := serviceIdsOf (tasksOn tasks node.id) }

/-- `service version conflict` and `node version conflict` -/
def versionConflict (kind : String) (expected got : UInt64) : EngineError :=
  .conflict (kind ++ " version conflict: expected " ++ toString expected ++ ", got " ++
    toString got)

def checkServiceCapacity (ref : String) (input : CapacityCheckRequest) :
    EngineProgram CapacityCheckResponse :=
  (resolveServiceForCapacity ref).bind fun service =>
    if service.version ≠ input.expectedVersion then
      .throw (versionConflict "service" input.expectedVersion service.version)
    else
      nodeList.bind fun nodes =>
        (taskList "list swarm tasks").bind fun tasks =>
          .pure (evaluateServiceCapacity U net service nodes tasks input)

def checkServicePlacement (ref : String) : EngineProgram ServicePlacementResponse :=
  (resolveServiceForCapacity ref).bind fun service =>
    nodeList.bind fun nodes =>
      (taskList "list swarm tasks").bind fun tasks =>
        .pure (evaluateServicePlacement U net service nodes tasks)

end Reader

end Docklane.Engine
