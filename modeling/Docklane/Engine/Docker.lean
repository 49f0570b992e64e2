import Docklane.Control.Records

/-!
# What Docker reports to the Agent

The records of `github.com/moby/moby/api/types/swarm` with the fields that
`agent/internal/dockerengine` reads or writes. What it only passes on is kept in the fields `rest`,
since the hash of a spec covers it. Numbers have the widths of the source. Texts that the code
compares with fixed values are enumerations with a case for any other text.
-/

namespace Docklane.Engine

open Control (Availability Labels UpdateState)

inductive TaskState where
  | new
  | allocated
  | pending
  | assigned
  | accepted
  | preparing
  | ready
  | starting
  | running
  | complete
  | shutdown
  | failed
  | rejected
  | remove
  | orphaned
  | other (text : String)
  deriving DecidableEq, Repr

inductive NodeState where
  | ready
  | other (text : String)
  deriving DecidableEq, Repr

inductive UpdateOrder where
  | startFirst
  | other (text : String)
  deriving DecidableEq, Repr

/-- `swarm.Resources` -/
structure Resources where
  nanoCPUs : Int64
  memoryBytes : Int64
  genericResources : List String
  deriving DecidableEq, Repr

structure Platform where
  architecture : String
  os : String
  deriving DecidableEq, Repr

/-- `swarm.Placement`. A preference is its spread descriptor, if it has one. -/
structure Placement where
  constraints : List String
  preferences : List (Option String)
  maxReplicas : UInt64
  platforms : List Platform
  deriving DecidableEq, Repr

structure ContainerSpec where
  image : String
  rest : String
  deriving DecidableEq, Repr

/-- `swarm.TaskSpec`. The reservations are those of its resource requirements. -/
structure TaskSpec where
  containerSpec : Option ContainerSpec
  reservations : Option Resources
  placement : Option Placement
  forceUpdate : UInt64
  runtime : String
  rest : String
  deriving DecidableEq, Repr

/-- `swarm.ServiceMode`: which of its pointers is set. -/
inductive ServiceMode where
  | replicated (replicas : Option UInt64)
  | global
  | replicatedJob
  | globalJob
  | unknown
  deriving DecidableEq, Repr

structure UpdateConfig where
  parallelism : UInt64
  order : UpdateOrder
  rest : String
  deriving DecidableEq, Repr

structure ServiceSpec where
  name : String
  taskTemplate : TaskSpec
  mode : ServiceMode
  updateConfig : Option UpdateConfig
  rest : String
  deriving DecidableEq, Repr

/-- `swarm.ServiceStatus` -/
structure ServiceStatus where
  runningTasks : UInt64
  desiredTasks : UInt64
  deriving DecidableEq, Repr

structure Service where
  id : String
  version : UInt64
  spec : ServiceSpec
  previousSpec : Option ServiceSpec
  updateStatus : Option UpdateState
  serviceStatus : Option ServiceStatus
  deriving DecidableEq, Repr

/-- `swarm.NodeSpec` -/
structure NodeSpec where
  labels : Labels
  role : String
  availability : Availability
  rest : String
  deriving DecidableEq, Repr

/-- `swarm.NodeDescription` -/
structure NodeDescription where
  hostname : String
  platform : Platform
  nanoCPUs : Int64
  memoryBytes : Int64
  engineLabels : Labels
  deriving DecidableEq, Repr

structure Node where
  id : String
  version : UInt64
  spec : NodeSpec
  description : NodeDescription
  state : NodeState
  addr : String
  deriving DecidableEq, Repr

structure Task where
  id : String
  serviceId : String
  nodeId : String
  slot : Int
  spec : TaskSpec
  state : TaskState
  desiredState : TaskState
  deriving DecidableEq, Repr

/-- `isTerminalTaskState` of `reader.go` -/
def isTerminalTaskState : TaskState → Bool
  | .complete | .shutdown | .failed | .rejected | .remove | .orphaned => true
  | _ => false

/-- `m[key]` of a map of texts, which is the empty text where there is no entry. -/
def lookup (labels : Labels) (key : String) : String :=
  (labels.lookup key).getD ""

/-- `MutationClusterMismatch` and `MutationClusterUnavailable` -/
inductive GuardCode where
  | CLUSTER_PRECONDITION_FAILED
  | CLUSTER_IDENTITY_UNAVAILABLE
  deriving DecidableEq, Repr

/-- The errors of `dockerengine/errors.go` and `mutation_cluster.go`, and any other. -/
inductive EngineError where
  | conflict (message : String)
  | validation (message : String)
  | notFound (resource ref : String)
  | clusterGuard (code : GuardCode)
  | other (message : String)
  deriving DecidableEq, Repr

/-- `%q` of a text in which nothing has to be escaped, as in the ids and names of Docker. -/
def quoted (text : String) : String :=
  "\"" ++ text ++ "\""

end Docklane.Engine
