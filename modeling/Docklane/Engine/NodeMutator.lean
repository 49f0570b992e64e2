import Docklane.Engine.Labels
import Docklane.Engine.Reader

/-!
# What the Agent does to nodes

The plans and mutations of `dockerengine/node_mutator.go` and `node_labels.go`, and the last look at
the Swarm before an update of `mutation_cluster.go`.
-/

namespace Docklane.Engine

open Concurrent
open Control (Availability Labels NodeMutationPlan NodeMutationResponse)

structure NodeMutationRequest where
  expectedVersion : UInt64
  expectedSpecHash : String
  targetSpecHash : String
  expectedServiceIds : List String
  targetLabels : Option Labels
  deriving DecidableEq, Repr

/-- A check that throws where it fails. -/
def require (condition : Prop) [Decidable condition] (error : EngineError) : EngineProgram Unit :=
  if condition then .pure () else .throw error

/-- The last look at the Swarm. `expected` is the cluster that the context carries, if any. -/
def requireFinalMutationCluster (expected : Option String) : EngineProgram Unit :=
  if expected.getD "" = "" then .pure ()
  else
    .request .contextErr fun (cancelled : Bool) =>
      (require (cancelled = false) (.clusterGuard .CLUSTER_IDENTITY_UNAVAILABLE)).bind fun _ =>
        .request .swarmInspect fun (observed : Except DockerError String) =>
          match observed with
          | .error _ => .throw (.clusterGuard .CLUSTER_IDENTITY_UNAVAILABLE)
          | .ok id =>
            .request .contextErr fun (cancelled : Bool) =>
              (require (cancelled = false ∧ id ≠ "")
                (.clusterGuard .CLUSTER_IDENTITY_UNAVAILABLE)).bind fun _ =>
                require (some id = expected) (.clusterGuard .CLUSTER_PRECONDITION_FAILED)

/-- `NodeUpdate`, with the error that an action makes of a refusal. -/
def nodeUpdate (id : String) (version : UInt64) (spec : NodeSpec) (stale failed : String) :
    EngineProgram Unit :=
  .request (.nodeUpdate id version spec) fun (answer : Except DockerError Unit) =>
    match answer with
    | .ok _ => .pure ()
    | .error (.conflict _) => .throw (.conflict stale)
    | .error (.other message) => .throw (.other (failed ++ ": " ++ message))

def nodeInspect (id context : String) : EngineProgram Node :=
  .request (.nodeInspect id) (wrapped context)

namespace Reader

variable (H : Hashes) (U : Unicode)

def planNodeAvailability (ref : String) (expectedVersion : UInt64) (target : Availability) :
    EngineProgram NodeMutationPlan :=
  (resolveNode ref).bind fun node =>
    (require (node.version = expectedVersion)
      (versionConflict "node" expectedVersion node.version)).bind fun _ =>
      (Reader.node H node.id).bind fun detail =>
        .pure
          { nodeId := node.id
            version := node.version.toNat
            beforeSpecHash := H.node node.spec
            targetSpecHash := H.node { node.spec with availability := target }
            targetAvailability := target
            affectedServiceIds := detail.serviceIds.mergeSort (· ≤ ·)
            targetLabels := none }

def planDrainNode (ref : String) (expectedVersion : UInt64) : EngineProgram NodeMutationPlan :=
  planNodeAvailability H ref expectedVersion .drain

def planActivateNode (ref : String) (expectedVersion : UInt64) : EngineProgram NodeMutationPlan :=
  planNodeAvailability H ref expectedVersion .active

/-- `serviceIDsAffectedByNodeLabels`, which asks for the services only if a label changes. -/
def serviceIDsAffected (changedKeys : List String) : EngineProgram (List String) :=
  if changedKeys = [] then .pure []
  else serviceList.bind fun services =>
    .ofExcept (serviceIDsAffectedByNodeLabels U services changedKeys)

def planNodeLabels (ref : String) (input : NodeLabelPatchRequest) :
    EngineProgram NodeMutationPlan :=
  (resolveNode ref).bind fun node =>
    (require (node.version = input.expectedVersion)
      (versionConflict "node" input.expectedVersion node.version)).bind fun _ =>
      let labels := patchLabels node.spec.labels input
      (serviceIDsAffected U (changedNodeLabelKeys node.spec.labels labels)).bind fun serviceIds =>
        .pure
          { nodeId := node.id
            version := node.version.toNat
            beforeSpecHash := H.node node.spec
            targetSpecHash := H.node { node.spec with labels }
            targetAvailability := node.spec.availability
            affectedServiceIds := serviceIds
            targetLabels := some labels }

/-- The check of a drain that the services on the node are those of the plan. -/
def requireServices (nodeId : String) (expected : List String) : EngineProgram Unit :=
  (Reader.node H nodeId).bind fun detail =>
    require (detail.serviceIds.mergeSort (· ≤ ·) = expected.mergeSort (· ≤ ·))
      (.conflict "node task set changed after mutation planning")

/-- `updateNodeAvailability` of a node that has been resolved. -/
def applyAvailability (cluster : Option String) (node : Node) (input : NodeMutationRequest)
    (target : Availability) : EngineProgram NodeMutationResponse :=
  (require (node.version = input.expectedVersion)
    (versionConflict "node" input.expectedVersion node.version)).bind fun _ =>
  (if target = .drain then requireServices H node.id input.expectedServiceIds
    else .pure ()).bind fun _ =>
  (require (H.node node.spec = input.expectedSpecHash)
    (.conflict "node spec changed after mutation planning")).bind fun _ =>
  let spec := { node.spec with availability := target }
  (require (H.node spec = input.targetSpecHash)
    (.conflict "target node spec changed after mutation planning")).bind fun _ =>
  (requireFinalMutationCluster cluster).bind fun _ =>
  (nodeUpdate node.id input.expectedVersion spec
    ("update node " ++ quoted node.id ++ ": Docker rejected stale node version")
    ("update node " ++ quoted node.id ++ " availability")).bind fun _ =>
  (nodeInspect node.id ("inspect updated node " ++ quoted node.id)).bind fun after =>
    .pure
      { nodeId := node.id
        version := after.version.toNat
        targetSpecHash := H.node spec
        targetAvailability := target }

def updateNodeAvailability (cluster : Option String) (ref : String) (input : NodeMutationRequest)
    (target : Availability) : EngineProgram NodeMutationResponse :=
  (resolveNode ref).bind fun node => applyAvailability H cluster node input target

def drainNode (cluster : Option String) (ref : String) (input : NodeMutationRequest) :
    EngineProgram NodeMutationResponse :=
  updateNodeAvailability H cluster ref input .drain

def activateNode (cluster : Option String) (ref : String) (input : NodeMutationRequest) :
    EngineProgram NodeMutationResponse :=
  updateNodeAvailability H cluster ref input .active

/-- `UpdateNodeLabels` of a node that has been resolved. -/
def applyLabels (cluster : Option String) (node : Node) (input : NodeMutationRequest) :
    EngineProgram NodeMutationResponse :=
  (require (node.version = input.expectedVersion)
    (versionConflict "node" input.expectedVersion node.version)).bind fun _ =>
  (orNotFound (.validation "targetLabels is required for node label mutation")
    input.targetLabels).bind fun labels =>
  (require (H.node node.spec = input.expectedSpecHash)
    (.conflict "node spec changed after label mutation planning")).bind fun _ =>
  (serviceIDsAffected U (changedNodeLabelKeys node.spec.labels labels)).bind fun actual =>
  (require (actual = input.expectedServiceIds.mergeSort (· ≤ ·))
    (.conflict "affected service set changed after label mutation planning")).bind fun _ =>
  let spec := { node.spec with labels }
  (require (H.node spec = input.targetSpecHash)
    (.conflict "target node labels changed after mutation planning")).bind fun _ =>
  (requireFinalMutationCluster cluster).bind fun _ =>
  (nodeUpdate node.id input.expectedVersion spec
    ("update node " ++ quoted node.id ++ " labels: Docker rejected stale node version")
    ("update node " ++ quoted node.id ++ " labels")).bind fun _ =>
  (nodeInspect node.id ("inspect updated node " ++ quoted node.id)).bind fun after =>
    .pure
      { nodeId := node.id
        version := after.version.toNat
        targetSpecHash := H.node spec
        targetAvailability := after.spec.availability }

def updateNodeLabels (cluster : Option String) (ref : String) (input : NodeMutationRequest) :
    EngineProgram NodeMutationResponse :=
  (resolveNode ref).bind fun node => applyLabels H U cluster node input

end Reader

end Docklane.Engine
