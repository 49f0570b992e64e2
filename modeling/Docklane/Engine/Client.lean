import Docklane.Concurrent.Running
import Docklane.Engine.Docker

/-!
# The Docker client

The requests that the Agent makes of Docker, and a Docker that answers them with nobody else around.
An update is a compare-and-set on the version of its object. A rollback to the previous spec
installs the spec that Docker keeps, whatever spec comes with the request.
-/

namespace Docklane.Engine

open Concurrent

/-- An error of the client. `cerrdefs.IsConflict` tells the conflicts from the others. -/
inductive DockerError where
  | conflict (message : String)
  | other (message : String)
  deriving DecidableEq, Repr

def DockerError.message : DockerError → String
  | conflict message => message
  | other message => message

inductive DockerOp where
  /-- `ctx.Err() != nil` -/
  | contextErr
  /-- `Info`, for the node of the daemon -/
  | info
  /-- `SwarmInspect`, for the id of the Swarm -/
  | swarmInspect
  | serviceList
  | serviceInspect (ref : String)
  | serviceUpdate (id : String) (version : UInt64) (spec : ServiceSpec) (rollback : Bool)
  | nodeList
  | nodeInspect (id : String)
  | nodeUpdate (id : String) (version : UInt64) (spec : NodeSpec)
  | taskList
  deriving DecidableEq

abbrev DockerOp.Ans : DockerOp → Type
  | contextErr => Bool
  | info => Except DockerError String
  | swarmInspect => Except DockerError String
  | serviceList => Except DockerError (List Service)
  | serviceInspect _ => Except DockerError Service
  -- the warnings
  | serviceUpdate _ _ _ _ => Except DockerError (List String)
  | nodeList => Except DockerError (List Node)
  | nodeInspect _ => Except DockerError Node
  | nodeUpdate _ _ _ => Except DockerError Unit
  | taskList => Except DockerError (List Task)

/-- The request asks Docker to change something. -/
def DockerOp.isUpdate : DockerOp → Bool
  | serviceUpdate _ _ _ _ => true
  | nodeUpdate _ _ _ => true
  | _ => false

abbrev EngineProgram (α : Type) := Program DockerOp DockerOp.Ans EngineError α

/-- `fmt.Errorf(context + ": %w", err)` of a failed request. -/
def wrapped {α : Type} (context : String) : Except DockerError α → EngineProgram α
  | .ok a => .pure a
  | .error e => .throw (.other (context ++ ": " ++ e.message))

@[simp] theorem wrapped_ok {α : Type} (context : String) (a : α) :
    wrapped context (.ok a) = .pure a := rfl

/-! ## Docker by itself -/

/-- A Swarm as its manager sees it, with the index of its store, the node that the manager is and
the warnings it gives. -/
structure Docker where
  clusterId : String
  nodeId : String
  services : List Service
  nodes : List Node
  tasks : List Task
  index : UInt64
  warnings : List String
  deriving DecidableEq

namespace Docker

/-- The lookup of `docker service inspect`: by id, and else by name. -/
def inspectService (d : Docker) (ref : String) : Option Service :=
  (d.services.find? (·.id = ref)).or (d.services.find? (·.spec.name = ref))

/-- The spec that an update of the service installs. -/
def installed (service : Service) (spec : ServiceSpec) (rollback : Bool) : Option ServiceSpec :=
  if rollback then service.previousSpec else some spec

/-- One request, answered at once. -/
def answer : (op : DockerOp) → Docker → op.Ans × Docker
  | .contextErr, d => (false, d)
  | .info, d => (.ok d.nodeId, d)
  | .swarmInspect, d => (.ok d.clusterId, d)
  | .serviceList, d => (.ok d.services, d)
  | .serviceInspect ref, d =>
    match d.inspectService ref with
    | some service => (.ok service, d)
    | none => (.error (.other ("service " ++ ref ++ " not found")), d)
  | .serviceUpdate id version spec rollback, d =>
    match d.services.find? (·.id = id) with
    | none => (.error (.other ("service " ++ id ++ " not found")), d)
    | some service =>
      if service.version ≠ version then (.error (.conflict "update out of sequence"), d)
      else
        match installed service spec rollback with
        | none => (.error (.other "service does not have a previous spec"), d)
        | some target =>
          (.ok d.warnings,
            { d with
              index := d.index + 1
              services := d.services.map fun s =>
                if s.id = id then
                  { s with version := d.index + 1, spec := target, previousSpec := some s.spec }
                else s })
  | .nodeList, d => (.ok d.nodes, d)
  | .nodeInspect id, d =>
    match d.nodes.find? (·.id = id) with
    | some node => (.ok node, d)
    | none => (.error (.other ("node " ++ id ++ " not found")), d)
  | .nodeUpdate id version spec, d =>
    match d.nodes.find? (·.id = id) with
    | none => (.error (.other ("node " ++ id ++ " not found")), d)
    | some node =>
      if node.version ≠ version then (.error (.conflict "update out of sequence"), d)
      else
        (.ok (),
          { d with
            index := d.index + 1
            nodes := d.nodes.map fun n =>
              if n.id = id then { n with version := d.index + 1, spec } else n })
  | .taskList, d => (.ok d.tasks, d)

@[simp] theorem answer_serviceList (d : Docker) : answer .serviceList d = (.ok d.services, d) := rfl

@[simp] theorem answer_nodeList (d : Docker) : answer .nodeList d = (.ok d.nodes, d) := rfl

@[simp] theorem answer_taskList (d : Docker) : answer .taskList d = (.ok d.tasks, d) := rfl

end Docker

/-- A program of the Agent, run against a Docker that nobody else uses. -/
abbrev execute {α : Type} (p : EngineProgram α) (d : Docker) :
    Program.Run DockerOp EngineError Docker α :=
  p.run Docker.answer d

end Docklane.Engine
