import Docklane.Control.Machine
import Docklane.Control.Managers
import Docklane.Engine.Handlers

/-!
# The client of the Agents

The loops of `agent/http-agent.client.ts` that the other modules take as one request: a read goes
from one configured Agent to the next until one answers, and a mutation is sent to the first Agent
that proves its identity. Calls of one process share the Swarm it is bound to, the active Agent and
the cooldowns; each request below is one synchronous piece of the code or one round trip. On the
other side, a handler of an Agent is a program of requests to the Docker of its host.
-/

namespace Docklane.Fleet

open Concurrent
open Control (AgentIdentityResponse AgentRead ClusterResponse ControlOp ControlProgram Failure
  Mutation MutationRequest SelectedAgent errorMessage isBoundedIdentifier)
open Engine (DockerOp EngineError EngineProgram MutationCall NodeRoute ServiceRoute)

/-! ## Configuration -/

structure AgentConfig where
  id : String
  insecureDev : Bool
  deriving DecidableEq, Repr

structure ManagerAgentConfig where
  primaryId : String
  agents : List AgentConfig
  expectedClusterId : Option String
  deriving DecidableEq, Repr

/-- The fields of `HttpAgentClient`. -/
structure HttpAgentClient where
  activeId : String
  referenceClusterId : Option String
  unavailableUntil : String → Option Int

def resolveExpectedClusterId (value : Option String) (allowDevelopmentDiscovery : Bool) :
    Except Failure (Option String) :=
  if value = none ∧ allowDevelopmentDiscovery = true then .ok none
  else
    match value with
    | some id => if isBoundedIdentifier id then .ok (some id) else .error refused
    | none => .error refused
where
  refused : Failure :=
    .error ("DOCKLANE_EXPECTED_CLUSTER_ID must be an explicit 1-128 character " ++
    "identifier using A-Z, a-z, 0-9, _ or -; required outside insecure development mode")

/-- The constructor of the client. -/
def ManagerAgentConfig.client (registry : ManagerAgentConfig) : Except Failure HttpAgentClient :=
  match registry.agents.find? (·.id = registry.primaryId) with
  | none => .error (.error "Primary manager Agent configuration disappeared")
  | some primary =>
    (resolveExpectedClusterId registry.expectedClusterId
      (registry.agents.all (·.insecureDev))).map fun reference =>
        ⟨primary.id, reference, fun _ => none⟩

/-- `candidateAgents`: the active Agent first, and none that failed a moment ago unless all did. -/
def HttpAgentClient.candidateAgents (client : HttpAgentClient) (registry : ManagerAgentConfig)
    (now : Int) : List String :=
  let ids := registry.agents.map (·.id)
  let ordered := ids.filter (· = client.activeId) ++ ids.filter (· ≠ client.activeId)
  let available := ordered.filter fun id => (client.unavailableUntil id).getD 0 ≤ now
  if available.isEmpty then ordered else available

def HttpAgentClient.markActive (client : HttpAgentClient) (agentId : String) : HttpAgentClient :=
  { client with
    activeId := agentId
    unavailableUntil := Function.update client.unavailableUntil agentId none }

def AGENT_FAILURE_COOLDOWN_MS : Int := 5000

def HttpAgentClient.markUnavailable (client : HttpAgentClient) (agentId : String) (now : Int) :
    HttpAgentClient :=
  { client with
    unavailableUntil :=
      Function.update client.unavailableUntil agentId (some (now + AGENT_FAILURE_COOLDOWN_MS)) }

/-- `assertClusterIdentity` -/
def HttpAgentClient.assertClusterIdentity (client : HttpAgentClient) (agentId clusterId : String) :
    Except Failure Unit :=
  match client.referenceClusterId with
  | none => .ok ()
  | some reference =>
    if clusterId = reference then .ok ()
    else .error (.agentIdentity agentId s!"cluster {clusterId} does not match {reference}")

/-- The first Swarm that is seen becomes the reference. -/
def HttpAgentClient.bindTo (client : HttpAgentClient) (clusterId : String) : HttpAgentClient :=
  match client.referenceClusterId with
  | none => { client with referenceClusterId := some clusterId }
  | some _ => client

def isRetryableAgentFailure : Failure → Bool
  | .transport _ _ => true
  | .agentRequest statusCode _ => 500 ≤ statusCode
  | .preDispatch .MAINTENANCE_UNAVAILABLE => true
  | _ => false

def shouldFailover : Failure → Bool
  | .agentIdentity _ _ => true
  | e => isRetryableAgentFailure e

/-! ## Requests -/

/-- What `safeRequest` is used for. -/
inductive SafeRead where
  | agent (read : AgentRead)
  | cluster
  | services
  | serviceTasks (serviceId : String)

/-- No modelled function reads the lists of services and tasks: they stay texts. -/
abbrev SafeRead.Reply : SafeRead → Type
  | agent read => read.Reply
  | cluster => ClusterResponse
  | services | serviceTasks _ => String

/-- `responseClusterId`: the Swarm that a response names itself. -/
def SafeRead.responseClusterId : (read : SafeRead) → read.Reply → Option String
  | cluster, (response : ClusterResponse) => some response.id
  | _, _ => none

inductive ClientOp where
  | candidateAgents
  /-- `GET /v1/identity` -/
  | identity (agentId : String)
  /-- `GET /v1/health` -/
  | health (agentId : String)
  /-- The end of `readIdentity`, which nothing interrupts. -/
  | observeIdentity (agentId clusterId : String)
  | requestTo (agentId : String) (read : SafeRead)
  | assertClusterIdentity (agentId clusterId : String)
  | markActive (agentId : String)
  | markUnavailable (agentId : String)
  | referenceClusterId
  | send (request : MutationRequest)
  /-- `safeRequest` hands a value to its caller. -/
  | deliver (read : SafeRead) (value : read.Reply)

abbrev ClientOp.Ans : ClientOp → Type
  | candidateAgents => List String
  | identity _ => Except Failure AgentIdentityResponse
  | health _ => Except Failure String
  | observeIdentity _ _ | assertClusterIdentity _ _ => Except Failure Unit
  | requestTo _ read => Except Failure read.Reply
  | referenceClusterId => Option String
  | send request => Except Failure request.mutation.Response
  | markActive _ | markUnavailable _ | deliver _ _ => Unit

/-- The requests of all processes of the control plane and of the Agents of all hosts. -/
inductive FleetOp (Pid Host : Type) where
  | client (process : Pid) (op : ClientOp)
  | control (process : Pid) (op : ControlOp)
  /-- An Agent takes a request from its socket. -/
  | receive (host : Host)
  /-- The handler of this call asks the Docker of its host. -/
  | docker (host : Host) (call : MutationCall) (op : DockerOp)

abbrev FleetOp.Ans {Pid Host : Type} : FleetOp Pid Host → Type
  | client _ op => op.Ans
  | control _ op => op.Ans
  | receive _ => MutationCall
  | docker _ _ op => op.Ans

abbrev FleetProgram (Pid Host α : Type) :=
  Program (FleetOp Pid Host) FleetOp.Ans Failure α

/-! ## The loops of the client -/

section Client

variable {Pid Host α : Type} (p : Pid)

def ask (op : ClientOp) : FleetProgram Pid Host op.Ans := .request (.client p op) .pure

/-- `readIdentity` -/
def readIdentity (agentId : String) : FleetProgram Pid Host AgentIdentityResponse :=
  (ask p (.identity agentId)).bind fun (answer : Except Failure AgentIdentityResponse) =>
    match answer with
    | .error e =>
      if isRetryableAgentFailure e then .throw e
      else .throw (.agentIdentity agentId (errorMessage e))
    | .ok identity =>
      (ask p (.observeIdentity agentId identity.clusterId)).bind
        fun (observed : Except Failure Unit) =>
        (Program.ofExcept observed).bind fun _ => .pure identity

/-- `verifyAgent` -/
def verifyAgent (agentId : String) : FleetProgram Pid Host Unit :=
  (readIdentity p agentId).bind fun _ => .pure ()

/-- The loop over the candidates, with the last error. -/
def failover (retries : Failure → Bool) (attempt : String → FleetProgram Pid Host α) :
    List String → Failure → FleetProgram Pid Host α
  | [], lastError => .throw lastError
  | agentId :: rest, _ =>
    (attempt agentId).attempt.bind fun outcome =>
      match outcome with
      | .ok value => .pure value
      | .error e =>
        if retries e then
          (ask p (.markUnavailable agentId)).bind fun _ => failover retries attempt rest e
        else .throw e

def withFailover (retries : Failure → Bool) (attempt : String → FleetProgram Pid Host α) :
    FleetProgram Pid Host α :=
  (ask p .candidateAgents).bind fun (agents : List String) =>
    failover p retries attempt agents (.error "No manager Agent is available")

def healthWithFailover : FleetProgram Pid Host String :=
  withFailover p isRetryableAgentFailure fun agentId =>
    (ask p (.health agentId)).bind fun (answer : Except Failure String) =>
      (Program.ofExcept answer).bind fun value =>
        (ask p (.markActive agentId)).bind fun _ => .pure value

def identityWithFailover : FleetProgram Pid Host AgentIdentityResponse :=
  withFailover p shouldFailover fun agentId =>
    (readIdentity p agentId).bind fun identity =>
      (ask p (.markActive agentId)).bind fun _ => .pure identity

/-- The body of the loop of `safeRequest`. -/
def safeRequestTo (read : SafeRead) (agentId : String) : FleetProgram Pid Host read.Reply :=
  (verifyAgent p agentId).bind fun _ =>
    (ask p (.requestTo agentId read)).bind fun (answer : Except Failure read.Reply) =>
      (Program.ofExcept answer).bind fun value =>
        let check : FleetProgram Pid Host Unit :=
          match read.responseClusterId value with
          | none => .pure ()
          | some clusterId =>
            (ask p (.assertClusterIdentity agentId clusterId)).bind
              fun (checked : Except Failure Unit) => Program.ofExcept checked
        check.bind fun _ => (ask p (.markActive agentId)).bind fun _ => .pure value

def safeRequest (read : SafeRead) : FleetProgram Pid Host read.Reply :=
  (withFailover p shouldFailover (safeRequestTo p read)).bind fun value =>
    (ask p (.deliver read value)).bind fun _ => .pure value

def selectMutationAgent : FleetProgram Pid Host String :=
  withFailover p shouldFailover fun agentId =>
    (verifyAgent p agentId).bind fun _ =>
      (ask p (.markActive agentId)).bind fun _ => .pure agentId

/-- The start of `mutationRequest`. A reference that is not set is no bounded identifier either. -/
def selectAgent : FleetProgram Pid Host SelectedAgent :=
  (selectMutationAgent p).bind fun agentId =>
    (ask p .referenceClusterId).bind fun (reference : Option String) =>
      .pure ⟨agentId, reference.getD ""⟩

/-- The requests of a call of the control plane, with the loops of its client. -/
def withClient : (op : ControlOp) → FleetProgram Pid Host op.Ans
  | .agent read => (safeRequest p (.agent read)).attempt
  | .selectMutationAgent => (selectAgent p).attempt
  | .send request => ask p (.send request)
  | op => .request (.control p op) .pure

end Client

/-! ## The wire -/

def Mutation.route : Mutation → ServiceRoute ⊕ NodeRoute
  | .service _ (.scale _) .. => .inl .scale
  | .service _ .restart .. => .inl .restart
  | .service _ (.image _) .. => .inl .image
  | .service _ .rollback .. => .inl .rollback
  | .node _ (.drain _) .. => .inr .drain
  | .node _ .activate .. => .inr .activate
  | .node _ (.labels _ _) .. => .inr .labels

def Mutation.target : Mutation → String
  | .service id .. => id
  | .node id .. => id

/-- The HTTP request of a mutation, with its body as `JSON.stringify` writes it. -/
def wire (stringify : Mutation → String) (request : MutationRequest) : MutationCall :=
  ⟨.v2, Mutation.route request.mutation, Mutation.target request.mutation,
    stringify request.mutation, [request.expectedClusterId]⟩

/-- A handler, on the Docker of a host. -/
def onHost {Pid Host α : Type} (host : Host) (call : MutationCall) :
    EngineProgram α → FleetProgram Pid Host (Except EngineError α)
  | .pure a => .pure (.ok a)
  | .throw e => .pure (.error e)
  | .request op k => .request (.docker host call op) fun x => onHost host call (k x)

end Docklane.Fleet
