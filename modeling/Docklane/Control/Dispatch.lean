import Docklane.Control.Locks

/-!
# One mutation request

`withMutationOperation`, the proxy of `clusters/registered-agent-client.ts`, `mutationRequest` of
`agent/http-agent.client.ts` and `clusters/maintenance-dispatch-journal.ts`. With maintenance
enforced a request is journalled before and after it is sent; in every case it is sent at most once.
-/

namespace Docklane.Control

open Concurrent

/-- `withMutationAdmission`'s scope: the cluster and its generation at the last look. -/
structure MutationAdmission where
  clusterId : String
  generation : Nat
  deriving DecidableEq, Repr

/-- `/^[A-Za-z0-9_-]{1,128}$/`. -/
def isBoundedIdentifier (text : String) : Bool :=
  1 ≤ text.length && text.length ≤ 128 && text.toList.all fun c =>
    c.isAlphanum || c = '_' || c = '-'

/-! ## The journal -/

/-- Bind the operation to the admission of the call. -/
def linkActiveAdmission (active : Option ActiveAdmission) (clusterId operationId : String) :
    ControlProgram Unit :=
  match active with
  | none => .pure ()
  | some admission =>
    if admission.clusterId = clusterId then
      Program.bind (query (.linkAdmission admission.id clusterId operationId))
        fun (linked : Bool) =>
          if linked then .pure ()
          else .throw (.unavailable "Active admission operation linkage failed")
    else .pure ()

def journalPrepare (active : Option ActiveAdmission) (admission : MutationAdmission)
    (agentId operationId : String) : ControlProgram Dispatch :=
  randomUUID.bind fun id =>
    let dispatch : Dispatch :=
      ⟨id, admission.clusterId, admission.generation, agentId, operationId, .PREPARED⟩
    let insert : ControlProgram Unit := query (.insertDispatch dispatch)
    ((linkActiveAdmission active admission.clusterId operationId).bind fun _ =>
      insert).attempt.bind fun outcome =>
        match outcome with
        | .ok () => .pure dispatch
        | .error (.database true _) => .throw .duplicateDispatch
        | .error _ => .throw (.unavailable "Mutation dispatch journal unavailable before send")

def journalBeginSend (dispatch : Dispatch) : ControlProgram Unit :=
  Program.bind (Program.attempt (query (.beginSend dispatch)))
    fun (answer : Except Failure Bool) =>
      match answer with
      | .error _ =>
        .throw (.unavailable "Mutation dispatch evidence unavailable before send")
      | .ok promoted =>
        if promoted then .pure ()
        else .throw (.unavailable "Mutation dispatch generation or maintenance state changed")

def journalTransition (id : String) (source target : DispatchPhase) : ControlProgram Unit :=
  Program.bind (query (.transitionDispatch id source target)) fun (changed : Bool) =>
    if changed then .pure ()
    else .throw (.unavailable "Dispatch evidence state changed or unavailable")

/-- `requestTo` for the mutation: the only request that can change Docker. -/
def sendMutation (request : MutationRequest) : ControlProgram request.mutation.Response :=
  .request (.send request) Program.ofExcept

/-- The end of `execute`: send and record the outcome. -/
def journalSend (dispatch : Dispatch) (request : MutationRequest) :
    ControlProgram request.mutation.Response :=
  (sendMutation request).attempt.bind fun outcome =>
    match outcome with
    | .error e =>
      let next := if (deterministicAgentRejection e).isSome then .REJECTED else .UNCERTAIN
      (journalTransition dispatch.id .SENDING next).attempt.bind fun _ => .throw e
    | .ok response =>
      (journalTransition dispatch.id .SENDING .ACKNOWLEDGED).bind fun _ => .pure response

/-- `execute`. -/
def journalExecute (active : Option ActiveAdmission) (admission : MutationAdmission)
    (request : MutationRequest) : ControlProgram request.mutation.Response :=
  (journalPrepare active admission request.agentId request.operationId).attempt.bind
    fun prepared =>
      match prepared with
      | .error .duplicateDispatch => .throw .duplicateDispatch
      | .error _ => .throw (.preDispatch .MAINTENANCE_UNAVAILABLE)
      | .ok dispatch =>
        (journalBeginSend dispatch).attempt.bind fun promoted =>
          match promoted with
          | .error _ =>
            (journalTransition dispatch.id .PREPARED .REJECTED).attempt.bind fun _ =>
              .throw (.preDispatch .MAINTENANCE_UNAVAILABLE)
          | .ok () => journalSend dispatch request

/-! ## The client -/

/-- The barrier of the selected Agent, before a journalled request. -/
def assertBarrierOpen (agentId expectedClusterId : String) (generation : Nat) :
    ControlProgram Unit :=
  .request (.readBarrier agentId) fun (answer : Except Failure BarrierResponse) =>
    match answer with
    | .error _ => .throw (.preDispatch .MAINTENANCE_UNAVAILABLE)
    | .ok barrier =>
      if barrier.clusterId = expectedClusterId ∧ barrier.state = .OPEN ∧
          barrier.generation = toString generation then .pure ()
      else .throw (.preDispatch .MAINTENANCE_CLOSED)

/-- `mutationRequest`, with the admission scope of the proxy. -/
def mutationRequest (active : Option ActiveAdmission) (admission : Option MutationAdmission)
    (operationId : String) (mutation : Mutation) : ControlProgram mutation.Response :=
  .request .selectMutationAgent fun (answer : Except Failure SelectedAgent) =>
    match answer with
    | .error e => .throw e
    | .ok agent =>
      if isBoundedIdentifier agent.referenceClusterId = false then
        .throw (.agentIdentity agent.agentId "expected cluster is not a bounded identifier")
      else
        let request (generation : Option Nat) : MutationRequest :=
          ⟨agent.agentId, agent.referenceClusterId, generation, operationId, mutation⟩
        match admission with
        | none => sendMutation (request none)
        | some admission =>
          (assertBarrierOpen agent.agentId agent.referenceClusterId admission.generation).bind
            fun _ => journalExecute active admission (request (some admission.generation))

/-- A mutation method of the registered client: with maintenance enforced, the cluster has to be
open. -/
def registeredMutation (settings : Settings) (active : Option ActiveAdmission)
    (operationId : String) (mutation : Mutation) : ControlProgram mutation.Response :=
  (assertRegistered settings settings.clusterId).bind fun _ =>
    if settings.maintenanceEnforced then
      (findMaintenance settings.clusterId).attempt.bind fun answer =>
        match answer with
        | .error _ => .throw (.preDispatch .MAINTENANCE_UNAVAILABLE)
        | .ok none => .throw (.preDispatch .MAINTENANCE_CLOSED)
        | .ok (some row) =>
          if row.state = .OPEN ∧ 1 ≤ row.generation then
            mutationRequest active (some ⟨settings.clusterId, row.generation⟩) operationId mutation
          else .throw (.preDispatch .MAINTENANCE_CLOSED)
    else mutationRequest active none operationId mutation

/-- `withMutationOperation(operationId, …)` around a mutation method. -/
def dispatch (settings : Settings) (active : Option ActiveAdmission) (operationId : String)
    (mutation : Mutation) : ControlProgram mutation.Response :=
  if operationId.isEmpty ∨ 64 < operationId.length then
    .throw (.error "Durable operation ID is required for mutation dispatch")
  else registeredMutation settings active operationId mutation

end Docklane.Control
