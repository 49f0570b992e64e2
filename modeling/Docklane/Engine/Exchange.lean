import Docklane.Concurrent.Linking
import Docklane.Control.Callbacks
import Docklane.Engine.Updates
import Docklane.Engine.Wire

/-!
# A mutation request from end to end

The dispatch of the control plane with the Agent in the place of its one request: the way to the
Agent, the guard, the handler with all its requests to Docker, and the way back. The statements of
the journal can fail whether or not they were committed, the request and the answer can get lost,
and Docker answers as it likes. A request that times out while the handler runs is one whose answer
gets lost.
-/

namespace Docklane.Engine

open Concurrent Concurrent.Program
open Control (ControlOp ControlProgram DbOp Failure Mutation MutationRequest
  deterministicAgentRejection)

inductive ExchangeOp where
  /-- A request of the control plane that is no statement and no mutation. -/
  | control (op : ControlOp)
  | statement (op : DbOp)
  /-- The request is on its way to the Agent. -/
  | deliver (request : MutationRequest)
  /-- The guard reads the identity. -/
  | identity
  | docker (op : DockerOp)
  /-- The answer is on its way back. -/
  | respond

/-- A failed statement says whether a key was duplicate. A request that is delivered meets a
barrier. -/
def ExchangeOp.Ans : ExchangeOp → Type
  | control op => op.Ans
  | statement op => Except (Bool × String) op.Reply
  | deliver _ => Except String Agent.Barrier
  | identity => Agent.IdentityRead
  | docker op => op.Ans
  | respond => Except String Unit

abbrev ExchangeProgram (α : Type) := Program ExchangeOp ExchangeOp.Ans Failure α

abbrev ExchangeEvent := Event ExchangeOp ExchangeOp.Ans

/-- A program of the Agent, which ends with its result. -/
def onAgent {α : Type} : EngineProgram α → ExchangeProgram (Except EngineError α)
  | .pure a => .pure (.ok a)
  | .throw e => .pure (.error e)
  | .request op k => .request (.docker op) fun (answer : op.Ans) => onAgent (k answer)

section Exchange

variable (W : Wire) (D : Decoder) (H : Hashes) (U : Unicode)

/-- The guard of a request, on a barrier that stays as it is while it holds the read lock. -/
def guarded (b : Agent.Barrier) (request : MutationRequest)
    (handler : ExchangeProgram MutationReply) : ExchangeProgram MutationReply :=
  if !b.enabled ∨ Agent.isMutationPath (W.http request) = false then handler
  else .request .identity fun (identity : Agent.IdentityRead) =>
    match Agent.guardCheck b (W.http request) identity with
    | .error rejection => .pure (.refused rejection.status (some rejection.code) rejection.error)
    | .ok () => handler

/-- The handler. It catches its errors, so it ends with a reply. -/
def handler (call : MutationCall) : ExchangeProgram MutationReply :=
  (onAgent (handleMutation D H U call)).bind fun result =>
    match result with
    | .ok reply => .pure reply
    | .error e => .pure (writeMutationError e)

/-- One mutation request and its answer. -/
def exchange (request : MutationRequest) :
    ExchangeProgram (Except Failure request.mutation.Response) :=
  .request (.deliver request) fun (delivery : Except String Agent.Barrier) =>
    match delivery with
    | .error message => .pure (.error (.transport request.agentId message))
    | .ok b =>
      (guarded W b request (handler D H U (W.call request))).bind fun reply =>
        .request .respond fun (response : Except String Unit) =>
          match response with
          | .error message => .pure (.error (.transport request.agentId message))
          | .ok () => .pure (W.read request.mutation reply)

/-- How the requests of the control plane are carried out. -/
def carry : (op : ControlOp) → ExchangeProgram op.Ans
  | .send mutation => exchange W D H U mutation
  | .db op => .request (.statement op) fun (answer : Except (Bool × String) op.Reply) =>
      .pure (answer.mapError fun e => .database e.1 e.2)
  | op => .request (.control op) .pure

end Exchange

/-! ## What an exchange can change -/

/-- Docker may have changed something here. -/
def ExchangeEvent.MayApply : ExchangeEvent → Prop
  | ⟨.docker op, answer⟩ => Engine.MayApply ⟨op, answer⟩
  | _ => False

/-- Nothing has changed so far. -/
def Calm (h : List ExchangeEvent) : Prop := ∀ x ∈ h, ¬ ExchangeEvent.MayApply x

theorem Calm.cons {h : List ExchangeEvent} (hh : Calm h) {x : ExchangeEvent}
    (hx : ¬ ExchangeEvent.MayApply x) : Calm (x :: h) :=
  List.forall_mem_cons.mpr ⟨hx, hh⟩

/-- Where a call ends with a definite rejection, nothing has changed. -/
def Trusted {α : Type} (r : Except Failure α) (h : List ExchangeEvent) : Prop :=
  ∀ e, r = .error e → (deterministicAgentRejection e).isSome = true → Calm h

theorem Calm.trusted {α : Type} {h : List ExchangeEvent} (hh : Calm h) (r : Except Failure α) :
    Trusted r h :=
  fun _ _ _ => hh

/-- Every request is possible. -/
abbrev Anything : List ExchangeEvent → ExchangeOp → Prop := fun _ _ => True

/-- The postcondition of a program of the Agent, once its Docker requests are part of an exchange.
-/
theorem onAgent_follows {α : Type} {p : EngineProgram α}
    {allowed : List DockerEvent → DockerOp → Prop}
    {Q : Except EngineError α → List DockerEvent → Prop} {g : List DockerEvent}
    {h : List ExchangeEvent} (hp : p.Follows allowed Q g) (hcalm : Untouched g → Calm h) :
    (onAgent p).Follows Anything
      (fun r h' => ∃ result g', r = .ok result ∧ Q result g' ∧ (Untouched g' → Calm h')) h := by
  induction p generalizing g h with
  | pure a => exact ⟨.ok a, g, rfl, hp, hcalm⟩
  | throw e => exact ⟨.error e, g, rfl, hp, hcalm⟩
  | request op k ih =>
    refine ⟨trivial, fun answer => ih answer (hp.2 answer) fun huntouched => ?_⟩
    obtain ⟨hfirst, hrest⟩ := List.forall_mem_cons.mp huntouched
    exact (hcalm hrest).cons hfirst

variable {request : MutationRequest}

section Exchange

variable {W : Wire} {D : Decoder} {H : Hashes} {U : Unicode} {h : List ExchangeEvent} {α β : Type}

/-- A reply, and where it is a definite rejection nothing has changed. -/
def Replied (r : Except Failure MutationReply) (h : List ExchangeEvent) : Prop :=
  ∃ reply, r = .ok reply ∧ (reply.Definite → Calm h)

theorem handler_follows {call : MutationCall} (hh : Calm h) :
    (handler D H U call).Follows Anything Replied h := by
  have hexpects : ∀ e ∈ expectation D call, e = (expectation D call).getD ⟨0, "", ""⟩ := by
    intro e he
    rw [Option.mem_def.mp he, Option.getD_some]
  have hhandle : (handleMutation D H U call).Follows (Licensed _ H call.id _) Answered [] :=
    handleMutation_follows hexpects (List.forall_mem_nil _)
  refine follows_bind ((onAgent_follows hhandle fun _ => hh).mono ?_)
  rintro _ h' ⟨result, g', rfl, hanswered, hcalm⟩
  rcases result with e | reply
  · exact ⟨_, rfl, fun _ => hcalm hanswered⟩
  · exact ⟨reply, rfl, fun hdefinite => hcalm (hanswered hdefinite)⟩

/-- The guard lets the handler run or refuses before it. -/
theorem guarded_follows {b : Agent.Barrier} {call : MutationCall} (hh : Calm h) :
    (guarded W b request (handler D H U call)).Follows Anything Replied h := by
  unfold guarded
  split
  · exact handler_follows hh
  · refine ⟨trivial, fun (identity : Agent.IdentityRead) => ?_⟩
    have hcalm : Calm (⟨.identity, identity⟩ :: h) := hh.cons id
    dsimp only
    split
    · exact ⟨_, rfl, fun _ => hcalm⟩
    · exact handler_follows hcalm

/-- An error that comes back is a definite rejection only if nothing has changed. -/
theorem exchange_follows (hh : Calm h) :
    (exchange W D H U request).Follows Anything (fun r h' => ∃ answer, r = .ok answer ∧
      Trusted answer h') h := by
  refine ⟨trivial, fun (delivery : Except String Agent.Barrier) => ?_⟩
  have hcalm : Calm (⟨.deliver request, delivery⟩ :: h) := hh.cons id
  rcases delivery with message | b
  · exact ⟨_, rfl, hcalm.trusted _⟩
  refine follows_bind ((guarded_follows hcalm).mono ?_)
  rintro _ h' ⟨reply, rfl, hreply⟩
  refine ⟨trivial, fun (response : Except String Unit) => ?_⟩
  rcases response with message | ⟨⟩
  · refine ⟨_, rfl, ?_⟩
    rintro _ ⟨⟩ he
    cases he
  · refine ⟨_, rfl, fun e hread he => ?_⟩
    obtain ⟨status, code, error, rfl, rfl⟩ := W.definite_of_read hread he
    exact (hreply ⟨_, he⟩).cons id

theorem calm_link {p : ControlProgram α} (hp : p.Uses ControlOp.LooksOrJournals) :
    (p.link (carry W D H U)).Follows Anything (fun _ h' => Calm h → Calm h') h := by
  induction p generalizing h with
  | pure a => exact id
  | throw e => exact id
  | request op k ih =>
    have hrest (x : ExchangeEvent) (hx : ¬ ExchangeEvent.MayApply x) (a : op.Ans) :
        ((k a).link (carry W D H U)).Follows Anything (fun _ h' => Calm h → Calm h') (x :: h) :=
      (ih a (hp.2 a)).mono fun _ _ hcalm hh => hcalm (hh.cons hx)
    cases op with
    | send request => rcases hp.1 with hop | hop <;> cases hop
    | db op => exact ⟨trivial, fun answer => hrest ⟨.statement op, answer⟩ id _⟩
    | _ => exact ⟨trivial, fun answer => hrest ⟨.control _, answer⟩ id _⟩

/-- Looking and journaling, and then what can be trusted whatever was answered. -/
theorem trusted_bind {p : ControlProgram α} {f : α → ControlProgram β}
    (hp : p.Uses ControlOp.LooksOrJournals) (hh : Calm h)
    (hf : ∀ a h', Calm h' → ((f a).link (carry W D H U)).Follows Anything Trusted h') :
    ((p.bind f).link (carry W D H U)).Follows Anything Trusted h := by
  rw [link_bind]
  refine follows_bind ((calm_link hp).mono ?_)
  rintro (e | a) h' hcalm
  · exact (hcalm hh).trusted _
  · exact hf a h' (hcalm hh)

/-- The request, and the journal after it. A failed statement is no rejection. -/
theorem journalSend_trusted {d : Control.Dispatch} {request : MutationRequest} (hh : Calm h) :
    ((Control.journalSend d request).link (carry W D H U)).Follows Anything Trusted h := by
  refine follows_bind ((exchange_follows hh).mono ?_)
  rintro _ h' ⟨answer, rfl, htrusted⟩
  rcases answer with e | response
  · refine ⟨trivial, fun (written : Except (Bool × String) Bool) => ?_⟩
    have hrethrow (x : ExchangeEvent) (hx : ¬ ExchangeEvent.MayApply x) :
        Trusted (.error e : Except Failure request.mutation.Response) (x :: h') := by
      rintro _ ⟨⟩ he
      exact (htrusted e rfl he).cons hx
    rcases written with failed | _ | _ <;> exact hrethrow _ id
  · refine ⟨trivial, fun (written : Except (Bool × String) Bool) => ?_⟩
    rcases written with failed | _ | _
    · rintro _ ⟨⟩ he
      cases he
    · rintro _ ⟨⟩ he
      cases he
    · exact fun _ he => nomatch he

theorem sendMutation_trusted (hh : Calm h) :
    ((Control.sendMutation request).link (carry W D H U)).Follows Anything Trusted h := by
  refine follows_bind ((exchange_follows hh).mono ?_)
  rintro _ h' ⟨answer, rfl, htrusted⟩
  rcases answer with e | response
  · exact htrusted
  · exact fun _ he => nomatch he

theorem journalExecute_trusted (active : Option Control.ActiveAdmission)
    (admission : Control.MutationAdmission) (request : MutationRequest) (hh : Calm h) :
    ((Control.journalExecute active admission request).link (carry W D H U)).Follows Anything
      Trusted h := by
  refine trusted_bind Control.journalPrepare_uses.attempt hh ?_
  intro prepared h₁ hh₁
  split
  · exact hh₁.trusted _
  · exact hh₁.trusted _
  · rename_i d
    refine trusted_bind Control.journalBeginSend_uses.attempt hh₁ fun promoted h₂ hh₂ => ?_
    split
    · have hjournals := Control.journalTransition_journals d.id .PREPARED .REJECTED
      exact trusted_bind (hjournals.mono fun _ => .inr).attempt hh₂ fun _ h₃ hh₃ => hh₃.trusted _
    · exact journalSend_trusted hh₂

theorem mutationRequest_trusted {active : Option Control.ActiveAdmission}
    {admission : Option Control.MutationAdmission} {operationId : String} {mutation : Mutation}
    (hh : Calm h) :
    ((Control.mutationRequest active admission operationId mutation).link
      (carry W D H U)).Follows Anything Trusted h := by
  refine ⟨trivial, fun answer => ?_⟩
  have hcalm : Calm (⟨.control .selectMutationAgent, answer⟩ :: h) := hh.cons id
  rcases answer with e | agent
  · exact hcalm.trusted _
  change (link _ (if _ then _ else _)).Follows _ _ _
  split
  · exact hcalm.trusted _
  · cases admission with
    | none => exact sendMutation_trusted hcalm
    | some admission =>
      refine trusted_bind (Control.looksOrJournals (Control.assertBarrierOpen_looks _ _ _)) hcalm ?_
      intro _ h' hh'
      exact journalExecute_trusted active admission
        ⟨agent.agentId, agent.referenceClusterId, some admission.generation, operationId, mutation⟩
          hh'

theorem dispatch_trusted {settings : Control.Settings} {active : Option Control.ActiveAdmission}
    {operationId : String} {mutation : Mutation} (hh : Calm h) :
    ((Control.dispatch settings active operationId mutation).link (carry W D H U)).Follows Anything
      Trusted h := by
  unfold Control.dispatch
  split
  · exact hh.trusted _
  refine trusted_bind (Control.looksOrJournals Control.assertRegistered_looks) hh ?_
  intro _ h₁ hh₁
  split
  · have hlooks : (Control.findMaintenance settings.clusterId).attempt.Uses ControlOp.Looks :=
      Uses.attempt (Control.uses_query.mpr trivial)
    refine trusted_bind (Control.looksOrJournals hlooks) hh₁ fun answer h₂ hh₂ => ?_
    rcases answer with e | _ | row
    · exact hh₂.trusted _
    · exact hh₂.trusted _
    · change (link _ (if _ then _ else _)).Follows _ _ _
      split
      · exact mutationRequest_trusted hh₂
      · exact hh₂.trusted _
  · exact mutationRequest_trusted hh₁

end Exchange

/-- A rejection that the control plane takes for a definite one leaves Docker as it was. The request
is sent for any mutation, with or without maintenance enforced; statements of the journal fail with
or without effect; the barrier, the identity and every answer of Docker are arbitrary. By the time
the rejection arrives the handler has ended, so nothing can happen later. -/
theorem definite_rejection_changes_nothing (W : Wire) (D : Decoder) (H : Hashes) (U : Unicode)
    (settings : Control.Settings) (active : Option Control.ActiveAdmission) (operationId : String)
    (mutation : Mutation) (t : List ExchangeEvent) (e : Failure)
    (ht : Trace ((Control.dispatch settings active operationId mutation).link (carry W D H U)) t
      (.throw e))
    (he : (deterministicAgentRejection e).isSome = true) :
    ∀ x ∈ t, ¬ ExchangeEvent.MayApply x := by
  have hend := (dispatch_trusted (List.forall_mem_nil _)).post_of_trace (r := .error e) ht
  intro x hx
  exact hend e rfl he x (by simpa using hx)

/-- A control plane that enforces nothing. -/
def openSettings : Control.Settings := ⟨"c1", false, none, false, "p1", 1, none, fun _ => ""⟩

def plainWire : Wire where
  stringify _ := ""
  refusal _ _ := ""
  http _ := ⟨"POST", [47], [47], rfl, ["s1"], []⟩

/-- The hashes of a service before and after its first restart. -/
def restartHashes : Hashes :=
  ⟨fun s => if s.taskTemplate.forceUpdate = 0 then "h" else "t", fun _ => "", fun _ => ""⟩

def restartDecoder : Decoder := ⟨fun _ => .ok (serviceBody .restart 7 "h" "t"), .error⟩

def restartRequest : MutationRequest := ⟨"a1", "s1", none, "op1", .service "web" .restart 7 "h" "t"⟩

def asked (op : DockerOp) (answer : op.Ans) : ExchangeEvent := ⟨.docker op, answer⟩

/-- Somebody else has updated the service meanwhile, so the update is answered with a conflict. -/
def staleExchange : List ExchangeEvent :=
  [⟨.control .selectMutationAgent, (.ok ⟨"a1", "s1"⟩ : Except Failure Control.SelectedAgent)⟩,
    ⟨.deliver restartRequest,
      (.ok ⟨false, false, Agent.initialState⟩ : Except String Agent.Barrier)⟩,
    asked .contextErr false, asked .info (.ok "worker"), asked .swarmInspect (.ok "s1"),
    asked (.nodeInspect "worker") (.ok { workerNode with spec.role := "manager" }),
    asked .contextErr false, asked (.serviceInspect "web") (.ok webService),
    asked .contextErr false, asked .swarmInspect (.ok "s1"), asked .contextErr false,
    asked (.serviceUpdate "web" 7 webService.spec.restarted false) (.error (.conflict "stale")),
    ⟨.respond, (.ok () : Except String Unit)⟩]

theorem stale_update_changes_nothing : ¬ ∃ x ∈ staleExchange, ExchangeEvent.MayApply x := by
  rintro ⟨x, hx, happly⟩
  refine definite_rejection_changes_nothing plainWire restartDecoder restartHashes .ascii
    openSettings none "op1" restartRequest.mutation staleExchange (.agentRequest 409 ⟨"", none⟩) ?_
    rfl x hx happly
  repeat refine .cons ?_
  exact .nil

end Docklane.Engine
