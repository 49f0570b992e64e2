import Docklane.Concurrent.RelyGuarantee
import Docklane.Engine.Updates
import Docklane.Fleet.Client

/-!
# A fleet of processes and hosts

Processes of the control plane and Agents run side by side, and a host may leave its Swarm and join
another one at any time. Answers over the network are arbitrary, and an Agent may be handed any
request, old or new, from anybody. The state keeps notes that the code does not see: what the last
look of a handler at its Swarm has shown, whom a read was obtained from, what was sent and which
updates were issued.
-/

namespace Docklane.Fleet

open Concurrent
open Control (AgentIdentityResponse ControlOp ControlProgram Failure Mutation MutationRequest
  SelectedAgent)
open Engine (Decoder DockerError DockerEvent DockerOp EngineError EngineProgram Guarded Hashes
  LastLook MutationCall handleMutation)

/-! ## The machine -/

/-- The configuration of the processes and of the Agents. -/
structure Installation (Pid : Type) where
  settings : Pid → Control.Settings
  registry : Pid → ManagerAgentConfig
  stringify : Mutation → String
  decoder : Decoder
  hashes : Hashes
  unicode : Unicode

/-- A value that `safeRequest` may return. -/
abbrev Value := (read : SafeRead) × read.Reply

/-- An answer of `SwarmInspect`, and how often the host had changed its Swarm before. -/
structure Look (Host : Type) where
  host : Host
  switches : Nat
  shown : Option String

/-- What a thread has last done. -/
structure Notes (Host : Type) where
  look : Option (Look Host)
  /-- The last Agent that has told its identity since the candidates were listed, and its Swarm. -/
  identity : Option (String × String)
  /-- The last Agent that a value was obtained from, and the value. -/
  obtained : Option (String × Value)

/-- An update that a handler has asked Docker for, in the Swarm of the host at that time. -/
structure Update where
  call : MutationCall
  swarm : Option String
  deriving DecidableEq

/-- A value that `safeRequest` has returned, with the notes of its call. -/
structure Delivery (Pid : Type) where
  process : Pid
  value : Value
  identity : Option (String × String)
  obtained : Option (String × Value)

structure World (Pid Host Tid : Type) where
  clock : Int
  client : Pid → HttpAgentClient
  swarm : Host → Option String
  switches : Host → Nat
  notes : Tid → Notes Host
  sent : List (Pid × MutationCall)
  updates : List Update
  delivered : List (Delivery Pid)

section Machine

variable {Pid Host Tid : Type} [DecidableEq Pid] [DecidableEq Host] [DecidableEq Tid]

namespace World

/-- Thread `i` takes a note. -/
def note (w : World Pid Host Tid) (i : Tid) (f : Notes Host → Notes Host) : World Pid Host Tid :=
  { w with notes := Function.update w.notes i (f (w.notes i)) }

def setClient (w : World Pid Host Tid) (p : Pid) (client : HttpAgentClient) : World Pid Host Tid :=
  { w with client := Function.update w.client p client }

/-- A host leaves its Swarm and is in another one, or in none. -/
def switch (w : World Pid Host Tid) (host : Host) (swarm : Option String) : World Pid Host Tid :=
  { w with
    swarm := Function.update w.swarm host swarm
    switches := Function.update w.switches host (w.switches host + 1) }

end World

/-- A request of thread `i` in the process `p`. -/
def ClientPerforms (F : Installation Pid) (i : Tid) (p : Pid) :
    (op : ClientOp) → World Pid Host Tid → op.Ans → World Pid Host Tid → Prop
  | .candidateAgents, w, agents, w' =>
    agents = (w.client p).candidateAgents (F.registry p) w.clock ∧
      w' = w.note i fun notes => { notes with identity := none, obtained := none }
  | .identity agentId, w, (answer : Except Failure AgentIdentityResponse), w' =>
    match answer with
    | .error _ => w' = w
    | .ok identity => w' = w.note i fun notes =>
        { notes with identity := some (agentId, identity.clusterId) }
  | .health _, w, _, w' => w' = w
  | .observeIdentity agentId clusterId, w, answer, w' =>
    answer = (w.client p).assertClusterIdentity agentId clusterId ∧
      (answer = .ok () → w' = w.setClient p ((w.client p).bindTo clusterId)) ∧
      (answer ≠ .ok () → w' = w)
  | .requestTo agentId read, w, (answer : Except Failure read.Reply), w' =>
    match answer with
    | .error _ => w' = w
    | .ok value => w' = w.note i fun notes =>
        { notes with obtained := some (agentId, ⟨read, value⟩) }
  | .assertClusterIdentity agentId clusterId, w, answer, w' =>
    answer = (w.client p).assertClusterIdentity agentId clusterId ∧ w' = w
  | .markActive agentId, w, _, w' => w' = w.setClient p ((w.client p).markActive agentId)
  | .markUnavailable agentId, w, _, w' =>
    w' = w.setClient p ((w.client p).markUnavailable agentId w.clock)
  | .referenceClusterId, w, answer, w' => answer = (w.client p).referenceClusterId ∧ w' = w
  | .send request, w, _, w' => w' = { w with sent := (p, wire F.stringify request) :: w.sent }
  | .deliver read value, w, _, w' => w' = { w with
      delivered := ⟨p, ⟨read, value⟩, (w.notes i).identity, (w.notes i).obtained⟩ :: w.delivered }

/-- A request of thread `i` to the Docker of a host. The last line of an update is the assumption on
the hosts: since the last look of the handler its host has stayed in its Swarm. -/
def DockerPerforms (i : Tid) (host : Host) (call : MutationCall) (op : DockerOp)
    (w : World Pid Host Tid) (answer : op.Ans) (w' : World Pid Host Tid) : Prop :=
  match op, answer with
  | .swarmInspect, (answer : Except DockerError String) =>
    (∀ id, answer = .ok id → w.swarm host = some id) ∧
      w' = w.note i fun notes =>
        { notes with look := some ⟨host, w.switches host, answer.toOption⟩ }
  | op, _ =>
    if op.isUpdate then
      w' = { w with updates := ⟨call, w.swarm host⟩ :: w.updates } ∧
        ∀ look, (w.notes i).look = some look → look.host = host → look.switches = w.switches host
    else w' = w

/-- A handler that takes a request has not looked at its Swarm yet. -/
def Performs (F : Installation Pid) (i : Tid) :
    (op : FleetOp Pid Host) → World Pid Host Tid → op.Ans → World Pid Host Tid → Prop
  | .client p op, w, answer, w' => ClientPerforms F i p op w answer w'
  | .control _ _, w, _, w' => w' = w
  | .receive _, w, _, w' => w' = w.note i fun notes => { notes with look := none }
  | .docker host call op, w, answer, w' => DockerPerforms i host call op w answer w'

/-- What happens on its own. The marks that `mutationRequest` leaves after its journal entries may
come at any time. -/
inductive Drifts (w : World Pid Host Tid) : World Pid Host Tid → Prop where
  | tick (clock : Int) : Drifts w { w with clock := clock }
  | switch (host : Host) (swarm : Option String) : Drifts w (w.switch host swarm)
  | markActive (p : Pid) (agentId : String) :
      Drifts w (w.setClient p ((w.client p).markActive agentId))
  | markUnavailable (p : Pid) (agentId : String) :
      Drifts w (w.setClient p ((w.client p).markUnavailable agentId w.clock))

def fleetMachine (Host Tid : Type) [DecidableEq Host] [DecidableEq Tid] (F : Installation Pid) :
    Machine Tid (FleetOp Pid Host) FleetOp.Ans (World Pid Host Tid) where
  perform i := Performs F i
  env := Drifts
  crash _ w w' := w' = w

/-- The calls of processes whose client could be made, and the handlers of the Agents. -/
inductive FleetCall (F : Installation Pid) : FleetProgram Pid Host Unit → Prop where
  | control {p client program} (hstarted : (F.registry p).client = .ok client)
      (hcall : Control.Call (F.settings p) program) : FleetCall F (program.link (withClient p))
  | health {p client} (hstarted : (F.registry p).client = .ok client) :
      FleetCall F ((healthWithFailover p).bind fun _ => .pure ())
  | identity {p client} (hstarted : (F.registry p).client = .ok client) :
      FleetCall F ((identityWithFailover p).bind fun _ => .pure ())
  | read {p client} (hstarted : (F.registry p).client = .ok client) (read : SafeRead) :
      FleetCall F ((safeRequest p read).bind fun _ => .pure ())
  | handler (host : Host) : FleetCall F (.request (.receive host) fun call =>
      (onHost host call (handleMutation F.decoder F.hashes F.unicode call)).bind fun _ => .pure ())

/-- Every process has just made its client, and the hosts are in some Swarms. -/
structure Starts (F : Installation Pid) (w : World Pid Host Tid) : Prop where
  client : ∀ p client, (F.registry p).client = .ok client → w.client p = client
  notes : ∀ i, w.notes i = ⟨none, none, none⟩
  sent : w.sent = []
  updates : w.updates = []
  delivered : w.delivered = []

def FleetReachable (F : Installation Pid) (w₀ : World Pid Host Tid) :
    Config Tid (FleetOp Pid Host) FleetOp.Ans Failure Unit (World Pid Host Tid) → Prop :=
  Reachable (fleetMachine Host Tid F) (FleetCall F) w₀

end Machine

/-! ## The invariant -/

section Invariant

variable {Pid Host Tid : Type} {F : Installation Pid} {w w' : World Pid Host Tid} {i : Tid}

/-- A process that is bound to a Swarm stays bound to it. -/
def Bound (w : World Pid Host Tid) (p : Pid) (clusterId : String) : Prop :=
  (w.client p).referenceClusterId = some clusterId

def KeepsBindings (w w' : World Pid Host Tid) : Prop :=
  ∀ p clusterId, Bound w p clusterId → Bound w' p clusterId

/-- The value came from an Agent that has told, in the same call, the Swarm of the process. -/
def Vouched (w : World Pid Host Tid) (p : Pid) (value : Value) (identity : Option (String × String))
    (obtained : Option (String × Value)) : Prop :=
  ∃ agentId clusterId, identity = some (agentId, clusterId) ∧ obtained = some (agentId, value) ∧
    Bound w p clusterId

/-- As long as the host has not changed its Swarm, it is in the one that was shown. -/
def Look.Holds (w : World Pid Host Tid) (look : Look Host) : Prop :=
  look.switches ≤ w.switches look.host ∧
    (look.switches = w.switches look.host →
      ∀ clusterId, look.shown = some clusterId → w.swarm look.host = some clusterId)

structure Inv (F : Installation Pid) (w : World Pid Host Tid) : Prop where
  looks : ∀ i look, (w.notes i).look = some look → look.Holds w
  updates : ∀ u ∈ w.updates, ∃ clusterId, u.call.expectedCluster = [clusterId] ∧
    u.swarm = some clusterId
  sent : ∀ p call, (p, call) ∈ w.sent → ∃ clusterId, call.expectedCluster = [clusterId] ∧
    Bound w p clusterId
  delivered : ∀ d ∈ w.delivered, Vouched w d.process d.value d.identity d.obtained
  configured : ∀ p client clusterId, (F.registry p).client = .ok client →
    (F.registry p).expectedClusterId = some clusterId → Bound w p clusterId

/-- What the others do: bindings stay and the notes of the thread are its own. -/
structure Rely (i : Tid) (w w' : World Pid Host Tid) : Prop where
  bindings : KeepsBindings w w'
  notes : w'.notes i = w.notes i

structure Guar (i : Tid) (w w' : World Pid Host Tid) : Prop where
  bindings : KeepsBindings w w'
  notes : ∀ j, j ≠ i → w'.notes j = w.notes j

def fleetProtocol (Host Tid : Type) (F : Installation Pid) : Protocol Tid (World Pid Host Tid) where
  Inv := Inv F
  Rely := Rely
  Guar := Guar
  Idle _ _ := True
  rely_refl _ _ := ⟨fun _ _ h => h, rfl⟩
  rely_trans h h' := ⟨fun p c hb => h'.bindings p c (h.bindings p c hb), h'.notes.trans h.notes⟩
  rely_of_guar hij _ h := ⟨h.bindings, h.notes _ (Ne.symm hij)⟩
  idle_rely _ _ := trivial

theorem Vouched.mono {p : Pid} {value : Value} {identity : Option (String × String)}
    {obtained : Option (String × Value)} (h : Vouched w p value identity obtained)
    (hbindings : KeepsBindings w w') : Vouched w' p value identity obtained := by
  obtain ⟨agentId, clusterId, hidentity, hobtained, hbound⟩ := h
  exact ⟨agentId, clusterId, hidentity, hobtained, hbindings _ _ hbound⟩

theorem Inv.frame (h : Inv F w) (hbindings : KeepsBindings w w')
    (hlooks : ∀ i look, (w'.notes i).look = some look → look.Holds w') (hsent : w'.sent = w.sent)
    (hupdates : w'.updates = w.updates) (hdelivered : w'.delivered = w.delivered) : Inv F w' where
  looks := hlooks
  updates := by
    rw [hupdates]
    exact h.updates
  sent p call hcall := by
    rw [hsent] at hcall
    obtain ⟨clusterId, hexpected, hbound⟩ := h.sent p call hcall
    exact ⟨clusterId, hexpected, hbindings _ _ hbound⟩
  delivered := by
    rw [hdelivered]
    exact fun d hd => (h.delivered d hd).mono hbindings
  configured p client clusterId hclient hexpected :=
    hbindings _ _ (h.configured p client clusterId hclient hexpected)

end Invariant

/-! ## Steps -/

variable {client : HttpAgentClient}

section Steps

variable {Pid Host Tid : Type} [DecidableEq Pid] [DecidableEq Host] [DecidableEq Tid]
  {F : Installation Pid} {w w' : World Pid Host Tid} {i : Tid} {p : Pid}

omit [DecidableEq Host] [DecidableEq Tid] in
theorem keeps_setClient (h : ∀ c, Bound w p c → client.referenceClusterId = some c) :
    KeepsBindings w (w.setClient p client) := by
  intro q c hbound
  by_cases hq : q = p
  · subst hq
    simpa [Bound, World.setClient] using h c hbound
  · simpa [Bound, World.setClient, hq] using hbound

omit [DecidableEq Host] [DecidableEq Tid] in
theorem Inv.setClient (h : Inv F w)
    (hclient : ∀ c, Bound w p c → client.referenceClusterId = some c) :
    Inv F (w.setClient p client) :=
  h.frame (keeps_setClient hclient) h.looks rfl rfl rfl

omit [DecidableEq Pid] [DecidableEq Host] in
theorem Inv.note (h : Inv F w) {f : Notes Host → Notes Host}
    (hf : ∀ look, (f (w.notes i)).look = some look → look.Holds w) : Inv F (w.note i f) := by
  refine h.frame (fun _ _ hbound => hbound) (fun j look hlook => ?_) rfl rfl rfl
  by_cases hj : j = i
  · subst hj
    exact hf look (by simpa [World.note] using hlook)
  · exact h.looks j look (by simpa [World.note, hj] using hlook)

omit [DecidableEq Host] [DecidableEq Tid] in
theorem guar_setClient (h : ∀ c, Bound w p c → client.referenceClusterId = some c) :
    Guar i w (w.setClient p client) :=
  ⟨keeps_setClient h, fun _ _ => rfl⟩

omit [DecidableEq Pid] [DecidableEq Host] in
theorem guar_note {f : Notes Host → Notes Host} : Guar i w (w.note i f) :=
  ⟨fun _ _ hbound => hbound, fun j hj => by simp [World.note, hj]⟩

omit [DecidableEq Pid] [DecidableEq Host] [DecidableEq Tid] in
theorem guar_refl : Guar i w w := ⟨fun _ _ h => h, fun _ _ => rfl⟩

theorem HttpAgentClient.bindTo_keeps {c clusterId : String}
    (h : client.referenceClusterId = some c) :
    (client.bindTo clusterId).referenceClusterId = some c := by
  simp only [HttpAgentClient.bindTo, h]

/-- An identity that is accepted is the one the process is bound to. -/
theorem HttpAgentClient.bindTo_of_accepted {agentId clusterId : String}
    (h : client.assertClusterIdentity agentId clusterId = .ok ()) :
    (client.bindTo clusterId).referenceClusterId = some clusterId := by
  cases hreference : client.referenceClusterId with
  | none => simp only [bindTo, hreference]
  | some reference =>
    rw [assertClusterIdentity, hreference] at h
    by_cases heq : clusterId = reference
    · simp only [bindTo, hreference, heq]
    · simp [heq] at h

/-- Requests that take no notes and send nothing. -/
def ClientOp.Plain : ClientOp → Prop
  | .health _ | .observeIdentity _ _ | .assertClusterIdentity _ _ | .markActive _
  | .markUnavailable _ | .referenceClusterId => True
  | _ => False

omit [DecidableEq Host] in
theorem ClientOp.Plain.step {op : ClientOp} (hop : op.Plain) (h : Inv F w) {a : op.Ans}
    (hperf : ClientPerforms F i p op w a w') : Inv F w' ∧ Guar i w w' ∧ Rely i w w' := by
  have hset (client : HttpAgentClient) (hc : ∀ c, Bound w p c → client.referenceClusterId =
      some c) : Inv F (w.setClient p client) ∧ Guar i w (w.setClient p client) ∧
        Rely i w (w.setClient p client) :=
    ⟨h.setClient hc, guar_setClient hc, keeps_setClient hc, rfl⟩
  have hsame : Inv F w ∧ Guar i w w ∧ Rely i w w := ⟨h, guar_refl, fun _ _ hb => hb, rfl⟩
  cases op with
  | health _ =>
    obtain rfl : w' = w := hperf
    exact hsame
  | observeIdentity agentId clusterId =>
    obtain ⟨_, hok, herror⟩ := hperf
    by_cases ha : a = .ok ()
    · rw [hok ha]
      exact hset _ fun c hc => HttpAgentClient.bindTo_keeps hc
    · rw [herror ha]
      exact hsame
  | assertClusterIdentity _ _ =>
    obtain ⟨_, rfl⟩ := hperf
    exact hsame
  | markActive _ =>
    obtain rfl : w' = _ := hperf
    exact hset _ fun c hc => hc
  | markUnavailable _ =>
    obtain rfl : w' = _ := hperf
    exact hset _ fun c hc => hc
  | referenceClusterId =>
    obtain ⟨_, rfl⟩ := hperf
    exact hsame
  | _ => exact hop.elim

end Steps

end Docklane.Fleet
