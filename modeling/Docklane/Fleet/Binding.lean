import Docklane.Control.Execution
import Docklane.Control.Requests
import Docklane.Fleet.Machine

/-!
# Mutations stay in the bound Swarm

A handler asks Docker for a change only after its last look has shown the Swarm of the header, and
the header of a mutation is the reference of the process that has sent it. The rules below carry
these two facts through the loops of the client, the calls of the control plane and the handlers.
-/

namespace Docklane.Fleet

open Concurrent
open Control (AgentIdentityResponse ControlOp ControlProgram Failure Mutation MutationRequest
  SelectedAgent)
open Engine (DockerError DockerEvent DockerOp EngineProgram Guarded LastLook MutationCall
  handleMutation)

/-! ## The loops of the client -/

variable {clusterId : String} {h : List DockerEvent} {agentId : String} {op : ClientOp}
  {read : SafeRead}

section Client

variable {Pid Host Tid : Type} {F : Installation Pid} {w : World Pid Host Tid} {i : Tid} {p : Pid}
  {α : Type} {R : α → World Pid Host Tid → Prop}

/-- What is known after a value; nothing is known after an exception. -/
abbrev Gives (R : α → World Pid Host Tid → Prop) : Except Failure α → World Pid Host Tid → Prop :=
  Ends (fun _ => True) R

abbrev Kept (F : Installation Pid) (i : Tid) (K : World Pid Host Tid → Prop) : Prop :=
  Stable (fleetProtocol Host Tid F) i K

/-- The Agent was the last to tell its identity, and it is in the Swarm of the process. -/
def Told (i : Tid) (p : Pid) (agentId : String) (w : World Pid Host Tid) : Prop :=
  ∃ clusterId, (w.notes i).identity = some (agentId, clusterId) ∧ Bound w p clusterId

/-- The value may be returned by `safeRequest`. -/
def Obtained (i : Tid) (p : Pid) (value : Value) (w : World Pid Host Tid) : Prop :=
  Vouched w p value (w.notes i).identity (w.notes i).obtained

theorem bound_kept : Kept F i fun w : World Pid Host Tid => Bound w p clusterId :=
  fun h hr _ => hr.bindings _ _ h

theorem notes_kept {P : Notes Host → Prop} :
    Kept F i fun w : World Pid Host Tid => P (w.notes i) := by
  intro w w' h hr _
  rw [hr.notes]
  exact h

theorem told_kept : Kept F i (Told i p agentId : World Pid Host Tid → Prop) := by
  rintro w w' ⟨clusterId, hidentity, hbound⟩ hr -
  exact ⟨clusterId, by rw [hr.notes]; exact hidentity, hr.bindings _ _ hbound⟩

theorem obtained_kept {value : Value} :
    Kept F i (Obtained i p value : World Pid Host Tid → Prop) := by
  intro w w' h hr _
  unfold Obtained
  rw [hr.notes]
  exact Vouched.mono h hr.bindings

theorem kept_of_ok (hR : ∀ a, Kept F i (R a)) (answer : Except Failure α) :
    Kept F i fun w => ∀ a, answer = .ok a → R a w :=
  fun h hr hi a ha => hR a (h a ha) hr hi

variable [DecidableEq Pid] [DecidableEq Host] [DecidableEq Tid]

/-- A call may run the program from `w`. -/
abbrev fleetWp (F : Installation Pid) (i : Tid) (program : FleetProgram Pid Host α)
    (Q : Except Failure α → World Pid Host Tid → Prop) (w : World Pid Host Tid) : Prop :=
  wp (fleetMachine Host Tid F) (fleetProtocol Host Tid F) i program Q w

theorem wp_ask {K : World Pid Host Tid → Prop} {R : op.Ans → World Pid Host Tid → Prop}
    (hK : Kept F i K) (hR : ∀ a, Kept F i (R a))
    (h : ∀ s a s', Inv F s → K s → ClientPerforms F i p op s a s' → Inv F s' ∧ Guar i s s' ∧ R a s')
    (hs : K w) : fleetWp F i (ask p op) (Gives R) w := by
  refine wp_request hK hs fun s hinv hs a s' hperf => ?_
  obtain ⟨hinv', hguar, hr⟩ := h s a s' hinv hs hperf
  exact ⟨hinv', hguar, wp_pure_ends (fun h _ _ => h) (hR a) trivial hr⟩

theorem wp_plain (hop : op.Plain) {K : World Pid Host Tid → Prop} (hK : Kept F i K) (hs : K w) :
    fleetWp F i (ask p op) (Gives fun _ => K) w := by
  refine wp_ask hK (fun _ => hK) (fun s a s' hinv hs hperf => ?_) hs
  obtain ⟨hinv', hguar, hrely⟩ := hop.step hinv hperf
  exact ⟨hinv', hguar, hK hs hrely hinv'⟩

theorem wp_seq {β : Type} {program : FleetProgram Pid Host α} {f : α → FleetProgram Pid Host β}
    {T : β → World Pid Host Tid → Prop} (hinv : Inv F w) (h : fleetWp F i program (Gives R) w)
    (hf : ∀ a s, Inv F s → R a s → fleetWp F i (f a) (Gives T) s) :
    fleetWp F i (program.bind f) (Gives T) w :=
  wp_bind_ends hinv stable_true (fun _ h => h) h fun a s hinv' _ hr => hf a s hinv' hr

theorem wp_ok {a : α} (hR : Kept F i (R a)) (ha : R a w) : fleetWp F i (.pure a) (Gives R) w :=
  wp_pure_ends stable_true hR trivial ha

theorem wp_fails {e : Failure} : fleetWp F i (.throw e) (Gives R) w :=
  wp_throw_ends stable_true trivial

theorem wp_ofExcept {β : Type} {answer : Except Failure α} {k : α → FleetProgram Pid Host β}
    {T : β → World Pid Host Tid → Prop} (h : ∀ a, answer = .ok a → fleetWp F i (k a) (Gives T) w) :
    fleetWp F i ((Program.ofExcept answer).bind k) (Gives T) w := by
  cases answer with
  | error e => exact wp_fails
  | ok a => exact h a rfl

theorem readIdentity_wp (hinv : Inv F w) :
    fleetWp F i (readIdentity p agentId) (Gives fun _ => Told i p agentId) w := by
  have hask : fleetWp F i (ask p (.identity agentId))
      (Gives fun (answer : Except Failure AgentIdentityResponse) w => ∀ identity,
        answer = .ok identity → (w.notes i).identity = some (agentId, identity.clusterId)) w := by
    refine wp_ask stable_true (fun a => notes_kept (P := fun notes => ∀ identity,
      a = .ok identity → notes.identity = some (agentId, identity.clusterId)))
      (fun s a s' hs _ hperf => ?_) trivial
    cases a with
    | error _ =>
      obtain rfl : s' = s := hperf
      exact ⟨hs, guar_refl, nofun⟩
    | ok identity =>
      obtain rfl : s' = _ := hperf
      refine ⟨hs.note fun look hlook => hs.looks i look hlook, guar_note, ?_⟩
      rintro _ ⟨⟩
      simp [World.note]
  refine wp_seq hinv hask fun answer s hs hidentity => ?_
  cases answer with
  | error e =>
    change fleetWp F i (if _ then _ else _) _ _
    split <;> exact wp_fails
  | ok identity =>
    have hobserve : fleetWp F i (ask p (.observeIdentity agentId identity.clusterId))
        (Gives fun (observed : Except Failure Unit) w => observed = .ok () →
          Told i p agentId w) s := by
      refine wp_ask (K := fun w => (w.notes i).identity = some (agentId, identity.clusterId))
        (notes_kept (P := fun notes => notes.identity = some (agentId, identity.clusterId)))
        (fun _ => Stable.imp fun _ => told_kept)
        (fun s₁ a s₂ hs₁ hidentity hperf => ?_) (hidentity identity rfl)
      have hplain : (ClientOp.observeIdentity agentId identity.clusterId).Plain := trivial
      obtain ⟨hinv', hguar, hrely⟩ := hplain.step hs₁ hperf
      refine ⟨hinv', hguar, fun hok => ⟨identity.clusterId, by rw [hrely.notes]; exact hidentity,
        ?_⟩⟩
      obtain ⟨haccepted, hnext, -⟩ := hperf
      rw [hnext hok]
      rw [hok] at haccepted
      simpa [Bound, World.setClient] using HttpAgentClient.bindTo_of_accepted haccepted.symm
    refine wp_seq hs hobserve fun observed s' hs' htold => ?_
    exact wp_ofExcept fun _ hok => wp_ok told_kept (htold hok)

theorem verifyAgent_wp (hinv : Inv F w) :
    fleetWp F i (verifyAgent p agentId) (Gives fun _ => Told i p agentId) w :=
  wp_seq hinv (readIdentity_wp hinv) fun _ _ _ htold => wp_ok told_kept htold

/-- What one attempt establishes, the loop does. The induction is on the Agents that are left. -/
theorem failover_wp {retries : Failure → Bool} {attempt : String → FleetProgram Pid Host α}
    (hR : ∀ a, Kept F i (R a))
    (hattempt : ∀ agentId s, Inv F s → fleetWp F i (attempt agentId) (Gives R) s)
    {agents : List String} (lastError : Failure) (hinv : Inv F w) :
    fleetWp F i (failover p retries attempt agents lastError) (Gives R) w := by
  induction agents generalizing lastError w with
  | nil => exact wp_fails
  | cons agentId rest ih =>
    have htry := wp_attempt_ends (hattempt agentId w hinv)
    refine wp_seq hinv htry fun outcome s hs hr => ?_
    cases outcome with
    | ok value => exact wp_ok (hR value) (hr value rfl)
    | error e =>
      change fleetWp F i (if _ then _ else _) _ _
      split
      · have hmark : (ClientOp.markUnavailable agentId).Plain := trivial
        exact wp_seq hs (wp_plain hmark stable_true trivial) fun _ _ hs' _ => ih e hs'
      · exact wp_fails

theorem candidateAgents_wp :
    fleetWp F i (ask p .candidateAgents) (Gives fun _ _ => True) w := by
  refine wp_ask stable_true (fun _ => stable_true) (fun s a s' hs _ hperf => ?_) trivial
  obtain ⟨-, rfl⟩ := hperf
  exact ⟨hs.note fun look hlook => hs.looks i look hlook, guar_note, trivial⟩

theorem withFailover_wp {retries : Failure → Bool} {attempt : String → FleetProgram Pid Host α}
    (hR : ∀ a, Kept F i (R a))
    (hattempt : ∀ agentId s, Inv F s → fleetWp F i (attempt agentId) (Gives R) s) (hinv : Inv F w) :
    fleetWp F i (withFailover p retries attempt) (Gives R) w :=
  wp_seq hinv candidateAgents_wp fun _ _ hs _ => failover_wp hR hattempt _ hs

theorem healthWithFailover_wp (hinv : Inv F w) :
    fleetWp F i (healthWithFailover p) (Gives fun _ _ => True) w := by
  refine withFailover_wp (fun _ => stable_true) (fun agentId s hs => ?_) hinv
  have hhealth : (ClientOp.health agentId).Plain := trivial
  have hmark : (ClientOp.markActive agentId).Plain := trivial
  refine wp_seq hs (wp_plain hhealth stable_true trivial)
    fun (answer : Except Failure String) s hs _ => wp_ofExcept fun value _ => ?_
  exact wp_seq hs (wp_plain hmark stable_true trivial) fun _ _ _ _ => wp_ok stable_true trivial

theorem identityWithFailover_wp (hinv : Inv F w) :
    fleetWp F i (identityWithFailover p) (Gives fun _ _ => True) w := by
  refine withFailover_wp (fun _ => stable_true) (fun agentId s hs => ?_) hinv
  refine wp_seq hs (readIdentity_wp hs) fun _ s hs _ => ?_
  have hmark : (ClientOp.markActive agentId).Plain := trivial
  exact wp_seq hs (wp_plain hmark stable_true trivial) fun _ _ _ _ => wp_ok stable_true trivial

theorem requestTo_wp (htold : Told i p agentId w) :
    fleetWp F i (ask p (.requestTo agentId read))
      (Gives fun (answer : Except Failure read.Reply) w => ∀ value, answer = .ok value →
        Obtained i p ⟨read, value⟩ w) w := by
  refine wp_ask told_kept (kept_of_ok fun _ => obtained_kept)
    (fun s a s' hs htold hperf => ?_) htold
  match a, hperf with
  | .error _, hperf =>
    obtain rfl : s' = s := hperf
    exact ⟨hs, guar_refl, nofun⟩
  | .ok value, hperf =>
    obtain rfl : s' = _ := hperf
    refine ⟨hs.note fun look hlook => hs.looks i look hlook, guar_note, ?_⟩
    rintro _ ⟨⟩
    obtain ⟨clusterId, hidentity, hbound⟩ := htold
    exact ⟨agentId, clusterId, by simpa [World.note] using hidentity, by simp [World.note], hbound⟩

theorem safeRequestTo_wp (hinv : Inv F w) :
    fleetWp F i (safeRequestTo p read agentId) (Gives fun value => Obtained i p ⟨read, value⟩)
      w := by
  refine wp_seq hinv (verifyAgent_wp hinv) fun _ s hs htold => ?_
  refine wp_seq hs (requestTo_wp htold) fun (answer : Except Failure read.Reply) s hs hanswer =>
    wp_ofExcept fun value hvalue => ?_
  have hobtained := hanswer value hvalue
  refine wp_seq hs (R := fun _ => Obtained i p ⟨read, value⟩) ?_ fun _ s hs hobtained => ?_
  · split
    · exact wp_ok obtained_kept hobtained
    · rename_i clusterId _
      have hplain : (ClientOp.assertClusterIdentity agentId clusterId).Plain := trivial
      refine wp_seq hs (wp_plain hplain obtained_kept hobtained)
        fun (checked : Except Failure Unit) s hs hobtained => ?_
      cases checked with
      | error e => exact wp_fails
      | ok _ => exact wp_ok obtained_kept hobtained
  · have hmark : (ClientOp.markActive agentId).Plain := trivial
    exact wp_seq hs (wp_plain hmark obtained_kept hobtained) fun _ _ _ hobtained =>
      wp_ok obtained_kept hobtained

theorem deliver_wp {value : read.Reply} (hobtained : Obtained i p ⟨read, value⟩ w) :
    fleetWp F i (ask p (.deliver read value)) (Gives fun _ _ => True) w := by
  refine wp_ask obtained_kept (fun _ => stable_true) (fun s a s' hs hobtained hperf => ?_) hobtained
  obtain rfl : s' = _ := hperf
  refine ⟨⟨hs.looks, hs.updates, hs.sent, ?_, hs.configured⟩, ⟨fun _ _ h => h, fun _ _ => rfl⟩,
    trivial⟩
  rintro d (_ | ⟨_, hd⟩)
  · exact hobtained
  · exact hs.delivered d hd

theorem safeRequest_wp (hinv : Inv F w) :
    fleetWp F i (safeRequest p read) (Gives fun _ _ => True) w := by
  have hvalue : fleetWp F i (withFailover p shouldFailover (safeRequestTo p read))
      (Gives fun value => Obtained i p ⟨read, value⟩) w :=
    withFailover_wp (fun _ => obtained_kept) (fun agentId _ hs => safeRequestTo_wp hs) hinv
  refine wp_seq hinv hvalue fun value s hs hobtained => ?_
  exact wp_seq hs (deliver_wp hobtained) fun _ _ _ _ => wp_ok stable_true trivial

/-- Where the Agent is selected, a reference that is set is the one the process is bound to. -/
theorem selectAgent_wp (hinv : Inv F w) :
    fleetWp F i (selectAgent p) (Gives fun agent w => agent.referenceClusterId ≠ "" →
      Bound w p agent.referenceClusterId) w := by
  have hselect : fleetWp F i (selectMutationAgent p) (Gives fun _ _ => True) w := by
    refine withFailover_wp (fun _ => stable_true) (fun agentId s hs => ?_) hinv
    refine wp_seq hs (verifyAgent_wp hs) fun _ s hs _ => ?_
    have hmark : (ClientOp.markActive agentId).Plain := trivial
    exact wp_seq hs (wp_plain hmark stable_true trivial) fun _ _ _ _ => wp_ok stable_true trivial
  refine wp_seq hinv hselect fun agentId s hs _ => ?_
  have hreference : fleetWp F i (ask p .referenceClusterId)
      (Gives fun (reference : Option String) w => ∀ c, reference = some c → Bound w p c) s := by
    refine wp_ask stable_true (fun _ {_ _} h hr hi c hc => bound_kept (h c hc) hr hi)
      (fun s a s' hs _ hperf => ?_) trivial
    obtain ⟨rfl, rfl⟩ := hperf
    exact ⟨hs, guar_refl, fun c hc => hc⟩
  refine wp_seq hs hreference fun (reference : Option String) s hs hbound => ?_
  refine wp_ok (fun h hr hi hne => bound_kept (h hne) hr hi) fun hne => ?_
  cases reference with
  | none => exact absurd rfl hne
  | some c => exact hbound c rfl

end Client

/-! ## Calls of the control plane -/

section Calls

open Program

variable {Pid Host Tid : Type}
  {F : Installation Pid} {w : World Pid Host Tid} {i : Tid} {p : Pid} {α : Type}

theorem withClient_noThrow {p : Pid} (op : ControlOp) :
    (withClient p op : FleetProgram Pid Host op.Ans).NoThrow := by
  cases op with
  | agent read => exact noThrow_attempt
  | selectMutationAgent => exact noThrow_attempt
  | _ => exact fun _ => trivial

variable [DecidableEq Pid] [DecidableEq Host] [DecidableEq Tid]

/-- A mutation is sent to the Swarm that the process is bound to. -/
theorem send_wp {request : MutationRequest} (hbound : Bound w p request.expectedClusterId) :
    fleetWp F i (ask p (.send request)) (Gives fun _ _ => True) w := by
  refine wp_ask bound_kept (fun _ => stable_true) (fun s a s' hs hbound hperf => ?_) hbound
  obtain rfl : s' = _ := hperf
  refine ⟨⟨hs.looks, hs.updates, ?_, hs.delivered, hs.configured⟩, ⟨fun _ _ h => h, fun _ _ => rfl⟩,
    trivial⟩
  intro q call hcall
  rcases List.mem_cons.mp hcall with heq | hcall
  · cases heq
    exact ⟨_, rfl, hbound⟩
  · exact hs.sent q call hcall

theorem withClient_wp {op : ControlOp}
    (hop : ∀ request, op = .send request → Bound w p request.expectedClusterId) (hinv : Inv F w) :
    fleetWp F i (withClient p op) (Gives fun _ _ => True) w := by
  cases op with
  | agent read => exact wp_ends (wp_attempt (wp_whatever (safeRequest_wp hinv)))
  | selectMutationAgent => exact wp_ends (wp_attempt (wp_whatever (selectAgent_wp hinv)))
  | send request => exact send_wp (hop request rfl)
  | _ =>
    -- the other requests leave everything here alone
    refine wp_request stable_true trivial fun s hinv _ a s' hperf => ?_
    obtain rfl : s' = s := hperf
    exact ⟨hinv, guar_refl, wp_ok stable_true trivial⟩

variable {q : ControlProgram α}

/-- What the steps of no thread can falsify carries a program whose sends it allows. -/
theorem linked_wp {allowed : ControlOp → Prop} {K : World Pid Host Tid → Prop} (hK : Kept F i K)
    (hguar : ∀ s s', K s → Guar i s s' → K s')
    (hsend : ∀ request s, allowed (.send request) → K s → Bound s p request.expectedClusterId)
    (hq : q.Uses allowed) (hinv : Inv F w) (hs : K w) :
    fleetWp F i (q.link (withClient p)) (fun _ s => K s) w := by
  induction q generalizing w with
  | pure a => exact wp_pure hK hs fun _ _ h => h
  | throw e => exact wp_throw hK hs fun _ _ h => h
  | request op k ih =>
    have hop : ∀ request, op = .send request → Bound w p request.expectedClusterId := by
      rintro request rfl
      exact hsend request w hq.1 hs
    refine wp_bind hinv (wp_mono (wp_frame hK hguar (withClient_wp hop hinv) hs) ?_)
    rintro (e | a) s hinv' ⟨-, hs'⟩
    · exact fun _ hr hi => hK hs' hr hi
    · exact ih a (hq.2 a) hinv' hs'

theorem linked_wp_apart (hq : q.Uses ControlOp.Apart) (hinv : Inv F w) :
    fleetWp F i (q.link (withClient p)) (Gives fun _ _ => True) w :=
  wp_ends (linked_wp stable_true (fun _ _ _ _ => trivial) (fun _ _ hsend _ => hsend.elim) hq hinv
    trivial)

/-- A program that may send one mutation, to the Swarm that the process is bound to. -/
theorem linked_wp_sendsOnly {request : MutationRequest} (hq : Control.SendsOnly request q)
    (hinv : Inv F w) (hbound : Bound w p request.expectedClusterId) :
    fleetWp F i (q.link (withClient p)) (Gives fun _ _ => True) w := by
  have huses : q.Uses fun op => ∀ other, op = .send other → other = request := by
    refine UsesUntil.uses hq ?_ ?_ ?_
    · rintro op (hop | hop) other rfl <;> exact hop.elim
    · rintro op rfl other hother
      exact (ControlOp.send.inj hother).symm
    · rintro op hop other rfl
      exact hop.elim
  refine wp_ends (wp_mono (linked_wp (K := fun s => Bound s p request.expectedClusterId) bound_kept
    (fun _ _ h hguar => hguar.bindings _ _ h) ?_ huses hinv hbound) fun _ _ _ _ => trivial)
  intro other s hother hs
  rw [hother other rfl]
  exact hs

theorem mutationRequest_wp {active : Option Control.ActiveAdmission}
    {admission : Option Control.MutationAdmission} {operationId : String} {mutation : Mutation}
    (hinv : Inv F w) :
    fleetWp F i ((Control.mutationRequest active admission operationId mutation).link
      (withClient p)) (Gives fun _ _ => True) w := by
  refine wp_seq hinv (wp_attempt_ends (selectAgent_wp hinv))
    fun (answer : Except Failure SelectedAgent) s hs hagent => ?_
  cases answer with
  | error e => exact wp_fails
  | ok agent =>
    change fleetWp F i (link _ (if _ then _ else _)) _ _
    rw [link_ite]
    split
    · exact wp_fails
    · rename_i hbounded
      have hbound : Bound s p agent.referenceClusterId := by
        refine hagent agent rfl fun hempty => hbounded ?_
        rw [hempty]
        rfl
      cases admission with
      | none => exact linked_wp_sendsOnly Control.sendMutation_sendsOnly hs hbound
      | some admission =>
        have hsends := Control.journalExecute_sendsOnly active admission
          ⟨agent.agentId, agent.referenceClusterId, some admission.generation, operationId,
          mutation⟩
        have hbarrier := Control.looksOrJournals (Control.assertBarrierOpen_looks agent.agentId
          agent.referenceClusterId admission.generation)
        exact linked_wp_sendsOnly (hbarrier.bind_until fun _ => hsends) hs hbound

theorem dispatch_wp {settings : Control.Settings} {active : Option Control.ActiveAdmission}
    {operationId : String} {mutation : Mutation} (hinv : Inv F w) :
    fleetWp F i ((Control.dispatch settings active operationId mutation).link (withClient p))
      (Gives fun _ _ => True) w := by
  have hapart {β : Type} {q : ControlProgram β} (hq : q.Uses ControlOp.Looks) :
      q.Uses ControlOp.Apart := hq.mono fun _ hop => hop.mutates.apart
  unfold Control.dispatch
  rw [link_ite]
  split
  · exact wp_fails
  · unfold Control.registeredMutation
    rw [link_bind]
    refine wp_seq hinv (linked_wp_apart (hapart Control.assertRegistered_looks) hinv)
      fun _ s hs _ => ?_
    rw [link_ite]
    split
    · rw [link_bind]
      have hfind : (Control.findMaintenance settings.clusterId).attempt.Uses ControlOp.Looks :=
        Uses.attempt (Control.uses_query.mpr trivial)
      refine wp_seq hs (linked_wp_apart (hapart hfind) hs) fun answer s hs _ => ?_
      rcases answer with e | _ | row
      · exact wp_fails
      · exact wp_fails
      · change fleetWp F i (link _ (if _ then _ else _)) _ _
        rw [link_ite]
        split
        · exact mutationRequest_wp hs
        · exact wp_fails
    · exact mutationRequest_wp hs

theorem call_wp {settings : Control.Settings} (hq : Control.Asks settings ControlOp.Apart q)
    (hinv : Inv F w) : fleetWp F i (q.link (withClient p)) (Gives fun _ _ => True) w := by
  induction hq generalizing w with
  | pure a => exact wp_ok stable_true trivial
  | throw e => exact wp_fails
  | @request op k hop _ ih =>
    have hsilent : ∀ request, op = .send request → Bound w p request.expectedClusterId := by
      rintro request rfl
      exact hop.elim
    exact wp_seq hinv (withClient_wp hsilent hinv) fun a s hs _ => ih a hs
  | part hdispatch _ ih =>
    rw [link_bind, link_attempt (withClient_noThrow)]
    obtain ⟨active, operationId, mutation⟩ := hdispatch
    exact wp_seq hinv (wp_attempt_ends (dispatch_wp hinv)) fun r s hs _ => ih r hs

end Calls

/-! ## The handlers of the Agents -/

section Handlers

open Program

variable {Pid Host Tid : Type}
  {F : Installation Pid} {w : World Pid Host Tid} {i : Tid} {α : Type} {host : Host}
  {call : MutationCall}

/-- The notes of the handler know what its last look has shown. -/
def Seen (i : Tid) (host : Host) (h : List DockerEvent) (w : World Pid Host Tid) : Prop :=
  ∀ clusterId, LastLook clusterId h → ∃ switches,
    (w.notes i).look = some ⟨host, switches, some clusterId⟩

theorem seen_kept : Kept F i (Seen i host h : World Pid Host Tid → Prop) :=
  notes_kept (P := fun notes => ∀ clusterId, LastLook clusterId h → ∃ switches,
    notes.look = some ⟨host, switches, some clusterId⟩)

variable [DecidableEq Pid] [DecidableEq Host] [DecidableEq Tid]

/-- A request that is no look leaves the last look where it was. -/
theorem lastLook_of_cons {x : DockerEvent} (hlook : LastLook clusterId (x :: h))
    (hx : x.1 ≠ .swarmInspect) : LastLook clusterId h := by
  rcases hlook.cons_inv with rfl | ⟨-, hlook⟩
  · exact absurd rfl hx
  · exact hlook

omit [DecidableEq Pid] [DecidableEq Host] in
theorem swarmInspect_step {a : Except DockerError String} {w' : World Pid Host Tid} (hinv : Inv F w)
    (hperf : DockerPerforms i host call .swarmInspect w a w') :
    Inv F w' ∧ Guar i w w' ∧ Seen i host (⟨.swarmInspect, a⟩ :: h) w' := by
  obtain ⟨hshown, rfl⟩ := hperf
  refine ⟨hinv.note ?_, guar_note, fun clusterId hlook => ⟨w.switches host, ?_⟩⟩
  · rintro _ ⟨⟩
    refine ⟨Nat.le_refl _, fun _ clusterId hid => hshown clusterId ?_⟩
    cases a with
    | error e => cases hid
    | ok id => exact congrArg Except.ok (Option.some.inj hid)
  · rcases hlook.cons_inv with heq | ⟨hne, -⟩
    · obtain rfl : (.ok clusterId : Except DockerError String) = a := by
        injection heq
      simp [World.note, Except.toOption]
    · exact absurd rfl hne

omit [DecidableEq Pid] [DecidableEq Host] in
/-- An update is issued in the Swarm that the last look has shown. -/
theorem update_step {op : DockerOp} {a : op.Ans} {w' : World Pid Host Tid}
    (hop : op.isUpdate = true) (hguarded : Guarded (fun id => call.expectedCluster = [id]) h op)
    (hinv : Inv F w) (hseen : Seen i host h w) (hperf : DockerPerforms i host call op w a w') :
    Inv F w' ∧ Guar i w w' ∧ Seen i host (⟨op, a⟩ :: h) w' := by
  have hlooks : op ≠ .swarmInspect := by
    rintro rfl
    cases hop
  obtain ⟨rfl, hstays⟩ : w' = { w with updates := ⟨call, w.swarm host⟩ :: w.updates } ∧
      ∀ look, (w.notes i).look = some look → look.host = host →
      look.switches = w.switches host := by
    cases op with
    | serviceUpdate _ _ _ _ => exact hperf
    | nodeUpdate _ _ _ => exact hperf
    | _ => cases hop
  obtain ⟨clusterId, hexpected, hlook⟩ := hguarded hop
  obtain ⟨switches, hnote⟩ := hseen clusterId hlook
  have hswarm : w.swarm host = some clusterId :=
    (hinv.looks i _ hnote).2 (hstays _ hnote rfl) clusterId rfl
  refine ⟨⟨hinv.looks, ?_, hinv.sent, hinv.delivered, hinv.configured⟩,
    ⟨fun _ _ h => h, fun _ _ => rfl⟩, fun id hid => hseen id (lastLook_of_cons hid hlooks)⟩
  rintro u (_ | ⟨_, hu⟩)
  · exact ⟨clusterId, hexpected, hswarm⟩
  · exact hinv.updates u hu

/-- A guarded handler may run on a host. The induction is on its program: each answer of Docker
moves its history along with the notes. -/
theorem onHost_wp {q : EngineProgram α}
    (hq : q.Follows (Guarded fun id => call.expectedCluster = [id]) (fun _ _ => True) h)
    (hseen : Seen i host h w) : fleetWp F i (onHost host call q) (Gives fun _ _ => True) w := by
  induction q generalizing h w with
  | pure a => exact wp_ok stable_true trivial
  | throw e => exact wp_ok stable_true trivial
  | request op k ih =>
    refine wp_request seen_kept hseen fun s hinv hseen a s' hperf => ?_
    have hstep : Inv F s' ∧ Guar i s s' ∧ Seen i host (⟨op, a⟩ :: h) s' := by
      by_cases hop : op.isUpdate = true
      · exact update_step hop hq.1 hinv hseen hperf
      · by_cases hlook : op = .swarmInspect
        · subst hlook
          have hlooked : DockerPerforms i host call .swarmInspect s a s' := hperf
          exact swarmInspect_step hinv hlooked
        · obtain rfl : s' = s := by
            cases op with
            | swarmInspect => exact absurd rfl hlook
            | serviceUpdate _ _ _ _ => exact absurd rfl hop
            | nodeUpdate _ _ _ => exact absurd rfl hop
            | _ => exact hperf
          exact ⟨hinv, guar_refl, fun id hid => hseen id (lastLook_of_cons hid hlook)⟩
    exact ⟨hstep.1, hstep.2.1, ih a (hq.2 a) hstep.2.2⟩

end Handlers

/-! ## Every run -/

section Soundness

variable {Pid Host Tid : Type} [DecidableEq Pid] [DecidableEq Host] [DecidableEq Tid]
  {F : Installation Pid} {w w' w₀ : World Pid Host Tid} {i : Tid}
  {c c' : Config Tid (FleetOp Pid Host) FleetOp.Ans Failure Unit (World Pid Host Tid)}

omit [DecidableEq Tid] in
theorem Drifts.step (hinv : Inv F w) (h : Drifts w w') :
    Inv F w' ∧ KeepsBindings w w' ∧ ∀ i, w'.notes i = w.notes i := by
  cases h with
  | tick clock =>
    exact ⟨hinv.frame (fun _ _ h => h) hinv.looks rfl rfl rfl, fun _ _ h => h, fun _ => rfl⟩
  | switch host swarm =>
    refine ⟨hinv.frame (fun _ _ h => h) (fun i look hlook => ?_) rfl rfl rfl, fun _ _ h => h,
      fun _ => rfl⟩
    obtain ⟨hle, hshown⟩ := hinv.looks i look hlook
    by_cases hhost : look.host = host
    · -- the look is from before the switch
      subst hhost
      refine ⟨?_, fun heq => ?_⟩
      · simp only [World.switch, Function.update_self]
        exact Nat.le_succ_of_le hle
      · simp only [World.switch, Function.update_self] at heq
        omega
    · simpa [Look.Holds, World.switch, hhost] using And.intro hle hshown
  | markActive p agentId =>
    exact ⟨hinv.setClient fun _ h => h, keeps_setClient fun _ h => h, fun _ => rfl⟩
  | markUnavailable p agentId =>
    exact ⟨hinv.setClient fun _ h => h, keeps_setClient fun _ h => h, fun _ => rfl⟩

theorem FleetCall.wp {program : FleetProgram Pid Host Unit} (h : FleetCall F program)
    (hinv : Inv F w) : fleetWp F i program (fun _ _ => True) w := by
  have hends {α : Type} {q : FleetProgram Pid Host α}
      (hq : fleetWp F i q (Gives fun _ _ => True) w) :
      fleetWp F i (q.bind fun _ => .pure ()) (fun _ _ => True) w :=
    wp_whatever (wp_seq hinv hq fun _ _ _ _ => wp_ok (R := fun _ _ => True) stable_true trivial)
  cases h with
  | control _ hcall => exact wp_whatever (call_wp hcall.asks hinv)
  | health _ => exact hends (healthWithFailover_wp hinv)
  | identity _ => exact hends (identityWithFailover_wp hinv)
  | read _ read => exact hends (safeRequest_wp hinv)
  | handler host =>
    refine wp_request stable_true trivial fun s hs _ call s' hperf => ?_
    obtain rfl : s' = _ := hperf
    have hs' := hs.note (i := i) (f := fun notes => { notes with look := none }) nofun
    have hempty : Seen i host [] (s.note i fun notes => { notes with look := none }) := by
      rintro clusterId ⟨newer, older, hnil, -⟩
      cases newer <;> cases hnil
    refine ⟨hs', guar_note, wp_whatever (wp_seq hs' (onHost_wp
      Engine.handleMutation_guarded hempty) fun _ _ _ _ =>
        wp_ok (R := fun _ _ => True) stable_true trivial)⟩

theorem fleet_sound :
    Sound (fleetMachine Host Tid F) (fleetProtocol Host Tid F) (FleetCall F) where
  entry hcall hinv _ := hcall.wp hinv
  env hinv henv := by
    obtain ⟨hinv', hbindings, hnotes⟩ := Drifts.step hinv henv
    exact ⟨hinv', fun j => ⟨hbindings, hnotes j⟩⟩
  crash {S s s'} hinv hcrash := by
    obtain rfl : s' = s := hcrash
    exact ⟨hinv, fun _ _ => trivial, fun j _ => (fleetProtocol Host Tid F).rely_refl j _⟩

omit [DecidableEq Pid] [DecidableEq Host] [DecidableEq Tid] in
theorem ManagerAgentConfig.client_reference {registry : ManagerAgentConfig}
    {client : HttpAgentClient} (h : registry.client = .ok client)
    (hexpected : registry.expectedClusterId = some clusterId) :
    client.referenceClusterId = some clusterId := by
  unfold ManagerAgentConfig.client at h
  split at h
  · cases h
  · rw [hexpected, resolveExpectedClusterId, if_neg (by simp)] at h
    by_cases hbounded : Control.isBoundedIdentifier clusterId
    · simp only [hbounded, if_true, Except.map] at h
      cases h
      rfl
    · simp [hbounded, Except.map] at h

omit [DecidableEq Pid] [DecidableEq Host] [DecidableEq Tid] in
theorem Starts.inv (h : Starts F w₀) : Inv F w₀ where
  looks i look hlook := by
    rw [h.notes i] at hlook
    cases hlook
  updates := by
    rw [h.updates]
    exact List.forall_mem_nil _
  sent := by
    rw [h.sent]
    exact fun _ _ hmem => absurd hmem List.not_mem_nil
  delivered := by
    rw [h.delivered]
    exact List.forall_mem_nil _
  configured p client clusterId hclient hexpected := by
    rw [Bound, h.client p client hclient]
    exact ManagerAgentConfig.client_reference hclient hexpected

theorem FleetReachable.safe (hstart : Starts F w₀) (hc : FleetReachable F w₀ c) :
    Safe (fleetMachine Host Tid F) (fleetProtocol Host Tid F) c :=
  Reachable.safe fleet_sound hstart.inv (fun _ => trivial) hc

theorem FleetReachable.keeps (hstart : Starts F w₀) (hc : FleetReachable F w₀ c)
    (h : Relation.ReflTransGen (Step (fleetMachine Host Tid F) (FleetCall F)) c c') :
    KeepsBindings c.state c'.state := by
  induction h with
  | refl => exact fun _ _ h => h
  | tail hsteps hstep ih =>
    have hsafe := FleetReachable.safe hstart (Reachable.steps hc hsteps)
    refine fun p clusterId hbound => ?_
    have hbefore := ih p clusterId hbound
    rcases hsafe.step_state hstep with hsame | ⟨_, hguar⟩ | henv | ⟨_, hcrash⟩
    · rw [hsame]
      exact hbefore
    · exact hguar.bindings _ _ hbefore
    · exact (Drifts.step hsafe.inv henv).2.1 _ _ hbefore
    · rw [show _ = _ from hcrash]
      exact hbefore

/-- What holds of the updates, the bindings and the reads of a fleet. -/
structure StaysBound (F : Installation Pid) (w : World Pid Host Tid) : Prop where
  /-- An update for a call that a process has sent was issued in the Swarm of the process. -/
  updates : ∀ u ∈ w.updates, ∀ p, (p, u.call) ∈ w.sent → ∃ clusterId,
    (w.client p).referenceClusterId = some clusterId ∧ u.swarm = some clusterId
  /-- And any update, on either route, in the Swarm that its call names. -/
  named : ∀ u ∈ w.updates, ∃ clusterId, u.call.expectedCluster = [clusterId] ∧
    u.swarm = some clusterId
  /-- The Agent that a value came from told, in the same call, the Swarm of the process. -/
  delivered : ∀ d ∈ w.delivered, ∃ agentId clusterId, d.obtained = some (agentId, d.value) ∧
    d.identity = some (agentId, clusterId) ∧
    (w.client d.process).referenceClusterId = some clusterId
  configured : ∀ p client clusterId, (F.registry p).client = .ok client →
    (F.registry p).expectedClusterId = some clusterId →
    (w.client p).referenceClusterId = some clusterId

omit [DecidableEq Pid] [DecidableEq Host] [DecidableEq Tid] in
theorem Inv.staysBound (h : Inv F w) : StaysBound F w where
  updates u hu p hsent := by
    obtain ⟨clusterId, hexpected, hswarm⟩ := h.updates u hu
    obtain ⟨reference, hreference, hbound⟩ := h.sent p u.call hsent
    obtain rfl : clusterId = reference := by
      rw [hexpected] at hreference
      exact (List.cons.inj hreference).1
    exact ⟨clusterId, hbound, hswarm⟩
  named := h.updates
  delivered d hd := by
    obtain ⟨agentId, clusterId, hidentity, hobtained, hbound⟩ := h.delivered d hd
    exact ⟨agentId, clusterId, hobtained, hidentity, hbound⟩
  configured := h.configured

/-- Whatever the configuration, the schedule and the moves of the hosts: updates that are made for
the control plane are issued in its Swarm, and a binding never changes. -/
theorem mutations_stay_bound (hstart : Starts F w₀) (hc : FleetReachable F w₀ c) :
    StaysBound F c.state ∧
      ∀ c', Relation.ReflTransGen (Step (fleetMachine Host Tid F) (FleetCall F)) c c' →
        ∀ p clusterId, (c.state.client p).referenceClusterId = some clusterId →
          (c'.state.client p).referenceClusterId = some clusterId :=
  ⟨(hc.safe hstart).inv.staysBound, fun _ hsteps => hc.keeps hstart hsteps⟩

end Soundness

/-! ## A service that is scaled on its host -/

section Example

open Engine (Docker Node Service)

def shop : Installation Unit where
  settings _ := Control.plainProcess
  registry _ := ⟨"agent", [⟨"agent", false⟩], some "swarm"⟩
  stringify _ := "body"
  decoder := ⟨fun _ => .ok ⟨1, "one", "two", some 2, none⟩, fun _ => .error "no node request"⟩
  hashes := ⟨fun spec => if spec.mode = .replicated (some 2) then "two" else "one",
    fun _ => "node", fun _ => "task"⟩
  unicode := .ascii

def shopDocker : Docker where
  clusterId := "swarm"
  nodeId := "node"
  services := [⟨"web", 1, ⟨"shop_web", ⟨none, none, none, 0, "", ""⟩, .replicated (some 1),
    none, ""⟩, none, none, none⟩]
  nodes := [⟨"node", 1, ⟨[], "manager", .active, ""⟩, ⟨"host", ⟨"", ""⟩, 0, 0, []⟩, .ready, ""⟩]
  tasks := []
  index := 1
  warnings := []

def shopWorld : World Unit Unit Nat where
  clock := 0
  client _ := ⟨"agent", some "swarm", fun _ => none⟩
  swarm _ := some "swarm"
  switches _ := 0
  notes _ := ⟨none, none, none⟩
  sent := []
  updates := []
  delivered := []

theorem shopClient_made :
    (shop.registry ()).client = .ok ⟨"agent", some "swarm", fun _ => none⟩ := rfl

theorem shopWorld_starts : Starts shop shopWorld where
  client _ client h := by
    cases h
    rfl
  notes _ := rfl
  sent := rfl
  updates := rfl
  delivered := rfl

/-- The surroundings of the example: Agents that tell the truth, and a Docker that answers at once.
The requests to the database are answered from a state of their own. -/
abbrev ShopState := World Unit Unit Nat × Control.World Nat

def shopSurroundings : Control.Surroundings where
  read := Control.webSwarm.agent "two"

def shopClientAnswer (i : Nat) (w : World Unit Unit Nat) :
    (op : ClientOp) → op.Ans × World Unit Unit Nat
  | .candidateAgents => ((w.client ()).candidateAgents (shop.registry ()) w.clock,
      w.note i fun notes => { notes with identity := none, obtained := none })
  | .identity agentId => (.ok ⟨"swarm", "node", true⟩,
      w.note i fun notes => { notes with identity := some (agentId, "swarm") })
  | .health _ => (.ok "", w)
  | .observeIdentity agentId clusterId =>
    match (w.client ()).assertClusterIdentity agentId clusterId with
    | .ok () => (.ok (), w.setClient () ((w.client ()).bindTo clusterId))
    | .error e => (.error e, w)
  | .requestTo agentId (.agent read) =>
    match Control.webSwarm.agent "two" read with
    | .ok value => (.ok value, w.note i fun notes =>
        { notes with obtained := some (agentId, ⟨.agent read, value⟩) })
    | .error e => (.error e, w)
  | .requestTo _ .cluster | .requestTo _ .services | .requestTo _ (.serviceTasks _) =>
    (.error (.unavailable ""), w)
  | .assertClusterIdentity agentId clusterId =>
    ((w.client ()).assertClusterIdentity agentId clusterId, w)
  | .markActive agentId => ((), w.setClient () ((w.client ()).markActive agentId))
  | .markUnavailable agentId =>
    ((), w.setClient () ((w.client ()).markUnavailable agentId w.clock))
  | .referenceClusterId => ((w.client ()).referenceClusterId, w)
  | .send request => (.error (.transport "agent" ""),
      { w with sent := ((), wire shop.stringify request) :: w.sent })
  | .deliver read value => ((), { w with
      delivered := ⟨(), ⟨read, value⟩, (w.notes i).identity, (w.notes i).obtained⟩ :: w.delivered })

/-- What a request to Docker leaves behind, where the hosts allow it. -/
def shopDockerStep (i : Nat) (w : World Unit Unit Nat) (call : MutationCall) :
    DockerOp → Option (World Unit Unit Nat)
  | .swarmInspect =>
    if w.swarm () = some "swarm" then
      some (w.note i fun notes => { notes with look := some ⟨(), w.switches (), some "swarm"⟩ })
    else none
  | op =>
    if op.isUpdate then
      if (w.notes i).look.all fun look => look.switches = w.switches () then
        some { w with updates := ⟨call, w.swarm ()⟩ :: w.updates }
      else none
    else some w

def shopAnswer (i : Nat) (t : ShopState) : (op : FleetOp Unit Unit) → Option (op.Ans × ShopState)
  | .client _ op => some ((shopClientAnswer i t.1 op).1, (shopClientAnswer i t.1 op).2, t.2)
  | .control _ op =>
    (t.2.answer shopSurroundings i op).map fun answer => (answer.1, t.1, answer.2)
  | .receive _ => t.1.sent.head?.map fun sent =>
      (sent.2, t.1.note i fun notes => { notes with look := none }, t.2)
  | .docker _ call op => (shopDockerStep i t.1 call op).map fun w =>
      ((Docker.answer op shopDocker).1, w, t.2)

theorem shopClientAnswer_performs {i : Nat} {w : World Unit Unit Nat} :
    ClientPerforms shop i () op w (shopClientAnswer i w op).1 (shopClientAnswer i w op).2 := by
  cases op with
  | candidateAgents => exact ⟨rfl, rfl⟩
  | observeIdentity agentId clusterId =>
    simp only [shopClientAnswer]
    split
    · rename_i h
      exact ⟨h.symm, fun _ => rfl, fun hne => absurd rfl hne⟩
    · rename_i e h
      exact ⟨h.symm, nofun, fun _ => rfl⟩
  | requestTo agentId read =>
    cases read with
    | agent read =>
      simp only [shopClientAnswer]
      split <;> rfl
    | _ => rfl
  | assertClusterIdentity agentId clusterId => exact ⟨rfl, rfl⟩
  | referenceClusterId => exact ⟨rfl, rfl⟩
  | _ => rfl

theorem shopDockerStep_performs {i : Nat} {w w' : World Unit Unit Nat} {call : MutationCall}
    {op : DockerOp} (h : shopDockerStep i w call op = some w') :
    DockerPerforms i () call op w (Docker.answer op shopDocker).1 w' := by
  by_cases hlook : op = .swarmInspect
  · subst hlook
    simp only [shopDockerStep] at h
    split at h
    · rename_i hswarm
      cases h
      refine ⟨?_, rfl⟩
      rintro _ ⟨⟩
      exact hswarm
    · cases h
  · by_cases hop : op.isUpdate = true
    · obtain ⟨hall, rfl⟩ : (w.notes i).look.all (fun look => look.switches = w.switches ()) = true ∧
          { w with updates := ⟨call, w.swarm ()⟩ :: w.updates } = w' := by
        cases op with
        | serviceUpdate _ _ _ _ => simpa [shopDockerStep, DockerOp.isUpdate] using h
        | nodeUpdate _ _ _ => simpa [shopDockerStep, DockerOp.isUpdate] using h
        | _ => cases hop
      have hstays : ∀ look, (w.notes i).look = some look → look.host = () →
          look.switches = w.switches () := by
        intro look hsome _
        rw [hsome] at hall
        simpa using hall
      cases op with
      | serviceUpdate _ _ _ _ => exact ⟨rfl, hstays⟩
      | nodeUpdate _ _ _ => exact ⟨rfl, hstays⟩
      | _ => cases hop
    · cases op with
      | swarmInspect => exact absurd rfl hlook
      | serviceUpdate _ _ _ _ => exact absurd rfl hop
      | nodeUpdate _ _ _ => exact absurd rfl hop
      | _ => exact (Option.some.inj h).symm

theorem shopAnswer_performs {i : Nat} (t : ShopState) (op : FleetOp Unit Unit) (a : op.Ans)
    (t' : ShopState) (h : shopAnswer i t op = some (a, t')) :
    (fleetMachine Unit Nat shop).perform i op t.1 a t'.1 := by
  cases op with
  | client p op =>
    cases h
    exact shopClientAnswer_performs
  | control p op =>
    obtain ⟨answer, _, heq⟩ := Option.map_eq_some_iff.mp h
    cases heq
    rfl
  | receive host =>
    obtain ⟨sent, _, heq⟩ := Option.map_eq_some_iff.mp h
    cases heq
    rfl
  | docker host call op =>
    obtain ⟨w, hw, heq⟩ := Option.map_eq_some_iff.mp h
    cases heq
    exact shopDockerStep_performs hw

/-- The call that scales the service. -/
def shopScale : ControlProgram Unit :=
  Control.ignoreResult
    (Control.MutationService.scale Control.plainProcess "c" "web" ⟨"o", "actor", 1⟩ 2 1)

def shopHandler : FleetProgram Unit Unit Unit :=
  .request (.receive ()) fun call =>
    (onHost () call (handleMutation shop.decoder shop.hashes shop.unicode call)).bind
      fun _ => .pure ()

/-- The state when the mutation is on its way, and when the handler has updated the service. -/
def shopSent : FleetProgram Unit Unit Unit × ShopState :=
  advance (shopAnswer 0) 60 (shopScale.link (withClient ())) (shopWorld, Control.emptyWorld Nat)

def shopUpdated : FleetProgram Unit Unit Unit × ShopState :=
  advance (shopAnswer 1) 60 shopHandler shopSent.2

/-- The mutation on the wire. -/
def shopCall : MutationCall := ⟨.v2, .inl .scale, "web", "body", ["swarm"]⟩

/-- The control plane sends one mutation and the Agent makes its update, in their Swarm. -/
theorem shop_stays_bound :
    ∃ c : Config Nat (FleetOp Unit Unit) FleetOp.Ans Failure Unit (World Unit Unit Nat),
      Starts shop shopWorld ∧ FleetReachable shop shopWorld c ∧
        (∃ u ∈ c.state.updates, ((), u.call) ∈ c.state.sent) ∧ StaysBound shop c.state := by
  have hinit : FleetReachable shop shopWorld ⟨fun _ => none, shopWorld⟩ := .init
  have hscale : FleetCall shop (shopScale.link (withClient ()) : FleetProgram Unit Unit Unit) :=
    .control shopClient_made (.scale ..)
  have hsends : Runs (fleetMachine Unit Nat shop) 0 (shopScale.link (withClient ())) shopWorld
      shopSent.1 shopSent.2.1 :=
    advance_runs Prod.fst shopAnswer_performs 60 _ (shopWorld, Control.emptyWorld Nat)
  have hhandles : Runs (fleetMachine Unit Nat shop) 1 shopHandler shopSent.2.1 shopUpdated.1
      shopUpdated.2.1 := advance_runs Prod.fst shopAnswer_performs 60 _ shopSent.2
  have hsent := (hinit.step (.spawn (i := 0) rfl hscale)).steps (hsends.steps rfl rfl)
  have hupdated := (hsent.step (.spawn (i := 1) rfl (.handler ()))).steps (hhandles.steps rfl rfl)
  refine ⟨_, shopWorld_starts, hupdated, ?_, (mutations_stay_bound shopWorld_starts hupdated).1⟩
  have hlogs : shopUpdated.2.1.updates = [⟨shopCall, some "swarm"⟩] ∧
      shopUpdated.2.1.sent = [((), shopCall)] := by decide +kernel
  exact ⟨⟨shopCall, some "swarm"⟩, by rw [hlogs.1]; exact List.mem_singleton_self _,
    by rw [hlogs.2]; exact List.mem_singleton_self _⟩

end Example

end Docklane.Fleet
