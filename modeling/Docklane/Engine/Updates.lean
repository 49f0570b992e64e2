import Docklane.Engine.Handlers

/-!
# When the Agent asks Docker for a change

What every mutation handler has seen and compared when it makes its update, whatever Docker has
answered before, and what its error then says about the update. There is at most one update, it
names the version that was looked at, and an error other than a failed request is thrown only if
Docker has carried out nothing.
-/

namespace Docklane.Engine

open Concurrent Concurrent.Program

/-- What the plan of a mutation has seen and is to lead to. -/
structure Expectation where
  version : UInt64
  before : String
  target : String
  deriving DecidableEq, Repr

def ServiceMutationRequest.expects (input : ServiceMutationRequest) : Expectation :=
  ⟨input.expectedVersion, input.expectedSpecHash, input.targetSpecHash⟩

def NodeMutationRequest.expects (input : NodeMutationRequest) : Expectation :=
  ⟨input.expectedVersion, input.expectedSpecHash, input.targetSpecHash⟩

/-- The expectation in the body of a call. -/
def expectation (D : Decoder) (call : MutationCall) : Option Expectation :=
  match call.route with
  | .inl _ => (D.service call.body).toOption.map (·.expects)
  | .inr _ => (D.node call.body).toOption.map (·.expects)

abbrev DockerEvent := Program.Event DockerOp DockerOp.Ans

/-- The last look at the Swarm has shown this id. -/
def LastLook (clusterId : String) (h : List DockerEvent) : Prop :=
  Latest (· = .swarmInspect) ⟨.swarmInspect, (.ok clusterId : Except DockerError String)⟩ h

/-- Docker is asked for a change only after the last look has shown the cluster. -/
def Guarded (admits : String → Prop) (h : List DockerEvent) (op : DockerOp) : Prop :=
  op.isUpdate = true → ∃ clusterId, admits clusterId ∧ LastLook clusterId h

/-! ## Answers that may come with a change -/

/-- Docker may have carried out the update. It reports a conflict only where it has not. -/
def MayApply : DockerEvent → Prop
  | ⟨.serviceUpdate _ _ _ _, (answer : Except DockerError (List String))⟩ =>
    ∀ message, answer ≠ .error (.conflict message)
  | ⟨.nodeUpdate _ _ _, (answer : Except DockerError Unit)⟩ =>
    ∀ message, answer ≠ .error (.conflict message)
  | _ => False

/-- No update of the history can have changed anything. -/
def Untouched (h : List DockerEvent) : Prop := ∀ x ∈ h, ¬ MayApply x

/-- No update has been asked for. -/
def Fresh (h : List DockerEvent) : Prop := ∀ x ∈ h, x.1.Reads

theorem not_mayApply_of_reads {x : DockerEvent} (hx : x.1.Reads) : ¬ MayApply x := by
  obtain ⟨op, answer⟩ := x
  cases op <;> first | exact id | cases hx

theorem Fresh.untouched {h : List DockerEvent} (hh : Fresh h) : Untouched h :=
  fun x hx => not_mayApply_of_reads (hh x hx)

theorem Fresh.cons {h : List DockerEvent} (hh : Fresh h) {x : DockerEvent} (hx : x.1.Reads) :
    Fresh (x :: h) :=
  List.forall_mem_cons.mpr ⟨hx, hh⟩

/-- An error that is thrown before an update or because Docker has refused it. -/
def EngineError.Definite : EngineError → Prop
  | .other _ => False
  | _ => True

variable {error : EngineError} {input : NodeMutationRequest}

section Updates

variable (admits : String → Prop) (H : Hashes) (ref : String) (e : Expectation)

/-- The update is the first one, it is for the object that was looked at under `ref`, the object had
the version and the hash of the plan, and Docker is to install a spec with the planned hash. -/
def Justified (h : List DockerEvent) : DockerOp → Prop
  | .serviceUpdate id version spec rollback => Fresh h ∧
      ∃ (service : Service) (target : ServiceSpec),
      ⟨.serviceInspect ref, (.ok service : Except DockerError Service)⟩ ∈ h ∧ service.id = id ∧
        service.version = version ∧ version = e.version ∧ H.service service.spec = e.before ∧
        Docker.installed service spec rollback = some target ∧ H.service target = e.target
  | .nodeUpdate id version spec => Fresh h ∧ ∃ (nodes : List Node) (node : Node),
      ⟨.nodeList, (.ok nodes : Except DockerError (List Node))⟩ ∈ h ∧
        findNode nodes ref = some node ∧ node.id = id ∧ node.version = version ∧
        version = e.version ∧ H.node node.spec = e.before ∧ H.node spec = e.target
  | _ => True

/-- The update is made in an admitted Swarm, and it is justified. -/
def Licensed (h : List DockerEvent) (op : DockerOp) : Prop :=
  Guarded admits h op ∧ Justified H ref e h op

/-- Where a mutation ends with a definite error, nothing has changed. -/
def Settled {α : Type} (r : Except EngineError α) (h : List DockerEvent) : Prop :=
  ∀ error, r = .error error → error.Definite → Untouched h

variable {admits H ref e} {α β : Type} {h : List DockerEvent} {p : EngineProgram α}

theorem licensed_of_reads {op : DockerOp} (hop : op.Reads) : Licensed admits H ref e h op :=
  ⟨fun hupdate => (Bool.false_ne_true (hop.symm.trans hupdate)).elim, by cases op <;> trivial⟩

theorem Fresh.settled (hh : Fresh h) (r : Except EngineError α) : Settled r h :=
  fun _ _ _ => hh.untouched

/-- Reading keeps the history fresh and forgets nothing. -/
theorem reads_follows (hp : p.Uses DockerOp.Reads) (hh : Fresh h) :
    p.Follows (Licensed admits H ref e) (fun _ h' => Fresh h' ∧ h <:+ h') h := by
  induction p generalizing h with
  | pure a => exact ⟨hh, List.suffix_refl h⟩
  | throw error => exact ⟨hh, List.suffix_refl h⟩
  | request op k ih =>
    refine ⟨licensed_of_reads hp.1, fun answer => (ih answer (hp.2 answer) (hh.cons hp.1)).mono ?_⟩
    rintro r h' ⟨hfresh, hsuffix⟩
    exact ⟨hfresh, (List.suffix_cons _ h).trans hsuffix⟩

/-- Reading, and then what is licensed whatever was read. -/
theorem licensed_bind {f : α → EngineProgram β} (hp : p.Uses DockerOp.Reads) (hh : Fresh h)
    (hf : ∀ a h', Fresh h' → h <:+ h' → (f a).Follows (Licensed admits H ref e) Settled h') :
    (p.bind f).Follows (Licensed admits H ref e) Settled h := by
  refine follows_bind ((reads_follows hp hh).mono ?_)
  rintro (error | a) h' ⟨hfresh, hsuffix⟩
  · exact hfresh.settled _
  · exact hf a h' hfresh hsuffix

variable {k : Unit → EngineProgram β}

theorem require_follows {allowed : List DockerEvent → DockerOp → Prop}
    {Q : Except EngineError β → List DockerEvent → Prop} {condition : Prop} [Decidable condition]
    (hok : condition → (k ()).Follows allowed Q h) (herror : Q (.error error) h) :
    ((require condition error).bind k).Follows allowed Q h := by
  unfold require
  split
  · exact hok ‹_›
  · exact herror

/-- A check, and then what is licensed where it holds. -/
theorem licensed_require {condition : Prop} [Decidable condition] (hh : Fresh h)
    (hk : condition → (k ()).Follows (Licensed admits H ref e) Settled h) :
    ((require condition error).bind k).Follows (Licensed admits H ref e) Settled h :=
  require_follows hk (hh.settled _)

/-- What is read after an update can fail, but its error is not definite. -/
theorem settled_wrapped {context : String} {answer : Except DockerError α} {f : α → β} :
    ((wrapped context answer).bind fun a => .pure (f a)).Follows (Licensed admits H ref e)
      Settled h := by
  cases answer with
  | ok a => exact fun _ hr => nomatch hr
  | error error =>
    rintro _ ⟨⟩ hdefinite
    exact hdefinite.elim

theorem Fresh.settled_cons (hh : Fresh h) {x : DockerEvent} (hx : ¬ MayApply x)
    {r : Except EngineError α} : Settled r (x :: h) :=
  fun _ _ _ => List.forall_mem_cons.mpr ⟨hx, hh.untouched⟩

theorem serviceUpdate_follows {id action context : String} {version : UInt64} {spec : ServiceSpec}
    {rollback : Bool} {f : List String → Service → β} (hh : Fresh h)
    (hlicensed : Licensed admits H ref e h (.serviceUpdate id version spec rollback)) :
    ((serviceUpdate id version spec rollback action ref).bind fun warnings =>
      (serviceInspect id context).bind fun after => .pure (f warnings after)).Follows
      (Licensed admits H ref e) Settled h := by
  refine ⟨hlicensed, fun (answer : Except DockerError (List String)) => ?_⟩
  rcases answer with (message | message) | warnings
  · refine hh.settled_cons ?_
    exact fun happly => happly message rfl
  · rintro _ ⟨⟩ hdefinite
    exact hdefinite.elim
  · exact ⟨licensed_of_reads rfl, fun after => settled_wrapped⟩

theorem nodeUpdate_follows {id stale failed context : String} {version : UInt64} {spec : NodeSpec}
    {f : Node → β} (hh : Fresh h) (hlicensed : Licensed admits H ref e h
    (.nodeUpdate id version spec)) :
    ((nodeUpdate id version spec stale failed).bind fun _ =>
      (nodeInspect id context).bind fun after => .pure (f after)).Follows
      (Licensed admits H ref e) Settled h := by
  refine ⟨hlicensed, fun (answer : Except DockerError Unit) => ?_⟩
  rcases answer with (message | message) | warnings
  · refine hh.settled_cons ?_
    exact fun happly => happly message rfl
  · rintro _ ⟨⟩ hdefinite
    exact hdefinite.elim
  · exact ⟨licensed_of_reads rfl, fun after => settled_wrapped⟩

/-- The check before an update: where it passes, the last look has shown the cluster. -/
theorem requireFinalMutationCluster_follows {expected : String} (hexpected : expected ≠ "")
    {h : List DockerEvent} :
    (requireFinalMutationCluster (some expected)).Follows (Licensed admits H ref e)
      (fun r h' => ∀ a, r = .ok a → LastLook expected h') h := by
  unfold requireFinalMutationCluster
  rw [if_neg (by simpa using hexpected)]
  refine ⟨licensed_of_reads rfl, fun (before : Bool) =>
    require_follows (fun _ => ?_) fun _ he => nomatch he⟩
  refine ⟨licensed_of_reads rfl, fun (observed : Except DockerError String) => ?_⟩
  rcases observed with error | id
  · exact fun _ he => nomatch he
  · refine ⟨licensed_of_reads rfl, fun (cancelled : Bool) =>
      require_follows (fun _ => ?_) fun _ he => nomatch he⟩
    unfold require
    split
    · rename_i hid
      obtain rfl : id = expected := Option.some.inj hid
      have hlook : LastLook id (⟨.swarmInspect, .ok id⟩ :: ⟨.contextErr, before⟩ :: h) :=
        latest_self rfl
      exact fun _ _ => Latest.cons hlook (by simp)
    · exact fun _ he => nomatch he

/-- The check, and then what is licensed in the Swarm that it has seen. -/
theorem licensed_checked {expected : String} (hexpected : expected ≠ "") (hh : Fresh h)
    (hk : ∀ h', Fresh h' → h <:+ h' → LastLook expected h' →
      (k ()).Follows (Licensed admits H ref e) Settled h') :
    ((requireFinalMutationCluster (some expected)).bind k).Follows (Licensed admits H ref e)
      Settled h := by
  refine follows_bind (((reads_follows requireFinalMutationCluster_reads hh).and
    (requireFinalMutationCluster_follows hexpected)).mono ?_)
  rintro (error | _) h' ⟨⟨hfresh, hsuffix⟩, hlook⟩
  · exact hfresh.settled _
  · exact hk h' hfresh hsuffix (hlook () rfl)

/-- An installed spec is the target that the mutation has computed. -/
def ServiceChange.Installs (change : ServiceChange) : Prop :=
  ∀ ref service input target, change.target ref service input = .ok target →
    Docker.installed service (change.sent service target) change.rollback = some target

theorem previousTarget_ok {service : Service} {target : ServiceSpec}
    (h : previousTarget ref service = .ok target) :
    service.previousSpec = some target ∧ target.isReplicatedContainer = true := by
  unfold previousTarget at h
  split at h
  · cases h
  · rename_i previous hprevious
    split at h
    · rename_i hsupported
      cases h
      exact ⟨hprevious, hsupported⟩
    · cases h

/-- The mutation of a route. -/
def ServiceRoute.change : ServiceRoute → ServiceChange
  | scale => scaleChange
  | restart => restartChange
  | image => imageChange
  | rollback => rollbackChange

theorem ServiceRoute.mutate_eq (route : ServiceRoute) :
    route.mutate H = Reader.changeService H route.change := by
  cases route <;> rfl

theorem ServiceRoute.installs (route : ServiceRoute) : route.change.Installs := by
  intro ref service input target htarget
  cases route with
  | rollback => exact (previousTarget_ok htarget).1
  | _ => rfl

/-- The list in which a node was found stays in the history. -/
theorem resolveNode_follows {f : Node → EngineProgram β} (hh : Fresh h)
    (hf : ∀ nodes node, findNode nodes ref = some node → ∀ h', Fresh h' →
      ⟨.nodeList, (.ok nodes : Except DockerError (List Node))⟩ ∈ h' →
        (f node).Follows (Licensed admits H ref e) Settled h') :
    ((Reader.resolveNode ref).bind f).Follows (Licensed admits H ref e) Settled h := by
  refine ⟨licensed_of_reads rfl, fun (answer : Except DockerError (List Node)) => ?_⟩
  have hfresh : Fresh (⟨.nodeList, answer⟩ :: h) := hh.cons rfl
  rcases answer with error | nodes
  · exact hfresh.settled _
  change ((orNotFound _ (findNode nodes ref)).bind f).Follows _ _ _
  cases hfound : findNode nodes ref with
  | none => exact hfresh.settled _
  | some node => exact hf nodes node hfound _ hfresh List.mem_cons_self

variable {expected : String} (hexpected : expected ≠ "") (hadmits : admits expected)

include hexpected hadmits

theorem changeService_follows {change : ServiceChange} (hchange : change.Installs)
    {input : ServiceMutationRequest} (hh : Fresh h) :
    (Reader.changeService H change (some expected) ref input).Follows
      (Licensed admits H ref input.expects) Settled h := by
  -- the look at the service stays in the history up to the update
  refine ⟨licensed_of_reads rfl, fun (answer : Except DockerError Service) => ?_⟩
  have hfresh : Fresh (⟨.serviceInspect ref, answer⟩ :: h) := hh.cons rfl
  rcases answer with error | service
  · exact hfresh.settled _
  change (Reader.applyChange H (some expected) change ref service input).Follows _ _ _
  unfold Reader.applyChange Reader.validateMutationPrecondition
  rw [bind_assoc]
  refine licensed_require hfresh fun hversion => licensed_require hfresh fun hbefore => ?_
  cases htarget : change.target ref service input with
  | error error => exact hfresh.settled _
  | ok target =>
    refine licensed_require hfresh fun hhash => ?_
    refine licensed_checked hexpected hfresh fun h' hfresh' hsuffix hlook => ?_
    refine serviceUpdate_follows hfresh' ⟨fun _ => ⟨expected, hadmits, hlook⟩, hfresh', service,
      target, ?_, rfl, hversion, rfl, hbefore, hchange ref service input target htarget, hhash⟩
    exact hsuffix.subset List.mem_cons_self

theorem updateNodeAvailability_follows {target : Control.Availability} (hh : Fresh h) :
    (Reader.updateNodeAvailability H (some expected) ref input target).Follows
      (Licensed admits H ref input.expects) Settled h := by
  refine resolveNode_follows hh fun nodes node hfound h hh hseen => ?_
  refine licensed_require hh fun hversion => ?_
  refine licensed_bind ?_ hh fun _ h₁ hh₁ hsuffix₁ => ?_
  · split
    · exact node_reads.bind fun _ => uses_require
    · trivial
  refine licensed_require hh₁ fun hbefore => licensed_require hh₁ fun htarget => ?_
  refine licensed_checked hexpected hh₁ fun h₂ hh₂ hsuffix₂ hlook => ?_
  exact nodeUpdate_follows hh₂ ⟨fun _ => ⟨expected, hadmits, hlook⟩, hh₂, nodes, node,
    hsuffix₂.subset (hsuffix₁.subset hseen), hfound, rfl, hversion, rfl, hbefore, htarget⟩

theorem updateNodeLabels_follows {U : Unicode} (hh : Fresh h) :
    (Reader.updateNodeLabels H U (some expected) ref input).Follows
      (Licensed admits H ref input.expects) Settled h := by
  refine resolveNode_follows hh fun nodes node hfound h hh hseen => ?_
  refine licensed_require hh fun hversion => ?_
  refine licensed_bind uses_orNotFound hh fun labels h₁ hh₁ hsuffix₁ => ?_
  refine licensed_require hh₁ fun hbefore => ?_
  refine licensed_bind serviceIDsAffected_reads hh₁ fun actual h₂ hh₂ hsuffix₂ => ?_
  refine licensed_require hh₂ fun _ => licensed_require hh₂ fun htarget => ?_
  refine licensed_checked hexpected hh₂ fun h₃ hh₃ hsuffix₃ hlook => ?_
  refine nodeUpdate_follows hh₃ ⟨fun _ => ⟨expected, hadmits, hlook⟩, hh₃, nodes, node, ?_, hfound,
    rfl, hversion, rfl, hbefore, htarget⟩
  exact hsuffix₃.subset (hsuffix₂.subset (hsuffix₁.subset hseen))

theorem NodeRoute.mutate_follows {U : Unicode} {route : NodeRoute} (hh : Fresh h) :
    (route.mutate H U (some expected) ref input).Follows (Licensed admits H ref input.expects)
      Settled h := by
  cases route with
  | drain => exact updateNodeAvailability_follows hexpected hadmits hh
  | activate => exact updateNodeAvailability_follows hexpected hadmits hh
  | labels => exact updateNodeLabels_follows hexpected hadmits hh

end Updates

/-! ## The routes -/

open Control (deterministicAgentRejection)

/-- The control plane takes the reply for a definite rejection. -/
def MutationReply.Definite : MutationReply → Prop
  | .refused status code _ =>
    ∃ text, (deterministicAgentRejection (.agentRequest status ⟨text, code⟩)).isSome = true
  | _ => False

/-- Only the errors that are definite are answered as definite rejections. -/
theorem definite_of_writeMutationError (h : (writeMutationError error).Definite) :
    error.Definite := by
  cases error with
  | other message =>
    obtain ⟨text, htext⟩ := h
    simp [deterministicAgentRejection] at htext
  | _ => trivial

/-- Where a call is answered with a definite rejection, nothing has changed. -/
def Answered : Except EngineError MutationReply → List DockerEvent → Prop
  | .ok reply, h => reply.Definite → Untouched h
  | .error _, h => Untouched h

section Routes

variable {D : Decoder} {H : Hashes} {U : Unicode} {h : List DockerEvent} {α : Type}

theorem Fresh.answered (hh : Fresh h) (r : Except EngineError MutationReply) : Answered r h := by
  cases r with
  | error error => exact hh.untouched
  | ok reply => exact fun _ => hh.untouched

/-- An admission names the one value of the header, and it is not empty. -/
theorem requireMutationCluster_follows {allowed : List DockerEvent → DockerOp → Prop}
    (hallowed : ∀ op h', op.Reads → allowed h' op) {expectedCluster : List String} :
    (requireMutationCluster expectedCluster).Follows allowed
      (fun r _ => ∀ expected, r = .ok (.ok expected) → expectedCluster = [expected] ∧ expected ≠ "")
      h := by
  unfold requireMutationCluster
  split
  · exact fun _ he => nomatch he
  · rename_i expected
    split
    · exact fun _ he => nomatch he
    · rename_i hbounded
      refine ⟨hallowed _ _ rfl, fun (cancelled : Bool) => ?_⟩
      change (if _ then _ else _ : EngineProgram (Except MutationReply String)).Follows _ _ _
      split
      · exact fun _ he => nomatch he
      · refine follows_bind (follows_attempt ((identity_reads.follows hallowed).mono ?_))
        rintro (e | identity) h' -
        · exact fun _ he => nomatch he
        · refine ⟨hallowed _ _ rfl, fun (cancelled : Bool) => ?_⟩
          change (if _ then _ else _ : EngineProgram (Except MutationReply String)).Follows _ _ _
          split
          · exact fun _ he => nomatch he
          · split
            · exact fun _ he => nomatch he
            · rintro _ ⟨⟩
              refine ⟨rfl, ?_⟩
              rintro rfl
              exact hbounded rfl
  · exact fun _ he => nomatch he

theorem admitted_follows {ref : String} {e : Expectation} {expectedCluster : List String}
    {mutate : Option String → EngineProgram α} {reply : α → MutationReply}
    (hreply : ∀ a, ¬ (reply a).Definite) (hh : Fresh h)
    (hmutate : ∀ expected, expected ≠ "" → expectedCluster = [expected] → ∀ h', Fresh h' →
      (mutate (some expected)).Follows (Licensed (fun id => expectedCluster = [id]) H ref e)
        Settled h') :
    (admitted expectedCluster mutate reply).Follows
      (Licensed (fun id => expectedCluster = [id]) H ref e) Answered h := by
  refine follows_bind (((reads_follows requireMutationCluster_reads hh).and
    (requireMutationCluster_follows (fun _ _ => licensed_of_reads))).mono ?_)
  rintro (error | refusal | expected) h' ⟨⟨hh', -⟩, hadmission⟩
  · exact hh'.answered _
  · exact hh'.answered _
  · obtain ⟨hexpected, hne⟩ := hadmission expected rfl
    refine follows_bind (follows_attempt ((hmutate expected hne hexpected h' hh').mono ?_))
    rintro (error | a) h'' hsettled
    · exact fun hdefinite => hsettled error rfl (definite_of_writeMutationError hdefinite)
    · exact fun hdefinite => absurd hdefinite (hreply a)

/-- On every mutation route the update is made in the Swarm of the header and justified by the body
of the call, and a definite rejection says that nothing has changed. -/
theorem handleMutation_follows {call : MutationCall} {e : Expectation}
    (he : ∀ e' ∈ expectation D call, e' = e) (hh : Fresh h) :
    (handleMutation D H U call).Follows (Licensed (fun id => call.expectedCluster = [id]) H call.id
      e) Answered h := by
  unfold expectation at he
  unfold handleMutation
  split
  · rename_i route hroute
    rw [hroute] at he
    unfold handleService
    split
    · exact hh.answered _
    · split
      · exact hh.answered _
      · rename_i input hinput
        obtain rfl : input.expects = e := he _ (by simp [hinput, Except.toOption])
        split
        · exact hh.answered _
        · refine admitted_follows (fun _ => id) hh fun expected hne hexpected h' hh' => ?_
          rw [ServiceRoute.mutate_eq]
          exact changeService_follows hne hexpected route.installs hh'
  · rename_i route hroute
    rw [hroute] at he
    unfold handleNode
    split
    · exact hh.answered _
    · split
      · exact hh.answered _
      · rename_i input hinput
        obtain rfl : input.expects = e := he _ (by simp [hinput, Except.toOption])
        split
        · exact hh.answered _
        · exact admitted_follows (fun _ => id) hh fun expected hne hexpected h' hh' =>
            NodeRoute.mutate_follows hne hexpected hh'

/-- On every mutation route, Docker is asked for a change only after the last look at the Swarm has
shown the cluster of the header. -/
theorem handleMutation_guarded {D : Decoder} {H : Hashes} {U : Unicode} {call : MutationCall} :
    (handleMutation D H U call).Follows (Guarded fun id => call.expectedCluster = [id])
      (fun _ _ => True) [] := by
  have hfollows : (handleMutation D H U call).Follows (Licensed _ H call.id
      ((expectation D call).getD ⟨0, "", ""⟩)) Answered [] :=
    handleMutation_follows (fun e' he' => by rw [he', Option.getD_some]) (List.forall_mem_nil _)
  exact (hfollows.weaken fun _ _ => And.left).mono fun _ _ _ => trivial

end Routes

end Docklane.Engine
