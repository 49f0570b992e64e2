import Docklane.Control.ServiceMutations
import Docklane.Engine.Plans

/-!
# The contract between the Agent and the control plane

Which plans and answers of the Agent the schemas of the control plane accept. The two sides are
written separately: the schema of an answer has no `pause`, and the schema of a plan for an image
asks for an image that the Agent leaves out where it is empty.
-/

namespace Docklane.Engine

open Concurrent Concurrent.Program
open Control (DbOp Dispatch DispatchPhase Failure Mutation MutationRequest NodeMutationPlan
  NodeMutationResponse ServiceAction ServiceMutationPlan ServiceMutationResponse)

/-- `journalSend` goes on to record this phase after the answer. -/
def Records (request : MutationRequest) (answer : Except Failure request.mutation.Response)
    (phase : DispatchPhase) : Prop :=
  ∀ d : Dispatch, ∃ k, Trace (Control.journalSend d request) [⟨.send request, answer⟩]
    (.request (.db (.transitionDispatch d.id .SENDING phase)) k)

/-- No hash is the empty text. -/
structure Hashes.Filled (H : Hashes) : Prop where
  service : ∀ spec, H.service spec ≠ ""
  node : ∀ spec, H.node spec ≠ ""
  task : ∀ spec, H.task spec ≠ ""

/-- The schema that the client reads the plan of an action with. -/
def acceptsPlan (action : ServiceAction) (plan : ServiceMutationPlan) : Bool :=
  if changesImage action then acceptsImagePlan plan else acceptsServicePlan plan

def acceptsPlanFor (planning : NodePlanning) (plan : NodeMutationPlan) : Bool :=
  match planning with
  | .labels _ => acceptsLabelPlan plan
  | _ => acceptsNodePlan plan

/-- The integers of a plan are safe. -/
def hasSafeIntegers (plan : ServiceMutationPlan) : Bool :=
  isSafeInteger plan.version && isSafeInteger plan.targetForceUpdate &&
    plan.targetReplicas.all isSafeInteger

section Contract

variable {W : Wire} {H : Hashes} {d : Docker} {p : ServiceMutationPlan} {q : NodeMutationPlan}

/-- A service plan is accepted unless it should name an image and does not. -/
theorem acceptsPlan_iff (hH : H.Filled) {action : ServiceAction} {s : Service}
    {target : ServiceSpec} (hp : PlansService H action s target p)
    (hsafe : hasSafeIntegers p = true) :
    acceptsPlan action p = true ↔ (changesImage action = true → p.targetImage.isSome = true) := by
  have hbefore : p.beforeSpecHash ≠ "" := hp.before ▸ hH.service _
  have htarget : p.targetSpecHash ≠ "" := hp.hash ▸ hH.service _
  have hbase : acceptsServicePlan p = true := by
    simp only [hasSafeIntegers, Bool.and_eq_true] at hsafe
    simp [acceptsServicePlan, hsafe, hbefore, htarget]
  unfold acceptsPlan
  split
  · rename_i hchanges
    obtain ⟨-, htask, hruntime⟩ := hp.task hchanges
    have hfilled (spec : TaskSpec) : isFilled (omitEmpty (H.task spec)) = true := by
      simp [isFilled, omitEmpty, hH.task spec]
    have hdetails : isFilled p.targetTaskSpecHash = true ∧ isFilled p.targetRuntimeSpecHash =
        true := by
      rw [htask, hruntime]
      exact ⟨hfilled _, hfilled _⟩
    simp [acceptsImagePlan, hbase, hdetails, hchanges]
  · rename_i hchanges
    simp [hbase, hchanges]

theorem acceptsPlanFor_of_plans (hH : H.Filled) {planning : NodePlanning} {n : Node}
    (hq : PlansNode H planning n q) (hsafe : isSafeInteger q.version = true) :
    acceptsPlanFor planning q = true := by
  have hbefore : q.beforeSpecHash ≠ "" := hq.before ▸ hH.node _
  have htarget : q.targetSpecHash ≠ "" := hq.hash ▸ hH.node _
  have hbase : acceptsNodePlan q = true := by simp [acceptsNodePlan, hsafe, hbefore, htarget]
  cases planning with
  | labels patch => simp [acceptsPlanFor, acceptsLabelPlan, hbase, hq.labels rfl]
  | _ => exact hbase

theorem records_ok {request : MutationRequest} {response : request.mutation.Response} :
    Records request (.ok response) .ACKNOWLEDGED :=
  fun _ => ⟨_, .cons .nil⟩

end Contract

/-- The request of the control plane for another mutation. -/
abbrev sentFor (r : MutationRequest) (mutation : Mutation) : MutationRequest := { r with mutation }

/-- The control plane takes the plan and the answer as they are, and acknowledges. -/
structure ServiceHonoured (W : Wire) (r : MutationRequest) (action : ServiceAction)
    (p : ServiceMutationPlan) (response : ServiceMutationResponse) : Prop where
  plan : acceptsPlan action p = true
  answer : W.read (.service p.serviceId action p.version p.beforeSpecHash p.targetSpecHash)
    (.service response) = .ok response
  recorded : Records (sentFor r (.service p.serviceId action p.version p.beforeSpecHash
    p.targetSpecHash)) (W.read _ (.service response)) .ACKNOWLEDGED
  matched : Control.MutationService.acceptedMatchesPlan response p = true

structure NodeHonoured (W : Wire) (r : MutationRequest) (planning : NodePlanning)
    (action : Control.NodeAction) (p : NodeMutationPlan) (response : NodeMutationResponse) :
      Prop where
  plan : acceptsPlanFor planning p = true
  answer : W.read (.node p.nodeId action p.version p.beforeSpecHash p.targetSpecHash)
    (.node response) = .ok response
  recorded : Records (sentFor r (.node p.nodeId action p.version p.beforeSpecHash
    p.targetSpecHash)) (W.read _ (.node response)) .ACKNOWLEDGED
  matched : Control.NodeMutationService.acceptedMatchesPlan response p = true

theorem ServiceHonoured.of_accepted {W : Wire} {r : MutationRequest} {action : ServiceAction}
    {p : ServiceMutationPlan} {response : ServiceMutationResponse}
    (hplan : acceptsPlan action p = true) (hresponse : acceptsServiceResponse response = true)
    (hmatched : Control.MutationService.acceptedMatchesPlan response p = true) :
    ServiceHonoured W r action p response := by
  have hread : W.read (.service p.serviceId action p.version p.beforeSpecHash p.targetSpecHash)
      (.service response) = .ok response := if_pos hresponse
  refine ⟨hplan, hread, ?_, hmatched⟩
  rw [hread]
  exact records_ok

theorem NodeHonoured.of_accepted {W : Wire} {r : MutationRequest} {planning : NodePlanning}
    {action : Control.NodeAction} {p : NodeMutationPlan} {response : NodeMutationResponse}
    (hplan : acceptsPlanFor planning p = true) (hresponse : acceptsNodeResponse response = true)
    (hmatched : Control.NodeMutationService.acceptedMatchesPlan response p = true) :
    NodeHonoured W r planning action p response := by
  have hread : W.read (.node p.nodeId action p.version p.beforeSpecHash p.targetSpecHash)
      (.node response) = .ok response := if_pos hresponse
  refine ⟨hplan, hread, ?_, hmatched⟩
  rw [hread]
  exact records_ok

/-- A plan and the answer of its mutation, carried out with no other writer, are accepted and
acknowledged exactly if the plan names an image where it has to, and does not leave the node paused.
-/
theorem agent_answers_honoured_iff (W : Wire) (D : Decoder) (H : Hashes) (U : Unicode)
    (hH : H.Filled) (r : MutationRequest) (d d' : Docker) (ref : String) (version : UInt64)
    (hindex : isSafeInteger (d'.index + 1).toNat = true) :
    (∀ action p, (execute (planService H action ref version) d).result = .ok p →
      hasSafeIntegers p = true →
      ∀ request, request = sentFor r (.service p.serviceId action p.version p.beforeSpecHash
        p.targetSpecHash) → W.Decodes D request.mutation → ServiceKept d request p.serviceId d' →
      ∃ response, (execute (handleMutation D H U (W.call request)) d').result = .ok
        (.service response) ∧ (ServiceHonoured W r action p response ↔
          (changesImage action = true → p.targetImage.isSome = true))) ∧
    (∀ planning p action, (execute (planNode H U planning ref version) d).result = .ok p →
      Control.NodeMutationService.action planning.type p = some action →
      isSafeInteger p.version = true →
      ∀ request, request = sentFor r (.node p.nodeId action p.version p.beforeSpecHash
        p.targetSpecHash) → W.Decodes D request.mutation → NodeKept U d request planning p d' →
      ∃ response, (execute (handleMutation D H U (W.call request)) d').result = .ok
        (.node response) ∧
        (NodeHonoured W r planning action p response ↔ p.targetAvailability ≠ .pause)) := by
  constructor
  · rintro action p hplan hsafe request rfl hW hkept
    obtain ⟨s, hs, target, hp⟩ := planService_ok hplan
    have hfound := hkept.found s hs hp.serviceId.symm
    have hnamed := hkept.named
    rw [hp.serviceId] at hfound hnamed
    obtain ⟨update, -, hperforms⟩ := performs_serviceCall hW rfl hp hkept.manages hnamed hfound
    refine ⟨_, hperforms.result, fun h => (acceptsPlan_iff hH hp hsafe).mp h.plan, fun h => ?_⟩
    refine .of_accepted ((acceptsPlan_iff hH hp hsafe).mpr h) ?_ ?_
    · have hforce : isSafeInteger target.taskTemplate.forceUpdate.toNat = true := by
        simp only [hasSafeIntegers, Bool.and_eq_true] at hsafe
        exact hp.forceUpdate ▸ hsafe.1.2
      simp only [acceptsServiceResponse, hindex, hforce, ne_eq, hH.service target,
        not_false_eq_true, decide_true, Bool.and_self]
    · simp [Control.MutationService.acceptedMatchesPlan, hp.serviceId, hp.hash, hp.forceUpdate]
  · rintro planning p action hplan haction hsafe request rfl hW hkept
    obtain ⟨n, hn, hp⟩ := planNode_ok hplan
    obtain ⟨hfound, haffected⟩ := hkept.found n hn hp.nodeId.symm
    have hnamed := hkept.named
    rw [hp.nodeId] at hfound hnamed
    obtain ⟨update, -, hperforms⟩ :=
      performs_nodeCall hW haction rfl hp hkept.manages hnamed hfound haffected
    refine ⟨_, hperforms.result, fun h hpause => ?_, fun h => ?_⟩
    · have hread := h.answer
      rw [hp.availability] at hpause
      simp [Wire.read, acceptsNodeResponse, hpause] at hread
    · refine .of_accepted (acceptsPlanFor_of_plans hH hp hsafe) ?_ ?_
      · rw [hp.availability] at h
        simp only [acceptsNodeResponse, hindex, ne_eq, hH.node, h, not_false_eq_true, decide_true,
          Bool.and_self]
      · simp [Control.NodeMutationService.acceptedMatchesPlan, hp.nodeId, hp.hash, hp.availability]

theorem labelHashes_filled : labelHashes.Filled where
  service _ := by simp [labelHashes]
  node spec := by
    simp only [labelHashes]
    split <;> decide
  task _ := by simp [labelHashes]

theorem active_node_answer_honoured : ∃ response, NodeHonoured zoneWire zoneRequest zonePlanning
    zoneAction (zonePlan .active) response := by
  obtain ⟨response, -, hiff⟩ := (agent_answers_honoured_iff zoneWire zoneDecoder labelHashes .ascii
    labelHashes_filled zoneRequest (smallSwarm .active) (smallSwarm .active) "w1" 5 (by decide)).2
    zonePlanning (zonePlan .active) zoneAction plan_smallSwarm rfl (by decide) zoneRequest rfl
    rfl smallSwarm_kept
  exact ⟨response, hiff.mpr (by decide)⟩

/-- New labels for a paused node: the schema of plans takes the plan, Docker gets the labels, and
the schema of answers refuses the answer. -/
theorem paused_node_answer_refused : ¬ ∀ (W : Wire) (D : Decoder) (H : Hashes) (U : Unicode),
    H.Filled → ∀ (r : MutationRequest) (d d' : Docker) (ref : String) (version : UInt64),
    isSafeInteger (d'.index + 1).toNat = true → ∀ planning p action,
    (execute (planNode H U planning ref version) d).result = .ok p →
    Control.NodeMutationService.action planning.type p = some action →
    isSafeInteger p.version = true → ∀ request, request = sentFor r (.node p.nodeId action p.version
      p.beforeSpecHash p.targetSpecHash) → W.Decodes D request.mutation →
    NodeKept U d request planning p d' → ∀ response,
      (execute (handleMutation D H U (W.call request)) d').result = .ok (.node response) →
        NodeHonoured W r planning action p response := by
  intro hclaim
  have hanswer := (hclaim zoneWire zoneDecoder labelHashes .ascii labelHashes_filled zoneRequest
    (smallSwarm .pause) (smallSwarm .pause) "w1" 5 (by decide) zonePlanning (zonePlan .pause)
    zoneAction plan_smallSwarm rfl (by decide) zoneRequest rfl rfl smallSwarm_kept
    ⟨"w1", 7, "after", .pause⟩ (by decide +kernel)).answer
  simp [Wire.read, acceptsNodeResponse] at hanswer

end Docklane.Engine
