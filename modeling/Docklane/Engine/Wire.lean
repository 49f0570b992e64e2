import Docklane.Agent.Barrier
import Docklane.Engine.Handlers

/-!
# Between the control plane and an Agent

The call that `mutationRequest` of `agent/http-agent.client.ts` makes of a mutation, the schemas of
`agent/read-model.ts`, and what `requestTo` makes of an answer. The texts of JSON are parameters.
-/

namespace Docklane.Engine

open Control

/-! ## Requests -/

/-- How bodies and errors are written, and the request as the guard of the Agent reads it. -/
structure Wire where
  /-- `JSON.stringify` of the body -/
  stringify : Mutation → String
  /-- The body of a refusal. -/
  refusal : Option String → String → String
  http : MutationRequest → Agent.Request

/-- The route of `/v2/services/…` that an action is sent to. -/
def serviceRoute : ServiceAction → ServiceRoute
  | .scale _ => .scale
  | .restart => .restart
  | .image _ => .image
  | .rollback => .rollback

def nodeRoute : NodeAction → NodeRoute
  | .drain _ => .drain
  | .activate => .activate
  | .labels _ _ => .labels

def mutationRoute : Mutation → ServiceRoute ⊕ NodeRoute
  | .service _ action _ _ _ => .inl (serviceRoute action)
  | .node _ action _ _ _ => .inr (nodeRoute action)

/-- The service or node in the path. -/
def mutationObject : Mutation → String
  | .service id _ _ _ _ => id
  | .node id _ _ _ _ => id

def Wire.call (W : Wire) (request : MutationRequest) : MutationCall where
  version := .v2
  route := mutationRoute request.mutation
  id := mutationObject request.mutation
  body := W.stringify request.mutation
  expectedCluster := [request.expectedClusterId]

/-- The body of a service mutation as the Agent decodes it. -/
def serviceBody (action : ServiceAction) (version : Nat) (before target : String) :
    ServiceMutationRequest where
  expectedVersion := .ofNat version
  expectedSpecHash := before
  targetSpecHash := target
  replicas := match action with
    | .scale replicas => some (.ofNat replicas)
    | _ => none
  image := match action with
    | .image image => some image
    | _ => none

def nodeBody (action : NodeAction) (version : Nat) (before target : String) :
    NodeMutationRequest where
  expectedVersion := .ofNat version
  expectedSpecHash := before
  targetSpecHash := target
  expectedServiceIds := match action with
    | .drain ids | .labels ids _ => ids
    | .activate => []
  targetLabels := match action with
    | .labels _ labels => some labels
    | _ => none

/-- The body of the mutation arrives as it was sent. -/
def Wire.Decodes (W : Wire) (D : Decoder) : Mutation → Prop
  | .service id action version before target =>
    D.service (W.stringify (.service id action version before target)) =
      .ok (serviceBody action version before target)
  | .node id action version before target =>
    D.node (W.stringify (.node id action version before target)) =
      .ok (nodeBody action version before target)

/-! ## Schemas -/

/-- `z.number().int().nonnegative()` accepts the safe integers. -/
def isSafeInteger (n : Nat) : Bool := n < 2 ^ 53

/-- `z.string().min(1)` of a field that may be missing. -/
def isFilled (field : Option String) : Bool := field.any (· ≠ "")

/-- `ServiceMutationPlanSchema` -/
def acceptsServicePlan (plan : ServiceMutationPlan) : Bool :=
  isSafeInteger plan.version && plan.beforeSpecHash ≠ "" && plan.targetSpecHash ≠ "" &&
    isSafeInteger plan.targetForceUpdate && plan.targetReplicas.all isSafeInteger

/-- `ServiceImageMutationPlanSchema` -/
def acceptsImagePlan (plan : ServiceMutationPlan) : Bool :=
  acceptsServicePlan plan && plan.targetImage.isSome && isFilled plan.targetTaskSpecHash &&
    isFilled plan.targetRuntimeSpecHash

/-- `ServiceMutationResponseSchema` -/
def acceptsServiceResponse (response : ServiceMutationResponse) : Bool :=
  isSafeInteger response.version && response.targetSpecHash ≠ "" &&
    isSafeInteger response.targetForceUpdate

/-- `NodeMutationPlanSchema`, which has all availabilities. -/
def acceptsNodePlan (plan : NodeMutationPlan) : Bool :=
  isSafeInteger plan.version && plan.beforeSpecHash ≠ "" && plan.targetSpecHash ≠ ""

/-- `NodeLabelMutationPlanSchema` -/
def acceptsLabelPlan (plan : NodeMutationPlan) : Bool :=
  acceptsNodePlan plan && plan.targetLabels.isSome

/-- `NodeMutationResponseSchema`, which has `drain` and `active` only. -/
def acceptsNodeResponse (response : NodeMutationResponse) : Bool :=
  isSafeInteger response.version && response.targetSpecHash ≠ "" &&
    response.targetAvailability ≠ .pause

/-! ## Answers -/

def contractViolation : Failure := .error "Agent response failed contract validation"

/-- `requestTo`, for an answer that has arrived. -/
def Wire.read (W : Wire) : (m : Mutation) → MutationReply → Except Failure m.Response
  | _, .refused status code error => .error (.agentRequest status ⟨W.refusal code error, code⟩)
  | .service _ _ _ _ _, .service response =>
    if acceptsServiceResponse response then .ok response else .error contractViolation
  | .node _ _ _ _ _, .node response =>
    if acceptsNodeResponse response then .ok response else .error contractViolation
  | .service _ _ _ _ _, .node _ => .error contractViolation
  | .node _ _ _ _ _, .service _ => .error contractViolation

/-- An answer is a definite rejection for the control plane only if the Agent has written one. -/
theorem Wire.definite_of_read {W : Wire} {m : Mutation} {reply : MutationReply} {e : Failure}
    (h : W.read m reply = .error e) (he : (deterministicAgentRejection e).isSome = true) :
    ∃ status code error, reply = .refused status code error ∧
      e = .agentRequest status ⟨W.refusal code error, code⟩ := by
  cases reply with
  | refused status code error =>
    cases m <;> cases h <;> exact ⟨status, code, error, rfl, rfl⟩
  | service response =>
    cases m <;> simp only [Wire.read] at h
    · split at h <;> cases h
      cases he
    · cases h
      cases he
  | node response =>
    cases m <;> simp only [Wire.read] at h
    · cases h
      cases he
    · split at h <;> cases h
      cases he

end Docklane.Engine
