import Docklane.Concurrent.Answers
import Docklane.Control.Requests

/-!
# Requests with an operation id that is in use

What each call of the control plane does when it finds its operation id recorded already: it makes
no operation and sends nothing, and where the recorded operation was asked for differently it writes
nothing at all and ends with an error. The facts are about the programs, under answers that find the
recorded rows; `Docklane.Control.OperationIds` puts them together with the database.
-/

namespace Docklane.Control

open Concurrent Concurrent.Program

/-! ## Kinds of requests -/

/-- Requests that make no operation, and send nothing. -/
def ControlOp.Resumes : ControlOp → Prop
  | .db op => op.creates = none
  | .send _ => False
  | _ => True

theorem ControlOp.Harmless.resumes {op : ControlOp} (h : op.Harmless) : op.Resumes := by
  cases op with
  | db op => cases op <;> first | rfl | exact absurd trivial h
  | send request => exact h
  | _ => trivial

theorem ControlOp.Works.resumes {op : ControlOp} (h : op.Works) : op.Resumes := by
  cases op with
  | db op => cases op <;> first | rfl | exact absurd h id
  | send request => exact h
  | _ => trivial

section Rules

variable {α β : Type} {answers : (op : ControlOp) → op.Ans → Prop} {allowed : ControlOp → Prop}
  {Q : Except Failure β → Prop}

theorem given_query {op : DbOp} {f : op.Reply → ControlProgram β} (hop : allowed (.db op))
    (hQ : ∀ e, Q (.error e))
    (hf : ∀ reply, answers (.db op) (.ok reply) → (f reply).Given answers allowed Q) :
    ((query op).bind f).Given answers allowed Q := by
  refine ⟨hop, fun (answer : Except Failure op.Reply) hanswer => ?_⟩
  cases answer with
  | error e => exact hQ e
  | ok reply => exact hf reply hanswer

theorem given_askAgent {read : AgentRead} {f : read.Reply → ControlProgram β}
    (hop : allowed (.agent read)) (hQ : ∀ e, Q (.error e))
    (hf : ∀ reply, answers (.agent read) (.ok reply) → (f reply).Given answers allowed Q) :
    ((askAgent read).bind f).Given answers allowed Q := by
  refine ⟨hop, fun (answer : Except Failure read.Reply) hanswer => ?_⟩
  cases answer with
  | error e => exact hQ e
  | ok reply => exact hf reply hanswer

/-- A first part whose value does not matter. -/
theorem Given.bind_uses {p : ControlProgram α} {f : α → ControlProgram β} (hp : p.Uses allowed)
    (hQ : ∀ e, Q (.error e)) (hf : ∀ a, (f a).Given answers allowed Q) :
    (p.bind f).Given answers allowed Q := by
  refine .bind ((Given.of_uses hp).mono ?_)
  rintro (e | a) -
  · exact hQ e
  · exact hf a

variable (hH : ∀ op : ControlOp, op.Harmless → allowed op)

include hH

variable (hQ : ∀ e, Q (.error e))

include hQ

theorem withNamedLocks_given {fn : ControlProgram β} (hfn : fn.Given answers allowed Q)
    {names : List String} (acquired : List String) :
    (withNamedLocks fn names acquired).Given answers allowed Q := by
  induction names generalizing acquired with
  | nil => exact hfn.andFinally (releaseLocks_uses (fun _ _ => hH _)) hQ
  | cons name rest ih =>
    refine ⟨hH _ trivial, fun answer _ => ?_⟩
    rcases answer with e | _ | _
    · exact Given.andFinally (hQ _) (releaseLocks_uses (fun _ _ => hH _)) hQ
    · exact Given.andFinally (hQ _) (releaseLocks_uses (fun _ _ => hH _)) hQ
    · exact ih _

theorem withCallLocks_given {fn : Option ActiveAdmission → ControlProgram β}
    (hfn : ∀ active, (fn active).Given answers allowed Q) (settings : Settings)
    (clusterId : String) (keys : List LockKey) (type : ResourceType) (resourceId : String) :
    ((assertRegistered settings clusterId).bind fun _ => withResourceLocks settings keys
      (withAdmission settings clusterId type resourceId fn)).Given answers allowed Q := by
  refine Given.bind_uses (assertRegistered_uses (fun _ _ => hH _)) hQ fun _ => ?_
  refine ⟨hH _ trivial, fun (answer : Except Failure Unit) _ => ?_⟩
  cases answer with
  | error e => exact hQ e
  | ok _ =>
    refine withNamedLocks_given hH hQ ?_ _
    refine Given.bind_uses (assertMaintenanceOpen_uses (fun _ _ => hH _)) hQ
      fun active => (hfn active).andFinally ?_ hQ
    cases active with
    | none => exact uses_pure
    | some active => exact uses_query.mpr (hH _ id)

end Rules

section Calls

variable {answers : (op : ControlOp) → op.Ans → Prop} {α : Type} {allowed : ControlOp → Prop}
  {p : ControlProgram α}

theorem resumes_of_works (h : p.Uses ControlOp.Works) :
    p.Given answers ControlOp.Resumes fun _ => True :=
  .of_uses (h.mono fun _ => ControlOp.Works.resumes)

theorem resumes_of_looks (h : p.Uses ControlOp.Looks) : p.Uses ControlOp.Resumes :=
  h.mono fun _ hop => hop.works.resumes

theorem ignoreResult_given {Q : Except Failure Unit → Prop}
    (hp : p.Given answers allowed fun r => Q (r.map fun _ => ())) :
    (ignoreResult p).Given answers allowed Q := by
  refine .bind (hp.mono ?_)
  rintro (e | a) h <;> exact h

theorem ignoreResult_refused (hp : p.Given answers allowed Refused) :
    (ignoreResult p).Given answers allowed Refused :=
  hp.refused_bind

/-! ## Scale and restart -/

namespace MutationService

variable {kind : Kind} {input : MutationInput} {clusterId requestedServiceId : String}
  (settings : Settings) (fuel : Nat)

theorem mutateService_resumes
    (hfind : ∀ found, answers (.db (.findOperation input.operationId)) (.ok found) → found ≠ none) :
    (mutateService settings kind clusterId requestedServiceId input fuel).Given answers
      ControlOp.Resumes fun _ => True := by
  unfold mutateService
  split
  · trivial
  · refine given_askAgent trivial (fun _ => trivial) fun resolved _ => ?_
    refine withCallLocks_given (fun _ => ControlOp.Harmless.resumes) (fun _ => trivial) ?_ settings
      clusterId _ _ _
    refine fun admission => given_query rfl (fun _ => trivial) fun found hfound => ?_
    cases found with
    | none => exact absurd rfl (hfind none hfound)
    | some existing =>
      change Given _ _ _ (if _ then _ else _)
      split
      · split
        · trivial
        · exact resumes_of_works reconcileLocked_works
      · trivial

/-- A request that does not describe the recorded operation, whichever of the services `S` it is
resolved to. -/
theorem mutateService_refused {S : String → Prop}
    (hresolve : ∀ reply : ServiceDetailResponse,
      answers (.agent (.inspectService requestedServiceId)) (.ok reply) → S reply.service.id)
    (hfind : ∀ found : Option OperationRecord,
      answers (.db (.findOperation input.operationId)) (.ok found) → ∃ existing,
        found = some existing ∧ ∀ id, S id → assertIdempotent kind input clusterId id existing =
          false) :
    (mutateService settings kind clusterId requestedServiceId input fuel).Given answers
      ControlOp.Harmless Refused := by
  unfold mutateService
  split
  · exact refused_error _
  · refine given_askAgent trivial refused_error fun (resolved : ServiceDetailResponse) hservice =>
      ?_
    refine withCallLocks_given (fun _ => id) refused_error ?_ settings clusterId _ _ _
    refine fun admission => given_query id refused_error fun found hfound => ?_
    obtain ⟨existing, rfl, hdiffers⟩ := hfind found hfound
    change Given _ _ _ (if _ then _ else _)
    rw [hdiffers _ (hresolve resolved hservice), if_neg Bool.false_ne_true]
    exact refused_error _

end MutationService

/-! ## Drain, activate and labels -/

namespace NodeMutationService

variable {input : MutationInput} {clusterId nodeRef : String} (settings : Settings) (fuel : Nat)

theorem plan_harmless {nodeId : String} : (plan input nodeId).Uses ControlOp.Harmless := by
  unfold plan
  split <;> exact uses_askAgent.mpr trivial

theorem initialImpact_harmless {initial : NodeDetailResponse} :
    (initialImpact input initial).Uses ControlOp.Harmless := by
  refine Uses.bind (uses_query.mpr id) fun existing => ?_
  split
  · cases existing with
    | some operation => exact uses_pure
    | none =>
      refine plan_harmless.attempt.bind fun planned => ?_
      split
      · exact uses_pure
      · refine Uses.bind (uses_query.mpr id) fun raced => ?_
        cases raced <;> simp
  · exact uses_pure

theorem mutate_resumes
    (hfind : ∀ found, answers (.db (.findNodeOperation input.operationId)) (.ok found) →
      found ≠ none) :
    (mutate settings clusterId nodeRef input fuel).Given answers ControlOp.Resumes
      fun _ => True := by
  unfold mutate
  split
  · trivial
  · refine given_askAgent trivial (fun _ => trivial) fun (initial : NodeDetailResponse) _ => ?_
    refine Given.bind_uses (resumes_of_looks initialImpact_looks) (fun _ => trivial)
      fun impact => given_query rfl (fun _ => trivial) fun prior _ => ?_
    refine withCallLocks_given (fun _ => ControlOp.Harmless.resumes) (fun _ => trivial) ?_ settings
      clusterId _ _ _
    refine fun admission => given_query rfl (fun _ => trivial) fun found hfound => ?_
    cases found with
    | none => exact absurd rfl (hfind none hfound)
    | some existing =>
      change Given _ _ _ (if _ then _ else _)
      split
      · split
        · trivial
        · exact resumes_of_works reconcileLocked_works
      · trivial

theorem mutate_refused {S : String → Prop} (hresolve : ∀ reply : NodeDetailResponse,
      answers (.agent (.inspectNode nodeRef)) (.ok reply) → S reply.node.id)
    (hfind : ∀ found : Option NodeOperationRecord,
      answers (.db (.findNodeOperation input.operationId)) (.ok found) → ∃ existing,
        found = some existing ∧ ∀ id, S id → assertIdempotent input clusterId id existing = false) :
    (mutate settings clusterId nodeRef input fuel).Given answers ControlOp.Harmless Refused := by
  unfold mutate
  split
  · exact refused_error _
  · refine given_askAgent trivial refused_error fun (initial : NodeDetailResponse) hnode => ?_
    refine Given.bind_uses initialImpact_harmless refused_error fun impact => ?_
    refine given_query id refused_error fun prior _ => ?_
    refine withCallLocks_given (fun _ => id) refused_error ?_ settings clusterId _ _ _
    refine fun admission => given_query id refused_error fun found hfound => ?_
    obtain ⟨existing, rfl, hdiffers⟩ := hfind found hfound
    change Given _ _ _ (if _ then _ else _)
    rw [hdiffers _ (hresolve initial hnode), if_neg Bool.false_ne_true]
    exact refused_error _

end NodeMutationService

/-! ## Deploy and historical redeploy -/

namespace DeploymentService

section Deploy

variable {clusterId targetId : String} {input : DeployRequest} {kind : DeploymentKind}
  (settings : Settings) (fuel : Nat)

theorem deployRelease_resumes
    (hfind : ∀ found, answers (.db (.findOperation input.operationId)) (.ok found) → found ≠ none) :
    (deployRelease settings clusterId targetId input kind fuel).Given answers ControlOp.Resumes
      fun _ => True := by
  refine given_query rfl (fun _ => trivial) fun found _ => ?_
  cases found with
  | none => trivial
  | some target =>
    change Given _ _ _ (if _ then _ else _)
    split
    · trivial
    refine given_query rfl (fun _ => trivial) fun found _ => ?_
    cases found with
    | none => trivial
    | some release =>
      change Given _ _ _ (if _ then _ else _)
      split
      · trivial
      refine withCallLocks_given (fun _ => ControlOp.Harmless.resumes) (fun _ => trivial) ?_
        settings clusterId _ _ _
      refine fun admission => given_query rfl (fun _ => trivial) fun found hfound => ?_
      cases found with
      | none => exact absurd rfl (hfind none hfound)
      | some existing =>
        exact resumes_of_works resumeDeployment_works

theorem unlessTerminal_resumes
    (hfind : ∀ found, answers (.db (.findOperation input.operationId)) (.ok found) → found ≠ none) :
    ((findTerminalDeploymentRetry clusterId targetId input kind).bind fun terminal =>
      match terminal with
      | some deployment => .pure deployment
      | none => deployRelease settings clusterId targetId input kind fuel).Given answers
        ControlOp.Resumes fun _ => True := by
  refine Given.bind_uses (resumes_of_looks
    (findTerminalDeploymentRetry_looks clusterId targetId input kind)) (fun _ => trivial)
    fun terminal => ?_
  cases terminal with
  | none => exact deployRelease_resumes settings fuel hfind
  | some deployment => trivial

theorem historicalRedeploy_resumes
    (hfind : ∀ found, answers (.db (.findOperation input.operationId)) (.ok found) → found ≠ none) :
    (historicalRedeploy settings clusterId targetId input fuel).Given answers ControlOp.Resumes
      fun _ => True := by
  refine given_query rfl (fun _ => trivial) fun found _ => ?_
  cases found with
  | none => trivial
  | some target =>
    change Given _ _ _ (if _ then _ else _)
    split
    · trivial
    refine given_query rfl (fun _ => trivial) fun found _ => ?_
    cases found with
    | none => trivial
    | some release =>
      change Given _ _ _ (if _ then _ else _)
      split
      · trivial
      · exact unlessTerminal_resumes settings fuel hfind

/-- Answers that find the operation as `B`, its deployment as `D` and the target as `T`, where the
request describes no such deployment. -/
structure DiffersFrom (answers : (op : ControlOp) → op.Ans → Prop) (clusterId targetId : String)
    (input : DeployRequest) (kind : DeploymentKind) (B : OperationRecord → Prop)
    (D : DeploymentRecord → Prop) (T : DeploymentTarget → Prop) : Prop where
  operation : ∀ found : Option OperationRecord,
    answers (.db (.findOperation input.operationId)) (.ok found) → ∃ o, found = some o ∧ B o
  deployment : ∀ d : DeploymentRecord,
    answers (.db (.findDeploymentByOperation input.operationId)) (.ok (some d)) → D d
  target : ∀ t : DeploymentTarget,
    answers (.db (.findDeploymentTarget targetId)) (.ok (some t)) → T t
  terminal : ∀ o d, B o → D d → ¬ (o.type = .DEPLOY ∧ o.clusterId = clusterId ∧
    o.actorId = input.actorId ∧ sameDeployment targetId input kind d = true)
  locked : ∀ o d t, B o → D d → T t → t.clusterId = clusterId →
    ¬ (sameMutation .DEPLOY input.actorId t.dockerServiceId o = true ∧
      sameDeployment targetId input kind d = true)

variable {B : OperationRecord → Prop} {D : DeploymentRecord → Prop} {T : DeploymentTarget → Prop}

theorem findTerminalDeploymentRetry_refused
    (h : DiffersFrom answers clusterId targetId input kind B D T) :
    (findTerminalDeploymentRetry clusterId targetId input kind).Given answers ControlOp.Harmless
      fun r => ∀ d, r ≠ .ok (some d) := by
  refine given_query id (fun _ _ h => nomatch h) fun found hfound => ?_
  obtain ⟨operation, rfl, hB⟩ := h.operation found hfound
  change Given _ _ _ (if _ then _ else _)
  split
  · exact fun _ h => nomatch h
  refine given_query id (fun _ _ h => nomatch h) fun found hdeployment => ?_
  cases found with
  | none => exact fun _ h => nomatch h
  | some d =>
    change Given _ _ _ (if _ then _ else _)
    rw [if_neg (h.terminal operation d hB (h.deployment d hdeployment))]
    exact fun _ h => nomatch h

theorem deployRelease_refused (h : DiffersFrom answers clusterId targetId input kind B D T) :
    (deployRelease settings clusterId targetId input kind fuel).Given answers ControlOp.Harmless
      Refused := by
  refine given_query id refused_error fun found htarget => ?_
  cases found with
  | none => exact refused_error _
  | some target =>
    change Given _ _ _ (if _ then _ else _)
    split
    · exact refused_error _
    next hcluster =>
    refine given_query id refused_error fun found _ => ?_
    cases found with
    | none => exact refused_error _
    | some release =>
      change Given _ _ _ (if _ then _ else _)
      split
      · exact refused_error _
      refine withCallLocks_given (fun _ => id) refused_error ?_ settings clusterId _ _ _
      refine fun admission => given_query id refused_error fun found hfound => ?_
      obtain ⟨existing, rfl, hB⟩ := h.operation found hfound
      change Given _ _ _ (if _ then _ else _)
      split
      · next hsame =>
        refine given_query id refused_error fun found hdeployment => ?_
        cases found with
        | none => exact refused_error _
        | some d =>
          have hdiffers := h.locked existing d target hB (h.deployment d hdeployment)
            (h.target target htarget) (not_not.mp hcluster)
          change Given _ _ _ (if _ then _ else _)
          rw [if_neg fun hboth => hdiffers ⟨hsame, hboth.1⟩]
          exact refused_error _
      · exact refused_error _

theorem unlessTerminal_refused (h : DiffersFrom answers clusterId targetId input kind B D T) :
    ((findTerminalDeploymentRetry clusterId targetId input kind).bind fun terminal =>
      match terminal with
      | some deployment => .pure deployment
      | none => deployRelease settings clusterId targetId input kind fuel).Given answers
        ControlOp.Harmless Refused := by
  refine .bind ((findTerminalDeploymentRetry_refused h).mono ?_)
  rintro (e | _ | d) hnone
  · exact refused_error e
  · exact deployRelease_refused settings fuel h
  · exact absurd rfl (hnone d)

theorem historicalRedeploy_refused
    (h : DiffersFrom answers clusterId targetId input .HISTORICAL_REDEPLOY B D T) :
    (historicalRedeploy settings clusterId targetId input fuel).Given answers ControlOp.Harmless
      Refused := by
  refine given_query id refused_error fun found _ => ?_
  cases found with
  | none => exact refused_error _
  | some target =>
    change Given _ _ _ (if _ then _ else _)
    split
    · exact refused_error _
    refine given_query id refused_error fun found _ => ?_
    cases found with
    | none => exact refused_error _
    | some release =>
      change Given _ _ _ (if _ then _ else _)
      split
      · exact refused_error _
      · exact unlessTerminal_refused settings fuel h

end Deploy

/-! ## Rollback -/

section Rollback

variable {clusterId deploymentId : String} {input : RollbackRequest} (settings : Settings)
  (fuel : Nat)

theorem mapped_given {α β : Type} {Q : Except Failure β → Prop} {p : ControlProgram α}
    (hp : p.Uses allowed) {fallback : String} {f : α → ControlProgram β} (hQ : ∀ e, Q (.error e))
    (hf : ∀ a, (f a).Given answers allowed Q) :
    ((mapped p fallback).bind f).Given answers allowed Q :=
  Given.bind_uses (hp.tryCatch fun _ => uses_throw) hQ hf

theorem startRollback_resumes {target : DeploymentTarget} {deployment : DeploymentRecord}
    {previousRelease : Release}
    (hfind : ∀ found, answers (.db (.findOperation input.operationId)) (.ok found) → found ≠ none) :
    (startRollback settings clusterId target deployment previousRelease input fuel).Given answers
      ControlOp.Resumes fun _ => True := by
  refine given_query rfl (fun _ => trivial) fun attempted _ => ?_
  change Given _ _ _ (if _ then _ else _)
  split
  · trivial
  refine mapped_given (uses_askAgent.mpr trivial) (fun _ => trivial) fun resolved => ?_
  split
  · refine withCallLocks_given (fun _ => ControlOp.Harmless.resumes) (fun _ => trivial) ?_ settings
      clusterId _ _ _
    refine fun admission => given_query rfl (fun _ => trivial) fun found hfound => ?_
    cases found with
    | none => exact absurd rfl (hfind none hfound)
    | some existing =>
      exact resumes_of_works resumeRollback_works
  · trivial

theorem rollback_resumes
    (hfind : ∀ found, answers (.db (.findOperation input.operationId)) (.ok found) →
      found ≠ none) :
    (rollback settings clusterId deploymentId input fuel).Given answers ControlOp.Resumes
      fun _ => True := by
  refine given_query rfl (fun _ => trivial) fun found _ => ?_
  cases found with
  | none => trivial
  | some deployment =>
    refine given_query rfl (fun _ => trivial) fun found _ => ?_
    cases found with
    | none => trivial
    | some target =>
      change Given _ _ _ (if _ then _ else if _ then _ else _)
      split
      · trivial
      split
      · trivial
      refine given_query rfl (fun _ => trivial) fun found _ => ?_
      cases found with
      | none => trivial
      | some previousRelease =>
        change Given _ _ _ (if _ then _ else _)
        split
        · trivial
        refine Given.bind_uses (findTerminalRollbackRetry_works.mono
          fun _ => ControlOp.Works.resumes) (fun _ => trivial) fun terminal => ?_
        cases terminal with
        | none => exact startRollback_resumes settings fuel hfind
        | some result => trivial

/-- Answers that find the operation as `B`, the deployment it rolled back as `A`, the deployment of
the request as `D` and its target as `T`, where the request describes no such rollback. -/
structure RollbackDiffersFrom (answers : (op : ControlOp) → op.Ans → Prop)
    (clusterId deploymentId : String) (input : RollbackRequest) (B : OperationRecord → Prop)
    (A D : DeploymentRecord → Prop) (T : DeploymentTarget → Prop) : Prop where
  operation : ∀ found : Option OperationRecord,
    answers (.db (.findOperation input.operationId)) (.ok found) → ∃ o, found = some o ∧ B o
  attempted : ∀ d : DeploymentRecord,
    answers (.db (.findDeploymentByRollbackOperation input.operationId)) (.ok (some d)) → A d
  deployment : ∀ d : DeploymentRecord,
    answers (.db (.findDeployment deploymentId)) (.ok (some d)) → D d
  target : ∀ d (t : DeploymentTarget), D d →
    answers (.db (.findDeploymentTarget d.deploymentTargetId)) (.ok (some t)) → T t
  differs : ∀ o a d t, B o → A a → D d → T t → t.clusterId = clusterId →
    ¬ (o.type = .ROLLBACK ∧ o.actorId = input.actorId ∧ a.id = d.id)

variable {B : OperationRecord → Prop} {A D : DeploymentRecord → Prop}
  {T : DeploymentTarget → Prop} {target : DeploymentTarget} {deployment : DeploymentRecord}

theorem findTerminalRollbackRetry_refused
    (h : RollbackDiffersFrom answers clusterId deploymentId input B A D T) (hD : D deployment)
    (hT : T target) (hcluster : target.clusterId = clusterId) {serviceId : String} :
    (findTerminalRollbackRetry clusterId deployment input serviceId).Given answers
      ControlOp.Harmless fun r => ∀ d, r ≠ .ok (some d) := by
  refine given_query id (fun _ _ h => nomatch h) fun found hfound => ?_
  obtain ⟨operation, rfl, hB⟩ := h.operation found hfound
  change Given _ _ _ (if _ then _ else _)
  split
  · exact fun _ h => nomatch h
  refine given_query id (fun _ _ h => nomatch h) fun latest _ => ?_
  refine given_query id (fun _ _ h => nomatch h) fun historical hhistorical => ?_
  rcases latest with _ | latest
  · exact fun _ h => nomatch h
  rcases historical with _ | historical
  · exact fun _ h => nomatch h
  have hdiffers := h.differs operation historical deployment target hB
    (h.attempted historical hhistorical) hD hT hcluster
  change Given _ _ _ (if _ then _ else _)
  rw [if_neg fun hall => hdiffers ⟨hall.1, hall.2.2.1, hall.2.2.2.2⟩]
  exact fun _ h => nomatch h

theorem startRollback_refused
    (h : RollbackDiffersFrom answers clusterId deploymentId input B A D T) (hD : D deployment)
    (hT : T target) (hcluster : target.clusterId = clusterId) {previousRelease : Release} :
    (startRollback settings clusterId target deployment previousRelease input fuel).Given answers
      ControlOp.Harmless Refused := by
  refine given_query id refused_error fun attempted _ => ?_
  change Given _ _ _ (if _ then _ else _)
  split
  · exact refused_error _
  refine mapped_given (uses_askAgent.mpr trivial) refused_error fun resolved => ?_
  split
  · refine withCallLocks_given (fun _ => id) refused_error ?_ settings clusterId _ _ _
    refine fun admission => given_query id refused_error fun found hfound => ?_
    obtain ⟨existing, rfl, hB⟩ := h.operation found hfound
    change Given _ _ _ (if _ then _ else _)
    split
    · next hsame =>
      refine given_query id refused_error fun found hattempted => ?_
      cases found with
      | none => exact refused_error _
      | some a =>
        have hdiffers := h.differs existing a deployment target hB (h.attempted a hattempted) hD hT
          hcluster
        simp only [sameMutation, Bool.and_eq_true, decide_eq_true_eq] at hsame
        have hid : a.id ≠ deployment.id := fun hid => hdiffers ⟨hsame.1.1, hsame.1.2, hid⟩
        change Given _ _ _ (if _ then _ else _)
        rw [if_pos hid]
        exact refused_error _
    · exact refused_error _
  · exact refused_error _

theorem rollback_refused (h : RollbackDiffersFrom answers clusterId deploymentId input B A D T) :
    (rollback settings clusterId deploymentId input fuel).Given answers ControlOp.Harmless
      Refused := by
  refine given_query id refused_error fun found hdeployment => ?_
  cases found with
  | none => exact refused_error _
  | some deployment =>
    have hD := h.deployment deployment hdeployment
    refine given_query id refused_error fun found htarget => ?_
    cases found with
    | none => exact refused_error _
    | some target =>
      change Given _ _ _ (if _ then _ else if _ then _ else _)
      split
      · exact refused_error _
      next hcluster =>
      have hT := h.target deployment target hD htarget
      split
      · exact refused_error _
      refine given_query id refused_error fun found _ => ?_
      cases found with
      | none => exact refused_error _
      | some previousRelease =>
        change Given _ _ _ (if _ then _ else _)
        split
        · exact refused_error _
        refine .bind ((findTerminalRollbackRetry_refused h hD hT (not_not.mp hcluster)).mono ?_)
        rintro (e | _ | d) hnone
        · exact refused_error e
        · exact startRollback_refused settings fuel h hD hT (not_not.mp hcluster)
        · exact absurd rfl (hnone d)

end Rollback

end DeploymentService

end Calls

end Docklane.Control
