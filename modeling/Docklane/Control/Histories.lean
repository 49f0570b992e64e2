import Docklane.Control.Verification

/-!
# Histories of a verification

The rules of `Docklane.Concurrent.History` for the requests that verification and reconciliation
make. A condition on the history restricts the statements of the database only: everything else
such a program asks is harmless.
-/

namespace Docklane.Control

open Concurrent Concurrent.Program

/-- The answer of an inspection. -/
def inspected (serviceId : String) (current : ServiceDetailResponse) : ControlEvent :=
  ⟨.agent (.inspectService serviceId),
    (.ok current : Except Failure ServiceDetailResponse)⟩

/-- The answer of a placement check that has converged. -/
def placed (serviceId : String) : ControlEvent :=
  ⟨.agent (.checkServicePlacement serviceId),
    (.ok .CONVERGED : Except Failure PlacementStatus)⟩

/-- Only statements of the database are restricted by the history. -/
def OnStatements (restrict : List ControlEvent → DbOp → Prop) (h : List ControlEvent) :
    ControlOp → Prop
  | .db op => restrict h op
  | _ => True

variable {restrict : List ControlEvent → DbOp → Prop} {α : Type}
  {Q : Except Failure α → List ControlEvent → Prop} {h : List ControlEvent}

theorem now_follows {k : Int → ControlProgram α}
    (hk : ∀ t, (k t).Follows (OnStatements restrict) Q (⟨.now, (t : Int)⟩ :: h)) :
    (now.bind k).Follows (OnStatements restrict) Q h :=
  ⟨trivial, hk⟩

theorem sleep_follows {ms : Nat} {k : Unit → ControlProgram α}
    (hk : (k ()).Follows (OnStatements restrict) Q (⟨.sleep ms, ()⟩ :: h)) :
    ((sleep ms).bind k).Follows (OnStatements restrict) Q h :=
  ⟨trivial, fun _ => hk⟩

theorem inspect_follows {serviceId : String}
    {k : Except Failure ServiceDetailResponse → ControlProgram α}
    (herror : ∀ e h', (k (.error e)).Follows (OnStatements restrict) Q h') (hok : ∀ current,
      (k (.ok current)).Follows (OnStatements restrict) Q (inspected serviceId current :: h)) :
    ((inspectService serviceId).attempt.bind k).Follows (OnStatements restrict) Q h := by
  refine ⟨trivial, fun (answer : Except Failure ServiceDetailResponse) => ?_⟩
  cases answer with
  | error e => exact herror e _
  | ok current => exact hok current

/-- A snapshot counts as a success only with the placement converged after it. -/
theorem classifyConvergence_follows {v : Verification} {plan : ServiceMutationPlan}
    {current : ServiceDetailResponse} {k : DeploymentDecision → ControlProgram α}
    (hsuccess : v.classify current = .SUCCESS →
      (k .SUCCESS).Follows (OnStatements restrict) Q (placed plan.serviceId :: h))
    (hother : ∀ decision h', decision ≠ .SUCCESS →
      decision = .PENDING ∨ decision = v.classify current →
      (k decision).Follows (OnStatements restrict) Q h') :
    ((v.classifyConvergence plan current).bind k).Follows (OnStatements restrict) Q h := by
  unfold Verification.classifyConvergence
  split
  · rename_i hclass
    refine ⟨trivial, fun (answer : Except Failure PlacementStatus) => ?_⟩
    match answer with
    | .ok .CONVERGED => exact hsuccess hclass
    | .ok .PENDING => exact hother _ _ (by decide) (.inl rfl)
    | .ok .UNKNOWN => exact hother _ _ (by decide) (.inl rfl)
    | .error e => exact hother _ _ (by decide) (.inl rfl)
  · rename_i hclass
    exact hother _ _ hclass (.inr rfl)

theorem conclude_follows {settlement : Settlement} {deploymentId operationId : String}
    (hsettle : restrict h (.settle settlement deploymentId operationId))
    (hfind : ∀ h', restrict h' (.findDeployment deploymentId)) :
    (conclude settlement deploymentId operationId).Follows (OnStatements restrict)
      (fun _ _ => True) h := by
  refine ⟨hsettle, fun (answer : Except Failure Unit) => ?_⟩
  cases answer with
  | error e => trivial
  | ok _ =>
    refine ⟨hfind _, fun (answer : Except Failure (Option DeploymentRecord)) => ?_⟩
    match answer with
    | .error e => trivial
    | .ok none => trivial
    | .ok (some d) => trivial

theorem hang_follows : (hang : ControlProgram α).Follows (OnStatements restrict) Q h :=
  ⟨trivial, fun answer => Empty.elim answer⟩

end Docklane.Control
