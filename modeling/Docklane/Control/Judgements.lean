import Docklane.Control.Reconciliation
import Docklane.Control.EarlyVerdict

/-!
# One snapshot, judged twice

A deployment that was interrupted is judged by `classifyDeploymentReconciliationSnapshot` until its
target is seen, and by `classifyDeploymentSnapshot` from then on. The two were written separately.
Here they are compared on every snapshot: where recovery ends or waits, verification would have done
the same, and where recovery has seen the target, it leaves the verdict to verification.
-/

namespace Docklane.Control

variable {operation : OperationRecord} {current : ServiceDetailResponse} {digest : String}
  {noOp : Bool} {runtime : Option String}

/-- The plan that recovery rebuilds from an operation whose runtime fingerprint it has completed. -/
def OperationRecord.rebuiltPlan (operation : OperationRecord) (runtime : Option String) :
    ServiceMutationPlan :=
  { operation with targetRuntimeSpecHash := runtime : OperationRecord }.plan

/-- At the expected version the service still has the spec that the intent found. -/
def OperationRecord.Versioned (operation : OperationRecord) (current : ServiceDetailResponse) :
    Prop :=
  current.service.version = operation.expectedVersion →
    current.service.specHash = operation.beforeSpecHash

/-- The verdict that a snapshot leads to during recovery, which goes on with verification once it
has seen the target. -/
def recoveryVerdict (operation : OperationRecord) (runtime : Option String)
    (current : ServiceDetailResponse) (digest : String) (noOp : Bool) : DeploymentDecision :=
  match classifyDeploymentReconciliationSnapshot operation current with
  | .TARGET_OBSERVED =>
    classifyDeploymentSnapshot current (operation.rebuiltPlan runtime) digest noOp
  | .WAITING_FOR_MUTATION | .ROLLBACK_IN_PROGRESS => .PENDING
  | .ROLLBACK_PAUSED => .ROLLBACK_PAUSED
  | .FAILED => .FAILED
  | .EXTERNAL_CONFLICT => .EXTERNAL_CONFLICT

theorem classifyReconciliation_target
    (h : classifyDeploymentReconciliationSnapshot operation current = .TARGET_OBSERVED) :
    current.service.specHash = operation.targetSpecHash ∧
      current.service.updateState ≠ some .rollback_started ∧
      current.service.updateState ≠ some .rollback_paused := by
  simp only [classifyDeploymentReconciliationSnapshot] at h
  split at h
  · split at h <;> cases h
  · next hstarted =>
    split at h
    · split at h <;> cases h
    · next hpaused =>
      split at h
      · next htarget => exact ⟨htarget, hstarted, hpaused⟩
      · split at h
        · split at h <;> cases h
        · split at h <;> cases h

/-- Verification finds no conflict and no paused rollback once the target is there. -/
theorem classifySnapshot_of_target (runtime : Option String) (digest : String) (noOp : Bool)
    (h : classifyDeploymentReconciliationSnapshot operation current = .TARGET_OBSERVED) :
    classifyDeploymentSnapshot current (operation.rebuiltPlan runtime) digest noOp ≠
        .EXTERNAL_CONFLICT ∧
      classifyDeploymentSnapshot current (operation.rebuiltPlan runtime) digest noOp ≠
        .ROLLBACK_PAUSED := by
  obtain ⟨htarget, hstarted, hpaused⟩ := classifyReconciliation_target h
  have hspec : current.service.specHash = (operation.rebuiltPlan runtime).targetSpecHash := htarget
  simp only [classifyDeploymentSnapshot, if_neg hstarted, if_neg hpaused,
    if_neg (not_not.mpr hspec)]
  repeat' split
  all_goals exact ⟨by decide, by decide⟩

/-- A rollback that is going on or paused is judged by the spec alone. -/
theorem recoveryVerdict_rollingBack
    (h : current.service.updateState = some .rollback_started ∨
      current.service.updateState = some .rollback_paused) :
    recoveryVerdict operation runtime current digest noOp =
      classifyDeploymentSnapshot current (operation.rebuiltPlan runtime) digest noOp := by
  have hspecs : (operation.rebuiltPlan runtime).targetSpecHash = operation.targetSpecHash ∧
      (operation.rebuiltPlan runtime).beforeSpecHash = operation.beforeSpecHash := ⟨rfl, rfl⟩
  by_cases hknown : current.service.specHash = operation.targetSpecHash ∨
      current.service.specHash = operation.beforeSpecHash
  · have hnot : ¬ (¬ current.service.specHash = operation.targetSpecHash ∧
        ¬ current.service.specHash = operation.beforeSpecHash) := by tauto
    rcases h with h | h <;>
      simp [recoveryVerdict, classifyDeploymentReconciliationSnapshot, classifyDeploymentSnapshot,
        h, hspecs, if_pos hknown, if_neg hnot]
  · have hnot : ¬ current.service.specHash = operation.targetSpecHash ∧
        ¬ current.service.specHash = operation.beforeSpecHash := by tauto
    rcases h with h | h <;>
      simp [recoveryVerdict, classifyDeploymentReconciliationSnapshot, classifyDeploymentSnapshot,
        h, hspecs, hnot]

/-- Before the target is seen, both look at the update state, the spec and the version. -/
theorem recoveryVerdict_waiting (hversion : operation.Versioned current)
    (hstarted : current.service.updateState ≠ some .rollback_started)
    (hpaused : current.service.updateState ≠ some .rollback_paused)
    (htarget : current.service.specHash ≠ operation.targetSpecHash) :
    recoveryVerdict operation runtime current digest noOp =
      classifyDeploymentSnapshot current (operation.rebuiltPlan runtime) digest noOp := by
  have hplan : current.service.specHash ≠ (operation.rebuiltPlan runtime).targetSpecHash := htarget
  have hspec : (operation.rebuiltPlan runtime).beforeSpecHash = operation.beforeSpecHash := rfl
  have hexpected : (operation.rebuiltPlan runtime).version = operation.expectedVersion := rfl
  have hverification := classifyDeploymentSnapshot.eq_1 current (operation.rebuiltPlan runtime)
      digest
    noOp
  have hrecovery := classifyDeploymentReconciliationSnapshot.eq_1 operation current
  simp only [if_neg hstarted, if_neg hpaused, if_pos hplan, hspec, hexpected] at hverification
  simp only [if_neg hstarted, if_neg hpaused, if_neg htarget] at hrecovery
  rw [hverification, recoveryVerdict, hrecovery]
  by_cases hended : current.service.updateState = some .rollback_completed ∨
      current.service.updateState = some .paused
  · simp only [if_pos hended]
    by_cases hbefore : current.service.specHash = operation.beforeSpecHash
    · simp only [if_pos hbefore]
    · simp only [if_neg hbefore]
  · simp only [if_neg hended]
    by_cases hnewer : operation.expectedVersion < current.service.version
    · have hnot : ¬ (current.service.version < operation.expectedVersion ∨
          current.service.version = operation.expectedVersion ∧
            current.service.specHash = operation.beforeSpecHash) := by omega
      simp only [if_neg hnot, if_pos hnewer]
    · have hwaits : current.service.version < operation.expectedVersion ∨
          current.service.version = operation.expectedVersion ∧
            current.service.specHash = operation.beforeSpecHash := by
        rcases Nat.lt_or_eq_of_le (Nat.le_of_not_lt hnewer) with hlt | heq
        · exact .inl hlt
        · exact .inr ⟨heq, hversion heq⟩
      simp only [if_pos hwaits, if_neg hnewer]

theorem recoveryVerdict_eq (runtime : Option String) (digest : String) (noOp : Bool)
    (hversion : operation.Versioned current) :
    recoveryVerdict operation runtime current digest noOp =
      classifyDeploymentSnapshot current (operation.rebuiltPlan runtime) digest noOp := by
  by_cases hstarted : current.service.updateState = some .rollback_started
  · exact recoveryVerdict_rollingBack (.inl hstarted)
  by_cases hpaused : current.service.updateState = some .rollback_paused
  · exact recoveryVerdict_rollingBack (.inr hpaused)
  by_cases htarget : current.service.specHash = operation.targetSpecHash
  · have hobserved :
        classifyDeploymentReconciliationSnapshot operation current = .TARGET_OBSERVED := by
      simp only [classifyDeploymentReconciliationSnapshot, if_neg hstarted, if_neg hpaused,
        if_pos htarget]
    simp only [recoveryVerdict, hobserved]
  · exact recoveryVerdict_waiting hversion hstarted hpaused htarget

/-- Recovery and verification judge a snapshot alike. -/
structure JudgedAlike (recovery : DeploymentReconciliationDecision)
    (verification : DeploymentDecision) : Prop where
  conflict : recovery = .EXTERNAL_CONFLICT ↔ verification = .EXTERNAL_CONFLICT
  paused : recovery = .ROLLBACK_PAUSED ↔ verification = .ROLLBACK_PAUSED
  failed : recovery = .FAILED → verification = .FAILED
  waiting : recovery = .WAITING_FOR_MUTATION → verification = .PENDING
  rollingBack : recovery = .ROLLBACK_IN_PROGRESS → verification = .PENDING
  success : verification = .SUCCESS → recovery = .TARGET_OBSERVED

/-- On every snapshot in which the expected version has the expected spec, the two classifiers
agree, and a recovery that goes on with verification once it has seen the target comes to the
verdict that verification comes to on its own. -/
theorem recovery_judges_as_verification (operation : OperationRecord) (runtime : Option String)
    (digest : String) (noOp : Bool) (current : ServiceDetailResponse)
    (hversion : operation.Versioned current) :
    JudgedAlike (classifyDeploymentReconciliationSnapshot operation current)
        (classifyDeploymentSnapshot current (operation.rebuiltPlan runtime) digest noOp) ∧
      recoveryVerdict operation runtime current digest noOp =
        classifyDeploymentSnapshot current (operation.rebuiltPlan runtime) digest noOp := by
  have hverdict := recoveryVerdict_eq runtime digest noOp hversion
  refine ⟨?_, hverdict⟩
  rw [← hverdict]
  cases hrecovery : classifyDeploymentReconciliationSnapshot operation current with
  | TARGET_OBSERVED =>
    obtain ⟨hconflict, hpaused⟩ := classifySnapshot_of_target runtime digest noOp hrecovery
    simp only [recoveryVerdict, hrecovery]
    constructor <;> simp [hconflict, hpaused]
  | _ =>
    simp only [recoveryVerdict, hrecovery]
    constructor <;> simp

/-- The service of a deployment that has converged, and as it was before the deployment. -/
theorem servingService_judgedAlike :
    (JudgedAlike (classifyDeploymentReconciliationSnapshot servingOperation servingService)
        (classifyDeploymentSnapshot servingService (servingOperation.rebuiltPlan (some "run"))
          "sha256:1" false) ∧
      classifyDeploymentReconciliationSnapshot servingOperation servingService = .TARGET_OBSERVED) ∧
    JudgedAlike
      (classifyDeploymentReconciliationSnapshot servingOperation (servingOperation.leftover none))
      (classifyDeploymentSnapshot (servingOperation.leftover none)
        (servingOperation.rebuiltPlan (some "run")) "sha256:1" false) := by
  refine ⟨⟨(recovery_judges_as_verification servingOperation (some "run") "sha256:1" false
    servingService fun h => ?_).1, by decide⟩,
    (recovery_judges_as_verification _ _ _ _ _ fun _ => rfl).1⟩
  exact absurd h (by decide)

end Docklane.Control
