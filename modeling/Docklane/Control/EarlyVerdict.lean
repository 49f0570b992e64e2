import Docklane.Control.Success
import Docklane.Control.Reconciliation

/-!
# Early verdicts of reconciliation

While the update request of a deployment may still arrive, the service is as the intent found it:
Docker applies an update only at the expected version and raises it. Reconciliation should not end
the operation as `FAILED` before it has seen the version move on. The update state of the service,
however, outlives the update that set it, and `classifyDeploymentReconciliationSnapshot` reads it
without comparing versions: a `paused` or `rollback_completed` that an earlier update has left
behind makes the untouched service look like a failed deployment.
-/

namespace Docklane.Control

open Concurrent Concurrent.Program

/-- A snapshot of the service after the intent of the operation was recorded. At the expected
version it is the service that was planned for, with the update state `prior`; every update
raises the version. -/
structure SinceIntent (operation : OperationRecord) (prior : Option UpdateState)
    (current : ServiceDetailResponse) : Prop where
  version : operation.expectedVersion ≤ current.service.version
  unchanged : current.service.version = operation.expectedVersion →
    current.service.specHash = operation.beforeSpecHash ∧ current.service.updateState = prior

/-- Every inspection of the service gave a snapshot of the time after the intent. -/
def ObservedSinceIntent (operation : OperationRecord) (prior : Option UpdateState)
    (h : List ControlEvent) : Prop :=
  ∀ current, inspected operation.serviceId current ∈ h → SinceIntent operation prior current

/-- Some inspection has seen the service beyond the expected version. -/
def SeenBeyond (operation : OperationRecord) (h : List ControlEvent) : Prop :=
  ∃ current, inspected operation.serviceId current ∈ h ∧
    operation.expectedVersion < current.service.version

/-- On some database, the statement changes the status of the operation to this one. -/
def DbOp.MarksOperation (op : DbOp) (id : String) (status : OperationStatus) : Prop :=
  ∃ db reply db', op.exec db = .ok (reply, db') ∧
    (∃ row ∈ db'.operations, row.id = id ∧ row.status = status) ∧
      ∀ row ∈ db.operations, row.id = id → row.status ≠ status

/-- Reconciliation of the operation, however it is answered, does not end it as `FAILED` before it
has seen the service beyond the expected version. -/
def NoEarlyVerdict (operation : OperationRecord) (deployment : DeploymentRecord)
    (initialError : Option String) (prior : Option UpdateState) : Prop :=
  ∀ fuel t op answer u p,
    Trace (reconcileLocked operation deployment initialError fuel) (t ++ ⟨.db op, answer⟩ :: u)
      p →
    op.MarksOperation operation.id .FAILED → ObservedSinceIntent operation prior t →
    SeenBeyond operation t

/-- The snapshot of a service that has not changed since the intent was recorded. -/
structure Untouched (operation : OperationRecord) (prior : Option UpdateState)
    (current : ServiceDetailResponse) : Prop where
  version : current.service.version = operation.expectedVersion
  specHash : current.service.specHash = operation.beforeSpecHash
  updateState : current.service.updateState = prior

/-- The update states that reconciliation takes for the end of a failed update. -/
def LooksFailed (prior : Option UpdateState) : Prop :=
  prior = some .paused ∨ prior = some .rollback_completed

/-- The intent records a target that reconciliation can look for. -/
def OperationRecord.reconcilable (operation : OperationRecord) : Bool :=
  operation.hasTarget && (digestFromImage (operation.targetImage.getD "")).isSome

/-! ## Statements -/

variable {deploymentId : String}

section Statements

variable {operationId id : String} {status : OperationStatus}

theorem settle_marksOperation {settlement : Settlement}
    (h : (DbOp.settle settlement deploymentId operationId).MarksOperation id status) :
    settlement.operation.status = status := by
  obtain ⟨db, reply, db', hexec, ⟨row, hrow, hid, hstatus⟩, hnew⟩ := h
  have hdb' : db' = _ := DbOp.exec_settle hexec
  rw [hdb'] at hrow
  obtain ⟨row₀, hrow₀, rfl⟩ := List.mem_map.mp hrow
  split at hstatus
  · exact hstatus
  · rename_i hsame
    rw [if_neg hsame] at hid
    exact absurd hstatus (hnew row₀ hrow₀ hid)

theorem not_marksOperation_findDeployment :
    ¬(DbOp.findDeployment deploymentId).MarksOperation id status := by
  rintro ⟨db, reply, db', hexec, ⟨row, hrow, hid, hstatus⟩, hnew⟩
  cases hexec
  exact hnew row hrow hid hstatus

theorem not_marksOperation_backfill {hash : String} :
    ¬(DbOp.backfillTargetRuntimeSpecHash operationId hash).MarksOperation id status := by
  rintro ⟨db, reply, db', hexec, ⟨row, hrow, hid, hstatus⟩, hnew⟩
  cases hexec
  obtain ⟨row₀, hrow₀, rfl⟩ := List.mem_map.mp hrow
  split at hid <;> split at hstatus <;> simp_all

/-- A settlement that fails the operation changes the status of an unfinished one. -/
theorem marksOperation_fail (operation : OperationRecord) (deploymentId code message : String) :
    (DbOp.settle (.fail code message) deploymentId operation.id).MarksOperation operation.id
      .FAILED := by
  let row : OperationRecord := { operation with status := .VERIFYING }
  refine ⟨{ emptyDb with operations := [row] }, (),
    { emptyDb with operations := [(OperationChange.failed code message).apply row] }, ?_,
    ⟨_, List.mem_singleton_self _, rfl, rfl⟩, by simp [row]⟩
  simp [DbOp.exec, Db.settle, Settlement.operation, Settlement.deployment,
    Settlement.readsOperation, Settlement.readsDeployment, Db.findOperation, Db.writeDeployment,
    Db.changeOperation, OperationChange.apply, OperationStatus.isTerminal, row, emptyDb,
    Except.map]

end Statements

/-! ## The verdict on one snapshot -/

/-- A `FAILED` verdict is about the spec from before the update. -/
theorem classify_failed {operation : OperationRecord} {current : ServiceDetailResponse}
    (h : classifyDeploymentReconciliationSnapshot operation current = .FAILED) :
    current.service.specHash = operation.beforeSpecHash ∧
      LooksFailed current.service.updateState := by
  simp only [classifyDeploymentReconciliationSnapshot] at h
  repeat' split at h
  all_goals first
    | exact ⟨by assumption, Or.symm (by assumption)⟩
    | cases h

theorem classify_untouched {operation : OperationRecord} {prior : Option UpdateState}
    {current : ServiceDetailResponse} (hdiff : operation.beforeSpecHash ≠ operation.targetSpecHash)
    (huntouched : Untouched operation prior current) :
    classifyDeploymentReconciliationSnapshot operation current = .FAILED ↔ LooksFailed prior := by
  obtain ⟨-, hspec, rfl⟩ := huntouched
  refine ⟨fun hfailed => (classify_failed hfailed).2, ?_⟩
  rintro (hstate | hstate) <;> simp [classifyDeploymentReconciliationSnapshot, hspec, hdiff, hstate]

theorem classify_targetObserved {operation : OperationRecord} {current : ServiceDetailResponse}
    (h : classifyDeploymentReconciliationSnapshot operation current = .TARGET_OBSERVED) :
    current.service.specHash = operation.targetSpecHash := by
  simp only [classifyDeploymentReconciliationSnapshot] at h
  repeat' split at h
  all_goals first
    | assumption
    | cases h

/-! ## Without a leftover update state -/

variable {initialError : Option String} {deployment : DeploymentRecord}

section Deferral

variable {operation : OperationRecord} {prior : Option UpdateState} {h : List ControlEvent}

/-- The history shows the service beyond the expected version, if Docker behaved. -/
def Deferred (operation : OperationRecord) (prior : Option UpdateState) (h : List ControlEvent) :
    Prop :=
  ObservedSinceIntent operation prior h → SeenBeyond operation h

/-- The operation may be marked `FAILED` only when the history shows that the service moved on. -/
def AfterMove (operation : OperationRecord) (prior : Option UpdateState) :
    List ControlEvent → ControlOp → Prop :=
  OnStatements fun h op => op.MarksOperation operation.id .FAILED → Deferred operation prior h

theorem Deferred.cons (x : ControlEvent) (hdeferred : Deferred operation prior h) :
    Deferred operation prior (x :: h) := by
  intro hobserved
  obtain ⟨current, hmem, hlt⟩ :=
    hdeferred fun current hmem => hobserved current (List.mem_cons_of_mem x hmem)
  exact ⟨current, List.mem_cons_of_mem x hmem, hlt⟩

/-- A snapshot that is not the untouched service lies beyond the expected version. -/
theorem deferred_of_changed {current : ServiceDetailResponse}
    (hchanged : ¬(current.service.specHash = operation.beforeSpecHash ∧
      current.service.updateState = prior)) :
    Deferred operation prior (inspected operation.serviceId current :: h) := by
  intro hobserved
  have hsince := hobserved current List.mem_cons_self
  refine ⟨current, List.mem_cons_self, lt_of_le_of_ne hsince.version fun hversion => ?_⟩
  exact hchanged (hsince.unchanged hversion.symm)

theorem Deferred.follows {α : Type} (hdeferred : Deferred operation prior h)
    (p : ControlProgram α) : p.Follows (AfterMove operation prior) (fun _ _ => True) h := by
  refine Follows.of_stable (fun x _ => .cons x) (fun op h' hdeferred => ?_)
    (fun _ _ _ => trivial) hdeferred
  cases op
  case db op => exact fun _ => hdeferred
  all_goals trivial

theorem conclude_afterMove {settlement : Settlement} {deploymentId operationId : String}
    (hstatus : settlement.operation.status ≠ .FAILED) :
    (conclude settlement deploymentId operationId).Follows (AfterMove operation prior)
      (fun _ _ => True) h :=
  conclude_follows (fun hmarks => absurd (settle_marksOperation hmarks) hstatus)
    fun _ hmarks => absurd hmarks not_marksOperation_findDeployment

theorem reconcileTimeout_status {state : ReconcileState} :
    (reconcileTimeout initialError state).operation.status ≠ .FAILED := by
  simp only [reconcileTimeout]
  repeat' split
  all_goals simp [Settlement.operation, OperationChange.status]

theorem reconcileLoop_follows (hdiff : operation.beforeSpecHash ≠ operation.targetSpecHash)
    (hprior : ¬LooksFailed prior) {compatible : OperationRecord}
    (hservice : compatible.serviceId = operation.serviceId) {digest : String} {deadline : Int}
    {fuel : Nat} {state : ReconcileState} :
    (reconcileLoop operation compatible deployment digest initialError deadline fuel
      state).Follows (AfterMove operation prior) (fun _ _ => True) h := by
  induction fuel generalizing state h with
  | zero => exact hang_follows
  | succ fuel ih =>
    refine now_follows fun t => ?_
    split
    · rw [hservice]
      refine inspect_follows (fun e h' => sleep_follows ih) fun current => ?_
      dsimp only
      split
      · exact sleep_follows ih
      · exact conclude_afterMove (by decide)
      · -- the spec is the old one, so the update state tells the snapshot from the untouched one
        rename_i hfailed
        refine (deferred_of_changed fun hsame => hprior ?_).follows _
        exact hsame.2 ▸ (classify_failed hfailed).2
      · rename_i htarget
        refine (deferred_of_changed fun hsame => hdiff ?_).follows _
        rw [← hsame.1, classify_targetObserved htarget]
      · exact sleep_follows ih
      · exact conclude_afterMove (by decide)
    · exact conclude_afterMove reconcileTimeout_status

theorem legacyConflict_follows {operation' : OperationRecord} :
    (legacyIntentHasExternalConflict operation').Follows (AfterMove operation prior)
      (fun _ _ => True) h := by
  unfold legacyIntentHasExternalConflict
  split
  · trivial
  · exact inspect_follows (fun _ _ => trivial) fun _ => trivial

theorem replan_follows {operation' : OperationRecord} {version : Nat} :
    (replan operation' version).Follows (AfterMove operation prior) (fun _ _ => True) h := by
  unfold replan
  cases operation'.type
  case DEPLOY | ROLLBACK =>
    refine ⟨trivial, fun (answer : Except Failure ServiceMutationPlan) => ?_⟩
    cases answer <;> trivial
  all_goals trivial

/-- A completed intent differs from the recorded one in its runtime hash only. -/
def Completes (operation : OperationRecord) :
    Except Failure (Option OperationRecord) → List ControlEvent → Prop
  | .ok (some compatible), _ =>
    ∃ hash, compatible = { operation with targetRuntimeSpecHash := hash }
  | _, _ => True

theorem recordRuntimeSpecHash_follows {hash : Option String} :
    (recordRuntimeSpecHash operation hash).Follows (AfterMove operation prior)
      (Completes operation) h := by
  cases hash with
  | none => trivial
  | some hash =>
    dsimp only [recordRuntimeSpecHash]
    split
    · trivial
    · refine ⟨fun hmarks => absurd hmarks not_marksOperation_backfill,
        fun (answer : Except Failure Unit) => ?_⟩
      cases answer with
      | error e => trivial
      | ok _ => exact ⟨some hash, rfl⟩

theorem hydrate_follows :
    (hydrateLegacyRuntimeFingerprint operation).Follows (AfterMove operation prior)
      (Completes operation) h := by
  unfold hydrateLegacyRuntimeFingerprint
  split
  · exact ⟨operation.targetRuntimeSpecHash, rfl⟩
  · split
    · trivial
    · refine inspect_follows (fun _ _ => trivial) fun current => ?_
      dsimp only
      split
      · exact recordRuntimeSpecHash_follows
      · refine follows_bind (replan_follows.mono ?_)
        rintro (e | hash) h' -
        · trivial
        · exact recordRuntimeSpecHash_follows

theorem withReconcilableIntent_follows {texts : ReconciliationTexts}
    {observe : OperationRecord → String → ControlProgram DeploymentRecord}
    (htexts : ∀ settlement ∈ [texts.legacyConflict, texts.legacyPending, texts.missingTarget,
      texts.invalidImage], settlement.operation.status ≠ .FAILED)
    (hobserve : operation.reconcilable → ∀ hash digest h',
      (observe { operation with targetRuntimeSpecHash := hash } digest).Follows
        (AfterMove operation prior) (fun _ _ => True) h') :
    (withReconcilableIntent texts operation deploymentId observe).Follows
      (AfterMove operation prior) (fun _ _ => True) h := by
  have hgivenUp : ∀ settlement ∈ [texts.legacyConflict, texts.legacyPending,
      texts.missingTarget, texts.invalidImage], ∀ h',
      (conclude settlement deploymentId operation.id).Follows (AfterMove operation prior)
        (fun _ _ => True) h' :=
    fun settlement hmem h' => conclude_afterMove (htexts settlement hmem)
  refine follows_bind (legacyConflict_follows.mono ?_)
  rintro (e | conflict) h' -
  · trivial
  dsimp only
  split
  · exact hgivenUp _ (by simp) _
  refine follows_bind (hydrate_follows.mono ?_)
  rintro (e | _ | compatible) h' hcompletes
  · trivial
  · dsimp only [observeIntent]
    split <;> exact hgivenUp _ (by simp) _
  · obtain ⟨hash, rfl⟩ := hcompletes
    dsimp only [observeIntent]
    split
    · rename_i htarget
      split
      · exact hgivenUp _ (by simp) _
      · rename_i digest hdigest
        refine hobserve ?_ hash digest h'
        rw [OperationRecord.reconcilable, hdigest, Option.isSome_some, Bool.and_true]
        exact htarget.2.1
    · exact hgivenUp _ (by simp) _

theorem noEarlyVerdict (hdiff : operation.beforeSpecHash ≠ operation.targetSpecHash)
    (hprior : operation.reconcilable → ¬LooksFailed prior) :
    NoEarlyVerdict operation deployment initialError prior := by
  intro fuel t op answer u p ht hmarks hobserved
  have hfollows : (reconcileLocked operation deployment initialError fuel).Follows
      (AfterMove operation prior) (fun _ _ => True) [] := by
    refine withReconcilableIntent_follows (by decide) fun hreconcilable hash digest h' => ?_
    refine now_follows fun _ => ?_
    apply reconcileLoop_follows hdiff (hprior hreconcilable)
    rfl
  obtain ⟨k, hk, -⟩ := ht.split
  have hdeferred : Deferred operation prior t.reverse := by
    simpa using hfollows.allowed_of_trace hk hmarks
  obtain ⟨current, hmem, hlt⟩ :=
    hdeferred fun current hmem => hobserved current (List.mem_reverse.mp hmem)
  exact ⟨current, List.mem_reverse.mp hmem, hlt⟩

end Deferral

/-! ## With a leftover update state -/

section Leftover

variable {operation : OperationRecord} {current : ServiceDetailResponse}

/-- A plan for the target that the intent has recorded. -/
def OperationRecord.planned (operation : OperationRecord) (runtimeSpecHash : String) :
    ServiceMutationPlan :=
  { operation.plan with targetRuntimeSpecHash := some runtimeSpecHash }

/-- A snapshot of the service as the intent found it. -/
def OperationRecord.leftover (operation : OperationRecord) (prior : Option UpdateState) :
    ServiceDetailResponse where
  service :=
    { id := operation.serviceId, name := "", version := operation.expectedVersion
      specHash := operation.beforeSpecHash, forceUpdate := 0, taskSpecHash := none
      runtimeSpecHash := none, image := none, mode := .replicated, desiredReplicas := 0
      runningReplicas := 0, updateState := prior }
  tasks := []

theorem OperationRecord.untouched_leftover (operation : OperationRecord)
    {prior : Option UpdateState} : Untouched operation prior (operation.leftover prior) :=
  ⟨rfl, rfl, rfl⟩

theorem legacyConflict_trace (hlegacy : truthy operation.targetRuntimeSpecHash = false)
    (htarget : operation.hasTarget) (hspec : current.service.specHash = operation.beforeSpecHash) :
    Trace (legacyIntentHasExternalConflict operation) [inspected operation.serviceId current]
      (.pure false) := by
  simp only [OperationRecord.hasTarget, Bool.and_eq_true, Bool.not_eq_true'] at htarget
  unfold legacyIntentHasExternalConflict
  rw [if_neg (by simp [hlegacy, htarget])]
  refine .cons ?_
  change Trace (.pure (decide (current.service.specHash ≠ operation.beforeSpecHash ∧
    current.service.specHash ≠ operation.targetSpecHash))) [] (.pure false)
  rw [decide_eq_false (by simp [hspec])]
  exact .nil

theorem replan_trace (htype : operation.type = .DEPLOY) {version : Nat} :
    Trace (replan operation version)
      [⟨.agent (.planUpdateServiceImage operation.serviceId version
        (operation.targetImage.getD "")), .ok (operation.planned "runtime")⟩]
      (.pure (some "runtime")) := by
  simp only [replan, htype]
  refine .cons ?_
  change Trace (.pure (plannedRuntimeSpecHash operation (operation.planned "runtime"))) _ _
  rw [plannedRuntimeSpecHash, if_pos ⟨rfl, rfl⟩]
  exact .nil

/-- A legacy intent is completed from a plan for its target. -/
theorem hydrate_trace (hlegacy : truthy operation.targetRuntimeSpecHash = false)
    (htype : operation.type = .DEPLOY) (htarget : operation.hasTarget)
    (hspec : current.service.specHash ≠ operation.targetSpecHash) :
    Trace (hydrateLegacyRuntimeFingerprint operation)
      [inspected operation.serviceId current,
        ⟨.agent (.planUpdateServiceImage operation.serviceId current.service.version
          (operation.targetImage.getD "")), .ok (operation.planned "runtime")⟩,
        ⟨.db (.backfillTargetRuntimeSpecHash operation.id "runtime"), .ok ()⟩]
      (.pure (some { operation with targetRuntimeSpecHash := some "runtime" })) := by
  simp only [OperationRecord.hasTarget, Bool.and_eq_true, Bool.not_eq_true'] at htarget
  unfold hydrateLegacyRuntimeFingerprint
  rw [if_neg (by simp [hlegacy]), if_neg (by simp [htarget])]
  refine .cons ?_
  change Trace ((if _ ∧ _ then _ else replan operation current.service.version).bind
    (recordRuntimeSpecHash operation)) _ _
  rw [if_neg (fun h => hspec h.1)]
  exact (replan_trace htype).bind_pure (.cons .nil)

/-- On an untouched service, reconciliation comes to observe it. -/
theorem withReconcilableIntent_trace (htype : operation.type = .DEPLOY)
    (hreconcilable : operation.reconcilable)
    (hdiff : operation.beforeSpecHash ≠ operation.targetSpecHash)
    (hspec : current.service.specHash = operation.beforeSpecHash) (deploymentId : String)
    (observe : OperationRecord → String → ControlProgram DeploymentRecord) :
    ∃ t hash digest,
      Trace (withReconcilableIntent deploymentTexts operation deploymentId observe) t
        (observe { operation with targetRuntimeSpecHash := hash } digest) ∧
      ∀ other, inspected operation.serviceId other ∈ t → other = current := by
  obtain ⟨htarget, hdigest⟩ := Bool.and_eq_true_iff.mp hreconcilable
  obtain ⟨digest, hdigest⟩ := Option.isSome_iff_exists.mp hdigest
  have hobserve : ∀ hash, truthy hash →
      observeIntent deploymentTexts operation deploymentId observe
        (some { operation with targetRuntimeSpecHash := hash }) =
      observe { operation with targetRuntimeSpecHash := hash } digest := by
    intro hash hhash
    simp only [observeIntent]
    rw [if_pos ⟨htype, htarget, hhash⟩, hdigest]
  by_cases hlegacy : truthy operation.targetRuntimeSpecHash
  · refine ⟨[], operation.targetRuntimeSpecHash, digest, ?_, by simp⟩
    rw [← hobserve _ hlegacy, withReconcilableIntent, legacyIntentHasExternalConflict,
      if_pos (.inl hlegacy), hydrateLegacyRuntimeFingerprint, if_pos hlegacy]
    exact .nil
  · rw [Bool.not_eq_true] at hlegacy
    have hconflict := legacyConflict_trace hlegacy htarget hspec
    have hhydrate := hydrate_trace hlegacy htype htarget (hspec ▸ hdiff)
    have hobserved : Trace (observeIntent deploymentTexts operation deploymentId observe
        (some { operation with targetRuntimeSpecHash := some "runtime" })) []
        (observe { operation with targetRuntimeSpecHash := some "runtime" } digest) := by
      rw [hobserve _ rfl]
      exact .nil
    refine ⟨_, _, _, hconflict.bind_pure (hhydrate.bind_pure hobserved), fun other hmem => ?_⟩
    simp only [List.cons_append, List.nil_append, List.append_nil, List.mem_cons,
      List.not_mem_nil, or_false] at hmem
    rcases hmem with h | h | h | h <;> cases h <;> rfl

theorem observeDeployment_trace {compatible : OperationRecord} {digest : String}
    (hfailed : classifyDeploymentReconciliationSnapshot operation current = .FAILED) :
    Trace (observeDeployment operation deployment initialError 1 compatible digest)
      [⟨.now, (0 : Int)⟩, ⟨.now, (0 : Int)⟩, inspected compatible.serviceId current,
        ⟨.db (.settle (.fail "CONVERGENCE_FAILED" ("Swarm update entered " ++ current.stateText))
          deployment.id compatible.id), .ok ()⟩]
      (requireDeployment deployment.id) := by
  refine .cons (.cons (.cons ?_))
  dsimp only [Program.ofExcept, Program.attempt, Program.bind]
  rw [hfailed]
  exact .cons .nil

/-- With the update state left over from a failed update, reconciliation fails an operation whose
service is untouched. -/
theorem early_verdict (htype : operation.type = .DEPLOY) (hreconcilable : operation.reconcilable)
    (hdiff : operation.beforeSpecHash ≠ operation.targetSpecHash) {prior : Option UpdateState}
    (hprior : LooksFailed prior) (huntouched : Untouched operation prior current)
    (deployment : DeploymentRecord) (initialError : Option String) :
    ¬NoEarlyVerdict operation deployment initialError prior := by
  intro hnone
  obtain ⟨t, hash, digest, ht, hinspected⟩ := withReconcilableIntent_trace htype hreconcilable
    hdiff huntouched.specHash deployment.id (observeDeployment operation deployment initialError 1)
  have hverdict := ht.append
    (observeDeployment_trace ((classify_untouched hdiff huntouched).mpr hprior))
  change Trace _ (t ++ ([_, _, _] ++ [_])) _ at hverdict
  rw [← List.append_assoc] at hverdict
  have honly : ∀ other, inspected operation.serviceId other ∈
      t ++ [⟨.now, (0 : Int)⟩, ⟨.now, (0 : Int)⟩, inspected operation.serviceId current] →
      other = current := by
    intro other hmem
    rcases List.mem_append.mp hmem with hmem | hmem
    · exact hinspected other hmem
    · simp only [List.mem_cons, List.not_mem_nil, or_false] at hmem
      rcases hmem with h | h | h <;> cases h
      rfl
  obtain ⟨other, hmem, hlt⟩ := hnone 1 _ _ _ [] _ hverdict
    (marksOperation_fail operation _ _ _) fun other hmem => by
      obtain rfl := honly other hmem
      exact ⟨huntouched.version.ge, fun _ => ⟨huntouched.specHash, huntouched.updateState⟩⟩
  obtain rfl := honly other hmem
  exact absurd huntouched.version hlt.ne'

end Leftover

/-- Reconciliation never fails a deployment operation early exactly when no update state that looks
like a failed update was left on the service, or the intent has no target to look for. Its verdict
on an untouched service is `FAILED` exactly with such an update state. -/
theorem early_verdict_iff (operation : OperationRecord) (deployment : DeploymentRecord)
    (initialError : Option String) (prior : Option UpdateState)
    (htype : operation.type = .DEPLOY)
    (hdiff : operation.beforeSpecHash ≠ operation.targetSpecHash) :
    (NoEarlyVerdict operation deployment initialError prior ↔
      (operation.reconcilable → ¬LooksFailed prior)) ∧
    ∀ current, Untouched operation prior current →
      (classifyDeploymentReconciliationSnapshot operation current ≠ .FAILED ↔
        ¬LooksFailed prior) := by
  refine ⟨⟨fun hnone hreconcilable hprior => ?_,
    fun hprior => noEarlyVerdict hdiff hprior⟩,
    fun current huntouched => not_congr (classify_untouched hdiff huntouched)⟩
  exact early_verdict htype hreconcilable hdiff hprior operation.untouched_leftover
    deployment initialError hnone

/-- A deployment whose update request is on its way. -/
def pendingOperation : OperationRecord :=
  { servingOperation with
    status := .RUNNING
    resultVersion := none
    targetImage :=
      some "web@sha256:0000000000000000000000000000000000000000000000000000000000000000" }

/-- On a service that has seen no update yet, the operation is not failed early. -/
theorem pendingOperation_not_failed_early :
    NoEarlyVerdict pendingOperation servingDeployment none none :=
  (early_verdict_iff pendingOperation servingDeployment none none rfl (by decide)).1.mpr
    fun _ hprior => by rcases hprior with h | h <;> cases h

/-- The service was left `paused` by an earlier update, and the response of the Agent is lost.
Reconciliation fails the operation although the update may still be applied. -/
theorem paused_service_fails_deployment :
    pendingOperation.type = .DEPLOY ∧
      pendingOperation.beforeSpecHash ≠ pendingOperation.targetSpecHash ∧
      ¬NoEarlyVerdict pendingOperation servingDeployment (some "socket hang up") (some .paused) ∧
      classifyDeploymentReconciliationSnapshot pendingOperation
        (pendingOperation.leftover (some .paused)) = .FAILED :=
  ⟨rfl, by decide,
    early_verdict rfl (by decide) (by decide) (.inl rfl)
      pendingOperation.untouched_leftover servingDeployment _,
    by decide⟩

end Docklane.Control
