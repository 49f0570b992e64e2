import Docklane.Control.Carried
import Docklane.Control.EarlyVerdict
import Docklane.Control.Execution

/-!
# When scale and restart succeed

Every path to the verdict ends in `verifyAndCompleteLocked` on the operation as it was just read,
and `SUCCESS` is written on the snapshot that was inspected last. What the snapshot shows is what
`classifyMutationSnapshot` asks for. It lists the update states that it takes for a failure, and
`rollback_paused` is not among them: a service whose rollback is paused passes for scaled.
-/

namespace Docklane.Control

open Concurrent Concurrent.Program

/-- The tasks that the verification of a restart looks at. -/
def ServiceDetailResponse.runningTasks (current : ServiceDetailResponse) : List TaskSummary :=
  current.tasks.filter fun task => task.state = .running

/-- What the success of a scale or a restart has to be seen on. -/
structure MutationConverged (operation : OperationRecord) (current : ServiceDetailResponse) :
    Prop where
  specHash : current.service.specHash = operation.targetSpecHash
  version : ∀ accepted, operation.resultVersion = some accepted → accepted ≤ current.service.version
  forceUpdate : current.service.forceUpdate = operation.targetForceUpdate
  replicas : current.service.runningReplicas = current.service.desiredReplicas
  /-- no update is paused, and no rollback has started, is paused or has completed -/
  settled : current.service.updateState ≠ some .paused ∧
    current.service.updateState ≠ some .rollback_started ∧
    current.service.updateState ≠ some .rollback_paused ∧
    current.service.updateState ≠ some .rollback_completed
  scaled : operation.type = .SCALE → operation.targetReplicas = some current.service.desiredReplicas
  restarted : operation.type = .RESTART → current.service.updateState = some .completed ∧
    current.runningTasks.length = current.service.desiredReplicas ∧
    ∀ task ∈ current.runningTasks, task.forceUpdate = operation.targetForceUpdate

/-- A scale that is looked at while the rollback of its service is paused. -/
def PausedScale (operation : OperationRecord) (current : ServiceDetailResponse) : Prop :=
  operation.type = .SCALE ∧ current.service.updateState = some .rollback_paused

theorem isStale_eq_false {version : Nat} {resultVersion : Option Nat}
    (h : isStale version resultVersion = false) {accepted : Nat}
    (haccepted : resultVersion = some accepted) : accepted ≤ version := by
  subst haccepted
  simpa [isStale] using h

/-- What the classifier has checked when its verdict is `SUCCESS`. -/
theorem classifyMutationSnapshot_success {operation : OperationRecord}
    {current : ServiceDetailResponse} (h : classifyMutationSnapshot operation current = .SUCCESS) :
    isStale current.service.version operation.resultVersion = false ∧
      current.service.specHash = operation.targetSpecHash ∧
      (current.service.updateState ≠ some .paused ∧
        current.service.updateState ≠ some .rollback_started ∧
        current.service.updateState ≠ some .rollback_completed) ∧
      current.service.forceUpdate = operation.targetForceUpdate ∧
      current.service.desiredReplicas = current.service.runningReplicas ∧
      if operation.type = .SCALE then
        some current.service.desiredReplicas = operation.targetReplicas
      else current.service.updateState = some .completed ∧
        current.runningTasks.length = current.service.desiredReplicas ∧
        ∀ task ∈ current.runningTasks, task.forceUpdate = operation.targetForceUpdate := by
  simp only [classifyMutationSnapshot] at h
  split at h
  · cases h
  rename_i hstale
  split at h
  · cases h
  rename_i hspec
  split at h
  · cases h
  · cases h
  · cases h
  rename_i hpaused hstarted hcompleted
  split at h
  · cases h
  rename_i hforce
  split at h
  · cases h
  rename_i hreplicas
  refine ⟨by simpa using hstale, by simpa using hspec, ⟨hpaused, hstarted, hcompleted⟩,
    by simpa using hforce, by simpa using hreplicas, ?_⟩
  split at h
  · rename_i hscale
    rw [if_pos hscale]
    split at h
    · assumption
    · cases h
  · rename_i hscale
    rw [if_neg hscale]
    split at h
    · cases h
    rename_i hstate
    split at h
    · cases h
    rename_i htasks
    obtain ⟨hcount, hall⟩ := not_or.mp htasks
    exact ⟨not_not.mp hstate, not_not.mp hcount,
      fun task htask => of_decide_eq_true (List.all_eq_true.mp (not_not.mp hall) task htask)⟩

/-- The verdict `SUCCESS` is sound but for a paused rollback of a scaled service. -/
theorem mutationConverged_iff {operation : OperationRecord} {current : ServiceDetailResponse}
    (h : classifyMutationSnapshot operation current = .SUCCESS) :
    MutationConverged operation current ↔ ¬ PausedScale operation current := by
  obtain ⟨hstale, hspec, ⟨hpaused, hstarted, hcompleted⟩, hforce, hreplicas, htype⟩ :=
    classifyMutationSnapshot_success h
  refine ⟨fun hsound hscale => hsound.settled.2.2.1 hscale.2, fun hscale => ?_⟩
  have hrollback : current.service.updateState ≠ some .rollback_paused := by
    intro hstate
    split at htype
    · rename_i hkind
      exact hscale ⟨hkind, hstate⟩
    · rw [hstate] at htype
      cases htype.1
  refine ⟨hspec, fun _ => isStale_eq_false hstale, hforce, hreplicas.symm,
    ⟨hpaused, hstarted, hrollback, hcompleted⟩, fun hkind => ?_, fun hkind => ?_⟩
  · rw [if_pos hkind] at htype
    exact htype.symm
  · rw [if_neg (by rw [hkind]; decide)] at htype
    exact htype

/-! ## Statements that make an operation a success -/

/-- Requests that make no operation a success. -/
def ControlOp.Unmarking : ControlOp → Prop
  | .db op => ∀ id, ¬ op.MarksOperation id .SUCCESS
  | _ => True

variable {op : ControlOp} {id : String} {α : Type}

theorem not_marksOperation_of_operations {op : DbOp} {status : OperationStatus}
    (h : ∀ db reply db', op.exec db = .ok (reply, db') → db'.operations = db.operations) :
    ¬ op.MarksOperation id status := by
  rintro ⟨db, reply, db', hexec, ⟨row, hrow, hid, hstatus⟩, hnew⟩
  rw [h db reply db' hexec] at hrow
  exact hnew row hrow hid hstatus

theorem changeOperation_marksOperation {operationId id : String} {change : OperationChange}
    {status : OperationStatus}
    (h : (DbOp.changeOperation operationId change).MarksOperation id status) :
    operationId = id ∧ change.status = status := by
  obtain ⟨db, reply, db', hexec, ⟨row, hrow, hid, hstatus⟩, hnew⟩ := h
  cases hexec
  obtain ⟨old, hold, rfl⟩ := List.mem_map.mp hrow
  split at hid
  · rename_i hchanged
    rw [if_pos hchanged] at hstatus
    exact ⟨hchanged.1.symm.trans hid, hstatus⟩
  · rename_i hkept
    rw [if_neg hkept] at hstatus
    exact absurd hstatus (hnew old hold hid)

theorem ControlOp.Harmless.unmarking (h : op.Harmless) : op.Unmarking := by
  cases op with
  | db op =>
    exact fun id => not_marksOperation_of_operations fun db reply db' hexec =>
      (DbOp.exec_sameRecords h hexec).1.operations
  | _ => trivial

theorem ControlOp.Looks.unmarking (h : op.Looks) : op.Unmarking := by
  by_cases hharmless : op.Harmless
  · exact hharmless.unmarking
  · cases op with
    | db op =>
      cases op with
      | backfillTargetRuntimeSpecHash id hash => exact fun _ => not_marksOperation_backfill
      | _ => first | exact absurd id hharmless | exact h.elim
    | _ => trivial

theorem ControlOp.Journals.unmarking (h : op.Journals) : op.Unmarking := by
  refine ControlOp.Harmless.unmarking ?_
  cases op with
  | db op => cases op <;> first | exact id | exact h.elim
  | _ => exact h.elim

theorem createOperation_unmarking {input : OperationInput} :
    (ControlOp.db (.createOperation input)).Unmarking := by
  rintro id ⟨db, reply, db', hexec, ⟨row, hrow, hid, hstatus⟩, hnew⟩
  obtain ⟨-, rfl⟩ := Db.createOperation_ok (made_of_exec hexec)
  rcases List.mem_append.mp hrow with hold | hadded
  · exact hnew row hold hid hstatus
  · rw [List.mem_singleton.mp hadded] at hstatus
    cases hstatus

variable {settings : Settings}

theorem dispatch_unmarking {active : Option ActiveAdmission} {operationId : String}
    {mutation : Mutation} :
    (dispatch settings active operationId mutation).Uses ControlOp.Unmarking := by
  refine dispatch_sendsOnce.uses ?_ ?_ ?_
  · rintro op (hlooks | hjournals)
    · exact hlooks.unmarking
    · exact hjournals.unmarking
  · rintro op ⟨request, -, rfl⟩
    trivial
  · exact fun op hjournals => hjournals.unmarking

/-! ## Verification -/

/-- The statement that reads an operation. -/
def ReadsOperation (op : ControlOp) : Prop := ∃ id, op = .db (.findOperation id)

/-- The answer of such a statement. -/
def readOperation (id : String) (operation : OperationRecord) : ControlEvent :=
  ⟨.db (.findOperation id), (.ok (some operation) : Except Failure (Option OperationRecord))⟩

/-- The service was inspected last, and the operation `id` was read before and not since. The
verdict on the snapshot is `SUCCESS`. -/
def MutationJudged (id : String) (operation : OperationRecord) (current : ServiceDetailResponse)
    (h : List ControlEvent) : Prop :=
  operation.id = id ∧ classifyMutationSnapshot operation current = .SUCCESS ∧
    ∃ older, h = inspected operation.serviceId current :: older ∧
      ∃ read, Latest ReadsOperation (readOperation read operation) older

/-- A statement may make an operation a success only when that is the verdict. -/
def AfterJudgement : List ControlEvent → ControlOp → Prop :=
  OnStatements fun h op => ∀ id, op.MarksOperation id .SUCCESS →
    ∃ operation current, MutationJudged id operation current h

theorem ControlOp.Unmarking.afterJudgement (hop : op.Unmarking) {h : List ControlEvent} :
    AfterJudgement h op := by
  cases op with
  | db op => exact fun id hmarks => absurd hmarks (hop id)
  | _ => trivial

theorem follows_of_looks {p : ControlProgram α} (hp : p.Uses ControlOp.Looks)
    {h : List ControlEvent} : p.Follows AfterJudgement (fun _ _ => True) h := by
  have hbuilt : p.Built ControlOp.Looks fun _ _ => False := .of_uses hp
  exact hbuilt.follows (fun _ h' hop => hop.unmarking.afterJudgement) nofun h

namespace MutationService

variable {operation : OperationRecord} {h : List ControlEvent}

/-- The operation was read and not read again since. -/
def JustRead (operation : OperationRecord) (h : List ControlEvent) : Prop :=
  ∃ id, Latest ReadsOperation (readOperation id operation) h

theorem JustRead.cons {x : ControlEvent} (hread : JustRead operation h)
    (hx : ¬ ReadsOperation x.1) : JustRead operation (x :: h) := by
  obtain ⟨id, hlatest⟩ := hread
  exact ⟨id, hlatest.cons hx⟩

theorem sleep_judged {ms : Nat} {k : Unit → ControlProgram α}
    {Q : Except Failure α → List ControlEvent → Prop} (hread : JustRead operation h)
    (hk : ∀ h', JustRead operation h' → (k ()).Follows AfterJudgement Q h') :
    ((sleep ms).bind k).Follows AfterJudgement Q h :=
  sleep_follows (hk _ (hread.cons nofun))

theorem verifyLoop_follows (deadline : Int) (fuel : Nat) (lastError : Option String)
    (hread : JustRead operation h) :
    (verifyLoop operation deadline fuel lastError).Follows AfterJudgement
      (fun r h' => ∀ version, r = .ok (.SUCCESS version) →
        ∃ current, MutationJudged operation.id operation current h') h := by
  induction fuel generalizing lastError h with
  | zero => exact hang_follows
  | succ fuel ih =>
    refine now_follows fun t => ?_
    have hnow := hread.cons (x := ⟨.now, (t : Int)⟩) nofun
    split
    · refine ⟨trivial, fun (answer : Except Failure ServiceDetailResponse) => ?_⟩
      cases answer with
      | error e => exact sleep_judged (hnow.cons nofun) fun h' hread => ih _ hread
      | ok current =>
        dsimp only [Program.ofExcept, Program.attempt, Program.bind]
        split
        · rintro version ⟨⟩
        · rintro version ⟨⟩
        · rename_i hsuccess
          exact fun _ _ => ⟨current, rfl, hsuccess, _, rfl, hnow⟩
        · exact sleep_judged (hnow.cons nofun) fun h' hread => ih _ hread
    · rintro version ⟨⟩

theorem requireOperation_follows {k : OperationRecord → ControlProgram α}
    (hk : ∀ operation h', JustRead operation h' →
      (k operation).Follows AfterJudgement (fun _ _ => True) h') :
    ((requireOperation id).bind k).Follows AfterJudgement (fun _ _ => True) h := by
  have hlooks : (ControlOp.db (.findOperation id)).Looks := trivial
  refine ⟨hlooks.unmarking.afterJudgement,
    fun (answer : Except Failure (Option OperationRecord)) => ?_⟩
  match answer with
  | .error e => trivial
  | .ok none => trivial
  | .ok (some operation) => exact hk operation _ ⟨id, latest_self ⟨id, rfl⟩⟩

theorem verifyRefreshed_follows {id : String} {fuel : Nat} {h : List ControlEvent} :
    (verifyRefreshed id fuel).Follows AfterJudgement (fun _ _ => True) h := by
  refine requireOperation_follows fun operation h' hread => ?_
  refine follows_bind (now_follows fun t => ?_)
  have hnow := hread.cons (x := ⟨.now, (t : Int)⟩) nofun
  refine (verifyLoop_follows _ fuel none hnow).mono fun result h'' hjudged => ?_
  cases result with
  | error e => trivial
  | ok result =>
    refine ⟨fun id hmarks => ?_, fun (answer : Except Failure Unit) => ?_⟩
    · obtain ⟨rfl, hstatus⟩ := changeOperation_marksOperation hmarks
      cases result with
      | SUCCESS version => exact ⟨operation, hjudged version rfl⟩
      | _ => cases hstatus
    · cases answer with
      | error e => trivial
      | ok _ => exact follows_of_looks requireOperation_looks

/-! ## The calls -/

/-- Whole verifications. -/
inductive Verifies : (β : Type) → ControlProgram β → Prop where
  | verify (id fuel) : Verifies _ (verifyRefreshed id fuel)

theorem pieces_unmarking :
    Pieces .changeOperation verifyRefreshed ControlOp.Unmarking Verifies where
  looks _ hop := hop.unmarking
  change _ _ hstatus _ hmarks := hstatus (changeOperation_marksOperation hmarks).2
  verify id fuel := .whole (.verify id fuel)

end MutationService

/-- The calls that come to a verdict on a scale or a restart: the request itself, which may be a
retry, a later request for the service, and the recovery at startup. -/
inductive MutationCall (settings : Settings) : ControlProgram Unit → Prop where
  | scale (clusterId serviceId input replicas fuel) :
      MutationCall settings (ignoreResult
        (MutationService.scale settings clusterId serviceId input replicas fuel))
  | restart (clusterId serviceId input fuel) :
      MutationCall settings (ignoreResult
        (MutationService.restart settings clusterId serviceId input fuel))
  | recoverOperations (fuel) :
      MutationCall settings (MutationService.onApplicationBootstrap settings fuel)

theorem MutationCall.built {p : ControlProgram Unit} (hp : MutationCall settings p) :
    p.Built ControlOp.Unmarking MutationService.Verifies := by
  have hharmless (op : ControlOp) (_ : op.Ordinary) (hop : op.Harmless) : op.Unmarking :=
    hop.unmarking
  have hdispatch (active : Option ActiveAdmission) (operationId : String) (mutation : Mutation) :
      (dispatch settings active operationId mutation).Built ControlOp.Unmarking
        MutationService.Verifies :=
    .of_uses dispatch_unmarking
  cases hp with
  | scale _ _ input replicas fuel =>
    exact ignoreResult_built (MutationService.mutateService_built hharmless hdispatch fuel
      MutationService.pieces_unmarking MutationService.scaleKind_plan_looks
      (fun _ => createOperation_unmarking) _)
  | restart _ _ input fuel =>
    exact ignoreResult_built (MutationService.mutateService_built hharmless hdispatch fuel
      MutationService.pieces_unmarking MutationService.restartKind_plan_looks
      (fun _ => createOperation_unmarking) _)
  | recoverOperations fuel =>
    exact MutationService.onApplicationBootstrap_built hharmless settings fuel
      MutationService.pieces_unmarking

theorem MutationCall.judged {p q : ControlProgram Unit} (hp : MutationCall settings p)
    {t u : List ControlEvent} {op : DbOp} {answer : (ControlOp.db op).Ans}
    (ht : Trace p (t ++ ⟨.db op, answer⟩ :: u) q) (hmarks : op.MarksOperation id .SUCCESS) :
    ∃ operation current, MutationJudged id operation current t.reverse := by
  have hfollows : p.Follows AfterJudgement (fun _ _ => True) [] := by
    refine hp.built.follows (fun _ h' hop => hop.afterJudgement) ?_ []
    rintro _ _ ⟨id, fuel⟩ h'
    exact MutationService.verifyRefreshed_follows
  obtain ⟨k, hbefore, -⟩ := ht.split
  simpa using hfollows.allowed_of_trace hbefore id hmarks

/-- Every success of a scale or a restart, on every path, is written right after a snapshot of the
service on which the classifier says so, for the operation as it was read last; and the service has
converged on it exactly when it was not a scale with a paused rollback. -/
theorem mutation_success_iff {settings : Settings} {p q : ControlProgram Unit}
    (hp : MutationCall settings p) {t u : List ControlEvent} {op : DbOp}
    {answer : (ControlOp.db op).Ans} (ht : Trace p (t ++ ⟨.db op, answer⟩ :: u) q) {id : String}
    (hmarks : op.MarksOperation id .SUCCESS) :
    ∃ operation current, MutationJudged id operation current t.reverse ∧
      (MutationConverged operation current ↔ ¬ PausedScale operation current) := by
  obtain ⟨operation, current, hjudged⟩ := hp.judged ht hmarks
  exact ⟨operation, current, hjudged, mutationConverged_iff hjudged.2.1⟩

/-! ## A scale with a paused rollback -/

/-- A scale of a service to two replicas, and the service in some update state. -/
def scaledOperation : OperationRecord := { servingOperation with type := .SCALE }

def scaledService (state : UpdateState) : ServiceDetailResponse :=
  { servingService with service := { servingService.service with updateState := some state } }

/-- What the recovery of the operation is answered up to its verdict. -/
def recoveryAnswers (state : UpdateState) : List ControlEvent :=
  let clock : ControlEvent := ⟨.now, (0 : Int)⟩
  [⟨.db .listNonTerminal, (.ok [scaledOperation] : Except Failure (List OperationRecord))⟩,
    ⟨.getConnection, (.ok () : Except Failure Unit)⟩,
    ⟨.getLock (plainProcess.namedLockName ⟨.service, "c", "s"⟩), (.ok true : Except Failure Bool)⟩,
    readOperation "o" scaledOperation, inspected "s" (scaledService state),
    readOperation "o" scaledOperation, clock, clock, inspected "s" (scaledService state)]

/-- The statement that makes the operation a success. -/
def markScaled : ControlEvent :=
  ⟨.db (.changeOperation "o" (.success 8)), (.ok () : Except Failure Unit)⟩

theorem markScaled_marks :
    (DbOp.changeOperation "o" (.success 8)).MarksOperation "o" .SUCCESS :=
  ⟨{ emptyDb with operations := [scaledOperation] }, (), _, rfl,
    ⟨(OperationChange.success 8).apply scaledOperation, List.mem_singleton_self _, rfl, rfl⟩,
    by simp [scaledOperation, servingOperation]⟩

/-- In the update states that the classifier accepts, the recovery makes the operation a success. -/
theorem recovery_trace (state : UpdateState)
    (h : (replay (MutationService.onApplicationBootstrap plainProcess 1)
      (recoveryAnswers state ++ [markScaled])).isSome = true) :
    ∃ q, Trace (MutationService.onApplicationBootstrap plainProcess 1)
      (recoveryAnswers state ++ [markScaled]) q := by
  obtain ⟨q, hq⟩ := Option.isSome_iff_exists.mp h
  exact ⟨q, trace_of_replay hq⟩

/-- The update has completed, and the scale is found converged. -/
theorem completed_scale_judged :
    ∃ operation current,
      MutationJudged "o" operation current (recoveryAnswers .completed).reverse ∧
        (MutationConverged operation current ↔ ¬ PausedScale operation current) := by
  obtain ⟨q, ht⟩ := recovery_trace .completed (by decide +kernel)
  exact mutation_success_iff (.recoverOperations 1) ht markScaled_marks

/-- The snapshot of an inspection. -/
def snapshot : ControlEvent → Option ServiceDetailResponse
  | ⟨.agent (.inspectService _), answer⟩ => Except.toOption answer
  | _ => none

/-- The rollback of the service is paused, and the scale becomes `SUCCESS` all the same. -/
theorem paused_rollback_passes_for_scaled :
    (∃ q, Trace (MutationService.onApplicationBootstrap plainProcess 1)
      (recoveryAnswers .rollback_paused ++ [markScaled]) q) ∧
    (DbOp.changeOperation "o" (.success 8)).MarksOperation "o" .SUCCESS ∧
    ¬ ∃ operation current,
      MutationJudged "o" operation current (recoveryAnswers .rollback_paused).reverse ∧
        MutationConverged operation current := by
  refine ⟨recovery_trace _ (by decide +kernel), markScaled_marks, ?_⟩
  rintro ⟨operation, current, ⟨-, -, older, hlast, -⟩, hconverged⟩
  have hcurrent : some (scaledService .rollback_paused) = some current :=
    congrArg (fun h => h.head?.bind snapshot) hlast
  cases hcurrent
  exact hconverged.settled.2.2.1 rfl

end Docklane.Control
