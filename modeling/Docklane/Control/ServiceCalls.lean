import Docklane.Control.CallRules

/-!
# The calls of the mutation service

`scale`, `restart` and the recovery of their operations keep to the protocol.
-/

namespace Docklane.Control

open Concurrent Concurrent.Program

variable {Tid : Type} {settings : Settings} {fuel : Nat}

namespace MutationService

variable [DecidableEq Tid] {S : System Tid} {i : Tid} {w : World Tid} {K : World Tid → Prop}

/-! ## Verification and reconciliation -/

theorem wp_requireOperation (hK : Stable S.protocol i K) (hinv : Inv S.premises w) (hs : K w)
    {id : String} : S.wp i (requireOperation id) (Ends K fun o s => s.db.Seen id o) w := by
  refine wp_bind_ends hinv hK (fun _ h => h) (System.wp_findOperation hK hs)
    fun found s _ hs hfound => ?_
  cases found with
  | none => exact wp_throw_ends hK hs
  | some o => exact wp_pure_ends hK (Seen.stable id o) hs (hfound o rfl)

section Reconciliation

variable {operation : OperationRecord} (hK : Stable S.protocol i K)
  (hplain : ∀ s, K s → s.db.Plain operation.id) (hinv : Inv S.premises w) (hs : K w)

include hK hplain hinv hs

theorem wp_changeAndRequire (change : OperationChange) :
    S.wp i ((changeOperation operation.id change).bind fun _ => requireOperation operation.id)
      (Ends K fun o s => s.db.Seen operation.id o) w :=
  wp_bind_ends hinv hK (fun _ h => h) (System.wp_changeOperation hK hplain hs change)
    fun _ _ hinv hs _ => wp_requireOperation hK hinv hs

theorem wp_verifyAndCompleteLocked :
    S.wp i (verifyAndCompleteLocked operation fuel)
      (Ends K fun o s => s.db.Seen operation.id o) w :=
  wp_bind_ends hinv hK (fun _ h => h) (System.wp_looks hK verify_looks hs)
    fun result _ hinv hs _ => wp_changeAndRequire hK hplain hinv hs result.change

theorem wp_verifyRefreshed :
    S.wp i ((requireOperation operation.id).bind fun refreshed =>
      verifyAndCompleteLocked refreshed fuel) (Ends K fun o s => s.db.Seen operation.id o) w := by
  refine wp_bind_ends hinv hK (fun _ h => h) (wp_requireOperation hK hinv hs)
    fun refreshed s hinv hs hseen => ?_
  rw [← hseen.1] at hplain ⊢
  exact wp_verifyAndCompleteLocked hK hplain hinv hs

theorem wp_resumeVerification {version fuel : Nat} :
    S.wp i (resumeVerification operation version fuel)
      (Ends K fun o s => s.db.Seen operation.id o) w := by
  unfold resumeVerification
  dsimp only
  split
  · refine wp_bind_ends hinv hK (fun _ h => h) (System.wp_changeOperation hK hplain hs _)
      fun _ s hinv hs _ => ?_
    exact wp_bind_ends hinv hK (fun _ h => h) (System.wp_quiet hK (uses_query.mpr trivial) hs)
      fun _ _ hinv hs _ => wp_verifyRefreshed hK hplain hinv hs
  · exact wp_verifyRefreshed hK hplain hinv hs

theorem wp_reconcileLocked :
    S.wp i (reconcileLocked operation fuel) (Ends K fun o s => s.db.Seen operation.id o) w := by
  unfold reconcileLocked
  split
  · exact wp_changeAndRequire hK hplain hinv hs _
  · refine wp_bind_ends hinv hK (fun _ h => h) (System.wp_looks hK inspectService_looks.attempt hs)
      fun answer s hinv hs _ => ?_
    cases answer with
    | error e => exact wp_changeAndRequire hK hplain hinv hs _
    | ok current =>
      dsimp only
      split
      · exact wp_resumeVerification hK hplain hinv hs
      · split <;> exact wp_changeAndRequire hK hplain hinv hs _

end Reconciliation

/-! ## The calls -/

/-- What the two calls have to bring with them. -/
structure Kind.Fair (S : System Tid) (kind : Kind) : Prop where
  type : kind.type ≠ .DEPLOY ∧ kind.type ≠ .ROLLBACK
  looks : ∀ id, (kind.plan id).Uses ControlOp.Looks
  plan : ∀ {i : Tid} {w K} (id : String), Stable S.protocol i K → KnownService S.docker id → K w →
    S.wp i (kind.plan id) (Ends K fun plan _ => S.premises.clean → plan.serviceId = id) w

theorem scaleKind_fair {S : System Tid} {expectedVersion replicas : Nat} :
    (scaleKind expectedVersion replicas).Fair S where
  type := ⟨nofun, nofun⟩
  looks := scaleKind_plan_looks
  plan _ hK hknown hs := System.wp_plan hK hknown hs fun _ plan h => ⟨plan, h, rfl⟩

theorem restartKind_fair {S : System Tid} {expectedVersion : Nat} :
    (restartKind expectedVersion).Fair S where
  type := ⟨nofun, nofun⟩
  looks := restartKind_plan_looks
  plan _ hK hknown hs := System.wp_plan hK hknown hs fun _ plan h => ⟨plan, h, rfl⟩

section Locked

variable {clusterId serviceId : String} (hK : Stable S.protocol i K)
  (hheld : ∀ s, K s → s.Held i (S.premises.serviceLock clusterId serviceId))
  (hinv : Inv S.premises w) (hs : K w)

include hK hheld hinv hs

theorem wp_resolvePriorServiceOperation :
    S.wp i (resolvePriorServiceOperation clusterId serviceId fuel) (Ends K fun _ =>
      Knows S.premises i [S.premises.serviceLock clusterId serviceId]
        fun w => w.db.Free clusterId serviceId) w := by
  refine wp_bind_ends hinv hK (fun _ h => h) (System.wp_findNonTerminalForService hK hheld hs)
    fun found s hinv hs hfound => ?_
  cases found with
  | none => exact wp_pure_ends hK (Free.stable clusterId serviceId) hs hfound
  | some prior =>
    dsimp only
    split
    · exact wp_throw_ends hK hs
    · next hplain =>
      obtain ⟨hseen, hbut⟩ := hfound
      -- the prior operation is the only one that can be unresolved
      have hstable : Stable S.protocol i fun s => (K s ∧ s.db.Plain prior.id) ∧
          Knows S.premises i [S.premises.serviceLock clusterId serviceId]
            (fun w => w.db.FreeBut clusterId serviceId prior.id) s :=
        Stable.and (hK.and (Plain.stable prior.id)) (FreeBut.stable clusterId serviceId prior.id)
      refine wp_bind_ends hinv hK (fun _ h => h.1.1) (wp_reconcileLocked hstable
        (fun _ h => h.1.2) hinv ⟨⟨hs, hseen.plain hplain⟩, hbut⟩)
        fun reconciled s hinv h hseen => ?_
      change S.wp i (if _ then _ else _) _ s
      split
      · next hterminal =>
        refine wp_pure_ends hK (Free.stable clusterId serviceId) h.1.1 (h.2.mono fun _ _ hbut => ?_)
        exact hbut.free hinv.keyed hseen hterminal
      · exact wp_throw_ends hK h.1.1

theorem wp_assertNoNodeOperationConflict :
    S.wp i (assertNoNodeOperationConflict clusterId serviceId) (Ends K fun _ =>
      Knows S.premises i [S.premises.serviceLock clusterId serviceId]
        fun w => w.db.Unaffected clusterId serviceId) w := by
  refine wp_bind_ends hinv hK (fun _ h => h)
    (System.wp_findNonTerminalAffectingService hK hheld hs) fun found s hinv hs hfound => ?_
  cases found with
  | none => exact wp_pure_ends hK (Unaffected.stable clusterId serviceId) hs (hfound rfl)
  | some nodeOperation => exact wp_throw_ends hK hs

end Locked

section Call

variable {kind : Kind} {clusterId serviceId : String} (input : MutationInput)

theorem wp_createOperation {input : OperationInput} (htype : ¬ input.started.ofDeployment)
    (hid : S.premises.clean → input.serviceId = serviceId)
    (hready : Ready S.premises i input.clusterId serviceId w)
    (hadmitted : Admitted S.premises i input.clusterId w) :
    S.wp i (query (.createOperation input)) (Ends (fun _ => True) fun (_ : Unit) s =>
      Unsent i (.service, input.id) s ∧ s.db.Plain input.id) w := by
  have hstable : Stable S.protocol i fun s => Ready S.premises i input.clusterId serviceId s ∧
      Admitted S.premises i input.clusterId s :=
    Stable.and (Ready.stable _ _) (Admitted.stable _)
  refine System.wp_intent (R := fun _ s => s.db.Plain input.id) rfl (fun _ _ => rfl)
    (fun db reply db' hexec => ?_) hstable (fun _ => Plain.stable _) (fun _ h => h.2)
    (fun s reply db' hinv hs hlive hexec => ?_) (fun s reply db' hinv hs hexec => ?_)
    ⟨hready, hadmitted⟩
  · obtain ⟨hfresh, rfl⟩ := Db.createOperation_ok (made_of_exec hexec)
    exact ⟨fun ⟨o, ho, hid⟩ => hfresh o ho hid, input.started, by simp, rfl⟩
  · exact createOperation_inserts hinv (hs.1.mayOperate hlive hid) (made_of_exec hexec)
  · obtain ⟨-, rfl⟩ := Db.createOperation_ok (made_of_exec hexec)
    exact ⟨input.started, by simp, rfl, htype⟩

theorem wp_planAndPersist (hkind : kind.Fair S) (hinv : Inv S.premises w)
    (hknown : KnownService S.docker serviceId) (hready : Ready S.premises i clusterId serviceId w)
    (hadmitted : Admitted S.premises i clusterId w) :
    S.wp i (planAndPersist kind input clusterId serviceId) (Ends (fun _ => True) fun _ s =>
      Unsent i (.service, input.operationId) s ∧ s.db.Plain input.operationId) w := by
  have hstable : Stable S.protocol i fun s => Ready S.premises i clusterId serviceId s ∧
      Admitted S.premises i clusterId s :=
    Stable.and (Ready.stable clusterId serviceId) (Admitted.stable clusterId)
  refine wp_bind_returns hinv
    (wp_attempt_ends (hkind.plan serviceId hstable hknown ⟨hready, hadmitted⟩))
    fun planned s hinv hs hplanned => ?_
  cases planned with
  | error e => exact wp_throw_ends stable_true trivial
  | ok plan =>
    refine wp_bind_returns hinv
      (System.wp_inspectService hstable hs serviceId) fun before s hinv hs _ => ?_
    split
    · refine wp_bind_returns hinv
        (System.wp_looks hstable assertAvailable_looks hs)
        fun _ s hinv hs _ => ?_
      have htype : ¬ (intent kind input clusterId plan).started.ofDeployment :=
        not_or.mpr hkind.type
      exact wp_bind_returns hinv
        (wp_createOperation htype (hplanned plan rfl)
          hs.1 hs.2) fun _ _ _ _ hnew =>
        wp_pure_ends stable_true (Stable.and (Unsent.stable _) (Plain.stable _)) trivial hnew
    · exact wp_throw_ends stable_true trivial

theorem wp_execute (hinv : Inv S.premises w) {operationId : String}
    (hunsent : Unsent i (.service, operationId) w) (hplain : w.db.Plain operationId)
    {settings : Settings} {admission : Option ActiveAdmission} {kind : Kind} {serviceId : String}
    {plan : ServiceMutationPlan} (fuel : Nat) :
    S.wp i (execute settings admission kind operationId serviceId plan fuel) Whatever w := by
  have hK : Stable S.protocol i fun s => s.db.Plain operationId := Plain.stable operationId
  have hsend : S.wp i (sendAndRecord settings admission kind operationId serviceId plan)
      (Ends (fun s => s.db.Plain operationId) fun _ _ => True) w := by
    refine wp_bind_ends hinv hK (fun _ h => h)
      (System.wp_dispatch hK (fun _ _ h => h) hplain hunsent) fun accepted s hinv hs _ => ?_
    change S.wp i (if _ then _ else _) _ s
    split
    · exact System.wp_changeOperation hK (fun _ h => h) hs _
    · exact wp_throw_ends hK hs
  refine wp_bind_whatever hinv (wp_attempt_ends hsend) fun outcome s hinv hs _ => ?_
  rcases outcome with e | ⟨⟩
  · dsimp only
    split
    · exact wp_bind_whatever hinv (System.wp_changeOperation hK (fun _ h => h) hs _)
        fun _ _ _ _ _ => fun _ _ _ => trivial
    · refine wp_bind_whatever hinv (wp_requireOperation hK hinv hs)
        fun operation s hinv hs hseen => ?_
      exact wp_whatever (wp_reconcileLocked hK (fun _ h => hseen.1 ▸ h) hinv hs)
  · refine wp_bind_whatever hinv (wp_requireOperation hK hinv hs)
      fun operation s hinv hs hseen => ?_
    exact wp_whatever (wp_verifyAndCompleteLocked hK (fun _ h => hseen.1 ▸ h) hinv hs)

theorem wp_mutateLocked (hkind : kind.Fair S) (hinv : Inv S.premises w)
    (hknown : KnownService S.docker serviceId)
    (hheld : w.Held i (S.premises.serviceLock clusterId serviceId))
    (hadmitted : Admitted S.premises i clusterId w) {settings : Settings}
    {admission : Option ActiveAdmission} :
    S.wp i (mutateLocked settings kind input clusterId serviceId fuel admission) Whatever w := by
  let K : World Tid → Prop := fun s =>
    s.Held i (S.premises.serviceLock clusterId serviceId) ∧ Admitted S.premises i clusterId s
  have hK : Stable S.protocol i K := Stable.and (Held.stable _) (Admitted.stable _)
  refine wp_bind_whatever hinv (System.wp_findOperation hK ⟨hheld, hadmitted⟩)
    fun found s hinv hs hfound => ?_
  cases found with
  | some existing =>
    dsimp only
    split
    · next hsame =>
      split
      · exact fun _ _ _ => trivial
      · have hplain : ¬ existing.ofDeployment := by
          simp only [assertIdempotent, Bool.and_eq_true, decide_eq_true_eq] at hsame
          rw [OperationRecord.ofDeployment, hsame.1.1.1.1.1]
          exact not_or.mpr hkind.type
        have hseen := (hfound existing rfl).plain hplain
        rw [← (hfound existing rfl).1] at hseen
        exact wp_whatever (wp_reconcileLocked (Plain.stable existing.id) (fun _ h => h) hinv hseen)
    · exact fun _ _ _ => trivial
  | none =>
    refine wp_bind_whatever hinv (wp_resolvePriorServiceOperation hK (fun _ h => h.1) hinv hs)
      fun _ s hinv hs hfree => ?_
    have hstable : Stable S.protocol i fun s => K s ∧
        Knows S.premises i [S.premises.serviceLock clusterId serviceId]
          (fun w => w.db.Free clusterId serviceId) s := Stable.and hK (Free.stable _ _)
    refine wp_bind_whatever hinv (wp_assertNoNodeOperationConflict hstable (fun _ h => h.1.1) hinv
      ⟨hs, hfree⟩) fun _ s hinv hs hunaffected => ?_
    exact wp_bind_whatever hinv (wp_planAndPersist input hkind hinv hknown ⟨hs.2, hunaffected⟩
      hs.1.2) fun plan s hinv _ hnew => wp_execute hinv hnew.1 hnew.2 _

theorem wp_mutateService (hkind : kind.Fair S) (hsettings : settings ∈ S.settings)
    (hinv : Inv S.premises w) {clusterId requested : String} :
    S.wp i (mutateService settings kind clusterId requested input fuel) Whatever w := by
  unfold mutateService
  split
  · exact fun _ _ _ => trivial
  · refine wp_bind_whatever hinv (System.wp_inspectService (K := fun _ => True) stable_true trivial
      requested) fun resolved s hinv _ hresolved => ?_
    exact System.wp_withServiceLock (K := fun _ => True) hsettings hinv stable_true
      (fun _ _ _ h => h) (fun _ _ _ h => h) trivial
      (fun active => mutateLocked_built (pieces_of_works (fun _ => ControlOp.Works.mutates) _)
        (fun _ _ _ => .whole (.dispatch _ _ _)) hkind.looks (fun _ => trivial) _ fuel active)
      fun active s hinv _ hheld hadmitted =>
        wp_mutateLocked input hkind hinv hresolved.1 hheld hadmitted

end Call

/-! ## Startup -/

theorem wp_recoverOperation (hsettings : settings ∈ S.settings) (hinv : Inv S.premises w)
    {operation : OperationRecord} (hplain : w.db.Plain operation.id) (fuel : Nat) :
    S.wp i (recoverOperation settings operation fuel) Whatever w := by
  have hK : Stable S.protocol i fun s => s.db.Plain operation.id := Plain.stable operation.id
  refine wp_bind hinv (wp_attempt (wp_mono (System.wp_withServiceRecoveryLock hsettings hinv hK
    (fun _ _ _ h => h) hplain fun s hinv hs _ => ?_) fun r _ _ _ => fun _ _ _ => trivial))
  refine wp_bind_whatever hinv (System.wp_findOperation hK hs) fun found s hinv hs hfound => ?_
  cases found with
  | none => exact fun _ _ _ => trivial
  | some current =>
    dsimp only
    split
    · exact fun _ _ _ => trivial
    · refine wp_bind_whatever hinv (wp_reconcileLocked hK (fun _ h => ?_) hinv hs)
        fun _ _ _ _ _ => fun _ _ _ => trivial
      rwa [(hfound current rfl).1]

/-- The operations in the list are scales and restarts, as far as they are recovered. -/
def Recoverable (operations : List OperationRecord) (w : World Tid) : Prop :=
  ∀ o ∈ operations, ¬ o.ofDeployment → w.db.Plain o.id

omit [DecidableEq Tid] in
theorem Recoverable.stable (operations : List OperationRecord) :
    Stable S.protocol i (Recoverable operations) :=
  fun h hr hinv o ho hplain => Plain.stable o.id (h o ho hplain) hr hinv

theorem wp_recoverOperations (hsettings : settings ∈ S.settings) {operations : List OperationRecord}
    (hinv : Inv S.premises w) (hs : Recoverable operations w) :
    S.wp i (recoverOperations settings fuel operations) Whatever w := by
  induction operations generalizing w with
  | nil => exact fun _ _ _ => trivial
  | cons operation rest ih =>
    have hrest : Recoverable rest w := fun o ho => hs o (List.mem_cons_of_mem _ ho)
    rw [recoverOperations]
    split
    · exact ih hinv hrest
    · next hplain =>
      have hrecover := wp_frame (Recoverable.stable rest)
        (fun s s' h hg o ho hplain => Plain.guar (h o ho hplain) hg)
        (wp_recoverOperation (S := S) (i := i) hsettings hinv
          (hs operation List.mem_cons_self hplain) fuel) hrest
      refine wp_bind hinv (wp_mono hrecover fun r s hinv h => ?_)
      cases r with
      | ok _ => exact ih hinv h.2
      | error e => exact fun _ _ _ => trivial

theorem wp_onApplicationBootstrap (hsettings : settings ∈ S.settings) (hinv : Inv S.premises w) :
    S.wp i (onApplicationBootstrap settings fuel) Whatever w := by
  refine wp_bind_whatever hinv (System.wp_read .listNonTerminal
    (f := fun db => db.nonTerminalOperations) (R := Recoverable) (K := fun _ => True) trivial
    (fun _ => rfl) stable_true Recoverable.stable (fun s _ _ o ho hplain => ?_) trivial)
    fun operations s hinv _ hs => wp_recoverOperations hsettings hinv hs
  exact ⟨o, (List.mem_filter.mp ho).1, rfl, hplain⟩

end MutationService

end Docklane.Control
