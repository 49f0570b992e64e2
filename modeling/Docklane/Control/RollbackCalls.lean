import Docklane.Control.DeployCalls

/-!
# Manual rollback

`rollback` keeps to the protocol. A deployment that was read as `FAILED` does not succeed any more;
under the lock of a free service it is `FAILED` or `ROLLED_BACK`, and `ROLLED_BACK` only when
another rollback came first.
-/

namespace Docklane.Control

open Concurrent Concurrent.Program

variable {Tid : Type}

/-- A deployment that was read, and that has failed for good if it was read as `FAILED`. -/
def Db.FailureSeen (E : Premises) (db : Db) (d : DeploymentRecord) : Prop :=
  ∃ d' ∈ db.deployments, d.Evolves d' ∧
    (E.clean → d.status = .FAILED → db.DeployEnded d' ∧ d'.status ≠ .SUCCESS)

theorem FailureSeen.stable {E : Premises} {i : Tid} (d : DeploymentRecord) :
    Stable (controlProtocol E) i fun w => w.db.FailureSeen E d := by
  intro w w' ⟨d', hd', he, hfailed⟩ hr _
  obtain ⟨d'', hd'', he', -, hsuccess⟩ := hr.db.deployments d' hd'
  refine ⟨d'', hd'', he.trans he', fun hclean hstatus => ?_⟩
  obtain ⟨hended, hne⟩ := hfailed hclean hstatus
  exact ⟨hr.db.deployEnded he' hended, hsuccess hclean hended hne⟩

theorem Db.Consistent.settled_of_free {db : Db} (h : db.Consistent) (hkeyed : db.Keyed)
    {d : DeploymentRecord} (hd : d ∈ db.deployments) {t : DeploymentTarget}
    (ht : db.findDeploymentTarget d.deploymentTargetId = some t)
    (hfree : db.Free t.clusterId t.dockerServiceId) : d.status.isSettled = true := by
  refine (h.settled d hd).mpr fun o ho hlinked => ?_
  obtain ⟨t', ht', hon, -⟩ := h.linked hkeyed hd ho hlinked
  obtain rfl := Option.some.inj (ht.symm.trans ht')
  exact hfree o ho hon.1 hon.2

theorem Db.createRollback_tracks {db db' : Db} {operation : OperationInput} {d : DeploymentRecord}
    (hd : d ∈ db.deployments) (h : db.createRollback operation d.id = .ok db')
    (htype : operation.type = .ROLLBACK) :
    db'.Tracks operation.clusterId operation.serviceId d.id operation.id .ROLLBACK := by
  obtain ⟨-, -, rfl⟩ := Db.createRollback_ok h
  refine ⟨operation.started, List.mem_append_right _ (List.mem_singleton_self _), rfl, rfl, rfl,
    rfl, htype, .inr htype, (DeploymentWrite.rollingBack operation.id).apply db.clock d,
    Db.mem_writeDeployment.mpr ⟨d, hd, ⟨rfl, rfl, rfl⟩, .inl ⟨rfl, rfl⟩⟩, rfl, .inr ?_⟩
  exact List.mem_append_right _ (List.mem_singleton_self _)

/-! ## What a rollback knows -/

/-- What the lock of the service protects: nobody has rolled the deployment back. -/
def NotRolledBack (E : Premises) (clusterId : String) (target : DeploymentTarget)
    (d : DeploymentRecord) (name : String) (w : World Tid) : Prop :=
  name = E.serviceLock clusterId target.dockerServiceId → E.patient → d.status = .FAILED →
    w.db.findDeploymentTarget d.deploymentTargetId = some target ∧
      ∃ d' ∈ w.db.deployments, d.Evolves d' ∧ d'.status ≠ .ROLLED_BACK

/-- What a rollback has read before it asks for the lock. The deployment has failed, or the rollback
is on record. -/
structure RollbackRead (E : Premises) (i : Tid) (target : DeploymentTarget) (d : DeploymentRecord)
    (operationId : String) (w : World Tid) : Prop where
  lastRead : w.lastRead i = some d
  found : w.db.findDeploymentTarget d.deploymentTargetId = some target
  row : w.db.FailureSeen E d
  allowed : d.status = .FAILED ∨ ⟨operationId, d.id⟩ ∈ w.db.rollbackAttempts

/-- What a rollback knows when it records its intent. -/
structure RollbackReady (E : Premises) (i : Tid) (clusterId : String) (target : DeploymentTarget)
    (d : DeploymentRecord) (w : World Tid) : Prop where
  ready : Ready E i clusterId target.dockerServiceId w
  found : w.db.findDeploymentTarget d.deploymentTargetId = some target
  row : w.db.FailureSeen E d
  first : Knows E i [E.serviceLock clusterId target.dockerServiceId]
    (NotRolledBack E clusterId target d (E.serviceLock clusterId target.dockerServiceId)) w
  admitted : Admitted E i clusterId w

section Knowledge

variable {S : System Tid} {i : Tid} {clusterId operationId : String} {target : DeploymentTarget}
  {d : DeploymentRecord}

theorem RollbackRead.stable (target : DeploymentTarget) (d : DeploymentRecord)
    (operationId : String) : Stable S.protocol i (RollbackRead S.premises i target d operationId) :=
  fun h hr hinv => ⟨hr.lastRead.trans h.lastRead, target_stable _ _ h.found hr hinv,
    FailureSeen.stable d h.row hr hinv, h.allowed.imp_right (hr.db.attempts _)⟩

variable (hcluster : target.clusterId = clusterId)

include hcluster

theorem NotRolledBack.kept {E : Premises} {w w' : World Tid} {name : String} (hclean : E.clean)
    (hr : Rely E i w w') (hlock : w'.lock name = some i)
    (h : NotRolledBack E clusterId target d name w) :
      NotRolledBack E clusterId target d name w' := by
  intro hname hpatient hfailed
  obtain ⟨htarget, d', hd', he, hne⟩ := h hname hpatient hfailed
  obtain ⟨d'', hd'', he', hfrozen, -⟩ := hr.db.deployments d' hd'
  refine ⟨hr.db.targets _ _ htarget, d'', hd'', he.trans he', ?_⟩
  rw [hfrozen hclean target (he.deploymentTargetId ▸ htarget) ?_]
  · exact hne
  · rw [hcluster, ← hname]
    exact not_not_intro hlock

theorem RollbackReady.stable (d : DeploymentRecord) :
    Stable S.protocol i (RollbackReady S.premises i clusterId target d) := by
  intro s s' h hr hinv
  refine ⟨Ready.stable _ _ h.ready hr hinv, target_stable _ _ h.found hr hinv,
    FailureSeen.stable d h.row hr hinv, ?_, Admitted.stable _ h.admitted hr hinv⟩
  exact Knows.stable (fun hclean hr _ hlocks hf =>
    NotRolledBack.kept hcluster hclean hr (hlocks _ (List.mem_singleton_self _)) hf) h.first hr hinv

theorem protected_notRolledBack :
    System.Protected S i (RollbackRead S.premises i target d operationId)
      (NotRolledBack S.premises clusterId target d) where
  grant name s _ hs hallowed _ hname hpatient hfailed := by
    obtain ⟨d', hd', he, -⟩ := hs.row
    exact ⟨hs.found, d', hd', he, S.patient hpatient i _ s hallowed name rfl d hs.lastRead hfailed
      d' hd' he.id⟩
  stable name _ _ hclean hr _ hlock := NotRolledBack.kept hcluster hclean hr hlock
  ignoresLocks _ _ _ _ h := h
  ignoresAdmissions _ _ _ _ h := h

/-- The row of the deployment when the intent of a rollback is recorded. -/
theorem RollbackReady.outcome {w : World Tid}
    (h : RollbackReady S.premises i clusterId target d w) (hinv : Inv S.premises w)
    (hlive : w.session i ≠ .lost) (hfailed : S.premises.clean → d.status = .FAILED) :
    ∃ d' ∈ w.db.deployments, d.Evolves d' ∧
      (S.premises.clean → d'.status = .FAILED ∨ d'.status = .ROLLED_BACK) ∧
      (S.premises.clean → S.premises.patient → d'.status = .FAILED) := by
  obtain ⟨d', hd', he, hended⟩ := h.row
  have houtcome : S.premises.clean → d'.status = .FAILED ∨ d'.status = .ROLLED_BACK := by
    intro hclean
    have hfree : w.db.Free target.clusterId target.dockerServiceId :=
      hcluster ▸ h.ready.1.fact hlive hclean
    have hsettled := (hinv.consistent hclean).settled_of_free hinv.keyed hd'
      (he.deploymentTargetId ▸ h.found) hfree
    have hsuccess := (hended hclean (hfailed hclean)).2
    cases hstatus : d'.status <;> simp_all [DeploymentStatus.isSettled]
  refine ⟨d', hd', he, houtcome, fun hclean hpatient => ?_⟩
  obtain ⟨-, d'', hd'', he', hne⟩ := h.first.fact hlive hclean rfl hpatient (hfailed hclean)
  obtain rfl := List.inj_on_of_nodup_map hinv.keyed.deployments hd' hd'' (he.id.trans he'.id.symm)
  exact (houtcome hclean).resolve_right hne

end Knowledge

variable {settings : Settings}

namespace DeploymentService

variable [DecidableEq Tid] {S : System Tid} {i : Tid} {w : World Tid} {K : World Tid → Prop}

/-! ## The intent -/

section Intent

variable {clusterId : String} {target : DeploymentTarget} {d : DeploymentRecord}
  (hcluster : target.clusterId = clusterId) (hknown : KnownService S.docker target.dockerServiceId)
  (input : RollbackRequest) (previousRelease : Release)

include hknown

theorem wp_planRollback (hK : Stable S.protocol i K) (hinv : Inv S.premises w) (hs : K w)
    {current : ServiceDetailResponse}
    (hcurrent : S.premises.clean → current.service.id = target.dockerServiceId) :
    S.wp i (planRollback target d previousRelease current) (Ends K fun plan _ =>
      S.premises.clean → plan.serviceId = target.dockerServiceId) w := by
  unfold planRollback
  split
  · cases hobserved : buildObservedRollbackPlan d previousRelease.imageDigest current with
    | error e => exact wp_throw_ends hK hs
    | ok plan =>
      refine wp_pure_ends hK (fun h _ _ => h) hs fun hclean => ?_
      simp only [buildObservedRollbackPlan] at hobserved
      split at hobserved
      · cases hobserved
      · cases hobserved
        exact hcurrent hclean
  · have hplanned : S.wp i (askAgent (.planRollbackService target.dockerServiceId
        current.service.version)) (Ends K fun (plan : ServiceMutationPlan) _ =>
          S.premises.clean → plan.serviceId = target.dockerServiceId) w :=
      System.wp_plan hK hknown hs fun _ plan h => ⟨plan, h, rfl⟩
    refine wp_bind_ends hinv hK (fun _ h => h) (wp_mapped hinv hK (fun _ => ?_) hplanned)
      fun plan s hinv hs hplan => ?_
    · exact fun h _ _ => h
    · change S.wp i (if _ then _ else _) _ s
      split
      · exact wp_bind_ends hinv hK (fun _ h => h) (System.wp_looks hK assertAvailable_looks hs)
          fun _ _ _ hs _ => wp_pure_ends hK (fun h _ _ => h) hs hplan
      · exact wp_throw_ends hK hs

include hcluster

theorem wp_persistRollback (hinv : Inv S.premises w)
    (hs : RollbackReady S.premises i clusterId target d w)
    (hfailed : S.premises.clean → d.status = .FAILED) :
    S.wp i (persistRollback clusterId target d previousRelease input)
      (Ends (fun _ => True) fun _ s => Unsent i (.service, input.operationId) s ∧
        Tracking S.premises i clusterId target.dockerServiceId d.id input.operationId .ROLLBACK s)
      w := by
  have hK : Stable S.protocol i (RollbackReady S.premises i clusterId target d) :=
    RollbackReady.stable hcluster d
  refine wp_bind_returns hinv (wp_inspect hinv hK hs _ _) fun current s hinv hs hcurrent => ?_
  refine wp_bind_returns hinv (wp_planRollback hknown previousRelease
    hK hinv hs fun hclean => hcurrent.2 hclean hknown) fun plan s hinv hs hplan => ?_
  refine wp_bind_returns hinv (System.wp_intent
        (R := fun _ s => Tracking S.premises i clusterId target.dockerServiceId d.id
      input.operationId .ROLLBACK s) rfl (fun _ _ => rfl) (fun db reply db' hexec => ?_) hK
    (fun _ => Tracking.stable _ _ _ _ _) (fun _ h => h.admitted)
    (fun s reply db' hinv hs hlive hexec => ?_) (fun s reply db' hinv hs hexec => ?_) hs)
    fun _ s _ _ h => ?_
  · obtain ⟨hfresh, -, rfl⟩ := Db.createRollback_ok (made_of_exec hexec)
    exact ⟨fun ⟨o, ho, hid⟩ => hfresh o ho hid, (rollbackOperation input clusterId plan).started,
      List.mem_append_right _ (List.mem_singleton_self _), rfl⟩
  · have hcreate := made_of_exec hexec
    obtain ⟨d', hd', he, hended, hfirst⟩ := hs.outcome hcluster hinv hlive hfailed
    rw [← he.id] at hcreate
    exact createRollback_inserts hinv (hs.ready.mayOperate hlive hplan) rfl hd'
      (he.deploymentTargetId ▸ hs.found) (fun hclean => ⟨hcluster.symm, hplan hclean⟩) hended hfirst
      hcreate
  · have hcreate := made_of_exec hexec
    refine ⟨hs.ready.1.1, fun hclean _ => ?_⟩
    obtain ⟨d', hd', he, -⟩ := hs.row
    rw [← he.id] at hcreate
    rw [← he.id, ← hplan hclean]
    exact Db.createRollback_tracks hd' hcreate rfl
  · exact wp_pure_ends stable_true (Stable.and (Unsent.stable _) (Tracking.stable _ _ _ _ _))
      trivial h

end Intent

/-! ## The call -/

section Rollback

variable {clusterId : String} {target : DeploymentTarget} {d : DeploymentRecord}
  (input : RollbackRequest) (previousRelease : Release)

theorem wp_executeRollback (hinv : Inv S.premises w) {serviceId : String}
    (hunsent : Unsent i (.service, input.operationId) w)
    (hs : Tracking S.premises i clusterId serviceId d.id input.operationId .ROLLBACK w)
    {admission : Option ActiveAdmission} {target : DeploymentTarget} {persisted : PersistedRollback}
    {fuel : Nat} :
    S.wp i (executeRollback settings admission target d previousRelease input persisted fuel)
      Whatever w := by
  have hK : Stable S.protocol i (Tracking S.premises i clusterId serviceId d.id
      input.operationId .ROLLBACK) := Tracking.stable _ _ _ _ _
  have hreconcile (initialError : Option String) {s : World Tid} (hinv : Inv S.premises s)
      (hs : Tracking S.premises i clusterId serviceId d.id input.operationId .ROLLBACK s) :
      S.wp i ((requireOperation input.operationId).bind fun operation =>
        reconcileRollbackLocked operation d initialError fuel) Whatever s := by
    refine wp_bind_whatever hinv (wp_requireOperation hK hinv hs)
      fun operation s hinv hs hseen => ?_
    exact System.wp_reconciles (hseen.1 ▸ reconcileRollbackLocked_reconciles
      rollbackVerdicts_lawful markRollbackVerifying_marks) hs
  unfold executeRollback
  dsimp only
  split
  · exact hreconcile none hinv hs
  · refine wp_bind_whatever hinv (wp_attempt_ends (System.wp_dispatch hK (fun _ _ h => h) hs
      hunsent)) fun outcome s hinv hs _ => ?_
    cases outcome with
    | error e =>
      dsimp only
      split
      · exact wp_bind_whatever hinv (System.wp_settle_whatever rollbackRejected_lawful hs)
          fun _ _ _ _ _ => fun _ _ _ => trivial
      · exact hreconcile _ hinv hs
    | ok accepted =>
      dsimp only
      split
      · exact wp_bind_whatever hinv (System.wp_settle (markRollbackVerifying_marks _) hs)
          fun _ _ _ hs _ => System.wp_reconciles
            (verifyRollbackAndComplete_ends rollbackVerdicts_lawful).reconciles hs
      · exact System.wp_reconciles (conclude_until (rollbackVerdicts_lawful.attention _ _)) hs

variable (hcluster : target.clusterId = clusterId)

include hcluster

theorem wp_resumeRollback (hinv : Inv S.premises w)
    (hread : RollbackRead S.premises i target d input.operationId w)
    (hheld : w.Held i (S.premises.serviceLock clusterId target.dockerServiceId))
    {existing : OperationRecord} (hseen : w.db.Seen input.operationId existing)
    (hpending : Pending S.premises i existing w) {fuel : Nat} :
    S.wp i (resumeRollback target d input existing fuel) Whatever w := by
  let K : World Tid → Prop := fun s =>
    (RollbackRead S.premises i target d input.operationId s ∧
      s.Held i (S.premises.serviceLock clusterId target.dockerServiceId)) ∧
    s.db.Seen input.operationId existing ∧ Pending S.premises i existing s
  have hK : Stable S.protocol i K := by
    rintro s s' ⟨⟨hread, hheld⟩, hseen, hpending⟩ hr hinv
    exact ⟨⟨RollbackRead.stable _ _ _ hread hr hinv, Held.stable _ hheld hr hinv⟩,
      Seen.stable _ _ hseen hr hinv, Pending.stable _ hpending hr hinv⟩
  unfold resumeRollback
  split
  · next hsame =>
    simp only [sameMutation, Bool.and_eq_true, decide_eq_true_eq] at hsame
    obtain ⟨⟨htype, -⟩, hservice⟩ := hsame
    refine wp_bind_whatever hinv (System.wp_findDeploymentByRollbackOperation hK
      ⟨⟨hread, hheld⟩, hseen, hpending⟩ _) fun found s hinv hs hfound => ?_
    cases found with
    | none => exact fun _ _ _ => trivial
    | some latest =>
      dsimp only
      split
      · exact fun _ _ _ => trivial
      · next hid =>
        split
        · cases rollbackAttemptResult latest existing <;> exact fun _ _ _ => trivial
        · next hopen =>
          obtain ⟨hattempt, hlatest⟩ := hfound latest rfl
          obtain ⟨⟨hread, hheld⟩, hseen, hpending⟩ := hs
          -- the deployment that was read first and the latest one are one row
          have htarget : latest.deploymentTargetId = d.deploymentTargetId := by
            obtain ⟨d₁, hd₁, he₁, -⟩ := hread.row
            obtain ⟨d₂, hd₂, he₂⟩ := hlatest
            have hids : d₁.id = d₂.id := by rw [he₁.id, he₂.id, not_not.mp hid]
            obtain rfl := List.inj_on_of_nodup_map hinv.keyed.deployments hd₁ hd₂ hids
            exact he₂.deploymentTargetId.symm.trans he₁.deploymentTargetId
          have hlinked : ∀ d', latest.Evolves d' → s.db.Linked d' existing.id := fun d' he =>
            .inr (hseen.1.symm ▸ he.id.symm ▸ hattempt)
          have htracking := tracking_of_read hheld hpending (.inr htype) (by simpa using hopen)
            (fun hclean => (hseen.cluster hinv.keyed (hinv.consistent hclean) hlatest
              (hseen.1 ▸ hlinked) (htarget ▸ hread.found)).trans hcluster) hservice hlatest hlinked
          rw [htype] at htracking
          exact System.wp_reconciles (reconcileRollbackLocked_reconciles rollbackVerdicts_lawful
            markRollbackVerifying_marks) htracking
  · exact fun _ _ _ => trivial

omit hcluster in
/-- A rollback that is not on record is one of a failed deployment. -/
theorem wp_findRollback (hK : Stable S.protocol i K)
    (hread : ∀ s, K s → RollbackRead S.premises i target d input.operationId s) (hs : K w) :
    S.wp i (findOperation input.operationId) (Ends K fun found s =>
      (found = none → S.premises.clean → d.status = .FAILED) ∧
        ∀ o, found = some o → s.db.Seen input.operationId o ∧ Pending S.premises i o s) w := by
  refine System.wp_read (.findOperation input.operationId)
    (f := fun db => db.findOperation input.operationId) trivial (fun _ => rfl) hK (fun found => ?_)
    (fun s hinv hs => ⟨fun hnone hclean => ?_, fun o ho => ?_⟩) hs
  · intro s s' h hr hinv
    exact ⟨h.1, fun o ho => ⟨Seen.stable _ o (h.2 o ho).1 hr hinv,
      Pending.stable o (h.2 o ho).2 hr hinv⟩⟩
  · refine (hread s hs).allowed.resolve_right fun hattempt => ?_
    obtain ⟨-, -, -, -, -, o, ho, hid, -⟩ := (hinv.consistent hclean).rollsBack _ hattempt
    simpa [hid] using List.find?_eq_none.mp hnone o ho
  · have hid : o.id = input.operationId := by simpa using List.find?_some ho
    have hmem := List.mem_of_find?_eq_some ho
    exact ⟨⟨hid, o, hmem, .refl o⟩, fun _ _ _ hopen => ⟨o, hmem, .refl o, hopen⟩⟩

theorem wp_rollbackLocked (hknown : KnownService S.docker target.dockerServiceId)
    (hinv : Inv S.premises w) (hread : RollbackRead S.premises i target d input.operationId w)
    (hfirst : Knows S.premises i [S.premises.serviceLock clusterId target.dockerServiceId]
      (NotRolledBack S.premises clusterId target d
        (S.premises.serviceLock clusterId target.dockerServiceId)) w)
    (hadmitted : Admitted S.premises i clusterId w) (settings : Settings) (fuel : Nat)
    (admission : Option ActiveAdmission) :
    S.wp i (rollbackLocked settings clusterId target d previousRelease input fuel admission)
      Whatever w := by
  let K : World Tid → Prop := fun s =>
    (RollbackRead S.premises i target d input.operationId s ∧ Admitted S.premises i clusterId s) ∧
      Knows S.premises i [S.premises.serviceLock clusterId target.dockerServiceId]
        (NotRolledBack S.premises clusterId target d
          (S.premises.serviceLock clusterId target.dockerServiceId)) s
  have hK : Stable S.protocol i K := by
    rintro s s' ⟨⟨hread, hadmitted⟩, hfirst⟩ hr hinv
    exact ⟨⟨RollbackRead.stable _ _ _ hread hr hinv, Admitted.stable _ hadmitted hr hinv⟩,
      Knows.stable (fun hclean hr _ hlocks hf => NotRolledBack.kept hcluster hclean hr
        (hlocks _ (List.mem_singleton_self _)) hf) hfirst hr hinv⟩
  have hheld : ∀ s, K s → s.Held i (S.premises.serviceLock clusterId target.dockerServiceId) :=
    fun s h => h.2.1 _ (List.mem_singleton_self _)
  refine wp_bind_whatever hinv (wp_findRollback input hK (fun _ h => h.1.1)
    ⟨⟨hread, hadmitted⟩, hfirst⟩) fun found s hinv hs hfound => ?_
  cases found with
  | some existing =>
    obtain ⟨hseen, hpending⟩ := hfound.2 existing rfl
    exact wp_resumeRollback input hcluster hinv hs.1.1 (hheld s hs) hseen hpending
  | none =>
    refine wp_bind_whatever hinv (wp_assertServiceFree hK hheld hinv hs)
      fun _ s hinv hs hready => ?_
    exact wp_bind_whatever hinv (wp_persistRollback hcluster hknown input previousRelease hinv
      ⟨hready, hs.1.1.found, hs.1.1.row, hs.2, hs.1.2⟩ (hfound.1 rfl)) fun persisted s hinv _ h =>
        wp_executeRollback input previousRelease hinv h.1 h.2

theorem wp_startRollback (hsettings : settings ∈ S.settings) (hinv : Inv S.premises w)
    (hlastRead : w.lastRead i = some d)
    (hfound : w.db.findDeploymentTarget d.deploymentTargetId = some target)
    (hrow : w.db.FailureSeen S.premises d) (fuel : Nat) :
    S.wp i (startRollback settings clusterId target d previousRelease input fuel) Whatever w := by
  let K : World Tid → Prop := fun s => (s.lastRead i = some d ∧
    s.db.findDeploymentTarget d.deploymentTargetId = some target) ∧ s.db.FailureSeen S.premises d
  have hK : Stable S.protocol i K := by
    rintro s s' ⟨⟨hlastRead, hfound⟩, hrow⟩ hr hinv
    exact ⟨⟨hr.lastRead.trans hlastRead, target_stable _ _ hfound hr hinv⟩,
      FailureSeen.stable d hrow hr hinv⟩
  refine wp_bind_whatever hinv (System.wp_findDeploymentByRollbackOperation hK
    ⟨⟨hlastRead, hfound⟩, hrow⟩ _) fun attempted s hinv hs hattempted => ?_
  change S.wp i (if _ then _ else _) _ s
  split
  · exact fun _ _ _ => trivial
  · next hallowed =>
    have hread : RollbackRead S.premises i target d input.operationId s := by
      refine ⟨hs.1.1, hs.1.2, hs.2, ?_⟩
      rcases not_and_or.mp hallowed with hsame | hfailed
      · obtain ⟨d', hd', hid⟩ := Option.map_eq_some_iff.mp (not_not.mp hsame)
        exact .inr (hid ▸ (hattempted d' hd').1)
      · exact .inl (not_not.mp hfailed)
    have hstable : Stable S.protocol i (RollbackRead S.premises i target d input.operationId) :=
      RollbackRead.stable _ _ _
    refine wp_bind_whatever hinv (wp_inspect hinv hstable hread _ _)
      fun resolved s hinv hread hresolved => ?_
    split
    · next hresolves =>
      have hid : resolved.service.id = target.dockerServiceId := by
        simp only [resolvesToTarget, Bool.and_eq_true, decide_eq_true_eq] at hresolves
        exact hresolves.1
      exact System.wp_withCallLocks hsettings hstable
        (fun _ _ _ h => ⟨h.lastRead, h.found, h.row, h.allowed⟩) (protected_notRolledBack hcluster)
        (fun _ _ _ h => ⟨h.lastRead, h.found, h.row, h.allowed⟩) hinv hread
        (fun active => rollbackLocked_asks (fun _ => ControlOp.Works.mutates)
          (fun _ => trivial) target previousRelease fuel active)
        fun active s hinv hread hgranted hadmitted => wp_rollbackLocked input previousRelease
          hcluster (hid ▸ hresolved.1) hinv hread (hgranted _ (List.mem_singleton_self _)) hadmitted
          settings fuel active
    · exact fun _ _ _ => trivial

end Rollback

theorem wp_findDeployment {id : String} :
    S.wp i (findDeployment id) (Ends (fun _ => True) fun found s => ∀ d, found = some d →
      s.lastRead i = some d ∧ s.db.FailureSeen S.premises d) w := by
  refine System.wp_query (K := fun _ => True) stable_true stable_true (fun found => ?_)
    (fun s answer s' hinv _ _ hstep => ?_) trivial
  · intro s s' h hr hinv d hd
    exact ⟨hr.lastRead.trans (h d hd).1, FailureSeen.stable d (h d hd).2 hr hinv⟩
  · obtain ⟨hinv', hguar, hdb, hfound⟩ := findDeployment_step hinv hstep
    refine ⟨hinv', hguar, trivial, fun found hanswer d hd => ?_⟩
    obtain ⟨hrow, hlast⟩ := hfound found hanswer
    have hmem := List.mem_of_find?_eq_some (hrow.symm.trans hd)
    refine ⟨hlast.trans hd, ?_⟩
    rw [hdb]
    refine ⟨d, hmem, .refl d, fun hclean hfailed => ⟨?_, by rw [hfailed]; nofun⟩⟩
    obtain ⟨o, ho, hid, hstatus⟩ := ((hinv.consistent hclean).agree d hmem).deploy_failed
      (.inl hfailed)
    exact ⟨o, ho, hid, by rw [hstatus]; rfl⟩

/-- A retry that does not find its result on record has not read the deployment again. -/
theorem wp_findTerminalRollbackRetry (hK : Stable S.protocol i K) (hinv : Inv S.premises w)
    (hs : K w) {clusterId : String} {d : DeploymentRecord} {input : RollbackRequest}
    {serviceId : String} :
    S.wp i (findTerminalRollbackRetry clusterId d input serviceId)
      (Ends (fun _ => True) fun found s => found = none → K s) w := by
  have hnone {s : World Tid} (hs : K s) : S.wp i (.pure none : ControlProgram _)
      (Ends (fun _ => True) fun (found : Option DeploymentRecord) s => found = none → K s) s :=
    fun _ hr hinv => ⟨trivial, fun _ => hK hs hr hinv⟩
  refine wp_bind_returns hinv
    (System.wp_quiet hK (uses_query.mpr trivial) hs) fun found s hinv hs _ => ?_
  cases found with
  | none => exact hnone hs
  | some operation =>
    dsimp only
    split
    · exact hnone hs
    · refine wp_bind_returns hinv wp_findDeployment fun latest s hinv _ _ => ?_
      refine wp_bind_returns hinv
        (System.wp_quiet (K := fun _ => True) stable_true (uses_query.mpr trivial) trivial)
        fun historical s hinv _ _ => ?_
      split
      · split
        · cases rollbackAttemptResult _ operation with
          | error e => exact fun _ _ _ => trivial
          | ok result => exact fun _ _ _ => ⟨trivial, fun h => by cases h⟩
        · exact fun _ _ _ => trivial
      · exact fun _ _ _ => trivial

theorem wp_rollback (hsettings : settings ∈ S.settings) (hinv : Inv S.premises w)
    (clusterId deploymentId : String) (input : RollbackRequest) (fuel : Nat) :
    S.wp i (rollback settings clusterId deploymentId input fuel) Whatever w := by
  refine wp_bind_whatever hinv wp_findDeployment fun found s hinv _ hfound => ?_
  cases found with
  | none => exact fun _ _ _ => trivial
  | some d =>
    have hK : Stable S.protocol i fun s => s.lastRead i = some d ∧ s.db.FailureSeen S.premises d :=
      fun h hr hinv => ⟨hr.lastRead.trans h.1, FailureSeen.stable d h.2 hr hinv⟩
    refine wp_bind_whatever hinv (System.wp_findDeploymentTarget hK (hfound d rfl) _)
      fun found s hinv hs htarget => ?_
    cases found with
    | none => exact fun _ _ _ => trivial
    | some target =>
      have hK' : Stable S.protocol i fun s =>
          (s.lastRead i = some d ∧ s.db.FailureSeen S.premises d) ∧
            s.db.findDeploymentTarget d.deploymentTargetId = some target :=
        Stable.and hK (target_stable _ _)
      dsimp only
      split
      · exact fun _ _ _ => trivial
      · next hcluster =>
        split
        · exact fun _ _ _ => trivial
        · refine wp_bind_whatever hinv (System.wp_quiet hK' (uses_query.mpr trivial)
            ⟨hs, htarget target rfl⟩) fun release s hinv hs _ => ?_
          cases release with
          | none => exact fun _ _ _ => trivial
          | some previousRelease =>
            dsimp only
            split
            · exact fun _ _ _ => trivial
            · refine wp_bind_whatever hinv (wp_findTerminalRollbackRetry hK' hinv hs)
                fun terminal s hinv _ hs => ?_
              cases terminal with
              | some result => exact fun _ _ _ => trivial
              | none =>
                obtain ⟨⟨hlast, hrow⟩, hfound⟩ := hs rfl
                exact wp_startRollback input previousRelease (not_not.mp hcluster) hsettings hinv
                  hlast hfound hrow fuel

end DeploymentService

end Docklane.Control
