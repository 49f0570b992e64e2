import Docklane.Control.CallRules

/-!
# The calls of the deployment service

`deploy`, `historicalRedeploy` and the periodic reconciliation keep to the protocol. Under the lock
of its service a call tracks an operation that has not ended, and every status that it writes for
the deployment and the operation belongs together.
-/

namespace Docklane.Control

open Concurrent Concurrent.Program

variable {Tid : Type}

/-! ## Records that were read -/

/-- The record was a row of `deployments`. -/
def Db.DeploymentSeen (db : Db) (d : DeploymentRecord) : Prop :=
  ∃ d' ∈ db.deployments, d.Evolves d'

/-- The operation had not ended, and only the owner of the lock of its service can end it. -/
def Pending (E : Premises) (i : Tid) (o : OperationRecord) (w : World Tid) : Prop :=
  E.clean → w.lock (E.lockOf o) = some i → o.ofDeployment → o.status.isTerminal = false →
    ∃ o' ∈ w.db.operations, o.Evolves o' ∧ o'.status.isTerminal = false

/-- The call holds the lock of the service and tracks an operation of the deployment. -/
def Tracking (E : Premises) (i : Tid) (clusterId serviceId deploymentId operationId : String)
    (type : OperationType) (w : World Tid) : Prop :=
  Knows E i [E.serviceLock clusterId serviceId]
    (fun w => w.db.Tracks clusterId serviceId deploymentId operationId type) w

section Stability

variable {E : Premises} {i : Tid}

theorem DeploymentSeen.stable (d : DeploymentRecord) :
    Stable (controlProtocol E) i fun w => w.db.DeploymentSeen d := by
  intro w w' ⟨d', hd', he⟩ hr _
  obtain ⟨d'', hd'', he', -⟩ := hr.db.deployments d' hd'
  exact ⟨d'', hd'', he.trans he'⟩

theorem Pending.stable (o : OperationRecord) : Stable (controlProtocol E) i (Pending E i o) := by
  intro w w' h hr _ hclean hlock hdep hopen
  obtain ⟨o', ho', he, hopen'⟩ := h hclean (hr.lock_old _ hlock) hdep hopen
  obtain ⟨o'', ho'', he', hsame⟩ := hr.db.operations o' ho'
  have hlockOf : E.lockOf o' = E.lockOf o := by
    simp only [Premises.lockOf, he.clusterId, he.serviceId]
  have hstill := hsame hclean (he.ofDeployment.mpr hdep) (not_not_intro (hlockOf ▸ hlock))
  exact ⟨o'', ho'', he.trans he', hstill.trans hopen'⟩

theorem Tracking.stable (clusterId serviceId deploymentId operationId : String)
    (type : OperationType) :
    Stable (controlProtocol E) i
      (Tracking E i clusterId serviceId deploymentId operationId type) :=
  Knows.stable fun hclean hr _ hlocks =>
    hr.db.tracks hclean (not_not_intro (hlocks _ (List.mem_singleton_self _)))

theorem Tracking.maySettle {clusterId serviceId deploymentId operationId : String}
    {type : OperationType} {w : World Tid}
    (h : Tracking E i clusterId serviceId deploymentId operationId type w)
    (hlive : w.session i ≠ .lost) :
    MaySettle E i clusterId serviceId deploymentId operationId type w :=
  fun hclean => ⟨h.locks hlive _ (List.mem_singleton_self _), h.fact hlive hclean⟩

theorem target_stable (id : String) (t : DeploymentTarget) :
    Stable (controlProtocol E) i fun w => w.db.findDeploymentTarget id = some t :=
  fun h hr _ => hr.db.targets id t h

end Stability

section Tracked

variable {E : Premises} {i : Tid} {w : World Tid} {o : OperationRecord} {d : DeploymentRecord}
  {id clusterId serviceId : String}

theorem Db.Seen.cluster {db : Db} (hkeyed : db.Keyed) (hconsistent : db.Consistent)
    (hseen : db.Seen id o) (hd : db.DeploymentSeen d)
    (hlinked : ∀ d', d.Evolves d' → db.Linked d' id) {t : DeploymentTarget}
    (ht : db.findDeploymentTarget d.deploymentTargetId = some t) : o.clusterId = t.clusterId := by
  obtain ⟨rfl, o', ho', he⟩ := hseen
  obtain ⟨d', hd', hed⟩ := hd
  obtain ⟨t', ht', hon, -⟩ := hconsistent.linked hkeyed hd' ho' (he.id ▸ hlinked d' hed)
  rw [hed.deploymentTargetId, ht] at ht'
  obtain rfl := Option.some.inj ht'
  exact he.clusterId.symm.trans hon.1

/-- An operation that was found open under the lock of its service is tracked. -/
theorem tracking_of_read (hheld : w.Held i (E.serviceLock clusterId serviceId))
    (hpending : Pending E i o w) (hdep : o.ofDeployment) (hopen : o.status.isTerminal = false)
    (hcluster : E.clean → o.clusterId = clusterId) (hservice : o.serviceId = serviceId)
    (hd : w.db.DeploymentSeen d) (hlinked : ∀ d', d.Evolves d' → w.db.Linked d' o.id) :
    Tracking E i clusterId serviceId d.id o.id o.type w := by
  refine ⟨fun name hname => List.mem_singleton.mp hname ▸ hheld, fun hclean hlocks => ?_⟩
  have hlock : w.lock (E.lockOf o) = some i := by
    rw [Premises.lockOf, hcluster hclean, hservice]
    exact hlocks _ (List.mem_singleton_self _)
  obtain ⟨o', ho', he, hopen'⟩ := hpending hclean hlock hdep hopen
  obtain ⟨d', hd', hed⟩ := hd
  exact ⟨o', ho', he.id, hopen', he.clusterId.trans (hcluster hclean),
    he.serviceId.trans hservice, he.type, he.ofDeployment.mpr hdep, d', hd', hed.id,
    hlinked d' hed⟩

theorem Db.createDeployment_tracks {db db' : Db} {operation : OperationInput}
    {input : DeploymentInput} (h : db.createDeployment operation input id = .ok (d, db'))
    (htype : operation.type = .DEPLOY) (hid : operation.id = input.operationId) :
    db'.Tracks operation.clusterId operation.serviceId d.id operation.id .DEPLOY := by
  obtain ⟨-, -, hinput, -, -, -, rfl⟩ := Db.createDeployment_ok h
  exact ⟨operation.started, by simp, rfl, rfl, rfl, rfl, htype, .inl htype, d, by simp, rfl,
    .inl (by rw [hinput, hid])⟩

end Tracked

/-! ## Settlements under the lock -/

/-- What may be written for an operation of this type that goes on. -/
def Settlement.Marks (type : OperationType) (settlement : Settlement) : Prop :=
  settlement.Lawful type ∧ settlement.operation.status.isTerminal = false

theorem deploymentVerdicts_lawful :
    DeploymentVerdicts fun settlement => settlement.Lawful .DEPLOY where
  attention _ _ := ⟨rfl, nofun, fun _ => rfl, fun _ _ => rfl, nofun⟩
  fail _ _ := ⟨rfl, nofun, fun _ => rfl, fun _ _ => rfl, nofun⟩
  verificationPending _ _ := ⟨rfl, nofun, fun _ => rfl, fun _ _ => rfl, nofun⟩
  deployed _ := ⟨rfl, nofun, fun _ => rfl, fun _ _ => rfl, nofun⟩

theorem rollbackVerdicts_lawful :
    RollbackVerdicts fun settlement => settlement.Lawful .ROLLBACK where
  attention _ _ := ⟨rfl, nofun, nofun, nofun, fun _ => rfl⟩
  failed _ _ := ⟨rfl, nofun, nofun, nofun, fun _ => rfl⟩
  verificationPending _ _ := ⟨rfl, nofun, nofun, nofun, fun _ => rfl⟩
  rolledBack _ := ⟨rfl, nofun, nofun, nofun, fun _ => rfl⟩

theorem markVerifying_marks (version : Nat) : (Settlement.markVerifying version).Marks .DEPLOY :=
  ⟨⟨rfl, nofun, fun _ => rfl, fun _ _ => rfl, nofun⟩, rfl⟩

theorem markRollbackVerifying_marks (version : Nat) :
    (Settlement.markRollbackVerifying version).Marks .ROLLBACK :=
  ⟨⟨rfl, nofun, nofun, nofun, fun _ => rfl⟩, rfl⟩

theorem rollbackRejected_lawful {body : String} :
    (Settlement.rollbackRejected body).Lawful .ROLLBACK :=
  ⟨rfl, nofun, nofun, nofun, fun _ => rfl⟩

variable {settlement : Settlement} {settings : Settings}

namespace System

variable [DecidableEq Tid] {S : System Tid} {i : Tid} {w : World Tid}
  {clusterId serviceId deploymentId operationId : String} {type : OperationType}

theorem settle_perform (hinv : Inv S.premises w) (hlawful : settlement.Lawful type)
    (h : Tracking S.premises i clusterId serviceId deploymentId operationId type w)
    {answer : Except Failure (DbOp.settle settlement deploymentId operationId).Reply}
    {w' : World Tid}
    (hstep : StatementStep i (DbOp.settle settlement deploymentId operationId) w answer w') :
    Inv S.premises w' ∧ Guar S.premises i w w' ∧
      (settlement.operation.status.isTerminal = false →
        Tracking S.premises i clusterId serviceId deploymentId operationId type w') := by
  obtain ⟨hinv', hguar, hw⟩ := settle_statement hinv hlawful (fun hlive => h.maySettle hlive) hstep
  refine ⟨hinv', hguar, fun hopen => ?_⟩
  rcases hw with rfl | rfl
  · exact h
  · exact ⟨h.1, fun hclean hlocks => (h.2 hclean hlocks).settled hopen⟩

theorem wp_settle (hmarks : settlement.Marks type)
    (h : Tracking S.premises i clusterId serviceId deploymentId operationId type w) :
    S.wp i (settle settlement deploymentId operationId)
      (Ends (Tracking S.premises i clusterId serviceId deploymentId operationId type)
        fun _ _ => True) w := by
  refine wp_query (Tracking.stable _ _ _ _ _) (Tracking.stable _ _ _ _ _) (fun _ => stable_true)
    (fun s answer s' hinv hs _ hstep => ?_) h
  obtain ⟨hinv', hguar, hopen⟩ := settle_perform hinv hmarks.1 hs hstep
  exact ⟨hinv', hguar, hopen hmarks.2, fun _ _ => trivial⟩

theorem wp_settle_whatever (hlawful : settlement.Lawful type)
    (h : Tracking S.premises i clusterId serviceId deploymentId operationId type w) :
    S.wp i (settle settlement deploymentId operationId)
      (Ends (fun _ => True) fun _ _ => True) w := by
  refine wp_query (Tracking.stable _ _ _ _ _) stable_true (fun _ => stable_true)
    (fun s answer s' hinv hs _ hstep => ?_) h
  obtain ⟨hinv', hguar, -⟩ := settle_perform hinv hlawful hs hstep
  exact ⟨hinv', hguar, trivial, fun _ _ => trivial⟩

/-- A reconciliation writes lawful settlements of the operation that it tracks. -/
theorem wp_reconciles {p : ControlProgram DeploymentRecord}
    (hp : Reconciles (Settlement.Marks type) (Settlement.Lawful · type) deploymentId operationId p)
    (h : Tracking S.premises i clusterId serviceId deploymentId operationId type w) :
    S.wp i p Whatever w := by
  refine wp_whatever (wp_usesUntil (L := fun _ => True) (Tracking.stable _ _ _ _ _) stable_true
    (fun _ _ => trivial) (fun op hop s a s' hinv hs hperf => ?_)
    (fun op hop s a s' hinv hs hperf => ?_) (fun op hop s a s' hinv _ hperf => ?_) hp h)
  · rcases hop with hlooks | ⟨settlement, hmarks, rfl⟩
    · obtain ⟨hinv', hguar, hrely⟩ := ControlOp.Quiet.step hlooks.quiet hinv hperf.2
      exact ⟨hinv', hguar, Tracking.stable _ _ _ _ _ hs hrely hinv'⟩
    · obtain ⟨hinv', hguar, hopen⟩ := settle_perform hinv hmarks.1 hs hperf.2
      exact ⟨hinv', hguar, hopen hmarks.2⟩
  · obtain ⟨settlement, hlawful, rfl⟩ := hop
    obtain ⟨hinv', hguar, -⟩ := settle_perform hinv hlawful hs hperf.2
    exact ⟨hinv', hguar, trivial⟩
  · obtain ⟨id, rfl⟩ := hop
    obtain ⟨hinv', hguar, -⟩ := findDeployment_step hinv hperf.2
    exact ⟨hinv', hguar, trivial⟩

/-! ## Reads -/

variable {K : World Tid → Prop}

theorem wp_findPending (hK : Stable S.protocol i K) (hs : K w) {id : String} :
    S.wp i (findOperation id) (Ends K fun found s => ∀ o, found = some o →
      s.db.Seen id o ∧ Pending S.premises i o s) w := by
  refine wp_read (.findOperation id) (f := fun db => db.findOperation id) trivial
    (fun _ => rfl) hK (fun found => ?_) (fun s hinv hs o ho => ?_) hs
  · intro s s' h hr hinv o ho
    exact ⟨Seen.stable id o (h o ho).1 hr hinv, Pending.stable o (h o ho).2 hr hinv⟩
  · have hid : o.id = id := by simpa using List.find?_some ho
    have hmem := List.mem_of_find?_eq_some ho
    exact ⟨⟨hid, o, hmem, .refl o⟩, fun _ _ _ hopen => ⟨o, hmem, .refl o, hopen⟩⟩

theorem wp_findDeploymentByOperation (hK : Stable S.protocol i K) (hs : K w) {id : String} :
    S.wp i (findDeploymentByOperation id) (Ends K fun found s => ∀ d, found = some d →
      d.operationId = id ∧ s.db.DeploymentSeen d) w := by
  refine wp_read (.findDeploymentByOperation id)
    (f := fun db => db.findDeploymentByOperation id) trivial (fun _ => rfl) hK (fun found => ?_)
    (fun s hinv hs d hd => ?_) hs
  · intro s s' h hr hinv d hd
    exact ⟨(h d hd).1, DeploymentSeen.stable d (h d hd).2 hr hinv⟩
  · exact ⟨by simpa using List.find?_some hd, d, List.mem_of_find?_eq_some hd, .refl d⟩

theorem wp_findDeploymentByRollbackOperation (hK : Stable S.protocol i K) (hs : K w) (id : String) :
    S.wp i (findDeploymentByRollbackOperation id) (Ends K fun found s => ∀ d, found = some d →
      ⟨id, d.id⟩ ∈ s.db.rollbackAttempts ∧ s.db.DeploymentSeen d) w := by
  refine wp_read (.findDeploymentByRollbackOperation id)
    (f := fun db => db.findDeploymentByRollbackOperation id) trivial (fun _ => rfl) hK
    (fun found => ?_) (fun s hinv hs d hd => ?_) hs
  · intro s s' h hr hinv d hd
    exact ⟨hr.db.attempts _ (h d hd).1, DeploymentSeen.stable d (h d hd).2 hr hinv⟩
  · obtain ⟨a, ha, hdep⟩ := Option.bind_eq_some_iff.mp hd
    have hid : d.id = a.deploymentId := by simpa using List.find?_some hdep
    have hop : a.operationId = id := by simpa using List.find?_some ha
    refine ⟨?_, d, List.mem_of_find?_eq_some hdep, .refl d⟩
    rw [hid, ← hop]
    exact List.mem_of_find?_eq_some ha

theorem wp_findDeploymentTarget (hK : Stable S.protocol i K) (hs : K w) (id : String) :
    S.wp i (findDeploymentTarget id) (Ends K fun found s => ∀ t, found = some t →
      s.db.findDeploymentTarget id = some t) w := by
  refine wp_read (.findDeploymentTarget id) (f := fun db => db.findDeploymentTarget id)
    trivial (fun _ => rfl) hK (fun found => ?_) (fun s hinv hs t ht => ht) hs
  intro s s' h hr hinv t ht
  exact target_stable id t (h t ht) hr hinv

end System

variable {kind : DeploymentKind} {fuel : Nat}

namespace DeploymentService

variable [DecidableEq Tid] {S : System Tid} {i : Tid} {w : World Tid} {K : World Tid → Prop}

/-! ## Checks -/

theorem wp_mapped {α : Type} {p : ControlProgram α} {R : α → World Tid → Prop}
    (hinv : Inv S.premises w) (hK : Stable S.protocol i K) (hR : ∀ a, Stable S.protocol i (R a))
    (h : S.wp i p (Ends K R) w) {fallback : String} : S.wp i (mapped p fallback) (Ends K R) w :=
  wp_rethrow hinv hK hR h

theorem wp_inspect (hinv : Inv S.premises w) (hK : Stable S.protocol i K) (hs : K w)
    (ref fallback : String) :
    S.wp i (mapped (inspectService ref) fallback)
      (Ends K fun reply _ => KnownService S.docker reply.service.id ∧
        (S.premises.clean → KnownService S.docker ref → reply.service.id = ref)) w := by
  refine wp_mapped hinv hK (fun reply => ?_) (System.wp_inspectService hK hs ref)
  exact fun h _ _ => h

theorem wp_requireOperation (hK : Stable S.protocol i K) (hinv : Inv S.premises w) (hs : K w)
    {id : String} : S.wp i (requireOperation id) (Ends K fun o s => s.db.Seen id o) w := by
  refine wp_bind_ends hinv hK (fun _ h => h) (System.wp_findOperation hK hs)
    fun found s _ hs hfound => ?_
  cases found with
  | none => exact wp_throw_ends hK hs
  | some o => exact wp_pure_ends hK (Seen.stable id o) hs (hfound o rfl)

theorem wp_assertServiceFree {clusterId serviceId : String} (hK : Stable S.protocol i K)
    (hheld : ∀ s, K s → s.Held i (S.premises.serviceLock clusterId serviceId))
    (hinv : Inv S.premises w) (hs : K w) :
    S.wp i (assertServiceFree clusterId serviceId)
      (Ends K fun _ => Ready S.premises i clusterId serviceId) w := by
  refine wp_bind_ends hinv hK (fun _ h => h) (System.wp_findNonTerminalForService hK hheld hs)
    fun found s hinv hs hfound => ?_
  cases found with
  | some prior => exact wp_throw_ends hK hs
  | none =>
    have hstable : Stable S.protocol i fun s => K s ∧
        Knows S.premises i [S.premises.serviceLock clusterId serviceId]
          (fun w => w.db.Free clusterId serviceId) s := hK.and (Free.stable clusterId serviceId)
    refine wp_bind_ends hinv hK (fun _ h => h.1) (System.wp_findNonTerminalAffectingService hstable
      (fun s hs => hheld s hs.1) ⟨hs, hfound⟩) fun found s hinv hs hnone => ?_
    cases found with
    | some nodeOperation => exact wp_throw_ends hK hs.1
    | none => exact wp_pure_ends hK (Ready.stable clusterId serviceId) hs.1 ⟨hs.2, hnone rfl⟩

/-! ## Deploy -/

/-- What a call knows under the lock of its target before it records an intent. -/
structure Prepared (E : Premises) (i : Tid) (clusterId targetId : String)
    (target : DeploymentTarget) (w : World Tid) : Prop where
  ready : Ready E i clusterId target.dockerServiceId w
  target : w.db.findDeploymentTarget targetId = some target
  admitted : Admitted E i clusterId w

omit [DecidableEq Tid] in
theorem Prepared.stable (clusterId targetId : String) (target : DeploymentTarget) :
    Stable S.protocol i (Prepared S.premises i clusterId targetId target) :=
  fun h hr hinv => ⟨Ready.stable _ _ h.ready hr hinv, target_stable _ _ h.target hr hinv,
    Admitted.stable _ h.admitted hr hinv⟩

section Deploy

variable {clusterId targetId : String} {target : DeploymentTarget}
  (hcluster : target.clusterId = clusterId) (input : DeployRequest)

include hcluster

theorem wp_persistDeployment (hinv : Inv S.premises w)
    (hs : Prepared S.premises i clusterId targetId target w) {source : Option String}
    {targetImage : String} {before : ServiceDetailResponse} {plan : ServiceMutationPlan}
    (hplan : S.premises.clean → plan.serviceId = target.dockerServiceId) :
    S.wp i (persistDeployment clusterId targetId target input kind source targetImage before plan)
      (Ends (fun _ => True) fun persisted s => Unsent i (.service, input.operationId) s ∧
        Tracking S.premises i clusterId target.dockerServiceId persisted.deployment.id
          input.operationId .DEPLOY s) w := by
  have hK : Stable S.protocol i (Prepared S.premises i clusterId targetId target) :=
    Prepared.stable _ _ _
  have hcapacity : Program.Uses ControlOp.Looks
      (if plan.beforeSpecHash = plan.targetSpecHash then .pure ()
        else assertAvailable target.dockerServiceId
          ⟨plan.version, before.service.desiredReplicas, true⟩) := by
    split
    · exact uses_pure
    · exact assertAvailable_looks
  refine wp_bind_returns hinv (System.wp_looks hK hcapacity hs) fun _ s hinv hs _ => ?_
  refine wp_bind_returns hinv (System.wp_randomUUID hK hs) fun id s hinv hs _ => ?_
  refine wp_bind_returns hinv (System.wp_intent
    (R := fun (d : (DbOp.createDeployment _ _ _).Reply) s =>
      Tracking S.premises i clusterId target.dockerServiceId d.id input.operationId .DEPLOY s)
    rfl (fun _ _ => rfl) (fun db reply db' hexec => ?_) hK (fun _ => Tracking.stable _ _ _ _ _)
    (fun _ h => h.admitted) (fun s reply db' hinv hs hlive hexec => ?_)
    (fun s reply db' hinv hs hexec => ?_) hs) fun d s _ _ h => ?_
  · obtain ⟨hfresh, -, -, -, -, -, rfl⟩ := Db.createDeployment_ok hexec
    exact ⟨fun ⟨o, ho, hid⟩ => hfresh o ho hid,
      (deployOperation input clusterId targetImage plan before).started, by simp, rfl⟩
  · exact createDeployment_inserts hinv (hs.ready.mayOperate hlive hplan) rfl rfl hs.target
      (fun hclean => ⟨hcluster.symm, hplan hclean⟩) hexec
  · refine ⟨hs.ready.1.1, fun hclean _ => ?_⟩
    rw [← hplan hclean]
    exact Db.createDeployment_tracks hexec rfl rfl
  · exact wp_pure_ends stable_true (Stable.and (Unsent.stable _) (Tracking.stable _ _ _ _ _))
      trivial h

theorem wp_planDeployment (hinv : Inv S.premises w)
    (hs : Prepared S.premises i clusterId targetId target w) (release : Release)
    (kind : DeploymentKind) (source : Option String) :
    S.wp i (planDeployment clusterId targetId target release input kind source)
      (Ends (fun _ => True) fun persisted s => Unsent i (.service, input.operationId) s ∧
        Tracking S.premises i clusterId target.dockerServiceId persisted.deployment.id
          input.operationId .DEPLOY s) w := by
  have hK : Stable S.protocol i (Prepared S.premises i clusterId targetId target) :=
    Prepared.stable _ _ _
  refine wp_bind_returns hinv (wp_inspect hinv hK hs _ _) fun resolved s hinv hs hfound => ?_
  split
  · next hresolves =>
    have hid : resolved.service.id = target.dockerServiceId := by
      simp only [resolvesToTarget, Bool.and_eq_true, decide_eq_true_eq] at hresolves
      exact hresolves.1
    refine wp_bind_returns hinv (wp_inspect hinv hK hs _ _) fun before s hinv hs _ => ?_
    have hplanned : S.wp i (askAgent (.planUpdateServiceImage target.dockerServiceId
        before.service.version (dockerImageReference release.imageRepository release.imageDigest)))
        (Ends (Prepared S.premises i clusterId targetId target)
          fun (plan : ServiceMutationPlan) _ => S.premises.clean →
            plan.serviceId = target.dockerServiceId) s :=
      System.wp_plan hK (hid ▸ hfound.1) hs fun _ plan h => ⟨plan, h, rfl⟩
    refine wp_bind_returns hinv
      (wp_mapped hinv hK (fun _ => ?_) hplanned) fun plan s hinv hs hplan => ?_
    · exact fun h _ _ => h
    · change S.wp i (if _ then _ else _) _ s
      split
      · exact wp_persistDeployment hcluster input hinv hs hplan
      · exact wp_throw_ends stable_true trivial
  · exact wp_throw_ends stable_true trivial

omit hcluster in
/-- The rest of a deployment: a settlement at a time, of the operation that is tracked. -/
theorem wp_executeDeployment (hinv : Inv S.premises w) {serviceId : String}
    {persisted : PersistedDeployment} (hunsent : Unsent i (.service, input.operationId) w)
    (hs : Tracking S.premises i clusterId serviceId persisted.deployment.id input.operationId
      .DEPLOY w) (settings : Settings) (admission : Option ActiveAdmission)
    (target : DeploymentTarget) (release : Release) (fuel : Nat) :
    S.wp i (executeDeployment settings admission target release input persisted fuel)
      Whatever w := by
  have hK : Stable S.protocol i (Tracking S.premises i clusterId serviceId persisted.deployment.id
      input.operationId .DEPLOY) := Tracking.stable _ _ _ _ _
  have hverify (noOp : Bool) (version : Nat) {s : World Tid} (hinv : Inv S.premises s)
      (hs : Tracking S.premises i clusterId serviceId persisted.deployment.id input.operationId
        .DEPLOY s) :
      S.wp i ((settle (.markVerifying version) persisted.deployment.id input.operationId).bind
        fun _ => verifyAndComplete persisted.deployment.id input.operationId persisted.plan
          release.imageDigest noOp input.health fuel) Whatever s :=
    wp_bind_whatever hinv (System.wp_settle (markVerifying_marks version) hs) fun _ _ _ hs _ =>
      System.wp_reconciles (verifyAndComplete_ends deploymentVerdicts_lawful).reconciles hs
  unfold executeDeployment
  dsimp only
  split
  · exact hverify true _ hinv hs
  · refine wp_bind_whatever hinv (wp_attempt_ends (System.wp_dispatch hK (fun _ _ h => h) hs
      hunsent)) fun outcome s hinv hs _ => ?_
    cases outcome with
    | error e =>
      dsimp only
      split
      · exact wp_bind_whatever hinv (System.wp_settle_whatever
          (deploymentVerdicts_lawful.fail _ _) hs) fun _ _ _ _ _ => fun _ _ _ => trivial
      · refine wp_bind_whatever hinv (wp_requireOperation hK hinv hs)
          fun operation s hinv hs hseen => ?_
        exact System.wp_reconciles (hseen.1 ▸ reconcileLocked_reconciles deploymentVerdicts_lawful
          markVerifying_marks) hs
    | ok accepted =>
      dsimp only
      split
      · exact hverify false _ hinv hs
      · exact System.wp_reconciles (conclude_until (deploymentVerdicts_lawful.attention _ _)) hs

theorem wp_resumeDeployment (hinv : Inv S.premises w)
    (htarget : w.db.findDeploymentTarget targetId = some target)
    (hheld : w.Held i (S.premises.serviceLock clusterId target.dockerServiceId))
    {existing : OperationRecord} (hseen : w.db.Seen input.operationId existing)
    (hpending : Pending S.premises i existing w) :
    S.wp i (resumeDeployment targetId target input kind existing fuel) Whatever w := by
  let K : World Tid → Prop := fun s =>
    (s.db.findDeploymentTarget targetId = some target ∧
      s.Held i (S.premises.serviceLock clusterId target.dockerServiceId)) ∧
    s.db.Seen input.operationId existing ∧ Pending S.premises i existing s
  have hK : Stable S.protocol i K := by
    rintro s s' ⟨⟨htarget, hheld⟩, hseen, hpending⟩ hr hinv
    exact ⟨⟨target_stable _ _ htarget hr hinv, Held.stable _ hheld hr hinv⟩,
      Seen.stable _ _ hseen hr hinv, Pending.stable _ hpending hr hinv⟩
  unfold resumeDeployment
  split
  · next hsame =>
    simp only [sameMutation, Bool.and_eq_true, decide_eq_true_eq] at hsame
    obtain ⟨⟨htype, -⟩, hservice⟩ := hsame
    refine wp_bind_whatever hinv (System.wp_findDeploymentByOperation hK
      ⟨⟨htarget, hheld⟩, hseen, hpending⟩) fun found s hinv hs hfound => ?_
    cases found with
    | none => exact fun _ _ _ => trivial
    | some d =>
      dsimp only
      split
      · next hd =>
        split
        · exact fun _ _ _ => trivial
        · next hopen =>
          obtain ⟨hoperation, hdseen⟩ := hfound d rfl
          obtain ⟨⟨htarget, hheld⟩, hseen, hpending⟩ := hs
          have hlinked : ∀ d', d.Evolves d' → s.db.Linked d' existing.id := fun d' he =>
            .inl (he.operationId.trans (hoperation.trans hseen.1.symm))
          have hdtarget : d.deploymentTargetId = targetId := by
            simp only [sameDeployment, Bool.and_eq_true, decide_eq_true_eq] at hd
            exact hd.1.1.1.1.2
          have htracking := tracking_of_read hheld hpending (.inl htype) (by simpa using hopen)
            (fun hclean => (hseen.cluster hinv.keyed (hinv.consistent hclean) hdseen
              (hseen.1 ▸ hlinked) (hdtarget ▸ htarget)).trans hcluster) hservice hdseen hlinked
          rw [htype] at htracking
          exact System.wp_reconciles (reconcileLocked_reconciles deploymentVerdicts_lawful
            markVerifying_marks) htracking
      · exact fun _ _ _ => trivial
  · exact fun _ _ _ => trivial

theorem wp_deployLocked (hinv : Inv S.premises w)
    (htarget : w.db.findDeploymentTarget targetId = some target)
    (hheld : w.Held i (S.premises.serviceLock clusterId target.dockerServiceId))
    (hadmitted : Admitted S.premises i clusterId w) {settings : Settings} {release : Release}
    {admission : Option ActiveAdmission} :
    S.wp i (deployLocked settings clusterId targetId target release input kind fuel admission)
      Whatever w := by
  let K : World Tid → Prop := fun s =>
    (s.db.findDeploymentTarget targetId = some target ∧ Admitted S.premises i clusterId s) ∧
      s.Held i (S.premises.serviceLock clusterId target.dockerServiceId)
  have hK : Stable S.protocol i K := by
    rintro s s' ⟨⟨htarget, hadmitted⟩, hheld⟩ hr hinv
    exact ⟨⟨target_stable _ _ htarget hr hinv, Admitted.stable _ hadmitted hr hinv⟩,
      Held.stable _ hheld hr hinv⟩
  refine wp_bind_whatever hinv (System.wp_findPending hK ⟨⟨htarget, hadmitted⟩, hheld⟩)
    fun found s hinv hs hfound => ?_
  cases found with
  | some existing =>
    obtain ⟨hseen, hpending⟩ := hfound existing rfl
    exact wp_resumeDeployment hcluster input hinv hs.1.1 hs.2 hseen hpending
  | none =>
    refine wp_bind_whatever hinv (System.wp_looks hK selectSource_looks hs)
      fun source s hinv hs _ => ?_
    refine wp_bind_whatever hinv (wp_assertServiceFree hK (fun _ h => h.2) hinv hs)
      fun _ s hinv hs hready => ?_
    exact wp_bind_whatever hinv (wp_planDeployment hcluster input hinv ⟨hready, hs.1.1, hs.1.2⟩
      release kind source) fun persisted s hinv _ h =>
        wp_executeDeployment input hinv h.1 h.2 settings admission target release fuel

end Deploy

theorem wp_deployRelease (hsettings : settings ∈ S.settings) (hinv : Inv S.premises w)
    {clusterId targetId : String} {input : DeployRequest} :
    S.wp i (deployRelease settings clusterId targetId input kind fuel) Whatever w := by
  refine wp_bind_whatever hinv (System.wp_findDeploymentTarget (K := fun _ => True) stable_true
    trivial targetId) fun found s hinv _ hfound => ?_
  cases found with
  | none => exact fun _ _ _ => trivial
  | some target =>
    have hK : Stable S.protocol i fun s => s.db.findDeploymentTarget targetId = some target :=
      target_stable targetId target
    dsimp only
    split
    · exact fun _ _ _ => trivial
    · next hcluster =>
      refine wp_bind_whatever hinv (System.wp_quiet hK (uses_query.mpr trivial) (hfound target rfl))
        fun release s hinv hs _ => ?_
      cases release with
      | none => exact fun _ _ _ => trivial
      | some release =>
        dsimp only
        split
        · exact fun _ _ _ => trivial
        · exact System.wp_withServiceLock hsettings hinv hK (fun _ _ _ h => h) (fun _ _ _ h => h) hs
            (fun active => deployLocked_asks (fun _ => ControlOp.Works.mutates)
              (fun _ _ _ _ _ => trivial))
            fun active s hinv hs hheld hadmitted =>
              wp_deployLocked (not_not.mp hcluster) input hinv hs hheld hadmitted
                
theorem wp_unlessTerminal {p : ControlProgram DeploymentRecord} {terminal}
    (hinv : Inv S.premises w) (hterminal : Program.Uses ControlOp.Looks terminal)
    (hp : ∀ s, Inv S.premises s → S.wp i p Whatever s) :
    S.wp i (terminal.bind fun found => match found with
      | some deployment => .pure deployment
      | none => p) Whatever w := by
  refine wp_bind_whatever hinv (System.wp_looks (K := fun _ => True) stable_true hterminal trivial)
    fun found s hinv _ _ => ?_
  cases found with
  | some d => exact fun _ _ _ => trivial
  | none => exact hp s hinv

theorem findTerminalDeploymentRetry_looks (clusterId targetId : String) (input : DeployRequest)
    (kind : DeploymentKind) :
    (findTerminalDeploymentRetry clusterId targetId input kind).Uses ControlOp.Looks := by
  refine Uses.bind (uses_query.mpr trivial) fun found => ?_
  split
  · exact uses_pure
  · split
    · exact uses_pure
    · refine Uses.bind (uses_query.mpr trivial) fun found => ?_
      dsimp only
      split
      · exact uses_throw
      · split
        · exact uses_pure
        · exact uses_throw

theorem wp_deploy (hsettings : settings ∈ S.settings) (hinv : Inv S.premises w)
    {clusterId targetId : String} {input : DeployRequest} :
    S.wp i (deploy settings clusterId targetId input fuel) Whatever w :=
  wp_unlessTerminal hinv (findTerminalDeploymentRetry_looks _ _ _ _) fun _ hinv =>
    wp_deployRelease hsettings hinv

theorem wp_historicalRedeploy (hsettings : settings ∈ S.settings) (hinv : Inv S.premises w)
    {clusterId targetId : String} {input : DeployRequest} :
    S.wp i (historicalRedeploy settings clusterId targetId input fuel) Whatever w := by
  have hK : Stable S.protocol i fun _ => True := stable_true
  refine wp_bind_whatever hinv (System.wp_quiet hK (uses_query.mpr trivial) trivial)
    fun found s hinv _ _ => ?_
  cases found with
  | none => exact fun _ _ _ => trivial
  | some target =>
    dsimp only
    split
    · exact fun _ _ _ => trivial
    · refine wp_bind_whatever hinv (System.wp_quiet hK (uses_query.mpr trivial) trivial)
        fun release s hinv _ _ => ?_
      cases release with
      | none => exact fun _ _ _ => trivial
      | some release =>
        dsimp only
        split
        · exact fun _ _ _ => trivial
        · exact wp_unlessTerminal hinv (findTerminalDeploymentRetry_looks _ _ _ _) fun _ hinv =>
            wp_deployRelease hsettings hinv

/-! ## Periodic reconciliation -/

theorem wp_reconcileCurrent (hinv : Inv S.premises w) {current : OperationRecord}
    (hreconciles : reconciles current = true)
    (hheld : w.Held i (S.premises.serviceLock current.clusterId current.serviceId))
    (hpending : Pending S.premises i current w) :
    S.wp i (reconcileCurrent current fuel) Whatever w := by
  have hK : Stable S.protocol i fun s =>
      s.Held i (S.premises.serviceLock current.clusterId current.serviceId) ∧
        Pending S.premises i current s :=
    Stable.and (Held.stable _) (Pending.stable _)
  simp only [reconciles, Bool.and_eq_true, Bool.or_eq_true, decide_eq_true_eq] at hreconciles
  obtain ⟨⟨htypes, hopen⟩, -⟩ := hreconciles
  unfold reconcileCurrent
  split
  · next htype =>
    refine wp_bind_whatever hinv (System.wp_findDeploymentByRollbackOperation hK
      ⟨hheld, hpending⟩ _) fun found s hinv hs hfound => ?_
    cases found with
    | none => exact fun _ _ _ => trivial
    | some d =>
      obtain ⟨hattempt, hdseen⟩ := hfound d rfl
      have htracking := tracking_of_read hs.1 hs.2 htypes hopen (fun _ => rfl) rfl hdseen
        fun d' he => .inr (he.id.symm ▸ hattempt)
      rw [htype] at htracking
      exact wp_bind hinv (wp_mono (System.wp_reconciles (reconcileRollbackLocked_reconciles
        rollbackVerdicts_lawful markRollbackVerifying_marks) htracking)
        fun r _ _ _ => by cases r <;> exact fun _ _ _ => trivial)
  · next hne =>
    have htype := htypes.resolve_right hne
    refine wp_bind_whatever hinv (System.wp_findDeploymentByOperation hK ⟨hheld, hpending⟩)
      fun found s hinv hs hfound => ?_
    cases found with
    | none => exact fun _ _ _ => trivial
    | some d =>
      obtain ⟨hoperation, hdseen⟩ := hfound d rfl
      have htracking := tracking_of_read hs.1 hs.2 htypes hopen (fun _ => rfl) rfl hdseen
        fun d' he => .inl (he.operationId.trans hoperation)
      rw [htype] at htracking
      exact wp_bind hinv (wp_mono (System.wp_reconciles (reconcileLocked_reconciles
        deploymentVerdicts_lawful markVerifying_marks) htracking)
        fun r _ _ _ => by cases r <;> exact fun _ _ _ => trivial)

theorem wp_reconcileOperation (hsettings : settings ∈ S.settings) (hinv : Inv S.premises w)
    {operation : OperationRecord} (hseen : w.db.Seen operation.id operation) (fuel : Nat) :
    S.wp i (reconcileOperation settings operation fuel) Whatever w := by
  have hK : Stable S.protocol i fun s => s.db.Seen operation.id operation := Seen.stable _ _
  refine wp_bind hinv (wp_attempt (wp_mono (System.wp_withServiceRecoveryLock hsettings hinv hK
    (fun _ _ _ h => h) hseen fun s hinv hs hheld => ?_) fun r _ _ _ => fun _ _ _ => trivial))
  have hK' : Stable S.protocol i fun s => s.db.Seen operation.id operation ∧
      s.Held i (S.premises.serviceLock operation.clusterId operation.serviceId) :=
    Stable.and (Seen.stable _ _) (Held.stable _)
  refine wp_bind_whatever hinv (System.wp_findPending hK' ⟨hs, hheld⟩)
    fun found s hinv hs hfound => ?_
  cases found with
  | none => exact fun _ _ _ => trivial
  | some current =>
    dsimp only
    split
    · next hreconciles =>
      obtain ⟨hcurrent, hpending⟩ := hfound current rfl
      obtain ⟨hcluster, hservice⟩ := hs.1.same hinv.keyed hcurrent
      exact wp_reconcileCurrent hinv hreconciles (hcluster ▸ hservice ▸ hs.2) hpending
    · exact fun _ _ _ => trivial

/-- The operations in the list were rows. -/
def Listed (operations : List OperationRecord) (w : World Tid) : Prop :=
  ∀ o ∈ operations, w.db.Seen o.id o

omit [DecidableEq Tid] in
theorem Listed.stable (operations : List OperationRecord) :
    Stable S.protocol i (Listed operations) :=
  fun h hr hinv o ho => Seen.stable o.id o (h o ho) hr hinv

theorem wp_reconcileOperations (hsettings : settings ∈ S.settings)
    {operations : List OperationRecord} (hinv : Inv S.premises w) (hs : Listed operations w) :
    S.wp i (reconcileOperations settings fuel operations) Whatever w := by
  induction operations generalizing w with
  | nil => exact fun _ _ _ => trivial
  | cons operation rest ih =>
    have hrest : Listed rest w := fun o ho => hs o (List.mem_cons_of_mem _ ho)
    rw [reconcileOperations]
    split
    · have hreconcile := wp_frame (Listed.stable rest)
        (fun s s' h hg o ho => Seen.guar (h o ho) hg)
        (wp_reconcileOperation (S := S) (i := i) hsettings hinv (hs operation List.mem_cons_self)
          fuel) hrest
      refine wp_bind hinv (wp_mono hreconcile fun r s hinv h => ?_)
      cases r with
      | ok _ => exact ih hinv h.2
      | error e => exact fun _ _ _ => trivial
    · exact ih hinv hrest

theorem wp_reconcilePendingDeployments (hsettings : settings ∈ S.settings)
    (hinv : Inv S.premises w) :
    S.wp i (reconcilePendingDeployments settings fuel) Whatever w := by
  refine wp_bind_whatever hinv (System.wp_read .listNonTerminal
    (f := fun db => db.nonTerminalOperations) (R := Listed) (K := fun _ => True) trivial
    (fun _ => rfl) stable_true Listed.stable (fun s _ _ o ho => ?_) trivial)
    fun operations s hinv _ hs => wp_reconcileOperations hsettings hinv hs
  exact ⟨rfl, o, (List.mem_filter.mp ho).1, .refl o⟩

end DeploymentService

end Docklane.Control
