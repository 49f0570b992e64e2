import Docklane.Control.LockRules

/-!
# Rules for the statements of the calls

The records that a call has read stay true of the rows as far as rows are immutable; what it has
found out about a service stays true as long as it holds the lock of the service. An intent turns
that knowledge into a row of its own, and a dispatch turns the row into one request.
-/

namespace Docklane.Control

open Concurrent Concurrent.Program

variable {Tid : Type}

/-! ## Records that were read -/

/-- The record was the row with this id in `operations`. -/
def Db.Seen (db : Db) (id : String) (o : OperationRecord) : Prop :=
  o.id = id ∧ ∃ o' ∈ db.operations, o.Evolves o'

/-- An assertion that does not look at the requests that were sent. -/
def IgnoresSent (K : World Tid → Prop) : Prop :=
  ∀ w sent, K w → K { w with sent := sent }

variable {id : String} {o : OperationRecord} {db : Db} {docker : Set Swarm} {swarm : Swarm}

section Stability

variable {E : Premises} {i : Tid}

theorem Seen.stable (id : String) (o : OperationRecord) :
    Stable (controlProtocol E) i fun w => w.db.Seen id o := by
  intro w w' h hr _
  obtain ⟨hid, o', ho', he⟩ := h
  obtain ⟨o'', ho'', he', -⟩ := hr.db.operations o' ho'
  exact ⟨hid, o'', ho'', he.trans he'⟩

theorem Plain.stable (id : String) : Stable (controlProtocol E) i fun w => w.db.Plain id := by
  intro w w' h hr _
  obtain ⟨o, ho, hid, hplain⟩ := h
  obtain ⟨o', ho', he, -⟩ := hr.db.operations o ho
  exact ⟨o', ho', he.id.trans hid, he.ofDeployment.not.mpr hplain⟩

theorem Seen.guar {w w' : World Tid} (h : w.db.Seen id o) (hg : Guar E i w w') :
    w'.db.Seen id o := by
  obtain ⟨hid, o', ho', he⟩ := h
  obtain ⟨o'', ho'', he', -⟩ := hg.db.operations o' ho'
  exact ⟨hid, o'', ho'', he.trans he'⟩

/-- The calls do not change the type of a row, either. -/
theorem Plain.guar {w w' : World Tid} (h : w.db.Plain id) (hg : Guar E i w w') :
    w'.db.Plain id := by
  obtain ⟨o, ho, hid, hplain⟩ := h
  obtain ⟨o', ho', he, -⟩ := hg.db.operations o ho
  exact ⟨o', ho', he.id.trans hid, he.ofDeployment.not.mpr hplain⟩

/-- What nobody else can do to a service whose lock is held. -/
theorem Free.stable (clusterId serviceId : String) :
    Stable (controlProtocol E) i
      (Knows E i [E.serviceLock clusterId serviceId] fun w => w.db.Free clusterId serviceId) :=
  Knows.stable fun hclean hr _ hlocks =>
    hr.db.free hclean (not_not_intro (hlocks _ (List.mem_singleton_self _)))

theorem FreeBut.stable (clusterId serviceId operationId : String) :
    Stable (controlProtocol E) i (Knows E i [E.serviceLock clusterId serviceId]
      fun w => w.db.FreeBut clusterId serviceId operationId) :=
  Knows.stable fun hclean hr _ hlocks =>
    hr.db.freeBut hclean (not_not_intro (hlocks _ (List.mem_singleton_self _)))

theorem Unaffected.stable (clusterId serviceId : String) :
    Stable (controlProtocol E) i
      (Knows E i [E.serviceLock clusterId serviceId] fun w =>
        w.db.Unaffected clusterId serviceId) :=
  Knows.stable fun hclean hr _ hlocks =>
    hr.db.unaffected hclean (not_not_intro (hlocks _ (List.mem_singleton_self _)))

end Stability

theorem Db.Seen.same (hkeyed : db.Keyed) {o p : OperationRecord} (ho : db.Seen id o)
    (hp : db.Seen id p) : o.clusterId = p.clusterId ∧ o.serviceId = p.serviceId := by
  obtain ⟨hoid, o', ho', heo⟩ := ho
  obtain ⟨hpid, p', hp', hep⟩ := hp
  have hid : o'.id = p'.id := by rw [heo.id, hoid, hep.id, hpid]
  obtain rfl := List.inj_on_of_nodup_map hkeyed.operations ho' hp' hid
  exact ⟨heo.clusterId.symm.trans hep.clusterId, heo.serviceId.symm.trans hep.serviceId⟩

theorem Db.Seen.plain (h : db.Seen id o) (hplain : ¬ o.ofDeployment) : db.Plain id := by
  obtain ⟨rfl, o', ho', he⟩ := h
  exact ⟨o', ho', he.id, he.ofDeployment.not.mpr hplain⟩

/-- The service is free once the one operation that was unresolved has ended. -/
theorem Db.FreeBut.free {clusterId serviceId operationId : String}
    (h : db.FreeBut clusterId serviceId operationId) (hkeyed : db.Keyed)
    (hseen : db.Seen operationId o) (hterminal : o.status.isTerminal = true) :
    db.Free clusterId serviceId := by
  intro p hp hcluster hservice
  by_contra hopen
  obtain ⟨hid, o', ho', he⟩ := hseen
  have hpid := h p hp hcluster hservice (by simpa using hopen)
  obtain rfl := List.inj_on_of_nodup_map hkeyed.operations hp ho' (by rw [hpid, he.id, hid])
  exact hopen (he.isTerminal hterminal)

/-! ## Names -/

/-- Some state of the Swarm has a service with this id. -/
def KnownService (docker : Set Swarm) (id : String) : Prop :=
  ∃ swarm ∈ docker, ∃ s ∈ swarm.services, s.id = id

theorem KnownService.of_service (hswarm : swarm ∈ docker) {ref : String} {s : ServiceSummary}
    (h : swarm.service ref = some s) : KnownService docker s.id :=
  ⟨swarm, hswarm, s, List.mem_of_find?_eq_some h, rfl⟩

theorem NoAlias.plans (h : NoAlias docker) (hknown : KnownService docker id)
    (hswarm : swarm ∈ docker) {version : Nat} {plan : ServiceMutationPlan}
    (hplans : swarm.Plans id version plan) : plan.serviceId = id := by
  obtain ⟨s, hs, hid, -⟩ := hplans
  rw [hid]
  rcases Option.or_eq_some_iff.mp hs with hs | ⟨-, hs⟩
  · simpa using List.find?_some hs
  · obtain ⟨swarm', hswarm', s', hs', rfl⟩ := hknown
    have hname : s.name = s'.id := by simpa using List.find?_some hs
    exact h.services swarm hswarm swarm' hswarm' s (List.mem_of_find?_eq_some hs) s' hs' hname

theorem NoAlias.service (h : NoAlias docker) (hknown : KnownService docker id)
    (hswarm : swarm ∈ docker) {s : ServiceSummary} (hs : swarm.service id = some s) :
    s.id = id := by
  have hmatch : s.id = id ∨ s.name = id := by simpa using List.find?_some hs
  rcases hmatch with hmatch | hmatch
  · exact hmatch
  · obtain ⟨swarm', hswarm', s', hs', rfl⟩ := hknown
    exact h.services swarm hswarm swarm' hswarm' s (List.mem_of_find?_eq_some hs) s' hs' hmatch

/-! ## A service that is ready for an operation -/

/-- The call has found no unresolved operation on the service. -/
def Ready (E : Premises) (i : Tid) (clusterId serviceId : String) (w : World Tid) : Prop :=
  Knows E i [E.serviceLock clusterId serviceId] (fun w => w.db.Free clusterId serviceId) w ∧
    Knows E i [E.serviceLock clusterId serviceId] (fun w => w.db.Unaffected clusterId serviceId) w

theorem Ready.stable {E : Premises} {i : Tid} (clusterId serviceId : String) :
    Stable (controlProtocol E) i (Ready E i clusterId serviceId) :=
  Stable.and (Free.stable clusterId serviceId) (Unaffected.stable clusterId serviceId)

theorem Ready.mayOperate {E : Premises} {i : Tid} {clusterId serviceId serviceId' : String}
    {w : World Tid} (h : Ready E i clusterId serviceId w) (hlive : w.session i ≠ .lost)
    (hid : E.clean → serviceId' = serviceId) : MayOperate E i clusterId serviceId' w := by
  intro hclean
  rw [hid hclean]
  exact ⟨h.1.locks hlive _ (List.mem_singleton_self _), h.1.fact hlive hclean,
    h.2.fact hlive hclean⟩

namespace System

variable [DecidableEq Tid] {S : System Tid} {i : Tid} {w : World Tid} {K : World Tid → Prop}

/-! ## Rules for the lock of a service -/

section ServiceLock

variable {settings : Settings} (hsettings : settings ∈ S.settings) {clusterId serviceId : String}
  {α : Type} (hinv : Inv S.premises w)

include hsettings hinv

theorem wp_withServiceLock {fn : Option ActiveAdmission → ControlProgram α}
    (hK : Stable S.protocol i K) (hlocks : IgnoresLocks K) (hadmissions : IgnoresAdmissions K)
    (hs : K w) (hasks : ∀ active, Asks settings ControlOp.Mutates (fn active))
    (hfn : ∀ active s, Inv S.premises s → K s →
      s.Held i (S.premises.serviceLock clusterId serviceId) →
      Admitted S.premises i clusterId s → S.wp i (fn active) Whatever s) :
    S.wp i (withServiceLock settings clusterId serviceId fn) Whatever w :=
  wp_withCallLocks hsettings hK hlocks protected_trivial hadmissions hinv hs hasks
    fun active s hinv hs hgranted hadmitted => hfn active s hinv hs
      ((hgranted _ (List.mem_singleton_self _)).1 _ (List.mem_singleton_self _)) hadmitted

theorem wp_withServiceRecoveryLock {fn : ControlProgram α} (hK : Stable S.protocol i K)
    (hlocks : IgnoresLocks K) (hs : K w) (hfn : ∀ s, Inv S.premises s → K s →
      s.Held i (S.premises.serviceLock clusterId serviceId) → S.wp i fn Whatever s) :
    S.wp i (withServiceRecoveryLock settings clusterId serviceId fn) Whatever w :=
  wp_withRecoveryLocks hsettings hK hlocks protected_trivial hinv hs fun s hinv hs hgranted =>
    hfn s hinv hs ((hgranted _ (List.mem_singleton_self _)).1 _ (List.mem_singleton_self _))

end ServiceLock

/-! ## Rules for single statements -/

theorem wp_findOperation (hK : Stable S.protocol i K) (hs : K w) {id : String} :
    S.wp i (findOperation id)
      (Ends K fun found s => ∀ o, found = some o → s.db.Seen id o) w := by
  refine wp_read (.findOperation id) (f := fun db => db.findOperation id) trivial
    (fun _ => rfl) hK (fun found => ?_) (fun s hinv hs o ho => ?_) hs
  · intro s s' h hr hinv o ho
    exact Seen.stable id o (h o ho) hr hinv
  · have hid : o.id = id := by simpa using List.find?_some ho
    exact ⟨hid, o, List.mem_of_find?_eq_some ho, .refl o⟩

theorem wp_changeOperation (hK : Stable S.protocol i K) (hplain : ∀ s, K s → s.db.Plain id)
    (hs : K w) (change : OperationChange) :
    S.wp i (changeOperation id change) (Ends K fun _ _ => True) w := by
  refine wp_query hK hK (fun _ => stable_true) (fun s answer s' hinv hs _ hstep => ?_) hs
  rcases statement_effect rfl (fun _ _ => rfl) hstep with rfl | ⟨reply, db', hexec, -, rfl⟩
  · exact ⟨hinv, .refl _ i hinv, hs, fun _ _ => trivial⟩
  · cases hexec
    have hgentle := Db.gentle_changeOperation hinv.keyed (hplain s hs) change
    have hinv' := hinv.gentle hgentle
    exact ⟨hinv', .gentle i hinv hgentle, hK hs (.gentle i hgentle) hinv', fun _ _ => trivial⟩

theorem wp_inspectService (hK : Stable S.protocol i K) (hs : K w) (ref : String) :
    S.wp i (inspectService ref)
      (Ends K fun reply _ => KnownService S.docker reply.service.id ∧
        (S.premises.clean → KnownService S.docker ref → reply.service.id = ref)) w := by
  refine wp_askAgent hK (fun swarm hswarm reply hanswer => ?_) hs
  obtain ⟨s, hservice, hreply⟩ := hanswer
  have hid : reply.service.id = s.id := by rw [hreply]
  rw [hid]
  exact ⟨KnownService.of_service hswarm hservice,
    fun hclean hknown => (S.clean hclean).service hknown hswarm hservice⟩

theorem wp_plan {read : AgentRead} (hK : Stable S.protocol i K) (hknown : KnownService S.docker id)
    (hs : K w) {f : read.Reply → String} {version : Nat}
    (hread : ∀ swarm reply, read.Answers swarm reply →
      ∃ plan, swarm.Plans id version plan ∧ plan.serviceId = f reply) :
    S.wp i (askAgent read) (Ends K fun reply _ => S.premises.clean → f reply = id) w := by
  refine wp_askAgent hK (fun swarm hswarm reply hanswer hclean => ?_) hs
  obtain ⟨plan, hplans, hid⟩ := hread swarm reply hanswer
  exact hid ▸ (S.clean hclean).plans hknown hswarm hplans

theorem wp_looks {α : Type} {p : ControlProgram α} (hK : Stable S.protocol i K)
    (hp : p.Uses ControlOp.Looks) (hs : K w) : S.wp i p (Ends K fun _ _ => True) w :=
  wp_quiet hK (hp.mono fun _ => ControlOp.Looks.quiet) hs

theorem wp_dispatch (hK : Stable S.protocol i K) (hsent : IgnoresSent K) (hs : K w)
    {settings : Settings} {active : Option ActiveAdmission} {operationId : String}
    {mutation : Mutation} (hunsent : Unsent i (mutation.table, operationId) w) :
    S.wp i (dispatch settings active operationId mutation) (Ends K fun _ _ => True) w := by
  have hquiet : ∀ (L : World Tid → Prop), Stable S.protocol i L → ∀ op : ControlOp, op.Quiet →
      ∀ s a s', Inv S.premises s → L s → S.machine.perform i op s a s' →
        Inv S.premises s' ∧ Guar S.premises i s s' ∧ L s' := by
    intro L hL op hop s a s' hinv hl hperf
    obtain ⟨hinv', hguar, hrely⟩ := ControlOp.Quiet.step hop hinv hperf.2
    exact ⟨hinv', hguar, hL hl hrely hinv'⟩
  have hstable : Stable S.protocol i fun s => K s ∧ Unsent i (mutation.table, operationId) s :=
    hK.and (Unsent.stable _)
  refine wp_ends (wp_usesUntil hstable hK (fun _ h => h.1) (fun op hop => ?_) (fun op hop => ?_)
    (fun op hop => hquiet K hK op hop.quiet) dispatch_sendsOnce
    ⟨hs, hunsent⟩)
  · rcases hop with hlooks | hjournals
    · exact hquiet _ hstable op hlooks.quiet
    · exact hquiet _ hstable op hjournals.quiet
  · obtain ⟨request, hkey, rfl⟩ := hop
    rintro s a s' hinv ⟨hs, hunsent⟩ ⟨-, rfl⟩
    obtain ⟨hinv', hguar⟩ := send_step hinv (hkey ▸ hunsent)
    exact ⟨hinv', hguar, hsent s _ hs⟩

/-- What a look for an unresolved operation has found, under the lock of the service. -/
def FoundPrior (E : Premises) (i : Tid) (clusterId serviceId : String) :
    Option OperationRecord → World Tid → Prop
  | none => Knows E i [E.serviceLock clusterId serviceId] fun w => w.db.Free clusterId serviceId
  | some prior => fun w => w.db.Seen prior.id prior ∧
      Knows E i [E.serviceLock clusterId serviceId]
        (fun w => w.db.FreeBut clusterId serviceId prior.id) w

theorem wp_findNonTerminalForService {clusterId serviceId : String} (hK : Stable S.protocol i K)
    (hheld : ∀ s, K s → s.Held i (S.premises.serviceLock clusterId serviceId)) (hs : K w) :
    S.wp i (findNonTerminalForService clusterId serviceId)
      (Ends K (FoundPrior S.premises i clusterId serviceId)) w := by
  refine wp_read (.findNonTerminalForService clusterId serviceId)
    (f := fun db => db.findNonTerminalForService clusterId serviceId) trivial (fun _ => rfl) hK
    (fun found => ?_) (fun s hinv hs => ?_) hs
  · cases found with
    | none => exact Free.stable clusterId serviceId
    | some prior => exact Stable.and (Seen.stable _ _) (FreeBut.stable _ _ _)
  · have hlocks : ∀ name ∈ [S.premises.serviceLock clusterId serviceId], s.Held i name :=
      fun name hname => List.mem_singleton.mp hname ▸ hheld s hs
    cases hfound : s.db.findNonTerminalForService clusterId serviceId with
    | none => exact ⟨hlocks, fun _ _ => Db.free_of_find hfound⟩
    | some prior =>
      have hmem := List.mem_of_find?_eq_some hfound
      have hon := List.find?_some hfound
      simp only [Db.nonTerminalOperations, List.mem_filter, decide_eq_true_eq] at hmem hon
      refine ⟨⟨rfl, prior, hmem.1, .refl prior⟩, hlocks, fun hclean _ => ?_⟩
      exact fun o ho hcluster hservice hopen => (hinv.exclusive hclean).services o ho prior hmem.1
        hopen hmem.2 (hcluster.trans hon.1.symm) (hservice.trans hon.2.symm)

theorem wp_findNonTerminalAffectingService {clusterId serviceId : String}
    (hK : Stable S.protocol i K)
    (hheld : ∀ s, K s → s.Held i (S.premises.serviceLock clusterId serviceId)) (hs : K w) :
    S.wp i (findNonTerminalAffectingService clusterId serviceId) (Ends K fun found s =>
      found = none → Knows S.premises i [S.premises.serviceLock clusterId serviceId]
        (fun w => w.db.Unaffected clusterId serviceId) s) w := by
  refine wp_read (.findNonTerminalAffectingService clusterId serviceId)
    (f := fun db => db.findNonTerminalAffectingService clusterId serviceId) trivial
    (fun _ => rfl) hK
    (fun found => ?_) (fun s _ hs hfound => ⟨fun name hname => ?_, fun _ _ => ?_⟩) hs
  · intro s s' h hr hinv hfound
    exact Unaffected.stable _ _ (h hfound) hr hinv
  · exact List.mem_singleton.mp hname ▸ hheld s hs
  · exact Db.unaffected_of_find hfound

/-- The transaction of an intent. A call that has lost its session inserts nothing. -/
theorem wp_intent {op : DbOp} {key : OperationKey} {clusterId : String}
    {R : op.Reply → World Tid → Prop} (hcreates : op.creates = some key)
    (hanswered : ∀ (v : World Tid) r, v.answered i op r = v)
    (hnew : ∀ db reply db', op.exec db = .ok (reply, db') → ¬ db.HasRow key ∧ db'.HasRow key)
    (hK : Stable S.protocol i K) (hR : ∀ reply, Stable S.protocol i (R reply))
    (hadmitted : ∀ s, K s → Admitted S.premises i clusterId s)
    (hinserts : ∀ s reply db', Inv S.premises s → K s → s.session i ≠ .lost →
      op.exec s.db = .ok (reply, db') → Inserts S.premises i clusterId key s db')
    (hreply : ∀ s reply db', Inv S.premises s → K s → op.exec s.db = .ok (reply, db') →
      R reply { s with db := db', creator := Function.update s.creator key (some i) }) (hs : K w) :
    S.wp i (query op) (Ends (fun _ => True) fun reply s => Unsent i key s ∧ R reply s) w := by
  refine wp_query hK stable_true (fun reply => Stable.and (Unsent.stable key) (hR reply))
    (fun s answer s' hinv hs _ hstep => ?_) hs
  have hne : ∀ reply db', op.exec s.db = .ok (reply, db') → db' ≠ s.db := by
    rintro reply _ hexec rfl
    exact (hnew _ _ _ hexec).1 (hnew _ _ _ hexec).2
  rcases statement_create hcreates hanswered hne hstep with
    ⟨rfl, e, rfl⟩ | ⟨reply, db', hexec, hlive, rfl, hanswer⟩
  · exact ⟨hinv, .refl _ i hinv, trivial, fun _ h => by cases h⟩
  · obtain ⟨hinv', hguar, hunsent⟩ :=
      (hinserts s reply db' hinv hs hlive hexec).sound hinv (hadmitted s hs)
    refine ⟨hinv', hguar, trivial, fun x hx => ⟨hunsent, ?_⟩⟩
    rw [hanswer x hx]
    exact hreply s reply db' hinv hs hexec

end System

end Docklane.Control
