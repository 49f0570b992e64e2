import Docklane.Control.CallRules

/-!
# The calls of the node mutation service

`drain`, `activate`, `labels` and the recovery of their operations keep to the protocol. The status
of a node operation may be written at any time; its row is inserted under the lock of the node and
the locks of every service that the plan affects.
-/

namespace Docklane.Control

open Concurrent Concurrent.Program

variable {Tid : Type}

/-! ## Records that were read -/

/-- The record was the row with this id in `node_operations`. -/
def Db.NodeSeen (db : Db) (id : String) (o : NodeOperationRecord) : Prop :=
  o.id = id ∧ ∃ o' ∈ db.nodeOperations, o.Evolves o'

section Stability

variable {E : Premises} {i : Tid}

theorem NodeSeen.stable (id : String) (o : NodeOperationRecord) :
    Stable (controlProtocol E) i fun w => w.db.NodeSeen id o := by
  intro w w' h hr _
  obtain ⟨hid, o', ho', he⟩ := h
  obtain ⟨o'', ho'', he'⟩ := hr.db.nodeOperations o' ho'
  exact ⟨hid, o'', ho'', he.trans he'⟩

theorem NodeFree.stable (clusterId nodeId : String) :
    Stable (controlProtocol E) i
      (Knows E i [E.nodeLock clusterId nodeId] fun w => w.db.NodeFree clusterId nodeId) :=
  Knows.stable fun hclean hr _ hlocks =>
    hr.db.nodeFree hclean (not_not_intro (hlocks _ (List.mem_singleton_self _)))

theorem NodeFreeBut.stable (clusterId nodeId operationId : String) :
    Stable (controlProtocol E) i (Knows E i [E.nodeLock clusterId nodeId]
      fun w => w.db.NodeFreeBut clusterId nodeId operationId) :=
  Knows.stable fun hclean hr _ hlocks =>
    hr.db.nodeFreeBut hclean (not_not_intro (hlocks _ (List.mem_singleton_self _)))

end Stability

theorem Db.NodeFreeBut.nodeFree {db : Db} {clusterId nodeId operationId : String}
    (h : db.NodeFreeBut clusterId nodeId operationId) (hkeyed : db.Keyed) {o : NodeOperationRecord}
    (hseen : db.NodeSeen operationId o) (hterminal : o.status.isTerminal = true) :
    db.NodeFree clusterId nodeId := by
  intro p hp hcluster hnode
  by_contra hopen
  obtain ⟨hid, o', ho', he⟩ := hseen
  have hpid := h p hp hcluster hnode (by simpa using hopen)
  obtain rfl := List.inj_on_of_nodup_map hkeyed.nodeOperations hp ho' (by rw [hpid, he.id, hid])
  exact hopen (he.isTerminal hterminal)

/-! ## Names -/

/-- Some state of the Swarm has a node with this id. -/
def KnownNode (docker : Set Swarm) (id : String) : Prop :=
  ∃ swarm ∈ docker, ∃ n ∈ swarm.nodes, n.id = id

variable {plan : NodeMutationPlan} {settings : Settings} {id : String} {fuel : Nat}
  {serviceIds : List String}

theorem NoAlias.plansNode {docker : Set Swarm} (h : NoAlias docker) (hknown : KnownNode docker id)
    {swarm : Swarm} (hswarm : swarm ∈ docker) {version : Nat}
    (hplans : swarm.PlansNode id version plan) : plan.nodeId = id := by
  obtain ⟨n, hn, hid, -⟩ := hplans
  rw [hid]
  have hmatch : n.id = id ∨ n.hostname = id := by simpa using List.find?_some hn
  rcases hmatch with hmatch | hmatch
  · exact hmatch
  · obtain ⟨swarm', hswarm', n', hn', rfl⟩ := hknown
    exact h.nodes swarm hswarm swarm' hswarm' n (List.mem_of_find?_eq_some hn) n' hn' hmatch

namespace NodeMutationService

variable [DecidableEq Tid] {S : System Tid} {i : Tid} {w : World Tid} {K : World Tid → Prop}

/-! ## Verification and reconciliation -/

theorem wp_findNodeOperation (hK : Stable S.protocol i K) (hs : K w) :
    S.wp i (findNodeOperation id)
      (Ends K fun found s => ∀ o, found = some o → s.db.NodeSeen id o) w := by
  refine System.wp_read (.findNodeOperation id) (f := fun db => db.findNodeOperation id)
    trivial (fun _ => rfl) hK (fun found => ?_) (fun s hinv hs o ho => ?_) hs
  · intro s s' h hr hinv o ho
    exact NodeSeen.stable id o (h o ho) hr hinv
  · have hid : o.id = id := by simpa using List.find?_some ho
    exact ⟨hid, o, List.mem_of_find?_eq_some ho, .refl o⟩

theorem wp_changeNodeOperation (hK : Stable S.protocol i K) (hs : K w) (change : OperationChange) :
    S.wp i (changeNodeOperation id change) (Ends K fun _ _ => True) w :=
  System.wp_quiet hK (uses_query.mpr trivial) hs

section Reconciliation

variable (operation : NodeOperationRecord) (hK : Stable S.protocol i K) (hinv : Inv S.premises w)
  (hs : K w)

include hK hinv hs

theorem wp_requireOperation :
    S.wp i (requireOperation id) (Ends K fun o s => s.db.NodeSeen id o) w := by
  refine wp_bind_ends hinv hK (fun _ h => h) (wp_findNodeOperation hK hs)
    fun found s _ hs hfound => ?_
  cases found with
  | none => exact wp_throw_ends hK hs
  | some o => exact wp_pure_ends hK (NodeSeen.stable id o) hs (hfound o rfl)

theorem wp_changeAndRequire (id : String) (change : OperationChange) :
    S.wp i ((changeNodeOperation id change).bind fun _ => requireOperation id)
      (Ends K fun o s => s.db.NodeSeen id o) w :=
  wp_bind_ends hinv hK (fun _ h => h) (wp_changeNodeOperation hK hs change)
    fun _ _ hinv hs _ => wp_requireOperation hK hinv hs

theorem wp_verifyOnce :
    S.wp i (verifyOnce operation)
      (Ends K fun ended s => ∀ o, ended = some o → s.db.NodeSeen operation.id o) w := by
  have hended {p : ControlProgram NodeOperationRecord} {s : World Tid} (hinv : Inv S.premises s)
      (h : S.wp i p (Ends K fun o s => s.db.NodeSeen operation.id o) s) :
      S.wp i (p.bind fun ended => .pure (some ended))
        (Ends K fun ended s => ∀ o, ended = some o → s.db.NodeSeen operation.id o) s := by
    refine wp_bind_ends hinv hK (fun _ h => h) h fun o s _ hs hseen => ?_
    intro s' hr hinv'
    exact ⟨hK hs hr hinv', fun o' ho' => Option.some.inj ho' ▸ NodeSeen.stable _ o hseen hr hinv'⟩
  have hgoesOn {s : World Tid} (hs : K s) : S.wp i (.pure none)
      (Ends K fun ended s => ∀ o, ended = some o → s.db.NodeSeen operation.id o) s :=
    fun s' hr hinv' => ⟨hK hs hr hinv', fun _ h => by cases h⟩
  refine wp_bind_ends hinv hK (fun _ h => h) (System.wp_looks hK inspectNode_looks hs)
    fun current s hinv hs _ => ?_
  split
  · exact hgoesOn hs
  · exact hended hinv (wp_changeAndRequire hK hinv hs operation.id _)
  · have hconverged : Program.Uses ControlOp.Looks (if operation.type = .LABELS then
        affectedServicesConverged operation.affectedServiceIds else .pure true) := by
      split
      · exact affectedServicesConverged_looks
      · exact uses_pure
    refine wp_bind_ends hinv hK (fun _ h => h) (System.wp_looks hK hconverged hs)
      fun converged s hinv hs _ => ?_
    change S.wp i (if _ then _ else _) _ s
    split
    · have h := hended hinv (wp_changeAndRequire hK hinv hs operation.id
        (.success current.node.version))
      rwa [bind_assoc] at h
    · exact hgoesOn hs

omit hinv hs in
theorem wp_verifyLoop {deadline : Int} (lastError : Option String) (hinv : Inv S.premises w)
    (hs : K w) :
    S.wp i (verifyLoop operation deadline fuel lastError)
      (Ends K fun o s => s.db.NodeSeen operation.id o) w := by
  induction fuel generalizing lastError w with
  | zero => exact wp_request hK hs fun _ _ _ _ _ hperf => hperf.2.elim
  | succ fuel ih =>
    have hagain (lastError : Option String) {s : World Tid} (hinv : Inv S.premises s) (hs : K s) :
        S.wp i ((sleep VERIFY_INTERVAL_MS).bind fun _ =>
          verifyLoop operation deadline fuel lastError)
          (Ends K fun o s => s.db.NodeSeen operation.id o) s :=
      wp_bind_ends hinv hK (fun _ h => h) (System.wp_looks hK sleep_looks hs)
        fun _ _ hinv hs _ => ih lastError hinv hs
    refine wp_bind_ends hinv hK (fun _ h => h) (System.wp_looks hK now_looks hs)
      fun t s hinv hs _ => ?_
    change S.wp i (if _ then _ else _) _ s
    split
    · refine wp_bind_ends hinv hK (fun _ h => h)
        (wp_attempt_ends (wp_verifyOnce operation hK hinv hs)) fun outcome s hinv hs houtcome => ?_
      rcases outcome with e | _ | ended
      · exact hagain _ hinv hs
      · exact hagain _ hinv hs
      · exact wp_pure_ends hK (NodeSeen.stable _ _) hs (houtcome _ rfl ended rfl)
    · exact wp_changeAndRequire hK hinv hs operation.id _

theorem wp_verifyAndCompleteLocked :
    S.wp i (verifyAndCompleteLocked operation fuel)
      (Ends K fun o s => s.db.NodeSeen operation.id o) w :=
  wp_bind_ends hinv hK (fun _ h => h) (System.wp_looks hK now_looks hs)
    fun _ _ hinv hs _ => wp_verifyLoop operation hK none hinv hs

theorem wp_verifyRefreshed (id : String) :
    S.wp i ((requireOperation id).bind fun refreshed => verifyAndCompleteLocked refreshed fuel)
      (Ends K fun o s => s.db.NodeSeen id o) w := by
  refine wp_bind_ends hinv hK (fun _ h => h) (wp_requireOperation hK hinv hs)
    fun refreshed s hinv hs hseen => ?_
  rw [← hseen.1]
  exact wp_verifyAndCompleteLocked refreshed hK hinv hs

theorem wp_reconcileLocked :
    S.wp i (reconcileLocked operation fuel)
      (Ends K fun o s => s.db.NodeSeen operation.id o) w := by
  refine wp_bind_ends hinv hK (fun _ h => h) (System.wp_looks hK inspectNode_looks.attempt hs)
    fun answer s hinv hs _ => ?_
  cases answer with
  | error e => exact wp_changeAndRequire hK hinv hs operation.id _
  | ok current =>
    dsimp only
    split
    · split
      · exact wp_bind_ends hinv hK (fun _ h => h) (wp_changeNodeOperation hK hs _)
          fun _ _ hinv hs _ => wp_verifyRefreshed hK hinv hs operation.id
      · exact wp_verifyRefreshed hK hinv hs operation.id
    · split <;> exact wp_changeAndRequire hK hinv hs operation.id _

end Reconciliation

/-! ## The call -/

/-- What a look for an unresolved operation has found, under the lock of the node. -/
def FoundPrior (E : Premises) (i : Tid) (clusterId nodeId : String) :
    Option NodeOperationRecord → World Tid → Prop
  | none => Knows E i [E.nodeLock clusterId nodeId] fun w => w.db.NodeFree clusterId nodeId
  | some prior => Knows E i [E.nodeLock clusterId nodeId]
      fun w => w.db.NodeFreeBut clusterId nodeId prior.id

section Locked

variable {clusterId nodeId : String} (hK : Stable S.protocol i K)
  (hheld : ∀ s, K s → s.Held i (S.premises.nodeLock clusterId nodeId)) (hs : K w)

include hK hheld hs

theorem wp_findNonTerminalForNode :
    S.wp i (findNonTerminalForNode clusterId nodeId)
      (Ends K (FoundPrior S.premises i clusterId nodeId)) w := by
  refine System.wp_read (.findNonTerminalForNode clusterId nodeId)
    (f := fun db => db.findNonTerminalForNode clusterId nodeId) trivial (fun _ => rfl) hK
    (fun found => ?_) (fun s hinv hs => ?_) hs
  · cases found with
    | none => exact NodeFree.stable clusterId nodeId
    | some prior => exact NodeFreeBut.stable clusterId nodeId prior.id
  · have hlocks : ∀ name ∈ [S.premises.nodeLock clusterId nodeId], s.Held i name :=
      fun name hname => List.mem_singleton.mp hname ▸ hheld s hs
    cases hfound : s.db.findNonTerminalForNode clusterId nodeId with
    | none => exact ⟨hlocks, fun _ _ => Db.nodeFree_of_find hfound⟩
    | some prior =>
      have hmem := List.mem_of_find?_eq_some hfound
      have hon := List.find?_some hfound
      simp only [Db.nonTerminalNodeOperations, List.mem_filter, decide_eq_true_eq] at hmem hon
      refine ⟨hlocks, fun hclean _ o ho hcluster hnode hopen => ?_⟩
      by_contra hne
      exact ((hinv.exclusive hclean).nodes o ho prior hmem.1 hopen hmem.2 hne
        (hcluster.trans hon.1.symm)).1 (hnode.trans hon.2.symm)

theorem wp_resolvePriorNodeOperation (hinv : Inv S.premises w) :
    S.wp i (resolvePriorNodeOperation clusterId nodeId fuel) (Ends K fun _ =>
      Knows S.premises i [S.premises.nodeLock clusterId nodeId]
        fun w => w.db.NodeFree clusterId nodeId) w := by
  refine wp_bind_ends hinv hK (fun _ h => h) (wp_findNonTerminalForNode hK hheld hs)
    fun found s hinv hs hfound => ?_
  cases found with
  | none => exact wp_pure_ends hK (NodeFree.stable clusterId nodeId) hs hfound
  | some prior =>
    have hstable : Stable S.protocol i fun s => K s ∧
        Knows S.premises i [S.premises.nodeLock clusterId nodeId]
          (fun w => w.db.NodeFreeBut clusterId nodeId prior.id) s :=
      hK.and (NodeFreeBut.stable clusterId nodeId prior.id)
    refine wp_bind_ends hinv hK (fun _ h => h.1) (wp_reconcileLocked prior hstable hinv
      ⟨hs, hfound⟩) fun reconciled s hinv h hseen => ?_
    change S.wp i (if _ then _ else _) _ s
    split
    · next hterminal =>
      exact wp_pure_ends hK (NodeFree.stable clusterId nodeId) h.1
        (h.2.mono fun _ _ hbut => hbut.nodeFree hinv.keyed hseen hterminal)
    · exact wp_throw_ends hK h.1

end Locked

section Call

variable {clusterId nodeId : String} (input : MutationInput)

theorem wp_planMapped (hK : Stable S.protocol i K) (hknown : KnownNode S.docker nodeId)
    (hinv : Inv S.premises w) (hs : K w) :
    S.wp i (planMapped input nodeId)
      (Ends K fun plan _ => S.premises.clean → plan.nodeId = nodeId) w := by
  refine wp_rethrow hinv hK (fun _ => stable_const) ?_
  have hplan {swarm : Swarm} (hswarm : swarm ∈ S.docker) {version : Nat} {plan : NodeMutationPlan}
      (h : swarm.PlansNode nodeId version plan) (hclean : S.premises.clean) :
      plan.nodeId = nodeId := (S.clean hclean).plansNode hknown hswarm h
  unfold plan
  split <;> exact System.wp_askAgent hK (fun _ hswarm _ h => hplan hswarm h) hs

theorem wp_assertServicesFree (hK : Stable S.protocol i K)
    (hheld : ∀ s, K s → ∀ id ∈ serviceIds, s.Held i (S.premises.serviceLock clusterId id))
    (hinv : Inv S.premises w) (hs : K w) :
    S.wp i (assertServicesFree clusterId serviceIds) (Ends K fun _ s =>
      ∀ id ∈ serviceIds, Ready S.premises i clusterId id s) w := by
  induction serviceIds generalizing K w with
  | nil =>
    intro s hr hinv
    exact ⟨hK hs hr hinv, fun _ h => by cases h⟩
  | cons id rest ih =>
    refine wp_bind_ends hinv hK (fun _ h => h) (System.wp_findNonTerminalForService hK
      (fun s hs => hheld s hs id List.mem_cons_self) hs) fun found s hinv hs hfound => ?_
    cases found with
    | some prior => exact wp_throw_ends hK hs
    | none =>
      have hstable : Stable S.protocol i fun s => K s ∧
          Knows S.premises i [S.premises.serviceLock clusterId id]
            (fun w => w.db.Free clusterId id) s := hK.and (Free.stable clusterId id)
      refine wp_bind_ends hinv hK (fun _ h => h.1)
        (System.wp_findNonTerminalAffectingService hstable
        (fun s hs => hheld s hs.1 id List.mem_cons_self) ⟨hs, hfound⟩)
        fun found s hinv hs hnone => ?_
      cases found with
      | some nodeOperation => exact wp_throw_ends hK hs.1
      | none =>
        have hready : Stable S.protocol i fun s => K s ∧ Ready S.premises i clusterId id s :=
          hK.and (Ready.stable clusterId id)
        refine wp_mono (ih hready (fun s hs id hid => hheld s hs.1 id (List.mem_cons_of_mem _ hid))
          hinv ⟨hs.1, hs.2, hnone rfl⟩) fun r s _ h => ?_
        cases r with
        | error e => exact h.1
        | ok _ =>
          refine ⟨h.1.1, fun id' hid' => ?_⟩
          rcases List.mem_cons.mp hid' with rfl | hid'
          · exact h.1.2
          · exact h.2 id' hid'

/-- What the call knows when it records its intent. -/
structure Prepared (E : Premises) (i : Tid) (clusterId nodeId : String) (serviceIds : List String)
    (w : World Tid) : Prop where
  node : Knows E i [E.nodeLock clusterId nodeId] (fun w => w.db.NodeFree clusterId nodeId) w
  services : ∀ id ∈ serviceIds, Ready E i clusterId id w
  admitted : Admitted E i clusterId w

omit [DecidableEq Tid] in
theorem Prepared.stable (serviceIds : List String) :
    Stable S.protocol i (Prepared S.premises i clusterId nodeId serviceIds) :=
  fun h hr hinv => ⟨NodeFree.stable _ _ h.node hr hinv,
    fun id hid => Ready.stable _ id (h.services id hid) hr hinv,
    Admitted.stable _ h.admitted hr hinv⟩

omit [DecidableEq Tid] in
theorem Prepared.mayOperateNode (h : Prepared S.premises i clusterId nodeId serviceIds w)
    (hlive : w.session i ≠ .lost) (hnode : S.premises.clean → plan.nodeId = nodeId)
    (hservices : ∀ id ∈ plan.affectedServiceIds, id ∈ serviceIds) :
    MayOperateNode S.premises i clusterId plan.nodeId plan.affectedServiceIds w := by
  intro hclean
  rw [hnode hclean]
  refine ⟨h.node.locks hlive _ (List.mem_singleton_self _), h.node.fact hlive hclean,
    fun id hid => ?_⟩
  exact (h.services id (hservices id hid)).mayOperate hlive (fun _ => rfl) hclean

theorem wp_persistIntent (hinv : Inv S.premises w)
    (hprepared : Prepared S.premises i clusterId nodeId serviceIds w)
    (hnode : S.premises.clean → plan.nodeId = nodeId) {lockedNode : NodeDetailResponse} :
    S.wp i (persistIntent input clusterId lockedNode serviceIds plan)
      (Ends (fun _ => True) fun _ => Unsent i (.node, input.operationId)) w := by
  unfold persistIntent
  split
  · next hmatches =>
    have hservices : ∀ id ∈ plan.affectedServiceIds, id ∈ serviceIds := by
      simp only [planMatchesLockedNode, Bool.and_eq_true, decide_eq_true_eq] at hmatches
      intro id hid
      rw [← hmatches.2]
      exact mem_sortedUnique.mpr hid
    refine wp_bind_returns hinv (System.wp_intent
      (R := fun _ _ => True) rfl (fun _ _ => rfl)
      (fun db reply db' hexec => ?_) (Prepared.stable serviceIds) (fun _ => stable_true)
      (fun _ h => h.admitted) (fun s reply db' hinv hs hlive hexec => ?_)
      (fun _ _ _ _ _ _ => trivial) hprepared) fun _ _ _ _ h =>
        wp_pure_ends stable_true (Unsent.stable _) trivial h.1
    · obtain ⟨hfresh, rfl⟩ := Db.createNodeOperation_ok (made_of_exec hexec)
      refine ⟨?_, (intent input clusterId plan).started, by simp, rfl⟩
      rintro ⟨o, ho, hid⟩
      exact hfresh o ho hid
    · exact createNodeOperation_inserts hinv (hs.mayOperateNode hlive hnode hservices)
        (made_of_exec hexec)
  · exact wp_throw_ends stable_true trivial

theorem wp_planAndPersist {affected : List String} (hinv : Inv S.premises w)
    (hknown : KnownNode S.docker nodeId)
    (hnode : Knows S.premises i [S.premises.nodeLock clusterId nodeId]
      (fun w => w.db.NodeFree clusterId nodeId) w)
    (hservices : ∀ id ∈ affected, w.Held i (S.premises.serviceLock clusterId id))
    (hadmitted : Admitted S.premises i clusterId w) :
    S.wp i (planAndPersist input clusterId nodeId affected)
      (Ends (fun _ => True) fun _ => Unsent i (.node, input.operationId)) w := by
  let K : World Tid → Prop := fun s =>
    (Knows S.premises i [S.premises.nodeLock clusterId nodeId]
      (fun w => w.db.NodeFree clusterId nodeId) s ∧ Admitted S.premises i clusterId s) ∧
    ∀ id ∈ affected, s.Held i (S.premises.serviceLock clusterId id)
  have hK : Stable S.protocol i K := by
    rintro s s' ⟨⟨hnode, hadmitted⟩, hheld⟩ hr hinv
    exact ⟨⟨NodeFree.stable _ _ hnode hr hinv, Admitted.stable _ hadmitted hr hinv⟩,
      fun id hid => Held.stable _ (hheld id hid) hr hinv⟩
  refine wp_bind_returns hinv
    (System.wp_looks hK inspectNode_looks ⟨⟨hnode, hadmitted⟩, hservices⟩)
    fun lockedNode s hinv hs _ => ?_
  split
  · refine wp_bind_returns hinv (wp_planMapped input hK hknown hinv hs)
      fun plan s hinv hs hplan => ?_
    dsimp only
    split
    · exact wp_throw_ends stable_true trivial
    · next hsame =>
      obtain rfl := not_not.mp hsame
      exact wp_bind_returns hinv
        (wp_assertServicesFree hK (fun _ h => h.2) hinv hs) fun _ s hinv hs hready =>
          wp_persistIntent input hinv ⟨hs.1.1, hready, hs.1.2⟩ hplan
  · dsimp only
    split
    · exact wp_throw_ends stable_true trivial
    · next hsame =>
      obtain rfl := not_not.mp hsame
      refine wp_bind_returns hinv
        (wp_assertServicesFree hK (fun _ h => h.2) hinv hs) fun _ s hinv hs hready => ?_
      exact wp_bind_returns hinv
        (wp_planMapped input (Prepared.stable _) hknown hinv ⟨hs.1.1, hready, hs.1.2⟩)
        fun plan s hinv hs hplan => wp_persistIntent input hinv hs hplan

/-- The rest of the call needs no lock: it has a row of its own. -/
theorem wp_execute (hinv : Inv S.premises w) (hunsent : Unsent i (.node, input.operationId) w)
    {settings : Settings} {admission : Option ActiveAdmission} {nodeId : String}
    {plan : NodeMutationPlan} :
    S.wp i (execute settings admission input nodeId plan fuel) Whatever w := by
  have hK : Stable S.protocol i fun _ => True := stable_true
  have hverify {s : World Tid} (hinv : Inv S.premises s) :
      S.wp i ((requireOperation input.operationId).bind fun operation =>
        verifyAndCompleteLocked operation fuel) Whatever s :=
    wp_whatever (wp_verifyRefreshed hK hinv trivial input.operationId)
  have hsend : S.wp i (sendAndRecord settings admission input nodeId plan)
      (Ends (fun _ => True) fun _ _ => True) w := by
    unfold sendAndRecord
    split
    · exact wp_throw_ends hK trivial
    · refine wp_bind_ends hinv hK (fun _ h => h)
        (System.wp_dispatch hK (fun _ _ h => h) trivial hunsent) fun accepted s hinv hs _ => ?_
      change S.wp i (if _ then _ else _) _ s
      split
      · exact wp_changeNodeOperation hK hs _
      · exact wp_throw_ends hK hs
  unfold execute
  split
  · exact hverify hinv
  · refine wp_bind_whatever hinv (wp_attempt_ends hsend) fun outcome s hinv hs _ => ?_
    rcases outcome with e | ⟨⟩
    · dsimp only
      split
      · exact wp_bind_whatever hinv (wp_changeNodeOperation hK hs _)
          fun _ _ _ _ _ => fun _ _ _ => trivial
      · exact wp_bind_whatever hinv (wp_requireOperation hK hinv hs)
          fun operation _ hinv hs _ => wp_whatever (wp_reconcileLocked operation hK hinv hs)
    · exact hverify hinv

theorem wp_mutateLocked {affected : List String} (hinv : Inv S.premises w)
    (hknown : KnownNode S.docker nodeId) (hheld : w.Held i (S.premises.nodeLock clusterId nodeId))
    (hservices : ∀ id ∈ affected, w.Held i (S.premises.serviceLock clusterId id))
    (hadmitted : Admitted S.premises i clusterId w) {settings : Settings}
    {admission : Option ActiveAdmission} :
    S.wp i (mutateLocked settings input clusterId nodeId affected fuel admission) Whatever w := by
  let K : World Tid → Prop := fun s =>
    (s.Held i (S.premises.nodeLock clusterId nodeId) ∧ Admitted S.premises i clusterId s) ∧
      ∀ id ∈ affected, s.Held i (S.premises.serviceLock clusterId id)
  have hK : Stable S.protocol i K := by
    rintro s s' ⟨⟨hheld, hadmitted⟩, hservices⟩ hr hinv
    exact ⟨⟨Held.stable _ hheld hr hinv, Admitted.stable _ hadmitted hr hinv⟩,
      fun id hid => Held.stable _ (hservices id hid) hr hinv⟩
  refine wp_bind_whatever hinv (wp_findNodeOperation hK ⟨⟨hheld, hadmitted⟩, hservices⟩)
    fun found s hinv hs _ => ?_
  cases found with
  | some existing =>
    dsimp only
    split
    · split
      · exact fun _ _ _ => trivial
      · exact wp_whatever (wp_reconcileLocked existing hK hinv hs)
    · exact fun _ _ _ => trivial
  | none =>
    refine wp_bind_whatever hinv (wp_resolvePriorNodeOperation hK (fun _ h => h.1.1) hs hinv)
      fun _ s hinv hs hfree => ?_
    exact wp_bind_whatever hinv (wp_planAndPersist input hinv hknown hfree hs.2 hs.1.2)
      fun plan s hinv _ hunsent => wp_execute input hinv hunsent

theorem wp_mutate (hsettings : settings ∈ S.settings) (hinv : Inv S.premises w)
    {clusterId nodeRef : String} :
    S.wp i (mutate settings clusterId nodeRef input fuel) Whatever w := by
  have hK : Stable S.protocol i fun _ => True := stable_true
  unfold mutate
  split
  · exact fun _ _ _ => trivial
  · have hinspect : S.wp i (inspectNode nodeRef)
        (Ends (fun _ => True) fun reply _ => KnownNode S.docker reply.node.id) w := by
      refine System.wp_askAgent hK (fun swarm hswarm reply hanswer => ?_) trivial
      exact ⟨swarm, hswarm, reply.node, List.mem_of_find?_eq_some hanswer, rfl⟩
    refine wp_bind_whatever hinv hinspect fun initial s hinv _ hknown => ?_
    refine wp_bind_whatever hinv (System.wp_looks hK initialImpact_looks trivial)
      fun impact s hinv _ _ => ?_
    refine wp_bind_whatever hinv (System.wp_quiet hK (uses_query.mpr trivial) trivial)
      fun prior s hinv _ _ => ?_
    refine System.wp_withCallLocks (K := fun _ => True) hsettings hK (fun _ _ _ h => h)
      System.protected_trivial (fun _ _ _ h => h) hinv trivial
      (fun active => mutateLocked_built (pieces_of_works (fun _ => ControlOp.Works.mutates) _)
        (fun _ => trivial) (fun _ _ _ => .whole (.dispatch _ _ _)) _ _ fuel active)
      fun active s hinv _ hgranted hadmitted => ?_
    have hheld : ∀ key ∈ nodeLockKeys clusterId initial.node.id
        (lockServiceIds initial.node.id impact prior), s.Held i (S.premises.lockName key) :=
      fun key hkey => (hgranted _ (List.mem_map_of_mem hkey)).1 _ (List.mem_singleton_self _)
    refine wp_mutateLocked input hinv hknown (hheld _ List.mem_cons_self) (fun id hid => ?_)
      hadmitted
    refine hheld _ (List.mem_cons_of_mem _ (List.mem_map_of_mem ?_))
    exact mem_sortedUnique.mpr (List.mem_append_left _ (List.mem_append_left _ hid))

end Call

/-! ## Startup -/

theorem wp_recoverOperation (hsettings : settings ∈ S.settings) (hinv : Inv S.premises w)
    (operation : NodeOperationRecord) (fuel : Nat) :
    S.wp i (recoverOperation settings operation fuel) Whatever w := by
  have hK : Stable S.protocol i fun _ => True := stable_true
  refine wp_bind hinv (wp_attempt (wp_mono (System.wp_withRecoveryLocks hsettings hK
    (fun _ _ _ h => h) System.protected_trivial hinv trivial fun s hinv hs _ => ?_)
    fun r _ _ _ => fun _ _ _ => trivial))
  refine wp_bind_whatever hinv (wp_findNodeOperation hK hs) fun found s hinv hs _ => ?_
  cases found with
  | none => exact fun _ _ _ => trivial
  | some current =>
    dsimp only
    split
    · exact fun _ _ _ => trivial
    · exact wp_bind_whatever hinv (wp_reconcileLocked current hK hinv hs)
        fun _ _ _ _ _ => fun _ _ _ => trivial

theorem wp_recoverOperations (hsettings : settings ∈ S.settings)
    {operations : List NodeOperationRecord} (hinv : Inv S.premises w) :
    S.wp i (recoverOperations settings fuel operations) Whatever w := by
  induction operations generalizing w with
  | nil => exact fun _ _ _ => trivial
  | cons operation rest ih =>
    refine wp_bind hinv (wp_mono (wp_recoverOperation hsettings hinv operation fuel)
      fun r s hinv _ => ?_)
    cases r with
    | ok _ => exact ih hinv
    | error e => exact fun _ _ _ => trivial

theorem wp_onApplicationBootstrap (hsettings : settings ∈ S.settings) (hinv : Inv S.premises w) :
    S.wp i (onApplicationBootstrap settings fuel) Whatever w :=
  wp_bind_whatever hinv (System.wp_quiet (K := fun _ => True) stable_true (uses_query.mpr trivial)
    trivial) fun _ _ hinv _ _ => wp_recoverOperations hsettings hinv

end NodeMutationService

end Docklane.Control
