import Docklane.Control.Remembering
import Docklane.Control.Rollbacks

/-!
# Retries of a rollback that has ended

A rollback that has ended is not carried out again: a retry is told how it ended. The answer is put
together from the row of the operation, which nobody writes any more, and from the row of the
deployment, which the next rollback of the deployment writes over. Status, reason and operation of
the answer are the same for ever; the finishing time is that of the deployment, so it stays as long
as no other rollback of the deployment is accepted.
-/

namespace Docklane.Control

open Concurrent Concurrent.Program Storage DeploymentService

/-- Every statement is answered out of one of the states `S`. -/
def ReadFrom (S : Db → Prop) : (op : ControlOp) → op.Ans → Prop
  | .db op, (answer : Except Failure op.Reply) =>
    ∃ db db' reply, S db ∧ op.exec db = .ok (reply, db') ∧ answer = .ok reply
  | _, _ => True

/-- What a client is told about the end of a rollback, apart from the time. -/
structure SameOutcome (first later : DeploymentRecord) : Prop where
  status : later.status = first.status
  reason : later.reason = first.reason
  rollbackOperationId : later.rollbackOperationId = first.rollbackOperationId

structure SameAnswer (first later : DeploymentRecord) : Prop extends SameOutcome first later where
  finishedAt : later.finishedAt = first.finishedAt

/-- The retries of a rollback by its actor, with statements that are answered out of the states `S`.
A retry that is answered under the lock has read the deployment and its target before, out of the
states `R`. -/
structure RetryEnds (R S : Db → Prop) (settings : Settings) (clusterId deploymentId : String)
    (o : OperationRecord) (fuel : Nat) (Q : Except Failure DeploymentRecord → Prop) : Prop where
  before : (rollback settings clusterId deploymentId ⟨o.id, o.actorId⟩ fuel).Given (ReadFrom S)
    (fun _ => True) Q
  inside : ∀ {db₁ db₂ deployment target}, R db₁ → R db₂ →
    db₁.findDeployment deploymentId = some deployment →
    db₂.findDeploymentTarget deployment.deploymentTargetId = some target →
    ∀ release admission, (rollbackLocked settings clusterId target deployment release
      ⟨o.id, o.actorId⟩ fuel admission).Given (ReadFrom S) (fun _ => True) Q

section Law

variable {Tid : Type} [DecidableEq Tid]

/-- No rollback of the deployment is accepted. -/
def NoFurtherRollback (deploymentId : String) (_ : Tid) (op : ControlOp) (_ : World Tid) : Prop :=
  ∀ operation, op ≠ .db (.createRollback operation deploymentId)

/-- The states of a run through `c`: those before, and those reached by steps that `Later` allows.
-/
def Passes (docker : Set Swarm) (settings : Set Settings)
    (Later : Tid → ControlOp → World Tid → Prop) (c : ControlConfig Tid) (db : Db) : Prop :=
  (∃ c₀, ControlReachable docker AnyRequest settings c₀ ∧
      Relation.ReflTransGen (ControlStep docker AnyRequest settings) c₀ c ∧ c₀.state.db = db) ∨
    ∃ c', Relation.ReflTransGen (ControlStep docker Later settings) c c' ∧ c'.state.db = db

/-- The last rollback of a deployment has ended, and a retry at this moment is answered `first`.
Every retry that is answered later, in whatever history `Later` allows for the deployment, is
answered the `Same`. -/
def ReplayLaw (Tid : Type) [DecidableEq Tid] (docker : Set Swarm) (settings : Set Settings)
    (Later : String → Tid → ControlOp → World Tid → Prop)
    (Same : DeploymentRecord → DeploymentRecord → Prop) : Prop :=
  ∀ c : ControlConfig Tid, ControlReachable docker AnyRequest settings c →
    ∀ d ∈ c.state.db.deployments, ∀ o ∈ c.state.db.operations,
      d.rollbackOperationId = some o.id → o.status.isTerminal = true →
      ∀ s clusterId fuel first,
        (rollback s clusterId d.id ⟨o.id, o.actorId⟩ fuel).Given (ReadFrom (· = c.state.db))
          (fun _ => True) (· = .ok first) →
        RetryEnds (Passes docker settings (Later d.id) c)
          (fun db => ∃ c', Relation.ReflTransGen (ControlStep docker (Later d.id) settings) c c' ∧
            c'.state.db = db)
          s clusterId d.id o fuel fun r => ∃ later, r = .ok later ∧ Same first later

end Law

/-! ## What a retry does -/

variable {db : Db} {status : DeploymentStatus} {p : OperationStatus} {settings : Set Settings}

section Retry

variable {S : Db → Prop} {β : Type} {Q : Except Failure β → Prop}

theorem ReadFrom.mono {S' : Db → Prop} (h : ∀ db, S db → S' db) :
    ∀ op answer, ReadFrom S op answer → ReadFrom S' op answer
  | .db _, _, ⟨db, db', reply, hdb, hanswer⟩ => ⟨db, db', reply, h db hdb, hanswer⟩
  | .now, _, _ | .sleep _, _, _ | .randomUUID, _, _ | .getConnection, _, _
  | .releaseConnection, _, _ | .getLock _, _, _ | .releaseLock _, _, _ | .destroySession, _, _
  | .agent _, _, _ | .selectMutationAgent, _, _ | .readBarrier _, _, _
  | .inspectConfiguredManagers _, _, _ | .putBarrier _ _ _ _, _, _ | .send _, _, _
  | .assertAllowed _, _, _ | .fetch _ _, _, _ | .hang, _, _ => trivial

theorem given_read {op : DbOp} {read : Db → op.Reply}
    (hread : ∀ db, op.exec db = .ok (read db, db)) {f : op.Reply → ControlProgram β} :
    ((query op).bind f).Given (ReadFrom S) (fun _ => True) Q ↔
      ∀ db, S db → (f (read db)).Given (ReadFrom S) (fun _ => True) Q := by
  constructor
  · intro h db hdb
    exact h.2 (.ok (read db) : Except Failure op.Reply) ⟨db, db, read db, hdb, hread db, rfl⟩
  · intro h
    refine ⟨trivial, fun (answer : Except Failure op.Reply) hanswer => ?_⟩
    obtain ⟨db, db', reply, hdb, hexec, rfl⟩ := hanswer
    rw [hread] at hexec
    cases hexec
    exact h db hdb

/-- The rows of a rollback that a retry checks before it answers. -/
structure Replayable (clusterId : String) (d : DeploymentRecord) (o : OperationRecord)
    (t : DeploymentTarget) (release : Release) : Prop where
  cluster : t.clusterId = clusterId
  previous : truthy d.previousReleaseId = true
  application : release.applicationId = t.applicationId
  type : o.type = .ROLLBACK
  terminal : o.status.isTerminal = true
  operationCluster : o.clusterId = clusterId
  service : o.serviceId = t.dockerServiceId

/-- The state still has these rows. -/
structure Db.Finds (db : Db) (d : DeploymentRecord) (o : OperationRecord) (t : DeploymentTarget)
    (release : Release) : Prop where
  deployment : ∃ d', db.findDeployment d.id = some d' ∧
    db.findDeploymentByRollbackOperation o.id = some d' ∧ d.SameOrigin d'
  target : db.findDeploymentTarget d.deploymentTargetId = some t
  release : db.findRelease (d.previousReleaseId.getD "") = some release
  operation : ∃ o', db.findOperation o.id = some o' ∧ o.SameEnd o'

theorem OperationRecord.SameEnd.replayable {clusterId : String} {d : DeploymentRecord}
    {o o' : OperationRecord} {t : DeploymentTarget} {release : Release} (h : o.SameEnd o')
    (hr : Replayable clusterId d o t release) :
    Replayable clusterId d o' t release ∧ o'.actorId = o.actorId ∧ o'.id = o.id := by
  have hintent : o'.toOperationInput = _ := h.intent
  have hcluster := congrArg OperationInput.clusterId hintent
  have hservice := congrArg OperationInput.serviceId hintent
  have hactor := congrArg OperationInput.actorId hintent
  exact ⟨{ hr with
    type := h.intent.type_eq.trans hr.type
    terminal := (congrArg _ h.status).trans hr.terminal
    operationCluster := hcluster.trans hr.operationCluster
    service := hservice.trans hr.service }, hactor, h.intent.id_eq⟩

variable {d : DeploymentRecord} {o : OperationRecord} {t : DeploymentTarget} {release : Release}
  {clusterId : String} {Q : Except Failure DeploymentRecord → Prop}

/-- A retry answers out of the row of the deployment that it reads last. -/
theorem rollback_given (hr : Replayable clusterId d o t release)
    (hS : ∀ db, S db → db.Finds d o t release)
    (hQ : ∀ db d' o', S db → db.findDeployment d.id = some d' → o.SameEnd o' →
      Q (rollbackAttemptResult d' o')) (settings : Settings) (fuel : Nat) :
    (rollback settings clusterId d.id ⟨o.id, o.actorId⟩ fuel).Given (ReadFrom S) (fun _ => True)
      Q := by
  refine (given_read fun _ => rfl).mpr fun db₁ h₁ => ?_
  obtain ⟨d₁, hd₁, -, horigin⟩ := (hS db₁ h₁).deployment
  rw [hd₁]
  refine (given_read fun _ => rfl).mpr fun db₂ h₂ => ?_
  rw [horigin.target, (hS db₂ h₂).target]
  simp only [hr.cluster, ne_eq, not_true_eq_false, if_false, horigin.previous, hr.previous]
  refine (given_read fun _ => rfl).mpr fun db₃ h₃ => ?_
  rw [(hS db₃ h₃).release]
  simp only [hr.application, not_true_eq_false, if_false]
  refine Given.bind ?_
  refine (given_read fun _ => rfl).mpr fun db₄ h₄ => ?_
  obtain ⟨o', ho', hend⟩ := (hS db₄ h₄).operation
  obtain ⟨hr', hactor, -⟩ := hend.replayable hr
  rw [ho']
  simp only [hr'.terminal, Bool.true_eq_false, if_false]
  refine (given_read fun _ => rfl).mpr fun db₅ h₅ => ?_
  refine (given_read fun _ => rfl).mpr fun db₆ h₆ => ?_
  obtain ⟨latest, hlatest, -⟩ := (hS db₅ h₅).deployment
  obtain ⟨historical, -, hhistorical, hsame⟩ := (hS db₆ h₆).deployment
  rw [horigin.id, hlatest, hhistorical]
  simp only [hr'.type, hr'.operationCluster, hactor, hr'.service, hsame.id, and_self, if_true]
  have hanswer := hQ db₅ latest o' h₅ hlatest hend
  generalize rollbackAttemptResult latest o' = result at hanswer ⊢
  cases result <;> exact hanswer

theorem rollbackLocked_given (hr : Replayable clusterId d o t release)
    (hS : ∀ db, S db → db.Finds d o t release)
    (hQ : ∀ db d' o', S db → db.findDeployment d.id = some d' → o.SameEnd o' →
      Q (rollbackAttemptResult d' o')) {settings : Settings} {fuel : Nat}
    {deployment : DeploymentRecord} (hid : deployment.id = d.id) {previousRelease : Release}
    {admission : Option ActiveAdmission} :
    (rollbackLocked settings clusterId t deployment previousRelease ⟨o.id, o.actorId⟩ fuel
      admission).Given (ReadFrom S) (fun _ => True) Q := by
  refine (given_read fun _ => rfl).mpr fun db₁ h₁ => ?_
  obtain ⟨o', ho', hend⟩ := (hS db₁ h₁).operation
  obtain ⟨hr', hactor, -⟩ := hend.replayable hr
  rw [ho']
  have hsame : sameMutation .ROLLBACK o.actorId t.dockerServiceId o' = true := by
    simp [sameMutation, hr'.type, hactor, hr'.service]
  simp only [resumeRollback, hsame, if_true]
  refine (given_read fun _ => rfl).mpr fun db₂ h₂ => ?_
  obtain ⟨d', hd', hattempt, horigin⟩ := (hS db₂ h₂).deployment
  rw [hattempt]
  simp only [hid, horigin.id, ne_eq, not_true_eq_false, if_false, hr'.terminal, if_true]
  exact given_ofExcept (hQ db₂ d' o' h₂ hd' hend)

/-- What is behind the answer of a retry that meets one state only. -/
theorem replayable_of_answer {s : Settings} {fuel : Nat} (hQ : ∀ e, ¬ Q (.error e))
    (hkeyed : db.Keyed) (hd : d ∈ db.deployments) (ho : o ∈ db.operations)
    (hattempt : ⟨o.id, d.id⟩ ∈ db.rollbackAttempts) (hterminal : o.status.isTerminal = true)
    (h : (rollback s clusterId d.id ⟨o.id, o.actorId⟩ fuel).Given (ReadFrom (· = db))
      (fun _ => True) Q) :
    ∃ t release, Replayable clusterId d o t release ∧ db.Finds d o t release ∧
      Q (rollbackAttemptResult d o) := by
  have hfind : db.findDeployment d.id = some d := find_of_mem hkeyed.deployments hd rfl
  have hop : db.findOperation o.id = some o := find_of_mem hkeyed.operations ho rfl
  have hback : db.findDeploymentByRollbackOperation o.id = some d := by
    rw [Db.findDeploymentByRollbackOperation, find_of_mem hkeyed.attempts hattempt rfl]
    exact hfind
  replace h := (given_read fun _ => rfl).mp h db rfl
  rw [hfind] at h
  replace h := (given_read fun _ => rfl).mp h db rfl
  cases ht : db.findDeploymentTarget d.deploymentTargetId with
  | none =>
    rw [ht] at h
    exact absurd h (hQ _)
  | some t =>
    rw [ht] at h
    change Given _ _ _ (if _ then _ else _) at h
    split at h
    · exact absurd h (hQ _)
    rename_i hcluster
    split at h
    · exact absurd h (hQ _)
    rename_i hprevious
    replace h := (given_read fun _ => rfl).mp h db rfl
    cases hrelease : db.findRelease (d.previousReleaseId.getD "") with
    | none =>
      rw [hrelease] at h
      exact absurd h (hQ _)
    | some release =>
      rw [hrelease] at h
      change Given _ _ _ (if _ then _ else _) at h
      split at h
      · exact absurd h (hQ _)
      rename_i happlication
      replace h := (given_read fun _ => rfl).mp h.of_bind db rfl
      rw [hop] at h
      simp only [hterminal, Bool.true_eq_false, if_false] at h
      replace h := (given_read fun _ => rfl).mp ((given_read fun _ => rfl).mp h db rfl) db rfl
      rw [hfind, hback] at h
      change Given _ _ _ (if _ then _ else _) at h
      split at h
      · rename_i hsame
        obtain ⟨htype, hopCluster, -, hservice, -⟩ := hsame
        refine ⟨t, release, ⟨not_not.mp hcluster, Bool.not_eq_false _ ▸ hprevious,
          not_not.mp happlication, htype, hterminal, hopCluster, hservice⟩,
          ⟨⟨d, hfind, hback, .refl d⟩, ht, hrelease, o, hop, .refl o⟩, ?_⟩
        generalize rollbackAttemptResult d o = result at h ⊢
        cases result <;> exact h
      · exact absurd h (hQ _)

end Retry

/-! ## What is behind the answers -/

/-- A deployment has the reason of its last rollback, once this has ended. -/
def Db.Reasoned (db : Db) : Prop :=
  ∀ d ∈ db.deployments, ∀ o ∈ db.operations, d.rollbackOperationId = some o.id →
    o.status.isTerminal = true → d.reason = o.endReason

/-- The statuses of a deployment and of its last rollback, when one of them is final. -/
theorem rollbackPair_ended (h : rollbackPair status p = true) :
    (p = .SUCCESS ↔ status = .ROLLED_BACK) ∧ (p = .FAILED ↔ status = .FAILED) := by
  unfold rollbackPair at h
  split at h <;> simp_all

/-- The status of a rolled back deployment tells how the rollback has ended. -/
theorem rollbackPair_unique {p q : OperationStatus} (hp : rollbackPair status p = true)
    (hq : rollbackPair status q = true) (hterminal : p.isTerminal = true) : q = p := by
  obtain ⟨hsuccess, hfailed⟩ := rollbackPair_ended hp
  obtain ⟨hsuccess', hfailed'⟩ := rollbackPair_ended hq
  cases p with
  | SUCCESS => exact hsuccess'.mpr (hsuccess.mp rfl)
  | FAILED => exact hfailed'.mpr (hfailed.mp rfl)
  | _ => cases hterminal

theorem isSettled_of_ended (h : rollbackPair status p = true) (hterminal : p.isTerminal = true) :
    status.isSettled = true := by
  unfold rollbackPair at h
  split at h <;> first | rfl | cases hterminal | cases h

theorem OperationRecord.SameEnd.endReason_eq {o o' : OperationRecord} (h : o.SameEnd o') :
    o'.endReason = o.endReason := by
  rw [OperationRecord.endReason, OperationRecord.endReason, h.status, h.errorMessage]

theorem Db.Reasoned.step {db db' : Db} (h : db.Reasoned) (hkeyed : db'.Keyed)
    (hconsistent : db.Consistent) (hconsistent' : db'.Consistent) (hremembers : db.Remembers db')
    (hsettled : SettledStep db db') : db'.Reasoned := by
  intro d hd' o' ho' hlast hterminal
  rcases hsettled.reason d hd' with hd | hreason
  · -- the row is an old one, so the rollback had ended before
    obtain ⟨-, -, o, ho, hid, hpair⟩ := (hconsistent.agree d hd).rollback _ hlast
    obtain ⟨-, -, p, hp, hpid, hpair'⟩ := (hconsistent'.agree d hd').rollback _ hlast
    obtain rfl := List.inj_on_of_nodup_map hkeyed.operations hp ho' hpid
    have hended : o.status.isTerminal = true := by
      rw [rollbackPair_unique hpair' hpair hterminal]
      exact hterminal
    obtain ⟨q, hq, hend⟩ := hremembers.operations o ho hended
    obtain rfl := List.inj_on_of_nodup_map hkeyed.operations hq ho' (hend.intent.id_eq.trans hid)
    rw [hend.endReason_eq]
    exact h d hd o ho (hlast.trans (congrArg some hid.symm)) hended
  · exact hreason o' ho' hlast hterminal

theorem rollbackAttemptResult_outcome (hkeyed : db.Keyed) (hconsistent : db.Consistent)
    (hreasoned : db.Reasoned) {d answer : DeploymentRecord} {o p : OperationRecord}
    (hd : d ∈ db.deployments) (hp : p ∈ db.operations) (hend : o.SameEnd p)
    (hanswer : rollbackAttemptResult d o = .ok answer) :
    answer.status = (if o.status = .FAILED then .FAILED else .ROLLED_BACK) ∧
      answer.reason = o.endReason ∧ answer.rollbackOperationId = some o.id := by
  simp only [rollbackAttemptResult] at hanswer
  split at hanswer
  · cases hanswer
  rename_i hended
  obtain ⟨-, hterminal⟩ := not_or.mp hended
  rw [Bool.not_eq_false] at hterminal
  split at hanswer <;> cases hanswer
  · rename_i hlast
    obtain ⟨-, -, q, hq, hid, hpair⟩ := (hconsistent.agree d hd).rollback _ hlast
    obtain rfl := List.inj_on_of_nodup_map hkeyed.operations hq hp
      (hid.trans hend.intent.id_eq.symm)
    rw [hend.status] at hpair
    obtain ⟨hsuccess, hfailed⟩ := rollbackPair_ended hpair
    refine ⟨?_, ?_, hlast⟩
    · cases hstatus : o.status with
      | SUCCESS => exact hsuccess.mp hstatus
      | FAILED => exact hfailed.mp hstatus
      | _ => rw [hstatus] at hterminal; cases hterminal
    · rw [← hend.endReason_eq]
      exact hreasoned d hd q hq (hlast.trans (congrArg some hid.symm)) (hend.status ▸ hterminal)
  · exact ⟨rfl, rfl, rfl⟩

theorem rollbackAttemptResult_last {d answer : DeploymentRecord} {o : OperationRecord}
    (hlast : d.rollbackOperationId = some o.id) (hanswer : rollbackAttemptResult d o = .ok answer) :
    answer = d := by
  rw [rollbackAttemptResult, if_pos hlast] at hanswer
  split at hanswer
  · cases hanswer
  · exact (Except.ok.inj hanswer).symm

/-- The finishing time is the one of the deployment, whichever rollback the answer is about. -/
theorem rollbackAttemptResult_finishedAt {d answer : DeploymentRecord} {o : OperationRecord}
    (hanswer : rollbackAttemptResult d o = .ok answer) : answer.finishedAt = d.finishedAt := by
  simp only [rollbackAttemptResult] at hanswer
  split at hanswer
  · cases hanswer
  · split at hanswer <;> cases hanswer <;> rfl

theorem rollbackAttemptResult_ok {clusterId : String} {d : DeploymentRecord} {o : OperationRecord}
    {t : DeploymentTarget} {release : Release} (hr : Replayable clusterId d o t release)
    (d' : DeploymentRecord) : ∃ answer, rollbackAttemptResult d' o = .ok answer := by
  simp only [rollbackAttemptResult, hr.type, hr.terminal, ne_eq, not_true_eq_false,
    Bool.true_eq_false, or_self, if_false]
  split <;> exact ⟨_, rfl⟩

/-! ## Whole runs -/

section Runs

variable {Tid : Type} [DecidableEq Tid] {docker : Set Swarm} {P : Processes}
  {Allowed : Tid → ControlOp → World Tid → Prop} {c c' : ControlConfig Tid}

theorem ControlStep.any (h : ControlStep docker Allowed settings c c') :
    ControlStep docker AnyRequest settings c c' := by
  cases h with
  | spawn hnone hp => exact .spawn hnone hp
  | perform hi hperform => exact .perform hi ⟨trivial, hperform.2⟩
  | finish hi hend => exact .finish hi hend
  | env henv => exact .env henv
  | crash S hcrash => exact .crash S hcrash

theorem ControlReachable.later (hc : ControlReachable docker AnyRequest settings c)
    (h : Relation.ReflTransGen (ControlStep docker Allowed settings) c c') :
    ControlReachable docker AnyRequest settings c' := by
  induction h with
  | refl => exact hc
  | tail _ hstep ih => exact ih.step hstep.any

theorem step_settled (hclean : NoAlias docker)
    (hc : ControlReachable docker AnyRequest P.settings c)
    (h : ControlStep docker AnyRequest P.settings c c') : SettledStep c.state.db c'.state.db := by
  rcases step_deployments hc h with ⟨hdeployments, -⟩ | ⟨i, hguar⟩
  · exact .of_eq hdeployments
  · exact hguar.settled hclean

/-- What every state of the system keeps to. -/
structure Sound (db : Db) : Prop where
  keyed : db.Keyed
  consistent : db.Consistent
  reasoned : db.Reasoned

theorem sound_of_reachable (hclean : NoAlias docker)
    (hc : ControlReachable docker AnyRequest P.settings c) : Sound c.state.db := by
  have hinv {c : ControlConfig Tid} (hc : ControlReachable docker AnyRequest P.settings c) :=
    (System.safe_of_reachable (S := P.system docker AnyRequest) hc).inv
  refine ⟨(hinv hc).keyed, (hinv hc).consistent hclean, ?_⟩
  induction hc with
  | init => exact fun d hd => absurd hd List.not_mem_nil
  | step hc hstep ih =>
    exact ih.step (hinv (hc.step hstep)).keyed ((hinv hc).consistent hclean)
      ((hinv (hc.step hstep)).consistent hclean) (step_remembers hstep)
      (step_settled hclean hc hstep)

theorem step_attempts {deploymentId : String}
    (h : ControlStep docker (NoFurtherRollback deploymentId) settings c c') {a : RollbackAttempt}
    (ha : a ∈ c'.state.db.rollbackAttempts) (hid : a.deploymentId = deploymentId) :
    a ∈ c.state.db.rollbackAttempts := by
  have hcarried {statement : Option DbOp} (hcarries : c.state.db.Carries statement c'.state.db)
      (hother : ∀ operation, statement ≠ some (.createRollback operation deploymentId)) :
      a ∈ c.state.db.rollbackAttempts := by
    rcases hcarries.rollbackAttempts.origin ha with ⟨_, hold, rfl⟩ | ⟨⟨operation, hcreate, -⟩, -⟩
    · exact hold
    · exact absurd (hid ▸ hcreate) (hother operation)
  cases h with
  | spawn _ _ => exact ha
  | finish _ _ => exact ha
  | env henv => exact hcarried (EnvStep.carries henv) nofun
  | crash S hcrash =>
    have hdb := CrashStep.db hcrash
    exact congrArg Db.rollbackAttempts hdb ▸ ha
  | perform hi hperform =>
    obtain ⟨statement, hcarries, hstatement⟩ := Performs.carries hperform.2
    exact hcarried hcarries fun operation heq => hperform.1 operation (hstatement _ heq)

/-- Without a further rollback the row of the deployment is not written any more. -/
theorem steps_keep_settled (hclean : NoAlias docker)
    (hc : ControlReachable docker AnyRequest P.settings c) {d : DeploymentRecord}
    (hd : d ∈ c.state.db.deployments) (hsettled : d.status.isSettled = true)
    (h : Relation.ReflTransGen (ControlStep docker (NoFurtherRollback d.id) P.settings) c c') :
    ControlReachable docker AnyRequest P.settings c' ∧ d ∈ c'.state.db.deployments := by
  induction h with
  | refl => exact ⟨hc, hd⟩
  | tail _ hstep ih =>
    obtain ⟨hreach, hkept⟩ := ih
    refine ⟨hreach.step hstep.any, ?_⟩
    rcases (step_settled hclean hreach hstep.any).kept d hkept hsettled with hstill |
      ⟨r, hnew, hold⟩
    · exact hstill
    · exact absurd (step_attempts hstep hnew rfl) hold

variable {d : DeploymentRecord} {o : OperationRecord} {t : DeploymentTarget} {release : Release}
  {clusterId : String} {first : DeploymentRecord} {Same : DeploymentRecord → DeploymentRecord →
  Prop}

theorem Db.Finds.remembered {db db' : Db} (h : db.Finds d o t release) (hkeyed : db'.Keyed)
    (hd : d ∈ db.deployments) (ho : o ∈ db.operations) (hterminal : o.status.isTerminal = true)
    (hattempt : ⟨o.id, d.id⟩ ∈ db.rollbackAttempts) (hremembers : db.Remembers db') :
    db'.Finds d o t release := by
  obtain ⟨d', hd', horigin⟩ := hremembers.deployments d hd
  obtain ⟨o', ho', hend⟩ := hremembers.operations o ho hterminal
  have hfind : db'.findDeployment d.id = some d' := find_of_mem hkeyed.deployments hd' horigin.id
  refine ⟨⟨d', hfind, ?_, horigin⟩, hremembers.targets h.target, hremembers.releases h.release, o',
    find_of_mem hkeyed.operations ho' hend.intent.id_eq, hend⟩
  rw [Db.findDeploymentByRollbackOperation,
    find_of_mem hkeyed.attempts (hremembers.attempts _ hattempt) rfl]
  exact hfind

theorem Db.mem_of_findDeployment {id : String} (h : db.findDeployment id = some d) :
    d ∈ db.deployments ∧ d.id = id := by
  have hid := List.find?_some h
  simp only [decide_eq_true_eq] at hid
  exact ⟨List.mem_of_find?_eq_some h, hid⟩

/-- A retry that was taken up at any time has read the target of the deployment. -/
theorem Passes.target_eq {Later : Tid → ControlOp → World Tid → Prop}
    (hkeyed : ∀ {c' : ControlConfig Tid}, ControlReachable docker AnyRequest settings c' →
      c'.state.db.Keyed) (hc : ControlReachable docker AnyRequest settings c)
    (hd : d ∈ c.state.db.deployments)
    (htarget : c.state.db.findDeploymentTarget d.deploymentTargetId = some t) {db₁ db₂ : Db}
    (h₁ : Passes docker settings Later c db₁) (h₂ : Passes docker settings Later c db₂)
    {deployment : DeploymentRecord} {target : DeploymentTarget}
    (hfind : db₁.findDeployment d.id = some deployment)
    (hfound : db₂.findDeploymentTarget deployment.deploymentTargetId = some target) :
    deployment.id = d.id ∧ target = t := by
  obtain ⟨hmem, hid⟩ := Db.mem_of_findDeployment hfind
  have hsame : deployment.deploymentTargetId = d.deploymentTargetId := by
    rcases h₁ with ⟨c₀, -, hsteps, rfl⟩ | ⟨c', hsteps, rfl⟩
    · obtain ⟨d', hd', horigin⟩ := (steps_remember hsteps).deployments deployment hmem
      obtain rfl := List.inj_on_of_nodup_map (hkeyed hc).deployments hd' hd (horigin.id.trans hid)
      exact horigin.target.symm
    · have hreach := ControlReachable.later hc hsteps
      obtain ⟨d', hd', horigin⟩ := (steps_remember hsteps).deployments d hd
      obtain rfl := List.inj_on_of_nodup_map (hkeyed hreach).deployments hmem hd'
        (hid.trans horigin.id.symm)
      exact horigin.target
  rw [hsame] at hfound
  refine ⟨hid, ?_⟩
  rcases h₂ with ⟨c₀, -, hsteps, rfl⟩ | ⟨c', hsteps, rfl⟩
  · exact Option.some.inj (((steps_remember hsteps).targets hfound).symm.trans htarget)
  · exact Option.some.inj (hfound.symm.trans ((steps_remember hsteps).targets htarget))

/-- The law, from what it asks of the rows of a later state. -/
theorem replayLaw_of_rows (hclean : NoAlias docker)
    {Later : String → Tid → ControlOp → World Tid → Prop}
    (hrows : ∀ {c c' : ControlConfig Tid} {d d' first answer : DeploymentRecord}
      {o o' : OperationRecord}, ControlReachable docker AnyRequest P.settings c →
      d ∈ c.state.db.deployments → o ∈ c.state.db.operations → d.rollbackOperationId = some o.id →
      o.status.isTerminal = true → rollbackAttemptResult d o = .ok first →
      Relation.ReflTransGen (ControlStep docker (Later d.id) P.settings) c c' →
      d' ∈ c'.state.db.deployments → d'.id = d.id → o.SameEnd o' →
      rollbackAttemptResult d' o' = .ok answer → Same first answer) :
    ReplayLaw Tid docker P.settings Later Same := by
  intro c hc d hd o ho hlast hterminal s clusterId fuel first hfirst
  have hsound := sound_of_reachable hclean hc
  have hattempt := ((hsound.consistent.agree d hd).rollback _ hlast).2.1
  obtain ⟨t, release, hr, hfinds, hresult⟩ :=
    replayable_of_answer (fun _ => nofun) hsound.keyed hd ho hattempt hterminal hfirst
  have hS : ∀ db, (∃ c', Relation.ReflTransGen (ControlStep docker (Later d.id) P.settings) c c' ∧
      c'.state.db = db) → db.Finds d o t release := by
    rintro _ ⟨c', hsteps, rfl⟩
    have hreach := ControlReachable.later hc hsteps
    exact hfinds.remembered (sound_of_reachable hclean hreach).keyed hd ho hterminal hattempt
      (steps_remember hsteps)
  have hQ : ∀ db d' o', (∃ c', Relation.ReflTransGen (ControlStep docker (Later d.id) P.settings)
      c c' ∧ c'.state.db = db) → db.findDeployment d.id = some d' → o.SameEnd o' →
      ∃ later, rollbackAttemptResult d' o' = .ok later ∧ Same first later := by
    rintro _ d' o' ⟨c', hsteps, rfl⟩ hfind hend
    obtain ⟨hd', hid⟩ := Db.mem_of_findDeployment hfind
    obtain ⟨answer, hanswer⟩ := rollbackAttemptResult_ok (hend.replayable hr).1 d'
    exact ⟨answer, hanswer, hrows hc hd ho hlast hterminal hresult hsteps hd' hid hend hanswer⟩
  refine ⟨rollback_given hr hS hQ s fuel, fun h₁ h₂ hfind hfound previous admission => ?_⟩
  obtain ⟨hid, rfl⟩ := Passes.target_eq (fun hreach => (sound_of_reachable hclean hreach).keyed) hc
    hd hfinds.target h₁ h₂ hfind hfound
  exact rollbackLocked_given hr hS hQ hid

end Runs

/-- Without aliases, a retry of a rollback that has ended is told the same status, reason and
operation in every later history, and the same finishing time as well as long as no further rollback
of the deployment is accepted. -/
theorem rollback_replay_stable {Tid : Type} [DecidableEq Tid] (P : Processes) (docker : Set Swarm)
    (hclean : NoAlias docker) :
    ReplayLaw Tid docker P.settings (fun _ => AnyRequest) SameOutcome ∧
      ReplayLaw Tid docker P.settings NoFurtherRollback SameAnswer := by
  constructor
  · refine replayLaw_of_rows hclean fun hc hd ho _ hterminal hfirst hsteps hd' _ hend hanswer => ?_
    have hsound := sound_of_reachable hclean hc
    have hsound' := sound_of_reachable hclean (hc.steps hsteps)
    obtain ⟨p, hp, hkept⟩ := (steps_remember hsteps).operations _ ho hterminal
    obtain ⟨hstatus, hreason, hid⟩ := rollbackAttemptResult_outcome hsound.keyed hsound.consistent
      hsound.reasoned hd ho (.refl _) hfirst
    obtain ⟨hstatus', hreason', hid'⟩ := rollbackAttemptResult_outcome hsound'.keyed
      hsound'.consistent hsound'.reasoned hd' hp (hend.both hkept) hanswer
    refine ⟨?_, ?_, ?_⟩
    · rw [hstatus, hstatus', hend.status]
    · rw [hreason, hreason', hend.endReason_eq]
    · rw [hid, hid', hend.intent.id_eq]
  · refine replayLaw_of_rows hclean
      fun {c c' d d' first answer o o'} hc hd ho hlast hterminal hfirst hsteps hd' hid hend
        hanswer => ?_
    have hsound := sound_of_reachable hclean hc
    obtain ⟨-, -, p, hp, hpid, hpair⟩ := (hsound.consistent.agree d hd).rollback _ hlast
    obtain rfl := List.inj_on_of_nodup_map hsound.keyed.operations hp ho hpid
    have hsettled := isSettled_of_ended hpair hterminal
    obtain ⟨hreach, hkept⟩ := steps_keep_settled hclean hc hd hsettled hsteps
    obtain rfl := List.inj_on_of_nodup_map (sound_of_reachable hclean hreach).keyed.deployments hd'
      hkept hid
    obtain rfl := rollbackAttemptResult_last hlast hfirst
    obtain rfl := rollbackAttemptResult_last
      (hlast.trans (congrArg some hend.intent.id_eq.symm)) hanswer
    exact ⟨⟨rfl, rfl, rfl⟩, rfl⟩

theorem shopStates_replayLaw :
    ReplayLaw Nat shopStates plainProcess.alone.settings (fun _ => AnyRequest) SameOutcome ∧
      ReplayLaw Nat shopStates plainProcess.alone.settings NoFurtherRollback SameAnswer :=
  rollback_replay_stable plainProcess.alone shopStates shopStates_noAlias

/-! ## A rollback after one that was rejected -/

/-- The update to the new release is paused. -/
def pausedSwarm : Swarm :=
  ⟨[{ shopService with
      version := 2
      specHash := "two"
      taskSpecHash := some "two"
      runtimeSpecHash := some "two"
      image := some ("shop@sha256:" ++
        "1111111111111111111111111111111111111111111111111111111111111111")
      updateState := some .paused }], []⟩

def pausedStates : Set Swarm := {shopSwarm, pausedSwarm}

theorem pausedStates_noAlias : NoAlias pausedStates :=
  noAlias_of_ids ["web"] (by rintro _ (rfl | rfl) <;> decide)

/-- The Agents plan the way back to the old release, and refuse to go it. -/
def rejectingSurroundings : Surroundings where
  read
    | .planRollbackService ref version => pausedSwarm.planService ref version fun _ =>
      ⟨"", 0, "", "one", 0, some 0, shopService.image, some "one", some "one"⟩
    | r => pausedSwarm.agent "" r
  selected := .ok ⟨"agent", "swarm"⟩
  sent
    | ⟨_, _, _, _, .service ..⟩ => .error (.agentRequest 409 ⟨"update in progress", none⟩)
    | ⟨_, _, _, _, .node ..⟩ => .error (.unavailable "")

theorem rejectingSurroundings_legal : rejectingSurroundings.Legal pausedStates AnyRequest := by
  refine ⟨fun r reply h => ⟨pausedSwarm, .inr rfl, ?_⟩, fun _ _ _ _ => trivial⟩
  cases r with
  | planRollbackService ref version => exact Swarm.planService_plans h
  | _ => exact Swarm.agent_answers "" _ reply h

/-- The deployment of a new release fails, and the Agents reject its rollback. -/
def rejectedSchedule : List Move :=
  deployments ++ [.run 1 rejectingSurroundings 30,
    .start 2 (rollbackCall "rejected rollback"), .run 2 rejectingSurroundings 40]

/-- Another rollback is accepted. -/
def furtherRollback : List Move :=
  [.start 3 (rollbackCall "second rollback"), .run 3 rejectingSurroundings 16]

theorem rejectedSchedule_reachable : ControlReachable pausedStates AnyRequest
    plainProcess.alone.settings (play rejectedSchedule) :=
  play_reachable (List.forall_append.mpr ⟨deployments_legal (.inl rfl), rejectingSurroundings_legal,
    .start (.rollback ..), rejectingSurroundings_legal⟩)

theorem furtherRollback_legal :
    furtherRollback.Forall (Move.Legal pausedStates AnyRequest plainProcess.alone.settings) :=
  ⟨.start (.rollback ..), rejectingSurroundings_legal⟩

/-- The rollback that was rejected is answered with the time at which its deployment failed, and
after the next rollback was accepted with no time. -/
theorem rejected_rollback_rows :
    ∃ d ∈ (play rejectedSchedule).state.db.deployments,
      ∃ o ∈ (play rejectedSchedule).state.db.operations,
        ∃ t ∈ (play rejectedSchedule).state.db.targets,
          ∃ release ∈ (play rejectedSchedule).state.db.releases,
            (d.rollbackOperationId = some o.id ∧ d.finishedAt = some 0 ∧
              t.clusterId = "c" ∧ truthy d.previousReleaseId = true ∧
              release.applicationId = t.applicationId ∧ o.type = .ROLLBACK ∧
              o.status.isTerminal = true ∧ o.clusterId = "c" ∧ o.serviceId = t.dockerServiceId ∧
              (play rejectedSchedule).state.db.findDeploymentTarget d.deploymentTargetId = some t ∧
              (play rejectedSchedule).state.db.findRelease (d.previousReleaseId.getD "") =
                some release) ∧
            o ∈ (play (rejectedSchedule ++ furtherRollback)).state.db.operations ∧
            ∃ d' ∈ (play (rejectedSchedule ++ furtherRollback)).state.db.deployments,
              d'.id = d.id ∧ d'.finishedAt = none := by
  decide +kernel

theorem further_rollback_moves_finish :
    NoAlias pausedStates ∧
      ¬ ReplayLaw Nat pausedStates plainProcess.alone.settings
        (fun _ => AnyRequest) SameAnswer := by
  refine ⟨pausedStates_noAlias, fun hlaw => ?_⟩
  obtain ⟨d, hd, o, ho, t, -, release, -, ⟨hlast, hfinished, hcluster, hprevious, happlication,
    htype, hterminal, hoCluster, hservice, htarget, hrelease⟩, ho', d', hd', hid, hfinished'⟩ :=
    rejected_rollback_rows
  have hreach := rejectedSchedule_reachable
  have hsteps := play_append_steps rejectedSchedule furtherRollback_legal
  have hsound := sound_of_reachable (P := plainProcess.alone) pausedStates_noAlias hreach
  have hsound' := sound_of_reachable (P := plainProcess.alone) pausedStates_noAlias
    (hreach.steps hsteps)
  have hattempt := ((hsound.consistent.agree d hd).rollback _ hlast).2.1
  have hr : Replayable "c" d o t release :=
    ⟨hcluster, hprevious, happlication, htype, hterminal, hoCluster, hservice⟩
  have hfinds : (play rejectedSchedule).state.db.Finds d o t release := by
    have hfind := find_of_mem hsound.keyed.deployments hd rfl
    refine ⟨⟨d, hfind, ?_, .refl d⟩, htarget, hrelease, o,
      find_of_mem hsound.keyed.operations ho rfl, .refl o⟩
    rw [Db.findDeploymentByRollbackOperation, find_of_mem hsound.keyed.attempts hattempt rfl]
    exact hfind
  -- both retries, each made at one moment
  have hanswered : (rollback plainProcess "c" d.id ⟨o.id, o.actorId⟩ 4).Given
      (ReadFrom (· = (play rejectedSchedule).state.db)) (fun _ => True) (· = .ok d) := by
    refine rollback_given (S := (· = (play rejectedSchedule).state.db)) hr
      (fun db hdb => hdb ▸ hfinds) (fun db d₁ o₁ hdb hfind hend => ?_) _ _
    obtain ⟨hd₁, hid₁⟩ := Db.mem_of_findDeployment (hdb ▸ hfind)
    obtain rfl := List.inj_on_of_nodup_map hsound.keyed.deployments hd₁ hd hid₁
    obtain ⟨answer, hanswer⟩ := rollbackAttemptResult_ok (hend.replayable hr).1 d₁
    rw [hanswer, rollbackAttemptResult_last
      (hlast.trans (congrArg some hend.intent.id_eq.symm)) hanswer]
  have hretry := (hlaw _ hreach d hd o ho hlast hterminal plainProcess "c" 4 d hanswered).before
  have hlater : (rollback plainProcess "c" d.id ⟨o.id, o.actorId⟩ 4).Given
      (ReadFrom (· = (play (rejectedSchedule ++ furtherRollback)).state.db)) _ _ :=
    hretry.of_answers (ReadFrom.mono fun _ hdb => ⟨_, hsteps, hdb.symm⟩)
  rw [← hid] at hlater
  obtain ⟨-, -, -, -, later, hanswer, hsame⟩ := replayable_of_answer
    (fun _ ⟨_, h, _⟩ => nomatch h) hsound'.keyed hd' ho'
    (hid ▸ (steps_remember hsteps).attempts _ hattempt) hterminal hlater
  have htime := hsame.finishedAt
  rw [rollbackAttemptResult_finishedAt hanswer, hfinished, hfinished'] at htime
  cases htime

end Docklane.Control
