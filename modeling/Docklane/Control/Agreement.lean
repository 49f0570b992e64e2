import Docklane.Control.Audit
import Docklane.Control.Rollbacks

/-!
# Deployments and operations agree

The status of a deployment and the status of the operation it waits for are written together. What
keeps them together is the lock of the service: the row of the operation names the service, and who
settles the operation holds the lock of this service. When the operation is recorded for another
service than the one that is locked, the two rows may come to disagree.
-/

namespace Docklane.Control

open Concurrent

/-- Operations that have ended keep their status. -/
structure Db.KeepsEnded (db db' : Db) : Prop where
  operations : ∀ o ∈ db.operations, o.status.isTerminal = true →
    ∃ o' ∈ db'.operations, o'.id = o.id ∧ o'.status = o.status
  nodeOperations : ∀ o ∈ db.nodeOperations, o.status.isTerminal = true →
    ∃ o' ∈ db'.nodeOperations, o'.id = o.id ∧ o'.status = o.status

section Law

variable {Tid : Type}

/-- The step is the execution of a statement of some call, with these audit events. -/
def ControlConfig.Executes (c c' : ControlConfig Tid) (events : List AuditEvent) : Prop :=
  ∃ i op k reply, c.thread i = some (.request (.db op) k) ∧
    op.exec c.state.db = .ok (reply, c'.state.db) ∧ events = op.auditEvents c.state.db

/-- No operation ends by this step, or its transaction adds an event for each one that does. -/
def ControlConfig.EndsAudited (c c' : ControlConfig Tid) : Prop :=
  c.state.db.Audited [] c'.state.db ∨
    ∃ events, ControlConfig.Executes c c' events ∧ c.state.db.Audited events c'.state.db

variable [DecidableEq Tid] (docker : Set Swarm)
  (Allowed : Tid → ControlOp → World Tid → Prop) (settings : Set Settings)

/-- In every committed state the rows of a deployment agree; what has ended stays as it is, and
every end of an operation is audited by the transaction that writes it. -/
def AgreementLaw : Prop :=
  ∀ c : ControlConfig Tid, ControlReachable docker Allowed settings c →
    (∀ d ∈ c.state.db.deployments, c.state.db.Agrees d) ∧
    (∀ c', Relation.ReflTransGen (ControlStep docker Allowed settings) c c' →
      c.state.db.KeepsEnded c'.state.db) ∧
    ∀ c', ControlStep docker Allowed settings c c' → ControlConfig.EndsAudited c c'

end Law

/-! ## One step -/

section Steps

variable {Tid : Type}

theorem Db.KeepsEnded.refl (db : Db) : db.KeepsEnded db where
  operations o ho _ := ⟨o, ho, rfl, rfl⟩
  nodeOperations o ho _ := ⟨o, ho, rfl, rfl⟩

theorem Db.KeepsEnded.trans {db db₁ db₂ : Db} (h : db.KeepsEnded db₁) (h' : db₁.KeepsEnded db₂) :
    db.KeepsEnded db₂ where
  operations o ho hterminal := by
    obtain ⟨o₁, ho₁, hid, hstatus⟩ := h.operations o ho hterminal
    obtain ⟨o₂, ho₂, hid', hstatus'⟩ := h'.operations o₁ ho₁ (hstatus ▸ hterminal)
    exact ⟨o₂, ho₂, hid'.trans hid, hstatus'.trans hstatus⟩
  nodeOperations o ho hterminal := by
    obtain ⟨o₁, ho₁, hid, hstatus⟩ := h.nodeOperations o ho hterminal
    obtain ⟨o₂, ho₂, hid', hstatus'⟩ := h'.nodeOperations o₁ ho₁ (hstatus ▸ hterminal)
    exact ⟨o₂, ho₂, hid'.trans hid, hstatus'.trans hstatus⟩

theorem DbStep.keepsEnded {E : Premises} {own : String → Prop} {db db' : Db}
    (h : DbStep E own db db') : db.KeepsEnded db' where
  operations o ho hterminal := by
    obtain ⟨o', ho', he, -⟩ := h.operations o ho
    exact ⟨o', ho', he.id, he.terminal hterminal⟩
  nodeOperations o ho hterminal := by
    obtain ⟨o', ho', he⟩ := h.nodeOperations o ho
    exact ⟨o', ho', he.id, he.terminal hterminal⟩

theorem EnvStep.operations [DecidableEq Tid] {w w' : World Tid} (h : EnvStep w w') :
    w'.db.operations = w.db.operations ∧ w'.db.nodeOperations = w.db.nodeOperations := by
  cases h <;> exact ⟨rfl, rfl⟩

variable [DecidableEq Tid] {docker : Set Swarm} {Allowed : Tid → ControlOp → World Tid → Prop}
  {c c' : ControlConfig Tid}

theorem step_keepsEnded {P : Processes} (hc : ControlReachable docker Allowed P.settings c)
    (h : ControlStep docker Allowed P.settings c c') : c.state.db.KeepsEnded c'.state.db := by
  have hsame {w : World Tid} (ho : w.db.operations = c.state.db.operations)
      (hn : w.db.nodeOperations = c.state.db.nodeOperations) : c.state.db.KeepsEnded w.db :=
    ⟨fun o hmem _ => ⟨o, ho ▸ hmem, rfl, rfl⟩, fun o hmem _ => ⟨o, hn ▸ hmem, rfl, rfl⟩⟩
  rcases (System.safe_of_reachable (S := P.system docker Allowed) hc).step_state h with
    hstate | ⟨i, hguar⟩ | henv | ⟨S, hcrash⟩
  · exact hsame (by rw [hstate]) (by rw [hstate])
  · exact hguar.db.keepsEnded
  · exact hsame henv.operations.1 henv.operations.2
  · exact hsame (by rw [hcrash.db]) (by rw [hcrash.db])

theorem step_endsAudited {settings : Set Settings}
    (h : ControlStep docker Allowed settings c c') : ControlConfig.EndsAudited c c' := by
  cases h with
  | spawn _ _ => exact .inl (.of_eq rfl rfl)
  | finish _ _ => exact .inl (.of_eq rfl rfl)
  | env henv =>
    have hrows := EnvStep.operations henv
    exact .inl (.of_eq hrows.1 hrows.2)
  | crash S hcrash =>
    have hdb := CrashStep.db hcrash
    exact .inl (.of_eq (congrArg Db.operations hdb) (congrArg Db.nodeOperations hdb))
  | @perform i op k answer w' hi hperf =>
    by_cases hop : ∀ o, op ≠ .db o
    · have hdb := Performs.db hperf.2 hop
      exact .inl (.of_eq (congrArg Db.operations hdb) (congrArg Db.nodeOperations hdb))
    · simp only [not_forall, not_not] at hop
      obtain ⟨o, rfl⟩ := hop
      rcases StatementStep.db hperf.2 with hdb | ⟨reply, hexec⟩
      · exact .inl (.of_eq (congrArg Db.operations hdb) (congrArg Db.nodeOperations hdb))
      · exact .inr ⟨_, ⟨i, o, k, reply, hi, hexec, rfl⟩, DbOp.exec_audited hexec⟩

end Steps

/-- Without aliases the rows of a deployment and of its operations agree in every committed state.
-/
theorem deployments_agree {Tid : Type} [DecidableEq Tid] (P : Processes) (docker : Set Swarm)
    (hclean : NoAlias docker) :
    AgreementLaw docker (AnyRequest : Tid → ControlOp → World Tid → Prop) P.settings := by
  intro c hc
  have hinv := (System.safe_of_reachable (S := P.system docker AnyRequest) hc).inv
  refine ⟨(hinv.consistent hclean).agree, fun c' h => ?_, fun c' h => step_endsAudited h⟩
  induction h with
  | refl => exact .refl _
  | tail hsteps hstep ih => exact ih.trans (step_keepsEnded (hc.steps hsteps) hstep)

/-- The rows agree after a rollback, and what has ended stays as it is when another one goes on. -/
theorem racingSchedule_agrees :
    (play racingSchedule).state.db.deployments.map (fun d => (d.status, d.rollbackOperationId)) =
        [(.SUCCESS, none), (.ROLLED_BACK, some "rollback")] ∧
      (∀ d ∈ (play racingSchedule).state.db.deployments, (play racingSchedule).state.db.Agrees d) ∧
      (play racingSchedule).state.db.KeepsEnded
        (play (racingSchedule ++ lateRollback)).state.db := by
  have hlaw := deployments_agree plainProcess.alone shopStates shopStates_noAlias _
    (play_reachable racingSchedule_legal)
  exact ⟨by decide +kernel, hlaw.1, hlaw.2.1 _ (play_append_steps _ lateRollback_legal)⟩

/-! ## A service that is replaced by one with its id for a name -/

/-- The target of the deployment. -/
def targetService : ServiceSummary :=
  { webService with
    id := "x"
    name := "shop"
    taskSpecHash := some "one"
    runtimeSpecHash := some "one" }

/-- Another service, which takes the id of the target for its name. Its last update was paused. -/
def namesakeService : ServiceSummary :=
  { targetService with id := "z", name := "x", updateState := some .paused }

def replacedStates : Set Swarm := {⟨[targetService], []⟩, ⟨[namesakeService], []⟩}

def namesakeSurroundings (service : ServiceSummary) (uuid : String) : Surroundings where
  read := (Swarm.mk [service] []).agent "two"
  uuid := uuid
  selected := .ok ⟨"agent", "swarm"⟩
  sent
    | ⟨_, _, _, _, .service ..⟩ => .ok (⟨"z", 2, "two", 0, []⟩ : ServiceMutationResponse)
    | ⟨_, _, _, _, .node ..⟩ => .error (.unavailable "")

/-- The service is replaced after the target was resolved, and the deployment is planned for the
other service. Reconciliation locks that service and fails the operation, and the deployment goes
on. -/
def replacedSchedule : List Move :=
  [.target ⟨"target", "shop", "c", "x"⟩,
    .release ⟨"release", "shop", "shop",
      "sha256:0000000000000000000000000000000000000000000000000000000000000000"⟩,
    .start 0 (ignoreResult (DeploymentService.deploy plainProcess "c" "target"
      ⟨"o", "release", ⟨"http://shop/health", 500, 2000, 3, 500, 200⟩, "actor"⟩ 4)),
    .run 0 (namesakeSurroundings targetService "") 9,
    .run 0 (namesakeSurroundings namesakeService "d") 5,
    .start 1 (DeploymentService.reconcilePendingDeployments plainProcess 4),
    .run 1 (namesakeSurroundings namesakeService "") 30,
    .run 0 (namesakeSurroundings namesakeService "") 3]

theorem replacedSchedule_reachable : ControlReachable replacedStates AnyRequest
    plainProcess.alone.settings (play replacedSchedule) :=
  play_reachable ⟨trivial, trivial, .start (.deploy ..), .run (.inl rfl) rfl, .run (.inr rfl) rfl,
    .start (.reconcileDeployments ..), .run (.inr rfl) rfl, .run (.inr rfl) rfl⟩

/-- The deployment is `VERIFYING` and its operation has failed, although the names of the locks are
distinct. -/
theorem namesake_breaks_agreement :
    Function.Injective plainProcess.alone.lockName ∧
    ¬ AgreementLaw replacedStates (AnyRequest : Nat → ControlOp → World Nat → Prop)
      plainProcess.alone.settings := by
  have hrows : ∃ d ∈ (play replacedSchedule).state.db.deployments,
      d.rollbackOperationId = none ∧ d.status = .VERIFYING ∧
        ∀ o ∈ (play replacedSchedule).state.db.operations, o.status = .FAILED := by
    decide +kernel
  refine ⟨readableLockName_injective, fun hlaw => ?_⟩
  obtain ⟨d, hd, hnone, hstatus, hfailed⟩ := hrows
  obtain ⟨o, ho, -, hpair⟩ := ((hlaw _ replacedSchedule_reachable).1 d hd).deploy hnone
  rw [hstatus, hfailed o ho] at hpair
  cases hpair

end Docklane.Control
