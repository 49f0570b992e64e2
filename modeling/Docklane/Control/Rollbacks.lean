import Docklane.Control.Execution

/-!
# Rollback starts from a failed deployment

A rollback reads the deployment before it waits for the lock of the service, and does not read it
again. As long as no other rollback has ended with success in between, a deployment becomes
`ROLLING_BACK` only from `FAILED`, and a deployment that has succeeded or was rolled back stays as
it is.
-/

namespace Docklane.Control

open Concurrent

/-- A deployment that has succeeded or was rolled back. -/
def DeploymentRecord.IsFinal (d : DeploymentRecord) : Prop :=
  d.status = .SUCCESS ∨ d.status = .ROLLED_BACK

/-- The final deployments keep their status and get no further rollback attempt. -/
structure Db.KeepsFinal (db db' : Db) : Prop where
  kept : ∀ d ∈ db.deployments, d.IsFinal → ∃ d' ∈ db'.deployments, d'.id = d.id
  status : ∀ d ∈ db.deployments, d.IsFinal → ∀ d' ∈ db'.deployments, d'.id = d.id →
    d'.status = d.status
  attempts : ∀ d ∈ db.deployments, d.IsFinal → ∀ a ∈ db'.rollbackAttempts,
    a.deploymentId = d.id → a ∈ db.rollbackAttempts

/-- In every run, each step starts a rollback from `FAILED` only, and what is final stays final. -/
def RollbackLaw (Tid : Type) [DecidableEq Tid] (docker : Set Swarm)
    (Allowed : Tid → ControlOp → World Tid → Prop) (settings : Set Settings) : Prop :=
  ∀ c, ControlReachable docker Allowed settings c →
    (∀ c', ControlStep docker Allowed settings c c' → RollbackStep c.state.db c'.state.db) ∧
    ∀ c', Relation.ReflTransGen (ControlStep docker Allowed settings) c c' →
      c.state.db.KeepsFinal c'.state.db

/-- Calls whose deployment is not rolled back by others while they wait for a lock. -/
def PatientRequest {Tid : Type} (i : Tid) (op : ControlOp) (w : World Tid) : Prop :=
  PatientRollback i op w

/-! ## One step -/

section Steps

variable {db db' : Db}

theorem Db.Keyed.deployment_eq (hkeyed : db.Keyed) {d d' : DeploymentRecord}
    (hd : d ∈ db.deployments) (hd' : d' ∈ db.deployments) (hid : d'.id = d.id) : d' = d :=
  List.inj_on_of_nodup_map hkeyed.deployments hd' hd hid

theorem RollbackStep.of_eq (hkeyed : db.Keyed) (hdeployments : db'.deployments = db.deployments)
    (hattempts : db'.rollbackAttempts = db.rollbackAttempts) : RollbackStep db db' where
  attempts a ha := .inl (hattempts ▸ ha)
  deployments d hd d' hd' hid := by
    rw [hkeyed.deployment_eq hd (hdeployments ▸ hd') hid]
    exact .refl _

variable {Tid : Type} [DecidableEq Tid] {docker : Set Swarm} {P : Processes}
  {Allowed : Tid → ControlOp → World Tid → Prop} {c c' : ControlConfig Tid}

/-- What one step does to the deployments: it leaves them and their attempts alone, or it is a step
of a call that keeps its guarantee. -/
theorem step_deployments (hc : ControlReachable docker Allowed P.settings c)
    (h : ControlStep docker Allowed P.settings c c') :
    (c'.state.db.deployments = c.state.db.deployments ∧
      c'.state.db.rollbackAttempts = c.state.db.rollbackAttempts) ∨
    ∃ i, Guar (P.system docker Allowed).premises i c.state c'.state := by
  rcases (System.safe_of_reachable (S := P.system docker Allowed) hc).step_state h with
    hstate | hguar | henv | ⟨S, hcrash⟩
  · exact .inl (by rw [hstate]; exact ⟨rfl, rfl⟩)
  · exact .inr hguar
  · refine .inl ?_
    change EnvStep c.state c'.state at henv
    generalize c'.state = w' at henv
    cases henv <;> exact ⟨rfl, rfl⟩
  · obtain ⟨_, hw⟩ := hcrash
    exact .inl (by rw [hw]; exact ⟨rfl, rfl⟩)

theorem step_keeps_deployments (hc : ControlReachable docker Allowed P.settings c)
    (h : ControlStep docker Allowed P.settings c c') :
    ∀ d ∈ c.state.db.deployments, ∃ d' ∈ c'.state.db.deployments, d'.id = d.id := by
  intro d hd
  rcases step_deployments hc h with ⟨hdeployments, -⟩ | ⟨i, hguar⟩
  · exact ⟨d, hdeployments ▸ hd, rfl⟩
  · obtain ⟨d', hd', he, -⟩ := hguar.db.deployments d hd
    exact ⟨d', hd', he.id⟩

theorem step_rollback (hclean : NoAlias docker)
    (hpatient : ∀ i op w, Allowed i op w → PatientRollback i op w)
    (hc : ControlReachable docker Allowed P.settings c)
    (h : ControlStep docker Allowed P.settings c c') : RollbackStep c.state.db c'.state.db := by
  have hkeyed := (System.safe_of_reachable (S := P.system docker Allowed) hc).inv.keyed
  rcases step_deployments hc h with ⟨hdeployments, hattempts⟩ | ⟨i, hguar⟩
  · exact .of_eq hkeyed hdeployments hattempts
  · exact hguar.rollback hclean hpatient

end Steps

/-! ## Whole runs -/

theorem Db.KeepsFinal.refl {db : Db} (hkeyed : db.Keyed) : db.KeepsFinal db where
  kept d hd _ := ⟨d, hd, rfl⟩
  status d hd _ d' hd' hid := by rw [hkeyed.deployment_eq hd hd' hid]
  attempts _ _ _ _ ha _ := ha

theorem Db.KeepsFinal.step {db db₁ db₂ : Db} (h : db.KeepsFinal db₁)
    (hkept : ∀ d ∈ db₁.deployments, ∃ d' ∈ db₂.deployments, d'.id = d.id)
    (hstep : RollbackStep db₁ db₂) : db.KeepsFinal db₂ := by
  have hrow : ∀ d ∈ db.deployments, d.IsFinal →
      ∃ d₁ ∈ db₁.deployments, d₁.id = d.id ∧ d₁.status = d.status := by
    intro d hd hfinal
    obtain ⟨d₁, hd₁, hid⟩ := h.kept d hd hfinal
    exact ⟨d₁, hd₁, hid, h.status d hd hfinal d₁ hd₁ hid⟩
  refine ⟨fun d hd hfinal => ?_, fun d hd hfinal d₂ hd₂ hid => ?_,
    fun d hd hfinal a ha hid => ?_⟩ <;>
    obtain ⟨d₁, hd₁, hid₁, hstatus⟩ := hrow d hd hfinal
  · obtain ⟨d₂, hd₂, hid₂⟩ := hkept d₁ hd₁
    exact ⟨d₂, hd₂, hid₂.trans hid₁⟩
  · have hrule := hstep.deployments d₁ hd₁ d₂ hd₂ (hid.trans hid₁.symm)
    have hfinal₁ : d₁.status = .SUCCESS ∨ d₁.status = .ROLLED_BACK := by
      rw [hstatus]
      exact hfinal
    exact (hrule.2 hfinal₁).trans hstatus
  · rcases hstep.attempts a ha with hold | ⟨d', hd', hid', hfailed⟩
    · exact h.attempts d hd hfinal a hold hid
    · -- the attempt would have been started from a failed deployment
      have hsame := h.status d hd hfinal d' hd' (hid'.trans hid)
      rw [hfailed] at hsame
      rcases hfinal with hfinal | hfinal <;> rw [hfinal] at hsame <;> cases hsame

/-- Without aliases, and as long as no rollback ends with success while another one of the same
deployment is waiting for its lock, a rollback starts from `FAILED` only. -/
theorem rollback_only_from_failed {Tid : Type} [DecidableEq Tid] (P : Processes)
    (docker : Set Swarm) (hclean : NoAlias docker) :
    RollbackLaw Tid docker PatientRequest P.settings := by
  intro c hc
  refine ⟨fun c' h => step_rollback hclean (fun _ _ _ h => h) hc h, fun c' h => ?_⟩
  induction h with
  | refl =>
    exact .refl (System.safe_of_reachable (S := P.system docker PatientRequest) hc).inv.keyed
  | tail hsteps hstep ih =>
    have hreach := hc.steps hsteps
    exact ih.step (step_keeps_deployments hreach hstep)
      (step_rollback hclean (fun _ _ _ h => h) hreach hstep)

/-! ## Two rollbacks of one deployment -/

/-- A service with no replicas, and with an image. -/
def shopService : ServiceSummary :=
  { webService with
    taskSpecHash := some "one"
    runtimeSpecHash := some "one"
    image := some ("shop@sha256:" ++
      "0000000000000000000000000000000000000000000000000000000000000000")
    desiredReplicas := 0
    runningReplicas := 0 }

def shopSwarm : Swarm := ⟨[shopService], []⟩

/-- Swarm has rolled the service back on its own. -/
def recoveredSwarm : Swarm :=
  ⟨[{ shopService with version := 3, updateState := some .rollback_completed }], []⟩

def shopStates : Set Swarm := {shopSwarm, recoveredSwarm}

theorem shopStates_noAlias : NoAlias shopStates :=
  noAlias_of_ids ["web"] (by rintro _ (rfl | rfl) <;> decide)

/-- The Agents accept an update of the service, and its health endpoint answers. -/
def shopSurroundings (swarm : Swarm) (target : String) (now : Int) (uuid : String) :
    Surroundings where
  read := swarm.agent target
  now := now
  uuid := uuid
  selected := .ok ⟨"agent", "swarm"⟩
  sent
    | ⟨_, _, _, _, .service ..⟩ => .ok (⟨"web", 2, "two", 0, []⟩ : ServiceMutationResponse)
    | ⟨_, _, _, _, .node ..⟩ => .error (.unavailable "")
  fetched := .ok 200

def deployCall (releaseId operationId : String) : ControlProgram Unit :=
  ignoreResult (DeploymentService.deploy plainProcess "c" "target"
    ⟨operationId, releaseId, ⟨"http://shop/health", 500, 2000, 3, 500, 200⟩, "actor"⟩ 4)

def rollbackCall (operationId : String) : ControlProgram Unit :=
  ignoreResult (DeploymentService.rollback plainProcess "c" "second" ⟨operationId, "actor"⟩ 4)

/-- The release that runs already is recorded as deployed, and the deployment of a new release is
accepted. -/
def deployments : List Move :=
  [.target ⟨"target", "shop", "c", "web"⟩,
    .release ⟨"old", "shop", "shop",
      "sha256:0000000000000000000000000000000000000000000000000000000000000000"⟩,
    .release ⟨"new", "shop", "shop",
      "sha256:1111111111111111111111111111111111111111111111111111111111111111"⟩,
    .start 0 (deployCall "old" "deploy old"),
    .run 0 (shopSurroundings shopSwarm "one" 0 "first") 32,
    .run 0 (shopSurroundings shopSwarm "one" 1000 "") 30,
    .start 1 (deployCall "new" "deploy new"),
    .run 1 (shopSurroundings shopSwarm "two" 0 "second") 16]

theorem deployments_legal {docker : Set Swarm} (h : shopSwarm ∈ docker) :
    deployments.Forall (Move.Legal docker AnyRequest plainProcess.alone.settings) :=
  ⟨trivial, trivial, trivial, .start (.deploy ..), .run h rfl, .run h rfl, .start (.deploy ..),
    .run h rfl⟩

/-- The new deployment fails. One rollback waits for its lock while another one is carried out. -/
def racingRollbacks : List Move :=
  [.run 1 (shopSurroundings recoveredSwarm "" 0 "") 30,
    .start 2 (rollbackCall "late rollback"),
    .run 2 (shopSurroundings recoveredSwarm "" 0 "") 7,
    .start 3 (rollbackCall "rollback"),
    .run 3 (shopSurroundings recoveredSwarm "" 0 "") 32,
    .run 3 (shopSurroundings recoveredSwarm "" 1000 "") 30]

def racingSchedule : List Move := deployments ++ racingRollbacks

theorem racingSchedule_legal :
    racingSchedule.Forall (Move.Legal shopStates AnyRequest plainProcess.alone.settings) := by
  refine List.forall_append.mpr ⟨deployments_legal (.inl rfl), ?_⟩
  exact ⟨.run (.inr rfl) rfl, .start (.rollback ..), .run (.inr rfl) rfl, .start (.rollback ..),
    .run (.inr rfl) rfl, .run (.inr rfl) rfl⟩

/-- The rollback that was waiting goes on. -/
def lateRollback : List Move :=
  [.run 2 (shopSurroundings recoveredSwarm "" 0 "") 6]

theorem lateRollback_legal :
    lateRollback.Forall (Move.Legal shopStates AnyRequest plainProcess.alone.settings) :=
  .run (.inr rfl) rfl

/-- No lock is asked for with a deployment that was read as `FAILED` and has been rolled back. -/
def waitsForRollback (i : Nat) (op : ControlOp) (w : World Nat) : Bool :=
  match op, w.lastRead i with
  | .getLock _, some d => d.status ≠ .FAILED ||
    w.db.deployments.all fun d' => d'.id ≠ d.id || d'.status ≠ .ROLLED_BACK
  | _, _ => true

theorem patient_of_waits (i : Nat) (op : ControlOp) (w : World Nat)
    (h : waitsForRollback i op w = true) : PatientRequest i op w := by
  rintro name rfl d hd hfailed d' hd' hid
  simp only [waitsForRollback, hd, hfailed, ne_eq, not_true, decide_false, Bool.false_or,
    List.all_eq_true, Bool.or_eq_true, decide_eq_true_eq] at h
  exact (h d' hd').resolve_left (not_not.mpr hid)

/-- The same calls. The rollback that was late now waits. -/
def patientSchedule : List Move :=
  (racingSchedule ++ lateRollback).map (Move.under waitsForRollback)

/-- One deployment has succeeded and the other one is rolled back, and so they stay. -/
theorem patient_rollback_final :
    ControlReachable shopStates PatientRequest plainProcess.alone.settings (play patientSchedule) ∧
      (play patientSchedule).state.db.deployments.map (·.status) = [.SUCCESS, .ROLLED_BACK] ∧
      RollbackLaw Nat shopStates PatientRequest plainProcess.alone.settings :=
  ⟨play_under_reachable patient_of_waits
      (List.forall_append.mpr ⟨racingSchedule_legal, lateRollback_legal⟩),
    by decide +kernel, rollback_only_from_failed plainProcess.alone shopStates shopStates_noAlias⟩

/-- The deployment is rolled back, and then it is rolled back again. -/
theorem late_rollback_restarts :
    NoAlias shopStates ∧
      ¬ RollbackLaw Nat shopStates AnyRequest plainProcess.alone.settings := by
  have hrows : ∃ d ∈ (play racingSchedule).state.db.deployments, d.status = .ROLLED_BACK ∧
      ∃ d' ∈ (play (racingSchedule ++ lateRollback)).state.db.deployments,
        d'.id = d.id ∧ d'.status = .ROLLING_BACK := by
    decide +kernel
  have hreach := play_reachable racingSchedule_legal
  refine ⟨shopStates_noAlias, fun hlaw => ?_⟩
  obtain ⟨d, hd, hstatus, d', hd', hid, hstatus'⟩ := hrows
  have hkept := ((hlaw _ hreach).2 _ (play_append_steps _ lateRollback_legal)).status d hd
      (.inr hstatus) d' hd' hid
  rw [hstatus, hstatus'] at hkept
  cases hkept

end Docklane.Control
