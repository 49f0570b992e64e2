import Docklane.Control.MaintenanceCalls
import Docklane.Control.NodeCalls
import Docklane.Control.RollbackCalls
import Docklane.Control.ServiceCalls

/-!
# The control plane keeps to its protocol

Every call keeps to the protocol, and so do the losses of sessions, crashes and the parts of the
control plane that are not modelled. The invariant holds in every reachable configuration, and every
step of a call keeps its guarantee.
-/

namespace Docklane.Control

open Concurrent Concurrent.Program

variable {Tid : Type}

/-! ## Steps that no call takes -/

section Surroundings

variable {E : Premises} {w w' : World Tid}

theorem findDeploymentTarget_append {db : Db} {row t : DeploymentTarget} {id : String}
    (h : db.findDeploymentTarget id = some t) :
    ({ db with targets := db.targets ++ [row] } : Db).findDeploymentTarget id = some t := by
  simp only [Db.findDeploymentTarget] at h ⊢
  rw [List.find?_append, h]
  rfl

theorem Db.Recorded.target {db : Db} {d : DeploymentRecord} {id : String} {type : OperationType}
    (h : db.Recorded d id type) (row : DeploymentTarget) :
    ({ db with targets := db.targets ++ [row] } : Db).Recorded d id type := by
  obtain ⟨t, ht, hrest⟩ := h
  exact ⟨t, findDeploymentTarget_append ht, hrest⟩

theorem target_step (hinv : Inv E w) {row : DeploymentTarget} :
    let w' := { w with db := { w.db with targets := w.db.targets ++ [row] } }
    Inv E w' ∧ ∀ j, Rely E j w w' := by
  refine ⟨⟨{ hinv.keyed with }, { hinv.dispatched with }, { hinv.issued with },
    fun hclean => { hinv.exclusive hclean with }, fun hclean => ?_,
    fun hcareful => { hinv.fenced hcareful with }⟩, fun j => ?_⟩
  · have hc := hinv.consistent hclean
    refine ⟨fun d hd => (hc.deploys d hd).target row, fun a ha => ?_, hc.settled,
      fun d hd => { hc.agree d hd with }⟩
    obtain ⟨d, hd, hid, hrec⟩ := hc.rollsBack a ha
    exact ⟨d, hd, hid, hrec.target row⟩
  · exact { Rely.refl E j w with
      db := { DbStep.refl E (fun name => w.lock name ≠ some j) w.db with
        targets := fun _ _ h => findDeploymentTarget_append h } }

variable [DecidableEq Tid]

theorem loseSession_step (hinv : Inv E w) {i : Tid} :
    let w' := (w.freeLocks (· = i)).setSession i .lost
    Inv E w' ∧ ∀ j, Rely E j w w' := by
  refine ⟨hinv.congr rfl rfl rfl rfl rfl, fun j => { Rely.refl E j w with
    lock_old := fun name hlock => ?_
    lock_kept := fun name hlock => ?_
    lost := fun hlost => ?_
    db := .refl E _ _ }⟩
  · change (w.freeLocks (· = i)).lock name = some j at hlock
    simp only [World.freeLocks] at hlock
    cases hw : w.lock name with
    | none => simp [hw] at hlock
    | some holder =>
      simp only [hw] at hlock
      split at hlock
      · cases hlock
      · exact hlock
  · by_cases hij : j = i
    · exact .inr (by rw [hij]; exact Function.update_self _ _ _)
    · exact .inl ((freeLocks_other (· = i) name hij).mpr hlock)
  · by_cases hij : j = i
    · rw [hij]
      exact Function.update_self _ _ _
    · exact (Function.update_of_ne hij _ _).trans hlost

theorem env_step (hinv : Inv E w) (h : EnvStep w w') : Inv E w' ∧ ∀ j, Rely E j w w' := by
  have hgentle {db' : Db} (hg : w.db.Gentle db') :
      Inv E { w with db := db' } ∧ ∀ j, Rely E j w { w with db := db' } :=
    ⟨hinv.gentle hg, fun j => .gentle j hg⟩
  cases h with
  | @loseSession i _ => exact loseSession_step hinv
  | tick _ => exact hgentle { Db.Gentle.refl w.db with }
  | registration _ => exact hgentle { Db.Gentle.refl w.db with }
  | target _ => exact target_step hinv
  | release _ => exact hgentle { Db.Gentle.refl w.db with }

omit [DecidableEq Tid] in
theorem crash_step {S : Set Tid} (hinv : Inv E w) (h : CrashStep S w w') :
    Inv E w' ∧ ∀ j ∉ S, Rely E j w w' := by
  obtain ⟨hdec, rfl⟩ := h
  have hadmitted : ∀ i a, (if i ∈ S then none else w.admitted i) = some a →
      w.admitted i = some a := by
    intro i a h
    split at h
    · cases h
    · exact h
  refine ⟨⟨hinv.keyed, { hinv.dispatched with }, { hinv.issued with }, hinv.exclusive,
    hinv.consistent, fun hcareful => ?_⟩, fun j hj => ?_⟩
  · have hf := hinv.fenced hcareful
    refine ⟨fun i a ha => hf.recorded i a (hadmitted i a ha),
      fun i j a b ha hb => hf.distinct i j a b
      (hadmitted i a ha) (hadmitted j b hb), fun henforced row hrow hshut => ?_⟩
    obtain ⟨hdrained, hnone⟩ := hf.shut henforced row hrow hshut
    exact ⟨hdrained, fun i a ha => hnone i a (hadmitted i a ha)⟩
  · exact { Rely.refl E j w with
      lock_old := fun name hlock => (freeLocks_other (· ∈ S) name hj).mp hlock
      lock_kept := fun name hlock => .inl ((freeLocks_other (· ∈ S) name hj).mpr hlock)
      lost := fun hlost => (if_neg hj).trans hlost
      admitted := if_neg hj
      lastRead := if_neg hj
      db := .refl E _ _ }

end Surroundings

/-! ## Soundness -/

/-- The calls that are running, and the world. -/
abbrev ControlConfig (Tid : Type) : Type :=
  Config Tid ControlOp ControlOp.Ans Failure Unit (World Tid)

namespace System

variable [DecidableEq Tid] (S : System Tid)

/-- The programs that the processes of the system run. -/
def Runs (p : ControlProgram Unit) : Prop := ∃ s ∈ S.settings, Call s p

variable {S}

theorem wp_ignoreResult {α : Type} {p : ControlProgram α} {i : Tid} {w : World Tid}
    (hinv : Inv S.premises w) (h : S.wp i p Whatever w) : S.wp i (ignoreResult p) Whatever w := by
  refine wp_bind hinv (wp_mono h fun r _ _ _ => ?_)
  cases r <;> exact fun _ _ _ => trivial

theorem wp_call {settings : Settings} (hsettings : settings ∈ S.settings)
    {p : ControlProgram Unit} (hp : Call settings p) {i : Tid} {w : World Tid}
    (hinv : Inv S.premises w) : S.wp i p Whatever w := by
  cases hp with
  | scale _ _ input _ fuel =>
    exact wp_ignoreResult hinv (MutationService.wp_mutateService input
      MutationService.scaleKind_fair hsettings hinv)
  | restart _ _ input fuel =>
    exact wp_ignoreResult hinv (MutationService.wp_mutateService input
      MutationService.restartKind_fair hsettings hinv)
  | mutateNode _ _ input fuel =>
    exact wp_ignoreResult hinv (NodeMutationService.wp_mutate input hsettings hinv)
  | deploy _ _ input fuel =>
    exact wp_ignoreResult hinv (DeploymentService.wp_deploy hsettings hinv)
  | historicalRedeploy _ _ input fuel =>
    exact wp_ignoreResult hinv (DeploymentService.wp_historicalRedeploy hsettings hinv)
  | rollback _ _ input fuel =>
    exact wp_ignoreResult hinv (DeploymentService.wp_rollback hsettings hinv _ _ input fuel)
  | recoverOperations fuel => exact MutationService.wp_onApplicationBootstrap hsettings hinv
  | recoverNodeOperations fuel =>
    exact NodeMutationService.wp_onApplicationBootstrap hsettings hinv
  | reconcileDeployments fuel =>
    exact DeploymentService.wp_reconcilePendingDeployments hsettings hinv
  | initializeMaintenance _ =>
    exact wp_ignoreResult hinv (MaintenanceService.wp_maintains
      MaintenanceService.initializeMaintenance_maintains)
  | requestClosing _ _ =>
    exact wp_ignoreResult hinv (MaintenanceService.wp_maintains
      MaintenanceService.requestClosing_maintains)
  | confirmClosed _ _ =>
    exact wp_ignoreResult hinv (MaintenanceService.wp_maintains
      MaintenanceService.confirmClosed_maintains)
  | beginReconciliation _ _ =>
    exact wp_ignoreResult hinv (MaintenanceService.wp_maintains
      MaintenanceService.beginReconciliation_maintains)
  | completeReconciliation _ _ =>
    exact wp_ignoreResult hinv (MaintenanceService.wp_maintains
      MaintenanceService.completeReconciliation_maintains)
  | resumeManagers _ _ =>
    exact wp_ignoreResult hinv (MaintenanceService.wp_maintains
      MaintenanceService.resumeManagers_maintains)
  | resolveEvidence _ request =>
    exact MaintenanceService.wp_resolve hsettings hinv

variable (S)

theorem sound : Sound S.machine S.protocol S.Runs where
  entry hp hinv _ := by
    obtain ⟨settings, hsettings, hcall⟩ := hp
    exact wp_call hsettings hcall hinv
  env hinv h := env_step hinv h
  crash hinv h := by
    obtain ⟨hinv', hrely⟩ := crash_step hinv h
    exact ⟨hinv', fun _ _ => trivial, hrely⟩

variable {S} {c : ControlConfig Tid}

theorem safe_of_reachable (hc : ControlReachable S.docker S.Allowed S.settings c) :
    Safe S.machine S.protocol c :=
  Reachable.safe S.sound (Inv.emptyWorld S.premises) (fun _ => trivial) hc

end System

end Docklane.Control
