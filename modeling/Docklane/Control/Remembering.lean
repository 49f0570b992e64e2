import Docklane.Control.Carried
import Docklane.Control.Execution

/-!
# What the control plane remembers

An operation that has ended keeps its end: the status and the error message that were written with
it. Where a deployment comes from and which rollbacks it had is remembered as well, and the targets
and releases that it refers to are never deleted. Every statement keeps to this, on every database.
-/

namespace Docklane.Control

open Concurrent Storage

/-- The same operation with the same end. -/
structure OperationRecord.SameEnd (o o' : OperationRecord) : Prop where
  intent : o.SameIntent o'
  status : o'.status = o.status
  errorMessage : o'.errorMessage = o.errorMessage

theorem OperationRecord.SameEnd.refl (o : OperationRecord) : o.SameEnd o := ⟨.refl o, rfl, rfl⟩

theorem OperationRecord.SameEnd.trans {o₁ o₂ o₃ : OperationRecord} (h : o₁.SameEnd o₂)
    (h' : o₂.SameEnd o₃) : o₁.SameEnd o₃ where
  intent := by
    have hintent : o₂.toOperationInput = _ := h.intent
    have hintent' : o₃.toOperationInput = _ := h'.intent
    rw [hintent] at hintent'
    exact hintent'
  status := h'.status.trans h.status
  errorMessage := h'.errorMessage.trans h.errorMessage

theorem OperationRecord.SameEnd.both {o o₁ o₂ : OperationRecord} (h : o.SameEnd o₁)
    (h' : o.SameEnd o₂) : o₁.SameEnd o₂ where
  intent := by
    have hintent : o₁.toOperationInput = _ := h.intent
    have hintent' : o₂.toOperationInput = _ := h'.intent
    rw [OperationRecord.SameIntent, hintent, hintent']
  status := h'.status.trans h.status.symm
  errorMessage := h'.errorMessage.trans h.errorMessage.symm

/-- The same deployment, whatever has become of it. -/
structure DeploymentRecord.SameOrigin (d d' : DeploymentRecord) : Prop where
  id : d'.id = d.id
  target : d'.deploymentTargetId = d.deploymentTargetId
  previous : d'.previousReleaseId = d.previousReleaseId

theorem DeploymentRecord.SameOrigin.refl (d : DeploymentRecord) : d.SameOrigin d := ⟨rfl, rfl, rfl⟩

theorem DeploymentRecord.SameOrigin.trans {d₁ d₂ d₃ : DeploymentRecord} (h : d₁.SameOrigin d₂)
    (h' : d₂.SameOrigin d₃) : d₁.SameOrigin d₃ :=
  ⟨h'.id.trans h.id, h'.target.trans h.target, h'.previous.trans h.previous⟩

structure Db.Remembers (db db' : Db) : Prop where
  operations : ∀ o ∈ db.operations, o.status.isTerminal = true → ∃ o' ∈ db'.operations, o.SameEnd o'
  deployments : ∀ d ∈ db.deployments, ∃ d' ∈ db'.deployments, d.SameOrigin d'
  attempts : ∀ a ∈ db.rollbackAttempts, a ∈ db'.rollbackAttempts
  targets : ∀ {id t}, db.findDeploymentTarget id = some t → db'.findDeploymentTarget id = some t
  releases : ∀ {id r}, db.findRelease id = some r → db'.findRelease id = some r

namespace Db

variable {db db' db'' : Db}

theorem Remembers.refl (db : Db) : db.Remembers db where
  operations o ho _ := ⟨o, ho, .refl o⟩
  deployments d hd := ⟨d, hd, .refl d⟩
  attempts _ ha := ha
  targets h := h
  releases h := h

theorem Remembers.trans (h : db.Remembers db') (h' : db'.Remembers db'') : db.Remembers db'' where
  operations o ho hterminal := by
    obtain ⟨o₁, ho₁, hend⟩ := h.operations o ho hterminal
    obtain ⟨o₂, ho₂, hend'⟩ := h'.operations o₁ ho₁ (hend.status ▸ hterminal)
    exact ⟨o₂, ho₂, hend.trans hend'⟩
  deployments d hd := by
    obtain ⟨d₁, hd₁, hsame⟩ := h.deployments d hd
    obtain ⟨d₂, hd₂, hsame'⟩ := h'.deployments d₁ hd₁
    exact ⟨d₂, hd₂, hsame.trans hsame'⟩
  attempts a ha := h'.attempts a (h.attempts a ha)
  targets ht := h'.targets (h.targets ht)
  releases hr := h'.releases (h.releases hr)

/-! ## The writers -/

theorem changeOperation_remembers {id : String} (change : OperationChange) :
    db.Remembers (db.changeOperation id change) where
  __ := Remembers.refl db
  operations o ho hterminal := by
    refine ⟨o, mem_changeOperation.mpr ⟨o, ho, .inr ⟨ho, fun h => ?_⟩⟩, .refl o⟩
    rw [hterminal] at h
    cases h.2

theorem writeDeployment_remembers {id : String} {write : DeploymentWrite} :
    db.Remembers (db.writeDeployment id write) where
  __ := Remembers.refl db
  deployments d hd := by
    refine ⟨_, List.mem_map_of_mem hd, ?_⟩
    split <;> exact ⟨rfl, rfl, rfl⟩

theorem backfillTargetRuntimeSpecHash_remembers {id hash : String} :
    db.Remembers (db.backfillTargetRuntimeSpecHash id hash) where
  __ := Remembers.refl db
  operations o ho _ := by
    refine ⟨_, List.mem_map_of_mem ho, ?_⟩
    split <;> exact ⟨rfl, rfl, rfl⟩

theorem closeNotObserved_remembers {clusterId reason : String} {row : EvidenceOperation}
    (h : db.closeNotObserved clusterId reason row = .ok db') : db.Remembers db' := by
  cases row with
  | node _ =>
    cases h
    exact { Remembers.refl db with }
  | service _ =>
    rcases closeNotObserved_service h with ⟨-, rfl⟩ | ⟨-, d, -, rfl⟩
    · exact changeOperation_remembers _
    · exact (changeOperation_remembers _).trans writeDeployment_remembers

theorem resolveEvidence_remembers {input : ResolveEvidenceInput} {locked : Option LockedResource}
    {observed : Option ObservedUnchanged} (h : db.resolveEvidence input locked observed = .ok db') :
    db.Remembers db' := by
  obtain ⟨settled, rfl, ⟨-, rfl, -⟩ | ⟨-, hsettled⟩⟩ := resolveEvidence_ok h
  · exact { Remembers.refl settled with }
  · rcases resolveDispatch_ok hsettled with rfl | ⟨row, -, -, -, hclosed⟩
    · exact { Remembers.refl settled with }
    · exact { closeNotObserved_remembers hclosed with }

end Db

/-! ## Statements and steps -/

theorem DbOp.exec_remembers {op : DbOp} {db db' : Db} {reply : op.Reply}
    (h : op.exec db = .ok (reply, db')) : db.Remembers db' := by
  have hrefl := Db.Remembers.refl db
  by_cases hop : op.Writes
  · cases op with
    | createOperation input =>
      obtain ⟨-, rfl⟩ := Db.createOperation_ok (made_of_exec h)
      exact { hrefl with
        operations := fun o ho _ => ⟨o, List.mem_append_left _ ho, .refl o⟩ }
    | createNodeOperation input =>
      obtain ⟨-, rfl⟩ := Db.createNodeOperation_ok (made_of_exec h)
      exact { hrefl with }
    | createDeployment operation input id =>
      obtain ⟨-, -, -, -, -, -, rfl⟩ := Db.createDeployment_ok h
      exact { hrefl with
        operations := fun o ho _ => ⟨o, List.mem_append_left _ ho, .refl o⟩
        deployments := fun d hd => ⟨d, List.mem_append_left _ hd, .refl d⟩ }
    | createRollback operation d =>
      obtain ⟨-, -, rfl⟩ := Db.createRollback_ok (made_of_exec h)
      refine Db.Remembers.trans ?_ Db.writeDeployment_remembers
      exact { hrefl with
        operations := fun o ho _ => ⟨o, List.mem_append_left _ ho, .refl o⟩
        attempts := fun _ ha => List.mem_append_left _ ha }
    | changeOperation id change =>
      cases h
      exact Db.changeOperation_remembers change
    | changeNodeOperation id change =>
      cases h
      exact { hrefl with }
    | backfillTargetRuntimeSpecHash id hash =>
      cases h
      exact Db.backfillTargetRuntimeSpecHash_remembers
    | settle settlement d o =>
      have hdb := DbOp.exec_settle h
      change db' = _ at hdb
      rw [hdb]
      exact (Db.changeOperation_remembers _).trans Db.writeDeployment_remembers
    | resolveEvidence input locked observed =>
      exact Db.resolveEvidence_remembers (made_of_exec h)
    | _ => exact hop.elim
  · obtain ⟨hrows, htargets, hreleases⟩ := DbOp.exec_sameRecords hop h
    exact
      { operations := fun o ho _ => ⟨o, hrows.operations ▸ ho, .refl o⟩
        deployments := fun d hd => ⟨d, hrows.deployments ▸ hd, .refl d⟩
        attempts := fun a ha => hrows.rollbackAttempts ▸ ha
        targets := fun ht => by simpa only [Db.findDeploymentTarget, htargets] using ht
        releases := fun hr => by simpa only [Db.findRelease, hreleases] using hr }

section Steps

variable {Tid : Type} [DecidableEq Tid] {docker : Set Swarm}
  {Allowed : Tid → ControlOp → World Tid → Prop} {settings : Set Settings} {w w' : World Tid}
  {c c' : ControlConfig Tid}

theorem EnvStep.remembers (h : EnvStep w w') : w.db.Remembers w'.db := by
  have hrefl := Db.Remembers.refl w.db
  cases h with
  | loseSession _ => exact hrefl
  | tick _ => exact { hrefl with }
  | registration _ => exact { hrefl with }
  | release _ =>
    refine { hrefl with releases := fun {id r} hr => ?_ }
    simp only [Db.findRelease] at hr ⊢
    rw [List.find?_append, hr]
    rfl
  | target _ =>
    refine { hrefl with targets := fun {id t} ht => ?_ }
    simp only [Db.findDeploymentTarget] at ht ⊢
    rw [List.find?_append, ht]
    rfl

theorem Performs.remembers {i : Tid} {op : ControlOp} {answer : op.Ans}
    (h : Performs docker i op w answer w') : w.db.Remembers w'.db := by
  by_cases hop : ∀ o, op ≠ .db o
  · rw [Performs.db h hop]
    exact .refl _
  · simp only [not_forall, not_not] at hop
    obtain ⟨o, rfl⟩ := hop
    rcases StatementStep.db h with hdb | ⟨reply, hexec⟩
    · rw [hdb]
      exact .refl _
    · exact DbOp.exec_remembers hexec

theorem step_remembers (h : ControlStep docker Allowed settings c c') :
    c.state.db.Remembers c'.state.db := by
  cases h with
  | spawn _ _ => exact .refl _
  | finish _ _ => exact .refl _
  | env henv => exact EnvStep.remembers henv
  | crash S hcrash =>
    rw [CrashStep.db hcrash]
    exact .refl _
  | perform _ hperform => exact Performs.remembers hperform.2

theorem steps_remember (h : Relation.ReflTransGen (ControlStep docker Allowed settings) c c') :
    c.state.db.Remembers c'.state.db := by
  induction h with
  | refl => exact .refl _
  | tail _ hstep ih => exact ih.trans (step_remembers hstep)

end Steps

end Docklane.Control
