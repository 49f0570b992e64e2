import Docklane.Control.Machine
import Docklane.Control.Outcomes

/-!
# The tables of maintenance and of the journal

Few statements write the maintenance rows, the acknowledgements of the managers or the journal of
dispatches. What every statement does to them is said here once, and an invariant of the database is
derived from its statements.
-/

namespace Docklane.Control

open Concurrent

/-- The maintenance rows, the acknowledgements and the journal are the same. -/
structure Db.SameUpkeep (db db' : Db) : Prop where
  maintenance : db'.maintenance = db.maintenance
  barriers : db'.barriers = db.barriers
  dispatches : db'.dispatches = db.dispatches

/-- Statements that write one of these tables. -/
def DbOp.Upkeep : DbOp → Prop
  | .insertDispatch _ | .beginSend _ | .transitionDispatch _ _ _ | .initializeOpen _
  | .requestClosing _ _ | .acknowledgeBarrier _ _ _ | .commitClosed _ _ _ _
  | .commitReconciling _ _ _ | .commitOpen _ _ _ _ => True
  | _ => False

theorem Db.closeNotObserved_sameUpkeep {db db' : Db} {clusterId reason : String}
    {row : EvidenceOperation} (h : db.closeNotObserved clusterId reason row = .ok db') :
    db.SameUpkeep db' := by
  cases row with
  | node _ =>
    cases h
    exact ⟨rfl, rfl, rfl⟩
  | service _ =>
    rcases Db.closeNotObserved_service h with ⟨-, rfl⟩ | ⟨-, d, -, rfl⟩ <;> exact ⟨rfl, rfl, rfl⟩

theorem DbOp.exec_sameUpkeep {op : DbOp} {db db' : Db} {reply : op.Reply} (hop : ¬ op.Upkeep)
    (h : op.exec db = .ok (reply, db')) : db.SameUpkeep db' := by
  cases op with
  | insertDispatch _ => exact absurd trivial hop
  | beginSend _ => exact absurd trivial hop
  | transitionDispatch _ _ _ => exact absurd trivial hop
  | initializeOpen _ => exact absurd trivial hop
  | requestClosing _ _ => exact absurd trivial hop
  | acknowledgeBarrier _ _ _ => exact absurd trivial hop
  | commitClosed _ _ _ _ => exact absurd trivial hop
  | commitReconciling _ _ _ => exact absurd trivial hop
  | commitOpen _ _ _ _ => exact absurd trivial hop
  | createOperation input =>
    obtain ⟨-, rfl⟩ := Db.createOperation_ok (made_of_exec h)
    exact ⟨rfl, rfl, rfl⟩
  | createNodeOperation input =>
    obtain ⟨-, rfl⟩ := Db.createNodeOperation_ok (made_of_exec h)
    exact ⟨rfl, rfl, rfl⟩
  | createDeployment operation input id =>
    obtain ⟨-, -, -, -, -, -, rfl⟩ := Db.createDeployment_ok h
    exact ⟨rfl, rfl, rfl⟩
  | createRollback operation d =>
    obtain ⟨-, -, rfl⟩ := Db.createRollback_ok (made_of_exec h)
    exact ⟨rfl, rfl, rfl⟩
  | settle settlement d o =>
    have hdb := DbOp.exec_settle h
    change db' = _ at hdb
    rw [hdb]
    exact ⟨rfl, rfl, rfl⟩
  | resolveEvidence input locked observed =>
    obtain ⟨settled, rfl, ⟨-, rfl, -⟩ | ⟨-, hsettled⟩⟩ := Db.resolveEvidence_ok (made_of_exec h)
    · exact ⟨rfl, rfl, rfl⟩
    · rcases Db.resolveDispatch_ok hsettled with rfl | ⟨row, -, -, -, hclosed⟩
      · exact ⟨rfl, rfl, rfl⟩
      · obtain ⟨hmaintenance, hbarriers, hdispatches⟩ := Db.closeNotObserved_sameUpkeep hclosed
        exact ⟨hmaintenance, hbarriers, hdispatches⟩
  | insertAdmission c g a =>
    rcases Db.insertAdmission_ok h with ⟨-, rfl⟩ | ⟨-, -, -, rfl⟩ <;> exact ⟨rfl, rfl, rfl⟩
  | acquireLease c holder ttl =>
    simp only [DbOp.exec, Db.acquireLease] at h
    split at h <;> split at h <;> cases h <;> exact ⟨rfl, rfl, rfl⟩
  | _ => cases h; exact ⟨rfl, rfl, rfl⟩

theorem DbOp.exec_barriers {op : DbOp} {db db' : Db} {reply : op.Reply}
    (h : op.exec db = .ok (reply, db')) :
    db'.barriers = db.barriers ∨ ∃ clusterId agentId generation,
      db' = db.acknowledgeBarrier clusterId agentId generation := by
  by_cases hop : op.Upkeep
  · cases op with
    | insertDispatch d =>
      have hinsert := made_of_exec h
      simp only [Db.insertDispatch] at hinsert
      split at hinsert <;> cases hinsert
      exact .inl rfl
    | initializeOpen c =>
      rcases Db.initializeOpen_ok (made_of_exec h) with rfl | ⟨-, rfl⟩ <;> exact .inl rfl
    | acknowledgeBarrier c a g =>
      cases h
      exact .inr ⟨c, a, g, rfl⟩
    | commitClosed c g ids lease =>
      rcases Db.commitClosed_ok h with ⟨-, rfl⟩ | ⟨-, -, -, -, rfl⟩ <;> exact .inl rfl
    | commitReconciling c g lease =>
      rcases Db.commitReconciling_ok h with ⟨-, rfl⟩ | ⟨-, -, rfl⟩ <;> exact .inl rfl
    | commitOpen c g ids lease =>
      rcases Db.commitOpen_ok h with ⟨-, rfl⟩ | ⟨-, -, -, -, rfl⟩ <;> exact .inl rfl
    | beginSend d => cases h; exact .inl rfl
    | transitionDispatch id source target => cases h; exact .inl rfl
    | requestClosing c g => cases h; exact .inl rfl
    | _ => exact hop.elim
  · exact .inl (exec_sameUpkeep hop h).barriers

section Steps

variable {Tid : Type} [DecidableEq Tid] {docker : Set Swarm}
  {Allowed : Tid → ControlOp → World Tid → Prop}

theorem EnvStep.sameUpkeep {w w' : World Tid} (h : EnvStep w w') : w.db.SameUpkeep w'.db := by
  cases h <;> exact ⟨rfl, rfl, rfl⟩

/-- What every statement keeps, and what does not depend on the other tables, is an invariant. -/
theorem db_invariant {Entry : ControlProgram Unit → Prop} {w₀ : World Tid} {I : Db → Prop}
    (h₀ : I w₀.db) (hexec : ∀ {op : DbOp} {db db' : Db} {reply : op.Reply},
      op.exec db = .ok (reply, db') → I db → I db')
    (hsame : ∀ {db db' : Db}, db.SameUpkeep db' → I db → I db')
    {c : Config Tid ControlOp ControlOp.Ans Failure Unit (World Tid)}
    (hc : Reachable (controlMachine docker Allowed) Entry w₀ c) : I c.state.db := by
  induction hc with
  | init => exact h₀
  | step _ hstep ih =>
    cases hstep with
    | spawn _ _ => exact ih
    | finish _ _ => exact ih
    | env henv => exact hsame henv.sameUpkeep ih
    | crash S hcrash =>
      rw [CrashStep.db hcrash]
      exact ih
    | @perform _ op _ _ _ _ hperform =>
      by_cases hop : ∀ o, op ≠ .db o
      · rw [Performs.db hperform.2 hop]
        exact ih
      · simp only [not_forall, not_not] at hop
        obtain ⟨o, rfl⟩ := hop
        rcases StatementStep.db hperform.2 with hdb | ⟨reply, hexecuted⟩
        · rw [hdb]
          exact ih
        · exact hexec hexecuted ih

end Steps

end Docklane.Control
