import Docklane.Concurrent.Alone
import Docklane.Control.Closure
import Docklane.Control.Upkeep
import Mathlib.Data.List.Sort

/-!
# The acknowledgements of the managers

An acknowledgement row outlives the configuration that it was written under. When the managers that
are configured now all block their barriers, their rows are brought to the generation of the close
request; the rows of other Agents stay as they are, and the comparison with the roster fails as long
as there is one.
-/

namespace Docklane.Control

open Concurrent

/-! ## The rows -/

/-- The primary key of `maintenance_agent_barriers`. -/
def BarrierAck.key (row : BarrierAck) : String × String := (row.clusterId, row.agentId)

variable {row : BarrierAck} {target : ManagerTarget}

namespace Db

variable {db : Db} {clusterId agentId : String} {generation : Nat} {ids : List String}

def BarriersKeyed (db : Db) : Prop := (db.barriers.map BarrierAck.key).Nodup

/-- Every acknowledgement row of the cluster belongs to one of these Agents. -/
def AckedOnlyBy (db : Db) (clusterId : String) (ids : List String) : Prop :=
  ∀ row ∈ db.barriers, row.clusterId = clusterId → row.agentId ∈ ids

theorem mem_acknowledgeBarrier :
    row ∈ (db.acknowledgeBarrier clusterId agentId generation).barriers ↔
      row = ⟨clusterId, agentId, generation, true⟩ ∨
        row ∈ db.barriers ∧ ¬ (row.clusterId = clusterId ∧ row.agentId = agentId) := by
  simp only [acknowledgeBarrier]
  split
  · next hany =>
    obtain ⟨old, hold, hkey⟩ := List.any_eq_true.mp hany
    simp only [List.mem_map]
    constructor
    · rintro ⟨b, hb, rfl⟩
      split
      · exact .inl rfl
      · next hne => exact .inr ⟨hb, hne⟩
    · rintro (rfl | ⟨hrow, hne⟩)
      · exact ⟨old, hold, if_pos (of_decide_eq_true hkey)⟩
      · exact ⟨row, hrow, if_neg hne⟩
  · next hany =>
    have hnone : ∀ b ∈ db.barriers, ¬ (b.clusterId = clusterId ∧ b.agentId = agentId) := by
      simpa using hany
    simp only [List.mem_append, List.mem_singleton]
    constructor
    · rintro (hrow | rfl)
      · exact .inr ⟨hrow, hnone row hrow⟩
      · exact .inl rfl
    · rintro (rfl | ⟨hrow, -⟩)
      · exact .inr rfl
      · exact .inl hrow

theorem BarriersKeyed.acknowledgeBarrier (h : db.BarriersKeyed) (clusterId agentId : String)
    (generation : Nat) : (db.acknowledgeBarrier clusterId agentId generation).BarriersKeyed := by
  simp only [Db.acknowledgeBarrier]
  split
  · have hkeys : (db.barriers.map fun b => if b.clusterId = clusterId ∧ b.agentId = agentId
        then ⟨clusterId, agentId, generation, true⟩ else b).map BarrierAck.key =
        db.barriers.map BarrierAck.key := by
      rw [List.map_map]
      refine List.map_congr_left fun b _ => ?_
      simp only [Function.comp_apply]
      split
      · next hkey => rw [← hkey.1, ← hkey.2]; rfl
      · rfl
    simp only [BarriersKeyed, hkeys]
    exact h
  · next hany =>
    refine Storage.nodup_keys_insert h fun b hb hkey => hany ?_
    exact List.any_eq_true.mpr ⟨b, hb, decide_eq_true
      ⟨congrArg Prod.fst hkey, congrArg Prod.snd hkey⟩⟩

/-- The acknowledgements of these Agents are written, one after the other. -/
def acknowledgeAll (db : Db) (clusterId : String) (generation : Nat) (ids : List String) : Db :=
  ids.foldl (fun db agentId => db.acknowledgeBarrier clusterId agentId generation) db

theorem BarriersKeyed.acknowledgeAll (h : db.BarriersKeyed) :
    (db.acknowledgeAll clusterId generation ids).BarriersKeyed := by
  induction ids generalizing db with
  | nil => exact h
  | cons agentId ids ih => exact ih (h.acknowledgeBarrier clusterId agentId generation)

/-- The rows of these Agents are replaced, the others stay. -/
theorem mem_acknowledgeAll :
    row ∈ (db.acknowledgeAll clusterId generation ids).barriers ↔
      (∃ agentId ∈ ids, row = ⟨clusterId, agentId, generation, true⟩) ∨
        row ∈ db.barriers ∧ ¬ (row.clusterId = clusterId ∧ row.agentId ∈ ids) := by
  induction ids generalizing db with
  | nil => simp [acknowledgeAll]
  | cons agentId ids ih =>
    change row ∈ ((db.acknowledgeBarrier clusterId agentId generation).acknowledgeAll clusterId
      generation ids).barriers ↔ _
    rw [ih, mem_acknowledgeBarrier]
    constructor
    · rintro (⟨a, ha, rfl⟩ | ⟨rfl | ⟨hrow, hne⟩, hnot⟩)
      · exact .inl ⟨a, List.mem_cons_of_mem _ ha, rfl⟩
      · exact .inl ⟨agentId, List.mem_cons_self, rfl⟩
      · refine .inr ⟨hrow, fun ⟨hc, ha⟩ => ?_⟩
        rcases List.mem_cons.mp ha with ha | ha
        · exact hne ⟨hc, ha⟩
        · exact hnot ⟨hc, ha⟩
    · rintro (⟨a, ha, rfl⟩ | ⟨hrow, hnot⟩)
      · by_cases hmem : a ∈ ids
        · exact .inl ⟨a, hmem, rfl⟩
        · rcases List.mem_cons.mp ha with rfl | ha
          · exact .inr ⟨.inl rfl, fun h => hmem h.2⟩
          · exact absurd ha hmem
      · exact .inr ⟨.inr ⟨hrow, fun h => hnot ⟨h.1, h.2 ▸ List.mem_cons_self⟩⟩,
          fun h => hnot ⟨h.1, List.mem_cons_of_mem _ h.2⟩⟩

theorem mem_barrierAcks :
    row ∈ db.barrierAcks clusterId ↔ row ∈ db.barriers ∧ row.clusterId = clusterId := by
  simp [barrierAcks]

/-- With the rows of the roster at this generation, the comparison succeeds unless there is a row of
an Agent outside the roster. -/
theorem barrierAcks_acknowledgeAll (hkeyed : db.BarriersKeyed) (hids : ids.Nodup)
    (honly : db.AckedOnlyBy clusterId ids) :
    (db.acknowledgeAll clusterId generation ids).barrierAcks clusterId =
      (ids.mergeSort (· ≤ ·)).map fun agentId => ⟨clusterId, agentId, generation, true⟩ := by
  have hrow : ∀ row, row ∈ (db.acknowledgeAll clusterId generation ids).barrierAcks clusterId ↔
      row ∈ (ids.mergeSort (· ≤ ·)).map fun agentId =>
        (⟨clusterId, agentId, generation, true⟩ : BarrierAck) := by
    intro row
    simp only [mem_barrierAcks, mem_acknowledgeAll, List.mem_map, List.mem_mergeSort]
    constructor
    · rintro ⟨⟨agentId, hagent, rfl⟩ | ⟨hold, hnot⟩, hcluster⟩
      · exact ⟨agentId, hagent, rfl⟩
      · exact absurd ⟨hcluster, honly row hold hcluster⟩ hnot
    · rintro ⟨agentId, hagent, rfl⟩
      exact ⟨.inl ⟨agentId, hagent, rfl⟩, rfl⟩
  have hnodup : ((db.acknowledgeAll clusterId generation ids).barrierAcks clusterId).Nodup :=
    (List.mergeSort_perm _ _).nodup_iff.mpr
      (List.Nodup.filter _ (List.Nodup.of_map _ hkeyed.acknowledgeAll))
  have hnodup' : ((ids.mergeSort (· ≤ ·)).map fun agentId =>
      (⟨clusterId, agentId, generation, true⟩ : BarrierAck)).Nodup := by
    refine ((List.mergeSort_perm _ _).nodup_iff.mpr hids).map fun a b h => ?_
    exact congrArg BarrierAck.agentId h
  have hsorted : ((db.acknowledgeAll clusterId generation ids).barrierAcks clusterId).Pairwise
      fun a b => a.agentId ≤ b.agentId :=
    List.pairwise_mergeSort' (fun a b : BarrierAck => a.agentId ≤ b.agentId) _
  have hsorted' : ((ids.mergeSort (· ≤ ·)).map fun agentId =>
      (⟨clusterId, agentId, generation, true⟩ : BarrierAck)).Pairwise
      fun a b => a.agentId ≤ b.agentId :=
    (List.pairwise_mergeSort' (· ≤ ·) ids).map _ fun _ _ h => h
  refine List.Perm.eq_of_pairwise (fun a b ha hb hab hba => ?_) hsorted hsorted'
    ((List.perm_ext_iff_of_nodup hnodup hnodup').mpr hrow)
  obtain ⟨x, -, rfl⟩ := List.mem_map.mp ((hrow a).mp ha)
  obtain ⟨y, -, rfl⟩ := List.mem_map.mp hb
  rw [show x = y from le_antisymm hab hba]

theorem acknowledgeAll_maintenance :
    (db.acknowledgeAll clusterId generation ids).maintenance = db.maintenance := by
  induction ids generalizing db with
  | nil => rfl
  | cons agentId ids ih =>
    refine ih.trans ?_
    simp only [acknowledgeBarrier]
    split <;> rfl

end Db

/-! ## Blocking the managers, with nobody interfering -/

/-- The managers that are configured, under the id of their Swarm. -/
structure Roster where
  swarmClusterId : String
  targets : List ManagerTarget
  distinct : (targets.map (·.agentId)).Nodup

def Roster.agentIds (roster : Roster) : List String := roster.targets.map (·.agentId)

theorem Roster.target_eq (roster : Roster) {target other : ManagerTarget}
    (h : target ∈ roster.targets) (hother : other ∈ roster.targets)
    (hid : other.agentId = target.agentId) : other = target :=
  List.inj_on_of_nodup_map roster.distinct hother h hid

/-- The ids as `blockAll` returns them. -/
def Roster.expectedIds (roster : Roster) : List String := roster.agentIds.mergeSort (· ≤ ·)

/-- Every inspection finds the managers of the roster, and each of them has its barrier blocked at
this generation. -/
def Roster.Blocks (roster : Roster) (generation : Nat) : (op : ControlOp) → op.Ans → Prop
  | .inspectConfiguredManagers swarmClusterId, answer =>
    swarmClusterId = roster.swarmClusterId → answer = .ok roster.targets
  | .putBarrier agentId swarmClusterId requested gate, answer =>
    ∀ target ∈ roster.targets, target.agentId = agentId →
      swarmClusterId = roster.swarmClusterId → requested = toString generation → gate = .BLOCKED →
      answer = .ok ⟨roster.swarmClusterId, target.nodeId, toString generation, .BLOCKED⟩
  | .readBarrier agentId, answer =>
    ∀ target ∈ roster.targets, target.agentId = agentId →
      answer = .ok ⟨roster.swarmClusterId, target.nodeId, toString generation, .BLOCKED⟩
  | _, _ => True

/-- A statement is answered with what it did. -/
def Served : (op : ControlOp) → Db → op.Ans → Db → Prop
  | .db op, db, (answer : Except Failure op.Reply), db' =>
    match answer with
    | .ok reply => op.exec db = .ok (reply, db')
    | .error e => op.exec db = .error e
  | _, _, _, _ => True

section Undisturbed

variable {Tid : Type} [DecidableEq Tid]

/-- A request of a call that runs alone while the database works and the managers block. -/
def Undisturbed (docker : Set Swarm) (i : Tid) (roster : Roster) (generation : Nat)
    (op : ControlOp) (w : World Tid) (answer : op.Ans) (w' : World Tid) : Prop :=
  Performs docker i op w answer w' ∧ Served op w.db answer w'.db ∧
    roster.Blocks generation op answer

variable {docker : Set Swarm} {i : Tid} {roster : Roster} {generation : Nat} {w : World Tid}

theorem StatementStep.session {op : DbOp} {w' : World Tid} {answer : Except Failure op.Reply}
    (h : StatementStep i op w answer w') : w'.session = w.session := by
  have hanswered (v : World Tid) (r : Except Failure op.Reply) :
      (v.answered i op r).session = v.session := by
    unfold World.answered
    split <;> rfl
  cases h <;> exact hanswered _ _

theorem ends_query {op : DbOp} {reply : op.Reply} {db : Db}
    {Q : Except Failure op.Reply → World Tid → Prop} (hlive : w.session i ≠ .lost)
    (hexec : op.exec w.db = .ok (reply, db))
    (hQ : ∀ w', w'.db = db → w'.session i ≠ .lost → Q (.ok reply) w') :
    (query op).Ends (Undisturbed docker i roster generation) Q w := by
  refine ⟨⟨.ok reply, _, StatementStep.executed hexec (.inl hlive), ?_, trivial⟩, ?_⟩
  · change op.exec w.db = .ok (reply, _)
    rw [hexec, World.answered_db]
    rfl
  · rintro (e | r) w' ⟨hstep, hserved, -⟩
    · have hrefused : op.exec w.db = .error e := hserved
      rw [hexec] at hrefused
      cases hrefused
    · have hsame : op.exec w.db = .ok (r, w'.db) := hserved
      rw [hexec] at hsame
      obtain ⟨rfl, hdb⟩ := Prod.mk.inj (Except.ok.inj hsame)
      refine hQ w' hdb.symm ?_
      rw [StatementStep.session hstep]
      exact hlive

variable {Q : Except Failure Unit → World Tid → Prop}

namespace MaintenanceService

theorem ends_requireRecord {clusterId : String} {row : MaintenanceRecord}
    {Q : Except Failure MaintenanceRecord → World Tid → Prop} (hlive : w.session i ≠ .lost)
    (hrow : w.db.findMaintenance clusterId = some row)
    (hQ : ∀ w', w'.db = w.db → w'.session i ≠ .lost → Q (.ok row) w') :
    (requireRecord clusterId).Ends (Undisturbed docker i roster generation) Q w := by
  have hexec : (DbOp.findMaintenance clusterId).exec w.db = .ok (some row, w.db) := by
    rw [← hrow]
    rfl
  exact .bind (.attempt (ends_query hlive hexec hQ))

theorem ends_inspectConfiguredManagers {Q : Except Failure (List ManagerTarget) → World Tid → Prop}
    (hQ : Q (.ok roster.targets) w) :
    (inspectConfiguredManagers roster.swarmClusterId).Ends
      (Undisturbed docker i roster generation) Q w := by
  refine ⟨⟨.ok roster.targets, w, rfl, trivial, fun _ => rfl⟩, ?_⟩
  rintro a w' ⟨hw, -, hanswer⟩
  cases hw
  cases hanswer rfl
  exact hQ

theorem ends_assertRoster {message : String} (hQ : Q (.ok ()) w) :
    (assertRoster roster.swarmClusterId roster.targets message).Ends
      (Undisturbed docker i roster generation) Q w := by
  refine .bind (ends_inspectConfiguredManagers ?_)
  dsimp only
  rw [if_pos rfl]
  exact hQ

theorem barrierMatches_blocked (target : ManagerTarget) (swarmClusterId : String)
    (generation : Nat) :
    barrierMatches target swarmClusterId generation .BLOCKED
      ⟨swarmClusterId, target.nodeId, toString generation, .BLOCKED⟩ = true := by
  simp [barrierMatches]

theorem ends_putManagerBarrier (htarget : target ∈ roster.targets) (hQ : Q (.ok ()) w) :
    (putManagerBarrier target roster.swarmClusterId generation .BLOCKED).Ends
      (Undisturbed docker i roster generation) Q w := by
  refine ⟨⟨.ok ⟨roster.swarmClusterId, target.nodeId, toString generation, .BLOCKED⟩, w, rfl,
    trivial, fun other hother hid _ _ _ => ?_⟩, ?_⟩
  · rw [roster.target_eq htarget hother hid]
  · rintro a w' ⟨hw, -, hanswer⟩
    cases hw
    cases hanswer target htarget rfl rfl rfl rfl
    dsimp only
    rw [if_pos (barrierMatches_blocked ..)]
    exact hQ

theorem ends_inspectManagerBarrier (htarget : target ∈ roster.targets) (hQ : Q (.ok ()) w) :
    (inspectManagerBarrier target roster.swarmClusterId generation .BLOCKED).Ends
      (Undisturbed docker i roster generation) Q w := by
  refine ⟨⟨.ok ⟨roster.swarmClusterId, target.nodeId, toString generation, .BLOCKED⟩, w, rfl,
    trivial, fun other hother hid => ?_⟩, ?_⟩
  · rw [roster.target_eq htarget hother hid]
  · rintro a w' ⟨hw, -, hanswer⟩
    cases hw
    cases hanswer target htarget rfl
    dsimp only
    rw [if_pos (barrierMatches_blocked ..)]
    exact hQ

theorem ends_inspectManagerBarriers {targets : List ManagerTarget}
    (htargets : targets ⊆ roster.targets) (hQ : Q (.ok ()) w) :
    (inspectManagerBarriers roster.swarmClusterId generation .BLOCKED targets).Ends
      (Undisturbed docker i roster generation) Q w := by
  induction targets with
  | nil => exact hQ
  | cons target rest ih =>
    exact .bind (ends_inspectManagerBarrier (htargets List.mem_cons_self)
      (ih fun _ h => htargets (List.mem_cons_of_mem _ h)))

theorem ends_blockManagers {clusterId : String} {targets : List ManagerTarget}
    (htargets : targets ⊆ roster.targets) (hlive : w.session i ≠ .lost)
    (hQ : ∀ w', w'.db = w.db.acknowledgeAll clusterId generation (targets.map (·.agentId)) →
      w'.session i ≠ .lost → Q (.ok ()) w') :
    (blockManagers clusterId roster.swarmClusterId generation targets).Ends
      (Undisturbed docker i roster generation) Q w := by
  induction targets generalizing w with
  | nil => exact hQ w rfl hlive
  | cons target rest ih =>
    refine .bind (ends_putManagerBarrier (htargets List.mem_cons_self) ?_)
    refine .bind (ends_query hlive rfl fun w₁ hw₁ hlive₁ => ?_)
    refine ih (fun _ h => htargets (List.mem_cons_of_mem _ h)) hlive₁ fun w' hw' hlive' => ?_
    exact hQ w' (by rw [hw', hw₁]; rfl) hlive'

/-- The row waits for the managers to block, and the roster is the one of this process. -/
structure AwaitsBlocking (settings : Settings) (clusterId : String) (generation : Nat)
    (roster : Roster) (i : Tid) (w : World Tid) : Prop where
  row : ∃ row, w.db.findMaintenance clusterId = some row ∧
    (row.state = .CLOSING ∨ row.state = .RECONCILING) ∧ row.generation = generation
  bound : settings.managerClusterId = some roster.swarmClusterId
  complete : roster.targets.length = settings.managerCount
  live : w.session i ≠ .lost

/-- Run alone, `blockAll` returns the ids of the roster, and the check that the transitions make of
the acknowledgements accepts them. -/
def BlocksAll (docker : Set Swarm) (settings : Settings) (clusterId : String) (generation : Nat)
    (roster : Roster) (i : Tid) (w : World Tid) : Prop :=
  (blockAll settings clusterId roster.swarmClusterId generation).Ends
    (Undisturbed docker i roster generation)
    (fun result w' => result = .ok roster.expectedIds ∧
      w'.db.acknowledgedBy clusterId generation roster.expectedIds = true) w

variable {settings : Settings} {clusterId : String}

/-- `blockAll` comes to the comparison of the rows with the roster, whatever the rows were. -/
theorem ends_blockAll {Q : Except Failure (List String) → World Tid → Prop}
    (hready : AwaitsBlocking settings clusterId generation roster i w)
    (hQ : ∀ w', w'.db = w.db.acknowledgeAll clusterId generation roster.agentIds →
      if acknowledgementsComplete (w'.db.barrierAcks clusterId) roster.expectedIds generation
      then Q (.ok roster.expectedIds) w'
      else Q (.error (.conflict "Missing or stale manager barrier acknowledgement")) w') :
    (blockAll settings clusterId roster.swarmClusterId generation).Ends
      (Undisturbed docker i roster generation) Q w := by
  obtain ⟨row, hrow, hstate, hgeneration⟩ := hready.row
  refine .bind (ends_requireRecord hready.live hrow fun w₁ hw₁ hlive₁ => ?_)
  have haccepted : ¬ (row.state ≠ .CLOSING ∧ row.state ≠ .RECONCILING ∨
      row.generation ≠ generation ∨ settings.managerClusterId ≠ some roster.swarmClusterId) := by
    rintro (⟨hclosing, hreconciling⟩ | hother | hunbound)
    · rcases hstate with h | h
      · exact hclosing h
      · exact hreconciling h
    · exact hother hgeneration
    · exact hunbound hready.bound
  dsimp only
  rw [if_neg haccepted]
  refine .bind (ends_inspectConfiguredManagers ?_)
  dsimp only
  rw [if_neg (not_not.mpr hready.complete)]
  refine .bind (ends_blockManagers (List.Subset.refl _) hlive₁ fun w₂ hw₂ hlive₂ => ?_)
  refine .bind (ends_assertRoster ?_)
  refine .bind (ends_inspectManagerBarriers (List.Subset.refl _) ?_)
  refine .bind (ends_assertRoster ?_)
  -- the acknowledgements do not touch the maintenance row
  have hrow₂ : w₂.db.findMaintenance clusterId = some row := by
    rw [← hrow, hw₂, hw₁]
    simp only [Db.findMaintenance, Db.acknowledgeAll_maintenance]
  refine .bind (ends_requireRecord hlive₂ hrow₂ fun w₃ hw₃ hlive₃ => ?_)
  dsimp only
  rw [if_neg (by simp [hgeneration])]
  refine .bind (ends_query hlive₃ rfl fun w₄ hw₄ _ => ?_)
  have hend := hQ w₄ (by rw [hw₄, hw₃, hw₂, hw₁]; rfl)
  rw [hw₄] at hend
  change Program.Ends _ Q (if acknowledgementsComplete (w₃.db.barrierAcks clusterId)
    roster.expectedIds generation then .pure roster.expectedIds else .throw _) w₄
  split
  · next hcomplete => rwa [if_pos hcomplete] at hend
  · next hmissing => rwa [if_neg hmissing] at hend

theorem acknowledgementsComplete_roster {rows : List BarrierAck}
    (h : rows = roster.expectedIds.map fun agentId => ⟨clusterId, agentId, generation, true⟩) :
    acknowledgementsComplete rows roster.expectedIds generation = true := by
  subst h
  simp [acknowledgementsComplete, Function.comp_def]

/-- Blocking succeeds exactly when no row belongs to an Agent outside the roster. -/
theorem blocksAll_iff (hkeyed : w.db.BarriersKeyed)
    (hready : AwaitsBlocking settings clusterId generation roster i w) :
    BlocksAll docker settings clusterId generation roster i w ↔
      w.db.AckedOnlyBy clusterId roster.agentIds := by
  constructor
  · intro hblocks
    -- the comparison was made with the rows that `blockAll` leaves behind
    have hrows : (blockAll settings clusterId roster.swarmClusterId generation).Ends
        (Undisturbed docker i roster generation)
        (fun _ w' => w'.db = w.db.acknowledgeAll clusterId generation roster.agentIds) w :=
      ends_blockAll hready fun w' hw' => by split <;> exact hw'
    obtain ⟨result, w', ⟨-, hacked⟩, hw'⟩ := (hblocks.and hrows).exists
    intro row hrow hcluster
    by_contra hstale
    have hkept : row ∈ w'.db.barrierAcks clusterId := by
      rw [Db.mem_barrierAcks, hw', Db.mem_acknowledgeAll]
      exact ⟨.inr ⟨hrow, fun h => hstale h.2⟩, hcluster⟩
    rw [of_decide_eq_true hacked] at hkept
    obtain ⟨agentId, hagent, rfl⟩ := List.mem_map.mp hkept
    exact hstale (by simpa [Roster.expectedIds] using hagent)
  · intro honly
    refine ends_blockAll hready fun w' hw' => ?_
    have hacks : w'.db.barrierAcks clusterId =
        roster.expectedIds.map fun agentId => ⟨clusterId, agentId, generation, true⟩ := by
      rw [hw']
      exact Db.barrierAcks_acknowledgeAll hkeyed roster.distinct honly
    rw [if_pos (acknowledgementsComplete_roster hacks)]
    refine ⟨rfl, decide_eq_true ?_⟩
    rw [hacks, List.mergeSort_of_pairwise]
    simpa [Roster.expectedIds] using List.pairwise_mergeSort' (· ≤ ·) roster.agentIds

end MaintenanceService

theorem barriersKeyed_of_reachable {settings : Set Settings}
    {Allowed : Tid → ControlOp → World Tid → Prop} {c : ControlConfig Tid}
    (hc : ControlReachable docker Allowed settings c) : c.state.db.BarriersKeyed := by
  have hempty : (emptyWorld Tid).db.BarriersKeyed := List.nodup_nil
  refine db_invariant (I := Db.BarriersKeyed) hempty (fun hexec hdb => ?_) (fun hsame hdb => ?_) hc
  · rcases DbOp.exec_barriers hexec with hbarriers | ⟨clusterId, agentId, generation, rfl⟩
    · rw [Db.BarriersKeyed, hbarriers]
      exact hdb
    · exact hdb.acknowledgeBarrier clusterId agentId generation
  · rw [Db.BarriersKeyed, hsame.barriers]
    exact hdb

open MaintenanceService in
/-- After any history, under any sequence of configurations: with the managers of the roster ready
to block, blocking them succeeds exactly when every acknowledgement row of the cluster belongs to a
manager of the roster. -/
theorem blocking_succeeds_iff (docker : Set Swarm) (P : Processes) {c : ControlConfig Tid}
    (hc : ControlReachable docker AnyRequest P.settings c) (settings : Settings)
    (clusterId : String)
    (generation : Nat) (roster : Roster) (i : Tid)
    (hready : AwaitsBlocking settings clusterId generation roster i c.state) :
    BlocksAll docker settings clusterId generation roster i c.state ↔
      c.state.db.AckedOnlyBy clusterId roster.agentIds :=
  blocksAll_iff (barriersKeyed_of_reachable hc) hready

end Undisturbed

/-- The cluster was closed with the Agent of its only manager. It is about to be reconciled. -/
def reconcilingSchedule : List Move :=
  closingSchedule ++
    [.start 5 (ignoreResult (MaintenanceService.beginReconciliation enforcingProcess "c" 3)),
      .run 5 (blockingSurroundings "third" "") 10]

theorem reconcilingSchedule_reachable : ControlReachable {webSwarm} AnyRequest
    enforcingProcess.alone.settings (play reconcilingSchedule) :=
  play_reachable (List.forall_append.mpr
    ⟨closingSchedule_legal, .start (.beginReconciliation ..), .run rfl rfl⟩)

theorem reconcilingSchedule_barriers :
    (play reconcilingSchedule).state.db.barriers = [⟨"c", "agent", 2, true⟩] := by decide +kernel

/-- The process is configured for this many managers by now. -/
def reconfigured (managerCount : Nat) : Settings := { enforcingProcess with managerCount }

open MaintenanceService in
theorem reconcilingSchedule_awaits (roster : Roster) (h : roster.swarmClusterId = "swarm") :
    AwaitsBlocking (reconfigured roster.targets.length) "c" 4 roster 6
      (play reconcilingSchedule).state :=
  ⟨⟨⟨"c", .RECONCILING, 4⟩, by decide +kernel, .inr rfl, rfl⟩, by rw [h]; rfl, rfl,
    by decide +kernel⟩

/-- A second manager has been added. -/
def grownRoster : Roster := ⟨"swarm", [⟨"agent", "node"⟩, ⟨"added", "other"⟩], by decide⟩

open MaintenanceService in
/-- With a manager that was added since the last closing, blocking succeeds. -/
theorem added_manager_blocks :
    AwaitsBlocking (reconfigured 2) "c" 4 grownRoster 6 (play reconcilingSchedule).state ∧
      BlocksAll {webSwarm} (reconfigured 2) "c" 4 grownRoster 6
        (play reconcilingSchedule).state := by
  have hready := reconcilingSchedule_awaits grownRoster rfl
  refine ⟨hready, (blocking_succeeds_iff {webSwarm} enforcingProcess.alone
    reconcilingSchedule_reachable _ _ _ _ _ hready).mpr fun row hrow _ => ?_⟩
  rw [reconcilingSchedule_barriers] at hrow
  obtain rfl := List.mem_singleton.mp hrow
  exact List.mem_cons_self

/-- The Agent of the manager has been renamed. -/
def renamedRoster : Roster := ⟨"swarm", [⟨"renamed", "node"⟩], by decide⟩

open MaintenanceService in
/-- The row of the old name stays, and the renamed manager cannot be blocked any more. -/
theorem renamed_manager_never_blocks :
    ¬ ∀ (docker : Set Swarm) (P : Processes) (c : ControlConfig Nat),
      ControlReachable docker AnyRequest P.settings c →
      ∀ (settings : Settings) (clusterId : String) (generation : Nat) (roster : Roster) (i : Nat),
        AwaitsBlocking settings clusterId generation roster i c.state →
        BlocksAll docker settings clusterId generation roster i c.state := by
  intro hall
  have hready := reconcilingSchedule_awaits renamedRoster rfl
  have hblocks := hall {webSwarm} enforcingProcess.alone _ reconcilingSchedule_reachable _ _ _ _ _
    hready
  have honly := (blocksAll_iff (barriersKeyed_of_reachable reconcilingSchedule_reachable)
    hready).mp hblocks
  have hagent := honly ⟨"c", "agent", 2, true⟩
    (reconcilingSchedule_barriers ▸ List.mem_singleton_self _) rfl
  revert hagent
  decide

end Docklane.Control
