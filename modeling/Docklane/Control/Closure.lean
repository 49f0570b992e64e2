import Docklane.Control.Execution

/-!
# A closed cluster has no unresolved work

With maintenance enforced, a cluster is closed only when nothing of it is unresolved, and no
callback that could add to it is running. The second part rests on the admissions: a callback has
one on record as long as it runs, unless somebody resolves the admission by hand.
-/

namespace Docklane.Control

/-- Requests of administrators who resolve an admission only when its callback is not running. -/
def CarefulRequest {Tid : Type} (_ : Tid) (op : ControlOp) (w : World Tid) : Prop :=
  CarefulEvidence op w

/-- As long as no admission is resolved while its callback is running, nothing of a closed cluster
is unresolved. -/
theorem closed_cluster_drained {Tid : Type} [DecidableEq Tid] (P : Processes) (docker : Set Swarm)
    (henforced : ∀ s ∈ P.settings, s.maintenanceEnforced = true) {c : ControlConfig Tid}
    (hc : ControlReachable docker CarefulRequest P.settings c) :
    ∀ row ∈ c.state.db.maintenance, row.state = .CLOSED → c.state.db.Drained row.clusterId := by
  intro row hrow hclosed
  have hinv := (System.safe_of_reachable (S := P.system docker CarefulRequest) hc).inv
  have hshut : row.state.isShut = true := by
    rw [hclosed]
    rfl
  exact ((hinv.fenced fun _ _ _ h => h).shut henforced row hrow hshut).1

/-- A process that enforces the registration and maintenance. -/
def enforcingProcess : Settings :=
  { plainProcess with
    registrationEnforced := true
    expectedSwarmClusterId := some "swarm"
    maintenanceEnforced := true
    managerClusterId := some "swarm" }

/-- One manager, whose barrier takes every state it is told to take. -/
def blockingSurroundings (uuid : String) (generation : String) : Surroundings where
  read := webSwarm.agent "two"
  uuid := uuid
  managers := .ok [⟨"agent", "node"⟩]
  barrier := .ok ⟨"swarm", "node", generation, .BLOCKED⟩
  placed _ clusterId generation gate := .ok ⟨clusterId, "node", generation, gate⟩

/-- The barrier of the manager is open, and the answer to a mutation gets lost. -/
def openSurroundings (uuid : String) : Surroundings :=
  { blockingSurroundings uuid "" with
    barrier := .ok ⟨"swarm", "node", "1", .OPEN⟩
    selected := .ok ⟨"agent", "swarm"⟩ }

/-- The cluster is open, and a service is being scaled. -/
def openedSchedule : List Move :=
  [.registration ⟨"c", "swarm"⟩,
    .start 0 (ignoreResult (MaintenanceService.initializeMaintenance enforcingProcess "c")),
    .run 0 (blockingSurroundings "" "") 10,
    .start 1 (ignoreResult
      (MutationService.scale enforcingProcess "c" "web" ⟨"o", "actor", 1⟩ 2 4))]

/-- The call ends without knowing what has become of its request. The cluster starts to close, the
dispatch is resolved by hand, and the cluster is closed. -/
def closingSchedule : List Move :=
  openedSchedule ++
  [.run 1 (openSurroundings "admission") 20,
    .run 1 (openSurroundings "dispatch") 30,
    .start 2 (ignoreResult (MaintenanceService.requestClosing enforcingProcess "c" 1)),
    .run 2 (blockingSurroundings "" "") 10,
    .start 3 (MaintenanceService.resolveEvidence enforcingProcess "c"
      ⟨.DISPATCH, "dispatch", 2, "not observed"⟩),
    .run 3 (blockingSurroundings "first" "2") 40,
    .start 4 (ignoreResult (MaintenanceService.confirmClosed enforcingProcess "c" 2)),
    .run 4 (blockingSurroundings "second" "2") 30]

theorem openedSchedule_legal : openedSchedule.Forall
    (Move.Legal {webSwarm} AnyRequest enforcingProcess.alone.settings) :=
  ⟨trivial, .start (.initializeMaintenance ..), .run rfl rfl, .start (.scale ..)⟩

theorem closingSchedule_legal : closingSchedule.Forall
    (Move.Legal {webSwarm} AnyRequest enforcingProcess.alone.settings) :=
  List.forall_append.mpr ⟨openedSchedule_legal, .run rfl rfl, .run rfl rfl,
    .start (.requestClosing ..), .run rfl rfl, .start (.resolveEvidence ..), .run rfl rfl,
    .start (.confirmClosed ..), .run rfl rfl⟩

/-- Administrators who resolve no admission. -/
def sparesAdmissions (_ : Nat) (op : ControlOp) (_ : World Nat) : Bool :=
  match op with
  | .db (.resolveEvidence input _ _) => input.type ≠ .ADMISSION
  | _ => true

theorem careful_of_spares (i : Nat) (op : ControlOp) (w : World Nat)
    (h : sparesAdmissions i op w = true) : CarefulRequest i op w := by
  rintro input locked observed rfl htype
  exact absurd htype (of_decide_eq_true h)

/-- The tables at the end. -/
def closedDb : Db := (play (closingSchedule.map (Move.under sparesAdmissions))).state.db

/-- The operation was resolved by hand before the cluster was closed. -/
theorem closingSchedule_drained :
    closedDb.maintenance = [⟨"c", .CLOSED, 3⟩] ∧
      closedDb.resolutions = [⟨"c", .DISPATCH, "dispatch"⟩] ∧
      closedDb.operations.map (·.status) = [.FAILED] ∧ closedDb.Drained "c" := by
  have hrows : closedDb.maintenance = [⟨"c", .CLOSED, 3⟩] := by decide +kernel
  refine ⟨hrows, by decide +kernel, by decide +kernel, closed_cluster_drained
    enforcingProcess.alone {webSwarm} (by rintro s rfl; rfl)
    (play_under_reachable careful_of_spares closingSchedule_legal)
    ⟨"c", .CLOSED, 3⟩ (hrows ▸ List.mem_singleton_self _) rfl⟩

/-! ## An admission resolved too early -/

/-- A call is admitted and the cluster starts to close. The admission is resolved by hand, the
cluster is closed, and the call goes on to record its operation. -/
def hastySchedule : List Move :=
  openedSchedule ++
  [.run 1 (blockingSurroundings "admission" "") 7,
    .start 2 (ignoreResult (MaintenanceService.requestClosing enforcingProcess "c" 1)),
    .run 2 (blockingSurroundings "" "") 10,
    .start 3 (MaintenanceService.resolveEvidence enforcingProcess "c"
      ⟨.ADMISSION, "admission", 2, "no longer running"⟩),
    .run 3 (blockingSurroundings "first" "2") 30,
    .start 4 (ignoreResult (MaintenanceService.confirmClosed enforcingProcess "c" 2)),
    .run 4 (blockingSurroundings "second" "2") 30,
    .run 1 (blockingSurroundings "" "") 7]

theorem hastySchedule_reachable : ControlReachable {webSwarm} AnyRequest
    enforcingProcess.alone.settings (play hastySchedule) :=
  play_reachable (List.forall_append.mpr ⟨openedSchedule_legal, .run rfl rfl,
    .start (.requestClosing ..), .run rfl rfl, .start (.resolveEvidence ..), .run rfl rfl,
    .start (.confirmClosed ..), .run rfl rfl, .run rfl rfl⟩)

/-- The cluster is closed, and a running operation is on record. -/
theorem resolved_admission_leaves_operation :
    (∀ s ∈ enforcingProcess.alone.settings, s.maintenanceEnforced = true) ∧
    ∃ c : ControlConfig Nat,
      ControlReachable {webSwarm} AnyRequest enforcingProcess.alone.settings c ∧
        ¬ ∀ row ∈ c.state.db.maintenance, row.state = .CLOSED →
          c.state.db.Drained row.clusterId := by
  have hrows : ∃ row ∈ (play hastySchedule).state.db.maintenance, row.state = .CLOSED ∧
      ∃ o ∈ (play hastySchedule).state.db.operations, o.clusterId = row.clusterId ∧
        o.status.isTerminal = false := by
    decide +kernel
  refine ⟨by rintro s rfl; rfl, play hastySchedule, hastySchedule_reachable, fun hdrained => ?_⟩
  obtain ⟨row, hrow, hclosed, o, ho, hcluster, hopen⟩ := hrows
  rw [(hdrained row hrow hclosed).1 o ho hcluster] at hopen
  cases hopen

end Docklane.Control
