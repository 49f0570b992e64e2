import Docklane.Control.Execution

/-!
# Exclusion of unresolved operations

Two unresolved operations never touch one service or node, as long as no name of a service or node
is the id of another one. The locks are named after ids, and the code looks resources up by these
ids again; such a lookup finds another resource that has the id for a name, if it is listed first.
-/

namespace Docklane.Control

/-- Without aliases, no two unresolved operations of a cluster are on one service, on one node, or
on a service and a node that affects it. -/
theorem unresolved_operations_exclusive {Tid : Type} [DecidableEq Tid] (P : Processes)
    (docker : Set Swarm) (hclean : NoAlias docker) {c : ControlConfig Tid}
    (hc : ControlReachable docker AnyRequest P.settings c) : c.state.db.Exclusive :=
  (System.safe_of_reachable (S := P.system docker AnyRequest) hc).inv.exclusive hclean

/-- Two services and a node. -/
def storeSwarm : Swarm where
  services := [webService, { webService with id := "db", name := "shop_db" }]
  nodes := [⟨"x", "h", 1, "one", .active, []⟩]

def drainCall (nodeRef operationId : String) : ControlProgram Unit :=
  ignoreResult (NodeMutationService.mutate plainProcess "c" nodeRef
    ⟨operationId, "actor", 1, .DRAIN, ⟨[], []⟩⟩ 1)

/-- Both services are scaled and the node is drained, and the answers get lost. -/
def storeSchedule : List Move :=
  let scale (serviceRef operationId : String) : ControlProgram Unit :=
    ignoreResult (MutationService.scale plainProcess "c" serviceRef ⟨operationId, "actor", 1⟩ 2 1)
  let S : Surroundings := { read := storeSwarm.agent "two", selected := .ok ⟨"agent", "swarm"⟩ }
  [.start 0 (scale "web" "o"), .run 0 S 13, .start 1 (scale "db" "p"), .run 1 S 13,
    .start 2 (drainCall "x" "q"), .run 2 S 13]

/-- Three operations are unresolved, each on a resource of its own. -/
theorem storeSchedule_exclusive :
    (play storeSchedule).state.db.operations.map (fun o => (o.serviceId, o.status.isTerminal)) =
        [("web", false), ("db", false)] ∧
      (play storeSchedule).state.db.nodeOperations.map (fun o => (o.nodeId, o.status.isTerminal)) =
        [("x", false)] ∧
      (play storeSchedule).state.db.Exclusive := by
  have hclean : NoAlias {storeSwarm} := noAlias_of_ids ["web", "db", "x"] (by rintro _ rfl; decide)
  refine ⟨by decide +kernel, by decide +kernel, unresolved_operations_exclusive plainProcess.alone
    {storeSwarm} hclean (play_reachable ?_)⟩
  exact ⟨.start (.scale ..), .run rfl rfl, .start (.scale ..), .run rfl rfl,
    .start (.mutateNode ..), .run rfl rfl⟩

/-! ## A hostname that is the id of another node -/

/-- The first node has the id of the second one for its hostname. -/
def aliasedSwarm : Swarm where
  services := []
  nodes := [⟨"y", "x", 1, "one", .active, []⟩, ⟨"x", "h", 1, "one", .active, []⟩]

/-- Both nodes are drained. The second call locks the node `x`, and then looks `x` up and finds the
node `y`. -/
def aliasedSchedule : List Move :=
  [.start 0 (drainCall "y" "o"), .run 0 { read := aliasedSwarm.agent "two" } 11,
    .start 1 (drainCall "h" "p"), .run 1 { read := aliasedSwarm.agent "two" } 11]

theorem aliasedSchedule_reachable : ControlReachable {aliasedSwarm} AnyRequest
    plainProcess.alone.settings (play aliasedSchedule) :=
  play_reachable ⟨.start (.mutateNode ..), .run rfl rfl, .start (.mutateNode ..), .run rfl rfl⟩

/-- Two unresolved operations on the node `y`, although the names of the locks are distinct. -/
theorem aliased_hostname_breaks_exclusion :
    Function.Injective plainProcess.alone.lockName ∧
    ∃ c : ControlConfig Nat,
      ControlReachable {aliasedSwarm} AnyRequest plainProcess.alone.settings c ∧
        ¬ c.state.db.Exclusive := by
  have hrows : ∃ o ∈ (play aliasedSchedule).state.db.nodeOperations,
      ∃ p ∈ (play aliasedSchedule).state.db.nodeOperations, o.status.isTerminal = false ∧
        p.status.isTerminal = false ∧ o.id ≠ p.id ∧ o.clusterId = p.clusterId ∧
        o.nodeId = p.nodeId := by
    decide +kernel
  refine ⟨readableLockName_injective, play aliasedSchedule, aliasedSchedule_reachable,
    fun hexclusive => ?_⟩
  obtain ⟨o, ho, p, hp, hopen, hopen', hid, hcluster, hnode⟩ := hrows
  exact (hexclusive.nodes o ho p hp hopen hopen' hid hcluster).1 hnode

end Docklane.Control
