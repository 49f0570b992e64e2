import Docklane.Concurrent.Linking
import Docklane.Control.Dispatch
import Docklane.Control.Maintenance
import Docklane.Control.Snapshots
import Mathlib.Data.Finset.Dedup

/-!
# The roster of the manager Agents

`inspectConfiguredManagers` of `agent/http-agent.client.ts`, which the other modules take as one
request. It asks every configured Agent who it is and what it knows about the Swarm, one Agent after
the other, and the answers may change in between. That the result is a complete matching is not
checked directly: it follows from the counts, the membership of each Agent, the equality of the
rosters and the check for duplicates.
-/

namespace Docklane.Control

open Concurrent Concurrent.Program

/-- `AgentIdentityResponse`, as far as it is looked at. -/
structure AgentIdentityResponse where
  clusterId : String
  nodeId : String
  manager : Bool
  deriving DecidableEq, Repr

structure ManagerQuorum where
  total : Nat
  available : Bool
  deriving DecidableEq, Repr

structure ClusterNode where
  id : String
  manager : Bool
  deriving DecidableEq, Repr

structure ClusterResponse where
  id : String
  managers : ManagerQuorum
  nodes : List ClusterNode
  deriving DecidableEq, Repr

/-- The node ids that a cluster response reports as managers, sorted. -/
def ClusterResponse.managerNodes (cluster : ClusterResponse) : List String :=
  ((cluster.nodes.filter (·.manager)).map (·.id)).mergeSort (· ≤ ·)

/-- The requests behind a manager roster, and those of the control plane. -/
inductive ManagerOp where
  /-- `GET /v1/identity` of one Agent -/
  | identity (agentId : String)
  /-- `GET /v1/cluster` of one Agent -/
  | cluster (agentId : String)
  | control (op : ControlOp)
  deriving DecidableEq

def ManagerOp.Ans : ManagerOp → Type
  | identity _ => Except Failure AgentIdentityResponse
  | cluster _ => Except Failure ClusterResponse
  | control op => op.Ans

abbrev ManagerProgram (α : Type) := Program ManagerOp ManagerOp.Ans Failure α

abbrev ManagerEvent := Program.Event ManagerOp ManagerOp.Ans

namespace HttpAgentClient

def requestIdentity (agentId : String) : ManagerProgram AgentIdentityResponse :=
  .request (.identity agentId) Program.ofExcept

def requestCluster (agentId : String) : ManagerProgram ClusterResponse :=
  .request (.cluster agentId) Program.ofExcept

/-- The answers of one Agent fit the Swarm and the number of configured Agents. -/
def managerMatches (clusterId : String) (expected : Nat) (identity : AgentIdentityResponse)
    (cluster : ClusterResponse) : Bool :=
  let nodes := cluster.managerNodes
  identity.clusterId = clusterId && identity.manager && cluster.id = clusterId &&
    cluster.managers.available && cluster.managers.total = expected &&
    nodes.length = expected && nodes.dedup.length = expected && nodes.contains identity.nodeId

/-- The loop over the configured Agents, with the roster and the targets so far. -/
def observeManagers (clusterId : String) (expected : Nat) :
    List String → Option (List String) → List ManagerTarget → ManagerProgram (List ManagerTarget)
  | [], _, targets => .pure targets
  | agentId :: rest, roster, targets =>
    (requestIdentity agentId).bind fun identity =>
      (requestCluster agentId).bind fun cluster =>
        if managerMatches clusterId expected identity cluster = false then
          .throw (.error "Manager Agent identity or Swarm manager membership mismatch")
        else if roster ≠ none ∧ roster ≠ some cluster.managerNodes then
          .throw (.error "Swarm manager roster changed between Agent observations")
        else
          observeManagers clusterId expected rest (some cluster.managerNodes)
            (targets ++ [⟨agentId, identity.nodeId⟩])

/-- `agents` are the ids of the configured Agents. -/
def inspectConfiguredManagers (agents : List String) (clusterId : String) :
    ManagerProgram (List ManagerTarget) :=
  if isBoundedIdentifier clusterId = false then
    .throw (.error "A fixed Swarm cluster ID is required for manager barriers")
  else
    (observeManagers clusterId agents.length agents none []).bind fun targets =>
      if (targets.map (·.nodeId)).dedup.length ≠ agents.length then
        .throw (.error "Duplicate manager Agent node identities")
      else .pure targets

end HttpAgentClient

/-- The requests of the control plane with the roster of these Agents. -/
def withManagers (agents : List String) : (op : ControlOp) → ManagerProgram op.Ans
  | .inspectConfiguredManagers clusterId =>
    (HttpAgentClient.inspectConfiguredManagers agents clusterId).attempt
  | op => Program.perform (ManagerOp.control op)

/-! ## The matching -/

/-- What one Agent has answered. -/
def Reported (t : List ManagerEvent) (agentId : String) (identity : AgentIdentityResponse)
    (cluster : ClusterResponse) : Prop :=
  ⟨.identity agentId, (.ok identity : Except Failure AgentIdentityResponse)⟩ ∈ t ∧
    ⟨.cluster agentId, (.ok cluster : Except Failure ClusterResponse)⟩ ∈ t

/-- The targets are the configured Agents in their order, and match the managers `M` one to one. In
the answers `t` every Agent has reported `M` as the managers of the Swarm, with a quorum, and named
its own node among them. -/
structure ManagerMatching (agents : List String) (clusterId : String) (t : List ManagerEvent)
    (targets : List ManagerTarget) (M : Finset String) : Prop where
  inOrder : targets.map (·.agentId) = agents
  agent_unique : ∀ agentId ∈ agents, ∃! target, target ∈ targets ∧ target.agentId = agentId
  node_mem : ∀ target ∈ targets, target.nodeId ∈ M
  node_unique : ∀ nodeId ∈ M, ∃! target, target ∈ targets ∧ target.nodeId = nodeId
  reported : ∀ target ∈ targets, ∃ identity cluster, Reported t target.agentId identity cluster ∧
    identity.nodeId = target.nodeId ∧ identity.clusterId = clusterId ∧ cluster.id = clusterId ∧
    cluster.managers.available = true ∧
    ((cluster.nodes.filter (·.manager)).map (·.id)).toFinset = M

/-- What the loop has found about one Agent: its answers fit, with `nodes` as the roster. -/
def Observed (clusterId : String) (expected : Nat) (nodes : List String) (t : List ManagerEvent)
    (target : ManagerTarget) : Prop :=
  ∃ identity cluster, Reported t target.agentId identity cluster ∧
    HttpAgentClient.managerMatches clusterId expected identity cluster = true ∧
    cluster.managerNodes = nodes ∧ identity.nodeId = target.nodeId

variable {clusterId agentId : String} {expected : Nat} {target : ManagerTarget}
  {targets : List ManagerTarget}

theorem Observed.mono {nodes : List String} {t t' : List ManagerEvent}
    (h : Observed clusterId expected nodes t target) (hsub : t ⊆ t') :
    Observed clusterId expected nodes t' target := by
  obtain ⟨identity, cluster, ⟨hidentity, hcluster⟩, hrest⟩ := h
  exact ⟨identity, cluster, ⟨hsub hidentity, hsub hcluster⟩, hrest⟩

namespace HttpAgentClient

variable {t : List ManagerEvent}

theorem requestIdentity_inv {identity : AgentIdentityResponse}
    (h : Trace (requestIdentity agentId) t (.pure identity)) :
    t = [⟨.identity agentId, (.ok identity : Except Failure AgentIdentityResponse)⟩] := by
  cases h with
  | cons hrest =>
    obtain ⟨rfl, hanswer⟩ := hrest.ofExcept_inv
    rw [hanswer]

theorem requestCluster_inv {cluster : ClusterResponse}
    (h : Trace (requestCluster agentId) t (.pure cluster)) :
    t = [⟨.cluster agentId, (.ok cluster : Except Failure ClusterResponse)⟩] := by
  cases h with
  | cons hrest =>
    obtain ⟨rfl, hanswer⟩ := hrest.ofExcept_inv
    rw [hanswer]

/-- The loop adds one target for each Agent that is left, all with the roster it started with. -/
theorem observeManagers_inv {agents : List String} {roster : Option (List String)}
    {targets result : List ManagerTarget}
    (h : Trace (observeManagers clusterId expected agents roster targets) t (.pure result)) :
    ∃ added nodes, result = targets ++ added ∧ added.map (·.agentId) = agents ∧
      (∀ seen, roster = some seen → nodes = seen) ∧
      ∀ target ∈ added, Observed clusterId expected nodes t target := by
  induction agents generalizing roster targets t with
  | nil =>
    cases h
    refine ⟨[], roster.getD [], (List.append_nil _).symm, rfl, ?_, nofun⟩
    rintro seen rfl
    rfl
  | cons agentId rest ih =>
    obtain ⟨identity, t₁, t', rfl, hidentity, hrest⟩ := h.bind_inv
    obtain ⟨cluster, t₂, t₃, rfl, hcluster, hloop⟩ := hrest.bind_inv
    obtain rfl := requestIdentity_inv hidentity
    obtain rfl := requestCluster_inv hcluster
    split at hloop
    · cases hloop
    rename_i hmatches
    split at hloop
    · cases hloop
    rename_i hroster
    obtain ⟨added, nodes, rfl, hagents, hnodes, hobserved⟩ := ih hloop
    obtain rfl := hnodes _ rfl
    refine ⟨⟨agentId, identity.nodeId⟩ :: added, cluster.managerNodes, by simp, by simp [hagents],
      ?_, fun target htarget => ?_⟩
    · rintro seen rfl
      by_contra hne
      exact hroster ⟨nofun, fun heq => hne (Option.some.inj heq).symm⟩
    · rcases List.mem_cons.mp htarget with rfl | htarget
      · exact ⟨identity, cluster, ⟨by simp, by simp⟩, by simpa using hmatches, rfl, rfl⟩
      · exact (hobserved target htarget).mono (by simp)

theorem managerMatches_iff {identity : AgentIdentityResponse} {cluster : ClusterResponse} :
    managerMatches clusterId expected identity cluster = true ↔
      identity.clusterId = clusterId ∧ identity.manager = true ∧ cluster.id = clusterId ∧
        cluster.managers.available = true ∧ cluster.managers.total = expected ∧
        cluster.managerNodes.length = expected ∧ cluster.managerNodes.dedup.length = expected ∧
        identity.nodeId ∈ cluster.managerNodes := by
  simp [managerMatches, and_assoc]

end HttpAgentClient

theorem ClusterResponse.toFinset_managerNodes (cluster : ClusterResponse) :
    cluster.managerNodes.toFinset =
      ((cluster.nodes.filter (·.manager)).map (·.id)).toFinset :=
  List.toFinset_eq_of_perm _ _ (List.mergeSort_perm _ _)

theorem existsUnique_of_nodup_map {α β : Type} {f : α → β} {l : List α} (h : (l.map f).Nodup)
    {b : β} (hb : b ∈ l.map f) : ∃! a, a ∈ l ∧ f a = b := by
  obtain ⟨a, ha, rfl⟩ := List.mem_map.mp hb
  exact ⟨a, ⟨ha, rfl⟩, fun a' h' => List.inj_on_of_nodup_map h h'.1 ha h'.2⟩

/-- The targets name distinct nodes of one roster of their number, so they name all of it. -/
theorem ManagerMatching.of_observed {agents : List String} (hagents : agents.Nodup)
    {t : List ManagerEvent} {nodes : List String} (hinOrder : targets.map (·.agentId) = agents)
    (hobserved : ∀ target ∈ targets, Observed clusterId agents.length nodes t target)
    (hdistinct : (targets.map (·.nodeId)).dedup.length = agents.length) :
    ManagerMatching agents clusterId t targets (targets.map (·.nodeId)).toFinset := by
  have hlength : targets.length = agents.length := by rw [← hinOrder, List.length_map]
  have hnodup : (targets.map (·.nodeId)).Nodup :=
    nodup_of_length_dedup (by rw [hdistinct, List.length_map, hlength])
  have hroster : ∀ target ∈ targets, nodes.toFinset = (targets.map (·.nodeId)).toFinset := by
    intro target htarget
    obtain ⟨identity, cluster, -, hmatches, rfl, -⟩ := hobserved target htarget
    obtain ⟨-, -, -, -, -, hcount, -⟩ := HttpAgentClient.managerMatches_iff.mp hmatches
    have hsub : targets.map (·.nodeId) ⊆ cluster.managerNodes := by
      intro nodeId hnode
      obtain ⟨target, htarget, rfl⟩ := List.mem_map.mp hnode
      obtain ⟨identity, cluster', -, hmatches, hnodes, hid⟩ := hobserved target htarget
      rw [← hnodes, ← hid]
      exact (HttpAgentClient.managerMatches_iff.mp hmatches).2.2.2.2.2.2.2
    have hperm := (hnodup.subperm hsub).perm_of_length_le (by rw [hcount, List.length_map, hlength])
    exact (List.toFinset_eq_of_perm _ _ hperm).symm
  refine ⟨hinOrder, fun agentId hagent => ?_, fun target htarget => ?_, fun nodeId hnode => ?_,
    fun target htarget => ?_⟩
  · rw [← hinOrder] at hagent hagents
    exact existsUnique_of_nodup_map hagents hagent
  · exact List.mem_toFinset.mpr (List.mem_map_of_mem htarget)
  · exact existsUnique_of_nodup_map hnodup (List.mem_toFinset.mp hnode)
  · obtain ⟨identity, cluster, hreported, hmatches, hnodes, hid⟩ := hobserved target htarget
    obtain ⟨hcluster, -, hcluster', havailable, -⟩ := HttpAgentClient.managerMatches_iff.mp hmatches
    refine ⟨identity, cluster, hreported, hid, hcluster, hcluster', havailable, ?_⟩
    rw [← hroster target htarget, ← hnodes, cluster.toFinset_managerNodes]

theorem inspectConfiguredManagers_matching {agents : List String} (hagents : agents.Nodup)
    {t : List ManagerEvent}
    (h : Trace (HttpAgentClient.inspectConfiguredManagers agents clusterId) t (.pure targets)) :
    ManagerMatching agents clusterId t targets (targets.map (·.nodeId)).toFinset := by
  unfold HttpAgentClient.inspectConfiguredManagers at h
  split at h
  · cases h
  obtain ⟨observed, t₁, t₂, rfl, hloop, hend⟩ := h.bind_inv
  split at hend
  · cases hend
  rename_i hdistinct
  cases hend
  obtain ⟨added, nodes, rfl, hinOrder, -, hobserved⟩ := HttpAgentClient.observeManagers_inv hloop
  rw [List.append_nil]
  exact .of_observed hagents hinOrder hobserved (not_not.mp hdistinct)

/-! ## Blocking the managers -/

/-- A response that shows the barrier of a node in this state, for this Swarm and generation. -/
structure ShowsBarrier (nodeId swarmClusterId : String) (generation : Nat) (state : Gate)
    (barrier : BarrierResponse) : Prop where
  clusterId : barrier.clusterId = swarmClusterId
  nodeId : barrier.nodeId = nodeId
  generation : barrier.generation = toString generation
  state : barrier.state = state

/-- The Agent has acknowledged the state of the barrier of this node. -/
def Acknowledged (t : List ManagerEvent) (agentId nodeId swarmClusterId : String)
    (generation : Nat) (state : Gate) : Prop :=
  ∃ barrier, ShowsBarrier nodeId swarmClusterId generation state barrier ∧
    ⟨.control (.putBarrier agentId swarmClusterId (toString generation) state),
      (.ok barrier : Except Failure BarrierResponse)⟩ ∈ t

/-- The Agent was asked for the barrier of this node, and it is in this state. -/
def Confirmed (t : List ManagerEvent) (agentId nodeId swarmClusterId : String)
    (generation : Nat) (state : Gate) : Prop :=
  ∃ barrier, ShowsBarrier nodeId swarmClusterId generation state barrier ∧
    ⟨.control (.readBarrier agentId), (.ok barrier : Except Failure BarrierResponse)⟩ ∈ t

theorem Acknowledged.mono {agentId nodeId swarmClusterId : String} {generation : Nat} {state : Gate}
    {t t' : List ManagerEvent} (h : Acknowledged t agentId nodeId swarmClusterId generation state)
    (hsub : t ⊆ t') : Acknowledged t' agentId nodeId swarmClusterId generation state := by
  obtain ⟨barrier, hshows, hmem⟩ := h
  exact ⟨barrier, hshows, hsub hmem⟩

theorem Confirmed.mono {agentId nodeId swarmClusterId : String} {generation : Nat} {state : Gate}
    {t t' : List ManagerEvent} (h : Confirmed t agentId nodeId swarmClusterId generation state)
    (hsub : t ⊆ t') : Confirmed t' agentId nodeId swarmClusterId generation state := by
  obtain ⟨barrier, hshows, hmem⟩ := h
  exact ⟨barrier, hshows, hsub hmem⟩

namespace MaintenanceService

variable {agents : List String} {swarmClusterId : String} {generation : Nat} {state : Gate}
  {t : List ManagerEvent}

theorem showsBarrier_of_matches {barrier : BarrierResponse}
    (h : barrierMatches target swarmClusterId generation state barrier = true) :
    ShowsBarrier target.nodeId swarmClusterId generation state barrier := by
  simp only [barrierMatches, Bool.and_eq_true, decide_eq_true_eq] at h
  exact ⟨h.1.1.1, h.1.1.2, h.1.2, h.2⟩

theorem inspectConfiguredManagers_inv
    (h : Trace ((inspectConfiguredManagers swarmClusterId).link (withManagers agents)) t
      (.pure targets)) :
    Trace (HttpAgentClient.inspectConfiguredManagers agents swarmClusterId) t (.pure targets) := by
  obtain ⟨answer, t₁, t₂, rfl, hmanagers, hend⟩ := h.bind_inv
  match answer with
  | .error e => cases hend
  | .ok roster =>
    cases hend
    rw [List.append_nil]
    exact hmanagers.attempt_inv

theorem assertRoster_inv {message : String}
    (h : Trace ((assertRoster swarmClusterId targets message).link (withManagers agents)) t
      (.pure ())) :
    Trace (HttpAgentClient.inspectConfiguredManagers agents swarmClusterId) t (.pure targets) := by
  obtain ⟨fresh, t₁, t₂, rfl, hmanagers, hend⟩ := h.link_bind_inv
  rw [link_ite] at hend
  split at hend
  · rename_i heq
    cases hend
    rw [List.append_nil, ← heq]
    exact inspectConfiguredManagers_inv hmanagers
  · cases hend

theorem putManagerBarrier_inv
    (h : Trace ((putManagerBarrier target swarmClusterId generation state).link
      (withManagers agents)) t (.pure ())) :
    Acknowledged t target.agentId target.nodeId swarmClusterId generation state := by
  cases h with
  | @cons _ _ answer _ _ hrest =>
    match answer with
    | .error e => cases hrest
    | .ok barrier =>
      change Trace ((if _ then _ else _ : ControlProgram Unit).link _) _ _ at hrest
      rw [link_ite] at hrest
      split at hrest
      · rename_i hmatches
        exact ⟨barrier, showsBarrier_of_matches hmatches, List.mem_cons_self⟩
      · cases hrest

theorem inspectManagerBarrier_inv
    (h : Trace ((inspectManagerBarrier target swarmClusterId generation state).link
      (withManagers agents)) t (.pure ())) :
    Confirmed t target.agentId target.nodeId swarmClusterId generation state := by
  cases h with
  | @cons _ _ answer _ _ hrest =>
    match answer with
    | .error e => cases hrest
    | .ok barrier =>
      change Trace ((if _ then _ else _ : ControlProgram Unit).link _) _ _ at hrest
      rw [link_ite] at hrest
      split at hrest
      · rename_i hmatches
        exact ⟨barrier, showsBarrier_of_matches hmatches, List.mem_cons_self⟩
      · cases hrest

theorem blockManagers_inv
    (h : Trace ((blockManagers clusterId swarmClusterId generation targets).link
      (withManagers agents)) t (.pure ())) :
    ∀ target ∈ targets,
      Acknowledged t target.agentId target.nodeId swarmClusterId generation .BLOCKED := by
  induction targets generalizing t with
  | nil => exact nofun
  | cons target rest ih =>
    obtain ⟨_, t₁, t', rfl, hput, hrest⟩ := h.link_bind_inv
    obtain ⟨_, t₂, t₃, rfl, -, hblock⟩ := hrest.link_bind_inv
    intro other hother
    rcases List.mem_cons.mp hother with rfl | hother
    · exact (putManagerBarrier_inv hput).mono (List.subset_append_left _ _)
    · exact (ih hblock other hother).mono fun x hx => by simp [hx]

theorem inspectManagerBarriers_inv
    (h : Trace ((inspectManagerBarriers swarmClusterId generation state targets).link
      (withManagers agents)) t (.pure ())) :
    ∀ target ∈ targets,
      Confirmed t target.agentId target.nodeId swarmClusterId generation state := by
  induction targets generalizing t with
  | nil => exact nofun
  | cons target rest ih =>
    obtain ⟨_, t₁, t₂, rfl, hread, hrest⟩ := h.link_bind_inv
    intro other hother
    rcases List.mem_cons.mp hother with rfl | hother
    · exact (inspectManagerBarrier_inv hread).mono (List.subset_append_left _ _)
    · exact (ih hrest other hother).mono (List.subset_append_right _ _)

/-- `blockAll` that returned has read the same roster three times; between the first and the second
time every manager has acknowledged, and between the second and the third it has confirmed. -/
theorem blockAll_inv {settings : Settings} {ids : List String}
    (h : Trace ((blockAll settings clusterId swarmClusterId generation).link
      (withManagers agents)) t (.pure ids)) :
    ∃ targets t₀ s₁ t₁ s₂ t₂ s₃ t₃, t = t₀ ++ s₁ ++ t₁ ++ s₂ ++ t₂ ++ s₃ ++ t₃ ∧
      (∀ s ∈ [s₁, s₂, s₃],
        Trace (HttpAgentClient.inspectConfiguredManagers agents swarmClusterId) s
          (.pure targets)) ∧
      ∀ target ∈ targets,
        Acknowledged t₁ target.agentId target.nodeId swarmClusterId generation .BLOCKED ∧
        Confirmed t₂ target.agentId target.nodeId swarmClusterId generation .BLOCKED := by
  obtain ⟨state, t₀, u, rfl, -, h₀⟩ := h.link_bind_inv
  rw [link_ite] at h₀
  split at h₀
  · cases h₀
  obtain ⟨targets, s₁, u, rfl, hroster, h₁⟩ := h₀.link_bind_inv
  rw [link_ite] at h₁
  split at h₁
  · cases h₁
  obtain ⟨_, t₁, u, rfl, hblock, h₂⟩ := h₁.link_bind_inv
  obtain ⟨_, s₂, u, rfl, hroster₂, h₃⟩ := h₂.link_bind_inv
  obtain ⟨_, t₂, u, rfl, hread, h₄⟩ := h₃.link_bind_inv
  obtain ⟨_, s₃, t₃, rfl, hroster₃, -⟩ := h₄.link_bind_inv
  refine ⟨targets, t₀, s₁, t₁, s₂, t₂, s₃, t₃, by simp, ?_, fun target htarget =>
    ⟨blockManagers_inv hblock target htarget, inspectManagerBarriers_inv hread target htarget⟩⟩
  intro s hs
  simp only [List.mem_cons, List.not_mem_nil, or_false] at hs
  rcases hs with rfl | rfl | rfl
  · exact inspectConfiguredManagers_inv hroster
  · exact assertRoster_inv hroster₂
  · exact assertRoster_inv hroster₃

end MaintenanceService

/-- A roster that was returned matches the configured Agents with one set of managers. When
`blockAll` has returned, its three rosters are one matching with the same managers, and for each of
them the Agent on that node has acknowledged that its barrier is `BLOCKED` at this generation, and
has confirmed it when it was asked again. -/
theorem manager_rosters_match {agents : List String} (hagents : agents.Nodup) :
    (∀ clusterId t targets,
      Trace (HttpAgentClient.inspectConfiguredManagers agents clusterId) t (.pure targets) →
      ∃ M, ManagerMatching agents clusterId t targets M) ∧
    ∀ settings clusterId swarmClusterId generation t ids,
      Trace ((MaintenanceService.blockAll settings clusterId swarmClusterId generation).link
        (withManagers agents)) t (.pure ids) →
      ∃ targets M t₀ s₁ t₁ s₂ t₂ s₃ t₃, t = t₀ ++ s₁ ++ t₁ ++ s₂ ++ t₂ ++ s₃ ++ t₃ ∧
        (∀ s ∈ [s₁, s₂, s₃], ManagerMatching agents swarmClusterId s targets M) ∧
        ∀ nodeId ∈ M, ∃ target ∈ targets, target.nodeId = nodeId ∧
          Acknowledged t₁ target.agentId nodeId swarmClusterId generation .BLOCKED ∧
          Confirmed t₂ target.agentId nodeId swarmClusterId generation .BLOCKED := by
  refine ⟨fun clusterId t targets h => ⟨_, inspectConfiguredManagers_matching hagents h⟩, ?_⟩
  intro settings clusterId swarmClusterId generation t ids h
  obtain ⟨targets, t₀, s₁, t₁, s₂, t₂, s₃, t₃, rfl, hrosters, hblocked⟩ :=
    MaintenanceService.blockAll_inv h
  refine ⟨targets, (targets.map (·.nodeId)).toFinset, t₀, s₁, t₁, s₂, t₂, s₃, t₃, rfl,
    fun s hs => inspectConfiguredManagers_matching hagents (hrosters s hs), fun nodeId hnode => ?_⟩
  obtain ⟨target, htarget, rfl⟩ := List.mem_map.mp (List.mem_toFinset.mp hnode)
  exact ⟨target, htarget, rfl, hblocked target htarget⟩

/-! ## Two managers -/

def twoManagers : ClusterResponse :=
  ⟨"swarm", ⟨2, true⟩, [⟨"a", true⟩, ⟨"worker", false⟩, ⟨"b", true⟩]⟩

/-- What the two Agents answer about the managers. -/
def managerAnswers : List ManagerEvent :=
  let reports (agentId nodeId : String) : List ManagerEvent :=
    [⟨.identity agentId, (.ok ⟨"swarm", nodeId, true⟩ : Except Failure AgentIdentityResponse)⟩,
      ⟨.cluster agentId, (.ok twoManagers : Except Failure ClusterResponse)⟩]
  reports "one" "a" ++ reports "two" "b"

def twoTargets : List ManagerTarget := [⟨"one", "a"⟩, ⟨"two", "b"⟩]

theorem managerAnswers_trace :
    Trace (HttpAgentClient.inspectConfiguredManagers ["one", "two"] "swarm") managerAnswers
      (.pure twoTargets) := by
  have hnodes : twoManagers.managerNodes = ["a", "b"] := List.mergeSort_of_pairwise (by decide)
  have hmatch (nodeId : String) (h : nodeId ∈ ["a", "b"]) : HttpAgentClient.managerMatches "swarm" 2
      ⟨"swarm", nodeId, true⟩ twoManagers = true := by
    simp only [HttpAgentClient.managerMatches, hnodes]
    simpa [twoManagers] using h
  unfold HttpAgentClient.inspectConfiguredManagers
  rw [if_neg (by decide +kernel)]
  refine .cons (.cons ?_)
  change Trace (Program.bind (if _ then _ else if _ then _ else _) _) _ _
  rw [if_neg (by simp [hmatch "a"]), if_neg (by simp)]
  refine .cons (.cons ?_)
  change Trace (Program.bind (if _ then _ else if _ then _ else _) _) _ _
  rw [if_neg (by simp [hmatch "b"]), if_neg (by simp)]
  exact .nil

def closing : MaintenanceRecord := ⟨"c", .CLOSING, 2⟩

/-- What a call that blocks both managers is answered. -/
def blockAnswers : List ManagerEvent :=
  let control (op : ControlOp) (answer : op.Ans) : ManagerEvent := ⟨.control op, answer⟩
  let row := control (.db (.findMaintenance "c"))
    (.ok (some closing) : Except Failure (Option MaintenanceRecord))
  let blocked (nodeId : String) : Except Failure BarrierResponse :=
    .ok ⟨"swarm", nodeId, "2", .BLOCKED⟩
  let put (agentId nodeId : String) : List ManagerEvent :=
    [control (.putBarrier agentId "swarm" "2" .BLOCKED) (blocked nodeId),
      control (.db (.acknowledgeBarrier "c" agentId 2)) (.ok () : Except Failure Unit)]
  [row] ++ (managerAnswers ++ ((put "one" "a" ++ put "two" "b") ++ (managerAnswers ++
    ([control (.readBarrier "one") (blocked "a"), control (.readBarrier "two") (blocked "b")] ++
      (managerAnswers ++ ([row] ++ [control (.db (.barrierAcks "c"))
        (.ok [⟨"c", "one", 2, true⟩, ⟨"c", "two", 2, true⟩] :
          Except Failure (List BarrierAck))]))))))

open MaintenanceService in
theorem blockAnswers_trace (settings : Settings) (hcount : settings.managerCount = 2)
    (hcluster : settings.managerClusterId = some "swarm") :
    Trace ((blockAll settings "c" "swarm" 2).link (withManagers ["one", "two"])) blockAnswers
      (.pure ["one", "two"]) := by
  have hids : (twoTargets.map (·.agentId)).mergeSort (· ≤ ·) = ["one", "two"] :=
    List.mergeSort_of_pairwise (by decide)
  have hroster : Trace ((inspectConfiguredManagers "swarm").link (withManagers ["one", "two"]))
      managerAnswers (.pure twoTargets) := by
    rw [← List.append_nil managerAnswers]
    exact managerAnswers_trace.attempt.bind_pure .nil
  have hassert (message : String) : Trace ((assertRoster "swarm" twoTargets message).link
      (withManagers ["one", "two"])) managerAnswers (.pure ()) := by
    rw [assertRoster, link_bind, ← List.append_nil managerAnswers]
    exact hroster.bind_pure (by rw [link_ite, if_pos rfl]; exact .nil)
  simp only [blockAll, link_bind, blockAnswers]
  refine Trace.bind_pure (a := closing) (.cons .nil) ?_
  rw [link_ite, if_neg (by simp [closing, hcluster]), link_bind]
  refine hroster.bind_pure ?_
  rw [link_ite, if_neg (by simp [twoTargets, hcount])]
  simp only [link_bind]
  refine Trace.bind_pure (a := ()) (.cons (.cons (.cons (.cons .nil)))) ?_
  refine (hassert _).bind_pure (Trace.bind_pure (a := ()) (.cons (.cons .nil))
    ((hassert _).bind_pure (Trace.bind_pure (a := closing) (.cons .nil) ?_)))
  rw [link_ite, if_neg (by simp [closing]), hids]
  exact .cons .nil

/-- Two managers are blocked, each by the Agent on its node. -/
theorem two_managers_blocked :
    (∃ M, ManagerMatching ["one", "two"] "swarm" managerAnswers twoTargets M) ∧
    ∃ targets M t₀ s₁ t₁ s₂ t₂ s₃ t₃,
      blockAnswers = t₀ ++ s₁ ++ t₁ ++ s₂ ++ t₂ ++ s₃ ++ t₃ ∧
      (∀ s ∈ [s₁, s₂, s₃], ManagerMatching ["one", "two"] "swarm" s targets M) ∧
      ∀ nodeId ∈ M, ∃ target ∈ targets, target.nodeId = nodeId ∧
        Acknowledged t₁ target.agentId nodeId "swarm" 2 .BLOCKED ∧
        Confirmed t₂ target.agentId nodeId "swarm" 2 .BLOCKED := by
  have hagents : ["one", "two"].Nodup := by decide
  obtain ⟨hmatching, hblocked⟩ := manager_rosters_match hagents
  exact ⟨hmatching "swarm" _ _ managerAnswers_trace, hblocked _ "c" "swarm" 2 _ _
    (blockAnswers_trace ⟨"c", true, some "swarm", true, "p", 2, some "swarm", fun _ => ""⟩ rfl rfl)⟩

end Docklane.Control
