import Docklane.Control.Safety

/-!
# Executing calls

A scheduler that runs one call at a time against fixed surroundings. What it computes is a run of
the control plane, so that a state it ends in is reachable.
-/

namespace Docklane.Control

open Concurrent

/-! ## Surroundings -/

/-- The answers that the calls get for a while. -/
structure Surroundings where
  read : (r : AgentRead) → Except Failure r.Reply
  now : Int := 0
  uuid : String := ""
  selected : Except Failure SelectedAgent := .error (.unavailable "")
  barrier : Except Failure BarrierResponse := .error (.unavailable "")
  managers : Except Failure (List ManagerTarget) := .error (.unavailable "")
  placed : (agentId clusterId generation : String) → Gate → Except Failure BarrierResponse :=
    fun _ _ _ _ => .error (.unavailable "")
  sent : (request : MutationRequest) → Except Failure request.mutation.Response :=
    fun request => .error (.transport request.agentId "")
  fetched : Except Failure Nat := .error (.unavailable "")
  /-- The requests that are made; a call waits before any other one. -/
  allows : Nat → ControlOp → World Nat → Bool := fun _ _ _ => true

/-- The Agents report only states of the Swarm, and the requests are allowed ones. -/
structure Surroundings.Legal (S : Surroundings) (docker : Set Swarm)
    (Allowed : Nat → ControlOp → World Nat → Prop) : Prop where
  read : ∀ r reply, S.read r = .ok reply → ∃ swarm ∈ docker, r.Answers swarm reply
  allows : ∀ i op w, S.allows i op w = true → Allowed i op w

/-! ## Agents -/

namespace Swarm

variable (swarm : Swarm)

/-- The error answer of an Agent. -/
def refused {α : Type} (status : Nat) : Except Failure α :=
  .error (.agentRequest status ⟨"", none⟩)

/-- The plan of an Agent for the service, if it has the expected version. -/
def planService (ref : String) (version : Nat) (target : ServiceSummary → ServiceMutationPlan) :
    Except Failure ServiceMutationPlan :=
  match swarm.inspect ref with
  | none => refused 404
  | some s =>
    if s.version = version then
      .ok { target s with serviceId := s.id, version := s.version, beforeSpecHash := s.specHash }
    else refused 409

def planNode (ref : String) (version : Nat) (target : NodeSummary → NodeMutationPlan) :
    Except Failure NodeMutationPlan :=
  match swarm.node ref with
  | none => refused 404
  | some n =>
    if n.version = version then
      .ok { target n with nodeId := n.id, version := n.version, beforeSpecHash := n.specHash }
    else refused 409

/-- An Agent that finds the Swarm in this state, with no tasks. Its plans lead to the hash
`target`. -/
def agent (target : String) : (r : AgentRead) → Except Failure r.Reply
  | .inspectService ref =>
    match swarm.service ref with
    | some s => .ok ⟨s, []⟩
    | none => refused 404
  | .checkServicePlacement _ => .ok PlacementStatus.CONVERGED
  | .checkServiceCapacity _ _ => .ok CapacityStatus.SUFFICIENT
  | .inspectNode ref =>
    match swarm.node ref with
    | some n => .ok ⟨n, [], []⟩
    | none => refused 404
  | .planScaleService ref version replicas =>
    swarm.planService ref version fun s =>
      ⟨"", 0, "", target, s.forceUpdate, some replicas, none, none, none⟩
  | .planRestartService ref version =>
    swarm.planService ref version fun s =>
      ⟨"", 0, "", target, s.forceUpdate + 1, none, none, none, none⟩
  | .planUpdateServiceImage ref version image =>
    swarm.planService ref version fun s => ⟨"", 0, "", target, s.forceUpdate,
      some s.desiredReplicas, some image, some target, some target⟩
  | .planRollbackService ref version =>
    swarm.planService ref version fun s => ⟨"", 0, "", target, s.forceUpdate,
      some s.desiredReplicas, s.image, some target, some target⟩
  | .planDrainNode ref version =>
    swarm.planNode ref version fun _ => ⟨"", 0, "", target, .drain, [], none⟩
  | .planActivateNode ref version =>
    swarm.planNode ref version fun _ => ⟨"", 0, "", target, .active, [], none⟩
  | .planNodeLabels ref version patch =>
    swarm.planNode ref version fun n => ⟨"", 0, "", target, n.availability, [], some patch.set⟩

variable {swarm}

theorem planService_plans {ref : String} {version : Nat}
    {target : ServiceSummary → ServiceMutationPlan} {plan : ServiceMutationPlan}
    (h : swarm.planService ref version target = .ok plan) : swarm.Plans ref version plan := by
  unfold planService at h
  split at h
  · cases h
  · rename_i s hs
    split at h
    · rename_i hversion
      cases h
      exact ⟨s, hs, rfl, rfl, hversion, rfl⟩
    · cases h

theorem planNode_plans {ref : String} {version : Nat} {target : NodeSummary → NodeMutationPlan}
    {plan : NodeMutationPlan} (h : swarm.planNode ref version target = .ok plan) :
    swarm.PlansNode ref version plan := by
  unfold planNode at h
  split at h
  · cases h
  · rename_i n hn
    split at h
    · rename_i hversion
      cases h
      exact ⟨n, hn, rfl, rfl, hversion, rfl⟩
    · cases h

theorem agent_answers (target : String) (r : AgentRead) (reply : r.Reply)
    (h : swarm.agent target r = .ok reply) : r.Answers swarm reply := by
  cases r with
  | inspectService ref =>
    simp only [agent] at h
    split at h
    · rename_i s hs
      cases h
      exact ⟨s, hs, rfl⟩
    · cases h
  | inspectNode ref =>
    simp only [agent] at h
    split at h
    · rename_i n hn
      cases h
      exact hn
    · cases h
  | checkServicePlacement => trivial
  | checkServiceCapacity => trivial
  | planDrainNode => exact planNode_plans h
  | planActivateNode => exact planNode_plans h
  | planNodeLabels => exact planNode_plans h
  | _ => exact planService_plans h

end Swarm

/-! ## Calls -/

variable {S : Surroundings} {p : ControlProgram Unit}

section Calls

variable {Tid : Type} [DecidableEq Tid]

/-- The answer to a request and the state after it. A request that has to wait gets none. -/
def World.answer (S : Surroundings) (i : Tid) (w : World Tid) :
    (op : ControlOp) → Option (op.Ans × World Tid)
  | .db op =>
    if w.session i = .lost then none
    else match op.exec w.db with
      | .ok (reply, db) => some (.ok reply, (w.commit i op db).answered i op (.ok reply))
      | .error e => some (.error e, w.answered i op (.error e))
  | .randomUUID =>
    if w.issued S.uuid = none then
      some (S.uuid, { w with issued := Function.update w.issued S.uuid (some i) })
    else none
  | .getConnection => some (.ok (), w.setSession i .live)
  | .releaseConnection => some ((), w.endSession i)
  | .getLock name =>
    if w.session i = .live ∧ w.lock name = none then
      some (.ok true, { w with lock := Function.update w.lock name (some i) })
    else none
  | .releaseLock name => some (.ok (),
      if w.lock name = some i then { w with lock := Function.update w.lock name none } else w)
  | .destroySession => some ((), (w.freeLocks (· = i)).endSession i)
  | .agent r => some (S.read r, w)
  | .send request => some (S.sent request, { w with sent := request :: w.sent })
  | .now => some (S.now, w)
  | .sleep _ => some ((), w)
  | .selectMutationAgent => some (S.selected, w)
  | .readBarrier _ => some (S.barrier, w)
  | .inspectConfiguredManagers _ => some (S.managers, w)
  | .putBarrier a c g gate => some (S.placed a c g gate, w)
  | .assertAllowed _ => some (.ok (), w)
  | .fetch _ _ => some (S.fetched, w)
  | .hang => none

theorem World.answer_performs {docker : Set Swarm}
    (hread : ∀ r reply, S.read r = .ok reply → ∃ swarm ∈ docker, r.Answers swarm reply) {i : Tid}
    {w w' : World Tid} {op : ControlOp} {a : op.Ans} (h : w.answer S i op = some (a, w')) :
    Performs docker i op w a w' := by
  cases op with
  | db op =>
    simp only [World.answer] at h
    split at h
    · cases h
    · rename_i hlive
      split at h
      · rename_i reply db hexec
        cases h
        exact .executed hexec (.inl hlive)
      · rename_i e hexec
        cases h
        exact .refused hexec
  | randomUUID =>
    simp only [World.answer] at h
    split at h
    · rename_i hnew
      cases h
      exact ⟨hnew, rfl⟩
    · cases h
  | getLock name =>
    simp only [World.answer] at h
    split at h
    · rename_i hfree
      cases h
      exact ⟨hfree.1, hfree.2, rfl⟩
    · cases h
  | agent r =>
    cases h
    exact ⟨rfl, hread r⟩
  | hang => cases h
  | _ =>
    cases h
    rfl

end Calls

/-- Run a call for up to `n` requests. -/
def runCall (S : Surroundings) (i n : Nat) (p : ControlProgram Unit) (w : World Nat) :
    ControlProgram Unit × World Nat :=
  Concurrent.advance (fun w op => if S.allows i op w then w.answer S i op else none) n p w

theorem runCall_runs {docker : Set Swarm} {Allowed : Nat → ControlOp → World Nat → Prop}
    (hS : S.Legal docker Allowed) {i n : Nat} {p : ControlProgram Unit} {w : World Nat} :
    Runs (controlMachine docker Allowed) i p w (runCall S i n p w).1 (runCall S i n p w).2 := by
  refine advance_runs id (fun w op a w' h => ?_) n p w
  split at h
  · rename_i hallows
    exact ⟨hS.allows i op w hallows, World.answer_performs hS.read h⟩
  · cases h

/-! ## One process -/

/-- A control plane of one process. -/
def Settings.alone (s : Settings) : Processes where
  settings := {s}
  lockName := s.namedLockName
  names s' hs' := by
    cases hs'
    rfl

/-- Every character of a text, each after a tag. -/
def tagged (text : List Char) : List Char := text.flatMap fun c => ['c', c]

/-- Names of locks from which the key can be read back. -/
def readableLockName (key : LockKey) : String :=
  String.ofList ((match key.type with | .service => 's' | .node => 'n') ::
    (tagged key.clusterId.toList ++ 'r' :: key.resourceId.toList))

theorem tagged_append_inj {a b c d : List Char}
    (h : tagged a ++ 'r' :: b = tagged c ++ 'r' :: d) : a = c ∧ b = d := by
  induction a generalizing c with
  | nil => cases c <;> simp_all [tagged]
  | cons x a ih =>
    cases c with
    | nil => simp [tagged] at h
    | cons y c =>
      simp only [tagged, List.flatMap_cons, List.cons_append, List.nil_append, List.cons.injEq,
        true_and] at h
      obtain ⟨rfl, hrest⟩ := h
      obtain ⟨rfl, rfl⟩ := ih hrest
      exact ⟨rfl, rfl⟩

theorem readableLockName_injective : Function.Injective readableLockName := by
  rintro ⟨t, c, r⟩ ⟨t', c', r'⟩ h
  have hlist := String.ofList_injective h
  simp only [List.cons.injEq] at hlist
  obtain ⟨htype, hrest⟩ := hlist
  obtain ⟨hc, hr⟩ := tagged_append_inj hrest
  have ht : t = t' := by cases t <;> cases t' <;> first | rfl | simp at htype
  rw [ht, String.toList_injective hc, String.toList_injective hr]

/-- A process that enforces nothing. -/
def plainProcess : Settings where
  clusterId := "c"
  registrationEnforced := false
  expectedSwarmClusterId := none
  maintenanceEnforced := false
  instanceId := "p"
  managerCount := 1
  managerClusterId := none
  namedLockName := readableLockName

/-! ## Schedules -/

/-- What a schedule may do next. -/
inductive Move where
  | start (i : Nat) (p : ControlProgram Unit)
  | run (i : Nat) (S : Surroundings) (n : Nat)
  | registration (row : Registration)
  | target (row : DeploymentTarget)
  | release (row : Release)

/-- A move that is not possible does nothing. -/
def Move.apply (c : ControlConfig Nat) : Move → ControlConfig Nat
  | .start i p =>
    match c.thread i with
    | none => ⟨Function.update c.thread i (some p), c.state⟩
    | some _ => c
  | .run i S n =>
    match c.thread i with
    | none => c
    | some p => ⟨Function.update c.thread i (some (runCall S i n p c.state).1),
        (runCall S i n p c.state).2⟩
  | .registration row =>
    if c.state.db.findRegistration row.clusterId = none then
      ⟨c.thread, { c.state with db :=
        { c.state.db with registrations := c.state.db.registrations ++ [row] } }⟩
    else c
  | .target row =>
    if c.state.db.findDeploymentTarget row.id = none then
      ⟨c.thread, { c.state with db := { c.state.db with targets := c.state.db.targets ++ [row] } }⟩
    else c
  | .release row =>
    if c.state.db.findRelease row.id = none then
      ⟨c.thread,
        { c.state with db := { c.state.db with releases := c.state.db.releases ++ [row] } }⟩
    else c

/-- The calls are those of the processes, in legal surroundings. -/
def Move.Legal (docker : Set Swarm) (Allowed : Nat → ControlOp → World Nat → Prop)
    (settings : Set Settings) : Move → Prop
  | .start _ p => ∃ s ∈ settings, Call s p
  | .run _ S _ => S.Legal docker Allowed
  | .registration _ | .target _ | .release _ => True

/-- The configuration at the end of a schedule, with an empty database at its start. -/
def play (moves : List Move) : ControlConfig Nat :=
  moves.foldl Move.apply ⟨fun _ => none, emptyWorld Nat⟩

/-- One step of the control plane. -/
abbrev ControlStep {Tid : Type} [DecidableEq Tid] (docker : Set Swarm)
    (Allowed : Tid → ControlOp → World Tid → Prop) (settings : Set Settings) :
    ControlConfig Tid → ControlConfig Tid → Prop :=
  Step (controlMachine docker Allowed) fun p => ∃ s ∈ settings, Call s p

section Schedules

variable {docker : Set Swarm} {Allowed : Nat → ControlOp → World Nat → Prop}
  {settings : Set Settings} {c : ControlConfig Nat} {moves more : List Move}

theorem Move.apply_steps {m : Move} (hm : m.Legal docker Allowed settings) :
    Relation.ReflTransGen (ControlStep docker Allowed settings) c (m.apply c) := by
  cases m with
  | start i p =>
    simp only [Move.apply]
    split
    · rename_i hnone
      exact .single (.spawn hnone hm)
    · exact .refl
  | run i S n =>
    simp only [Move.apply]
    split
    · exact .refl
    · rename_i p hp
      exact (runCall_runs hm).steps hp rfl
  | registration row =>
    simp only [Move.apply]
    split
    · rename_i hnew
      exact .single (.env (.registration hnew))
    · exact .refl
  | target row =>
    simp only [Move.apply]
    split
    · rename_i hnew
      exact .single (.env (.target hnew))
    · exact .refl
  | release row =>
    simp only [Move.apply]
    split
    · rename_i hnew
      exact .single (.env (.release hnew))
    · exact .refl

theorem foldl_apply_steps (hmoves : moves.Forall (Move.Legal docker Allowed settings)) :
    Relation.ReflTransGen (ControlStep docker Allowed settings) c (moves.foldl Move.apply c) := by
  induction moves generalizing c with
  | nil => exact .refl
  | cons m rest ih =>
    rw [List.forall_cons] at hmoves
    exact (Move.apply_steps hmoves.1).trans (ih hmoves.2)

theorem play_append_steps (moves : List Move)
    (hmore : more.Forall (Move.Legal docker Allowed settings)) :
    Relation.ReflTransGen (ControlStep docker Allowed settings) (play moves)
      (play (moves ++ more)) := by
  rw [play, play, List.foldl_append]
  exact foldl_apply_steps hmore

theorem play_reachable (hmoves : moves.Forall (Move.Legal docker Allowed settings)) :
    ControlReachable docker Allowed settings (play moves) :=
  Reachable.init.steps (foldl_apply_steps hmoves)

theorem Move.Legal.start {s : Settings} {i : Nat} (hp : Call s p) :
    (Move.start i p).Legal docker Allowed s.alone.settings :=
  ⟨s, rfl, hp⟩

theorem Move.Legal.run {i n : Nat} {swarm : Swarm} {target : String} (hswarm : swarm ∈ docker)
    (hS : S.read = swarm.agent target) : (Move.run i S n).Legal docker AnyRequest settings := by
  refine ⟨fun r reply h => ?_, fun _ _ _ _ => trivial⟩
  rw [hS] at h
  exact ⟨swarm, hswarm, Swarm.agent_answers target r reply h⟩

/-- The same move, with fewer requests. -/
def Move.under (allows : Nat → ControlOp → World Nat → Bool) : Move → Move
  | .run i S n => .run i { S with allows } n
  | m => m

theorem play_under_reachable {allows : Nat → ControlOp → World Nat → Bool}
    (hallows : ∀ i op w, allows i op w = true → Allowed i op w)
    (hmoves : moves.Forall (Move.Legal docker AnyRequest settings)) :
    ControlReachable docker Allowed settings (play (moves.map (Move.under allows))) := by
  refine play_reachable ((List.forall_map_iff _).mpr (hmoves.imp fun m hm => ?_))
  cases m with
  | run i S n => exact ⟨hm.read, hallows⟩
  | _ => exact hm

theorem noAlias_of_ids (ids : List String) (hdocker : ∀ swarm ∈ docker,
      (∀ s ∈ swarm.services, s.id ∈ ids ∧ s.name ∉ ids) ∧
        ∀ n ∈ swarm.nodes, n.id ∈ ids ∧ n.hostname ∉ ids) : NoAlias docker where
  services swarm h swarm' h' s hs s' hs' hname :=
    absurd (hname ▸ ((hdocker swarm' h').1 s' hs').1) ((hdocker swarm h).1 s hs).2
  nodes swarm h swarm' h' n hn n' hn' hname :=
    absurd (hname ▸ ((hdocker swarm' h').2 n' hn').1) ((hdocker swarm h).2 n hn).2

end Schedules

/-! ## A service that is scaled -/

/-- A service of one replica. -/
def webService : ServiceSummary where
  id := "web"
  name := "shop_web"
  version := 1
  specHash := "one"
  forceUpdate := 0
  taskSpecHash := none
  runtimeSpecHash := none
  image := none
  mode := .replicated
  desiredReplicas := 1
  runningReplicas := 1
  updateState := none

def webSwarm : Swarm := ⟨[webService], []⟩

/-- The service is scaled, and the answer to the request gets lost. -/
def scaleSchedule : List Move :=
  [.start 0 (ignoreResult (MutationService.scale plainProcess "c" "web" ⟨"o", "actor", 1⟩ 2 1)),
    .run 0 { read := webSwarm.agent "two", selected := .ok ⟨"agent", "swarm"⟩ } 13]

theorem scaleSchedule_reachable :
    ControlReachable {webSwarm} AnyRequest plainProcess.alone.settings (play scaleSchedule) :=
  play_reachable ⟨.start (.scale ..), .run rfl rfl⟩

end Docklane.Control
