import Docklane.Agent.Sound

/-!
# Draining and monotonicity of the barrier

What the history of an Agent shows, whatever the interleaving of mutation requests, barrier PUTs,
file errors, identity reads, crashes and restarts: an acknowledged block has drained the handlers
and only a later, newer opening lets one start again; generations never go back; a failed persist
blocks the process for good; and a handler runs only under the barrier it was admitted by.
-/

namespace Docklane.Agent

open Concurrent Storage UrlPath

variable {state : BarrierState}

section Log

variable {content : Option (Option BarrierState)} {Requested : BarrierState → Prop}
  {pre mid post log : List Event}

/-! ## The history in two parts -/

theorem WellLogged.suffix (h : WellLogged content Requested (post ++ log)) :
    WellLogged content Requested log := by
  induction post with
  | nil => exact h
  | cons e post ih => exact ih h.2

theorem WellLogged.event {e : Event} (h : WellLogged content Requested (post ++ e :: pre)) :
    EventOk content Requested pre e :=
  h.suffix.1

theorem lastPersisted_append :
    lastPersisted (mid ++ pre) = (lastPersisted mid).or (lastPersisted pre) := by
  induction mid with
  | nil => simp [lastPersisted]
  | cons e mid ih => cases e <;> simp [lastPersisted, ih]

theorem mem_of_lastPersisted (h : lastPersisted mid = some state) : .persisted state ∈ mid := by
  induction mid with
  | nil => simp [lastPersisted] at h
  | cons e mid ih => cases e <;> simp_all [lastPersisted]

theorem inForce_of_some (h : lastPersisted mid = some state) :
    inForce content (mid ++ pre) = state := by
  simp [inForce, savedContent, lastPersisted_append, h, loadedState]

theorem inForce_of_none (h : lastPersisted mid = none) :
    inForce content (mid ++ pre) = inForce content pre := by
  simp [inForce, savedContent, lastPersisted_append, h]

/-- Only a completed persist changes the state in force. -/
theorem inForce_cons (content : Option (Option BarrierState)) (e : Event) (log : List Event) :
    inForce content (e :: log) = inForce content log ∨
      ∃ state, e = .persisted state ∧ inForce content (e :: log) = state := by
  cases e with
  | persisted state => exact .inr ⟨state, rfl, rfl⟩
  | _ => exact .inl rfl

/-- The generation in force never goes back. -/
theorem WellLogged.gen_le (h : WellLogged content Requested (mid ++ pre)) :
    (inForce content pre).gen ≤ (inForce content (mid ++ pre)).gen := by
  induction mid with
  | nil => exact le_rfl
  | cons e mid ih =>
    have hle := ih h.2
    rcases inForce_cons content e (mid ++ pre) with heq | ⟨state, rfl, heq⟩
    · exact hle.trans_eq (by rw [List.cons_append, heq])
    · have hlt : (inForce content (mid ++ pre)).gen < state.gen := h.1.2.2.1
      rw [List.cons_append, heq]
      omega

/-- It goes up with every completed persist. -/
theorem WellLogged.gen_lt (h : WellLogged content Requested (mid ++ pre))
    (hlast : lastPersisted mid = some state) : (inForce content pre).gen < state.gen := by
  obtain ⟨later, earlier, rfl⟩ := List.append_of_mem (mem_of_lastPersisted hlast)
  have hforce : inForce content (later ++ .persisted state :: earlier ++ pre) = state :=
    inForce_of_some hlast
  rw [List.append_assoc, List.cons_append] at h hforce
  have hlt : (inForce content (earlier ++ pre)).gen < state.gen := h.event.2.2.1
  have hle := (h.suffix.2).gen_le
  omega

/-! ## What follows from the history -/

/-- After an acknowledged block a handler starts only under an opening that was accepted later. -/
theorem WellLogged.started_after_block {ack : Ack} {i : Nat} {r : Request} {identity : IdentityRead}
    (h : WellLogged content Requested (post ++ .started i r identity :: mid ++
      .acknowledged ack :: pre)) (hblocked : ack.state = .BLOCKED) :
    ∃ opened, .persisted opened ∈ mid ∧ opened.state = .OPEN ∧
      r.generationHeaders = [opened.generation] ∧ (parseUint ack.generation).1 < opened.gen := by
  rw [List.append_assoc, List.cons_append] at h
  obtain ⟨-, hadmitted⟩ := h.event
  have hrest := h.suffix.2
  obtain ⟨-, -, hgen, hstate⟩ := hrest.event
  rw [← List.singleton_append, ← List.append_assoc] at hrest hadmitted
  have hmid : lastPersisted (mid ++ [.acknowledged ack]) = lastPersisted mid := by
    rw [lastPersisted_append]
    simp [lastPersisted]
  cases hlast : lastPersisted mid with
  | none =>
    -- nothing was accepted since, so the state in force is still blocked
    rw [inForce_of_none (hmid.trans hlast)] at hadmitted
    have hgate := hadmitted.gate
    rw [← hstate, hblocked] at hgate
    exact absurd hgate (by simp)
  | some opened =>
    rw [inForce_of_some (hmid.trans hlast)] at hadmitted
    refine ⟨opened, mem_of_lastPersisted hlast, hadmitted.gate, hadmitted.generation, ?_⟩
    rw [hgen]
    exact hrest.gen_lt (hmid.trans hlast)

/-- Two acknowledgements of one generation report one state. -/
theorem WellLogged.acknowledged_once {ack ack' : Ack}
    (h : WellLogged content Requested (post ++ .acknowledged ack' :: mid ++
      .acknowledged ack :: pre))
    (hgen : (parseUint ack.generation).1 = (parseUint ack'.generation).1) :
    ack.state = ack'.state := by
  rw [List.append_assoc, List.cons_append] at h
  obtain ⟨-, -, hgen', hstate'⟩ := h.event
  have hrest := h.suffix.2
  obtain ⟨-, -, hgen₀, hstate₀⟩ := hrest.event
  rw [← List.singleton_append, ← List.append_assoc] at hrest hgen' hstate'
  cases hlast : lastPersisted (mid ++ [.acknowledged ack]) with
  | none => rw [hstate', inForce_of_none hlast, hstate₀]
  | some state =>
    have hlt := hrest.gen_lt hlast
    rw [hgen', inForce_of_some hlast, hgen₀] at hgen
    exact absurd hgen (Nat.ne_of_lt hlt)

theorem unusable_append (h : ∀ invalid, .booted invalid ∉ mid) (hpre : unusable pre = true) :
    unusable (mid ++ pre) = true := by
  induction mid with
  | nil => exact hpre
  | cons e mid ih =>
    have hmid := ih fun invalid hmem => h invalid (List.mem_cons_of_mem _ hmem)
    cases e with
    | booted invalid => exact absurd List.mem_cons_self (h invalid)
    | persistFailed state => rfl
    | _ => exact hmid

/-- An unusable barrier lets no handler start and acknowledges nothing until the next start. -/
theorem WellLogged.silent (h : WellLogged content Requested (mid ++ pre))
    (hmid : ∀ invalid, .booted invalid ∉ mid) (hpre : unusable pre = true) :
    (∀ i r identity, .started i r identity ∉ mid) ∧ ∀ ack, .acknowledged ack ∉ mid := by
  have hlate : ∀ e ∈ mid, ∃ log, EventOk content Requested log e ∧ unusable log = true := by
    intro e he
    obtain ⟨post, first, rfl⟩ := List.append_of_mem he
    rw [List.append_assoc, List.cons_append] at h
    exact ⟨_, h.event, unusable_append (fun invalid hmem => hmid invalid (by simp [hmem])) hpre⟩
  refine ⟨fun i r identity he => ?_, fun ack he => ?_⟩
  · obtain ⟨log, hok, hunusable⟩ := hlate _ he
    simp [hunusable, EventOk] at hok
  · obtain ⟨log, hok, hunusable⟩ := hlate _ he
    simp [hunusable, EventOk] at hok

/-- A handler that runs was admitted by the state in force. -/
theorem WellLogged.running_admitted (h : WellLogged content Requested log)
    {x : Nat × Request × IdentityRead} (hx : x ∈ running log) :
    Admitted (inForce content log) x.2.1 x.2.2 := by
  induction log with
  | nil => simp [running] at hx
  | cons e log ih =>
    cases e with
    | started i r identity =>
      rcases List.mem_cons.mp hx with rfl | hx
      · exact h.1.2
      · exact ih h.2 hx
    | finished i => exact ih h.2 (List.mem_of_mem_filter hx)
    | persisted state => simp [running, h.1.2.2.2.2] at hx
    | persistFailed state => exact ih h.2 hx
    | acknowledged ack => exact ih h.2 hx
    | booted invalid => simp [running] at hx

end Log

/-! ## One process -/

/-- A step of the Agent other than a crash and restart of its process. -/
def ProcessStep (c c' : AgentConfig) : Prop :=
  Step agentMachine (AgentEntry fun _ => True) c c' ∧
    ∀ invalid, c'.state.log ≠ .booted invalid :: c.state.log

variable {d : BootDisk} {s : Process} {c c' : AgentConfig}

theorem ProcessStep.gen_le (hsafe : Safe agentMachine (agentProtocol d.content fun _ => True) c)
    (h : ProcessStep c c') : c.state.barrier.state.gen ≤ c'.state.barrier.state.gen := by
  obtain ⟨hstep, hlog⟩ := h
  rcases hsafe.step_state hstep with heq | ⟨i, hguar⟩ | ⟨disk, -, heq⟩ | ⟨S, -, hcrash⟩
  · rw [heq]
  · exact hguar.2
  · rw [heq]
  · obtain ⟨disk, b, -, -, heq⟩ := hcrash
    exact absurd (by rw [heq]) (hlog b.invalid)

theorem gen_le_of_processSteps (hs : Started d s) (hc : AgentReachable (fun _ => True) s c)
    (h : Relation.ReflTransGen ProcessStep c c') :
    c.state.barrier.state.gen ≤ c'.state.barrier.state.gen := by
  suffices hboth : AgentReachable (fun _ => True) s c' ∧
      c.state.barrier.state.gen ≤ c'.state.barrier.state.gen from hboth.2
  induction h with
  | refl => exact ⟨hc, le_rfl⟩
  | tail _ hstep ih =>
    exact ⟨ih.1.step hstep.1, ih.2.trans (hstep.gen_le (ih.1.safe hs))⟩

/-- Draining and monotonicity of the barrier of one Agent, in every state it can get into. The
history is newest first, so what comes `later` stands to the left. -/
theorem barrier_drains (d : BootDisk) (s : Process) (hs : Started d s) (c : AgentConfig)
    (hc : AgentReachable (fun _ => True) s c) :
    -- when a block is acknowledged no guarded handler is running, and every handler that starts
    -- afterwards carries the greater generation of an opening accepted after it
    (∀ later ack pre, c.state.log = later ++ .acknowledged ack :: pre → ack.state = .BLOCKED →
      running pre = [] ∧
      ∀ post i r identity mid, later = post ++ .started i r identity :: mid →
        ∃ opened, .persisted opened ∈ mid ∧ opened.state = .OPEN ∧
          r.generationHeaders = [opened.generation] ∧
          (parseUint ack.generation).1 < opened.gen) ∧
    -- the generation of the barrier never decreases while the process runs, and none is
    -- acknowledged both as open and as blocked
    (∀ c', Relation.ReflTransGen ProcessStep c c' →
      c.state.barrier.state.gen ≤ c'.state.barrier.state.gen) ∧
    (∀ ack ack', .acknowledged ack ∈ c.state.log → .acknowledged ack' ∈ c.state.log →
      (parseUint ack.generation).1 = (parseUint ack'.generation).1 → ack.state = ack'.state) ∧
    -- after a failed persist no handler starts and nothing is acknowledged in this process
    (∀ later state pre, c.state.log = later ++ .persistFailed state :: pre →
      (∀ invalid, .booted invalid ∉ later) →
      (∀ i r identity, .started i r identity ∉ later) ∧ ∀ ack, .acknowledged ack ∉ later) ∧
    -- a handler runs only while the barrier is valid, open and of its cluster
    ∀ i r identity, (i, r, identity) ∈ running c.state.log →
      c.state.barrier.invalid = false ∧ c.state.barrier.state.state = .OPEN ∧
      r.clusterHeaders = [c.state.barrier.state.clusterID] ∧
      ∃ live, identity = some live ∧ live.clusterID = c.state.barrier.state.clusterID := by
  have hinv := hc.invariant hs
  refine ⟨fun later ack pre hlog hblocked => ?_, fun c' => gen_le_of_processSteps hs hc,
    fun ack ack' hack hack' hgen => ?_, fun later state pre hlog hprocess => ?_,
    fun i r identity hrun => ?_⟩
  · have hlogged := hlog ▸ hinv.logged
    refine ⟨hlogged.event.2.1, ?_⟩
    rintro post i r identity mid rfl
    exact hlogged.started_after_block hblocked
  · obtain ⟨later, pre, hlog⟩ := List.append_of_mem hack
    have hlogged := hlog ▸ hinv.logged
    rw [hlog, List.mem_append, List.mem_cons] at hack'
    rcases hack' with hafter | heq | hbefore
    · obtain ⟨post, mid, rfl⟩ := List.append_of_mem hafter
      exact hlogged.acknowledged_once hgen
    · cases heq
      rfl
    · obtain ⟨mid, first, rfl⟩ := List.append_of_mem hbefore
      rw [← List.cons_append, ← List.append_assoc] at hlogged
      exact (hlogged.acknowledged_once hgen.symm).symm
  · have hlogged := hlog ▸ hinv.logged
    exact hlogged.silent hprocess rfl
  · obtain ⟨hmem, hvalid⟩ := hinv.running _ hrun
    obtain ⟨hstate, -, -⟩ := hinv.quiet (hinv.writer_none hmem) hvalid
    have hadmitted := hinv.logged.running_admitted hrun
    rw [← hstate] at hadmitted
    exact ⟨hvalid, hadmitted.gate, hadmitted.cluster, hadmitted.live⟩

/-- A directory without any file. -/
def emptyDisk : BootDisk where
  disk := { files := fun _ => ⟨none, none, true⟩, next := 0, dir := fun _ => none,
            ddir := fun _ => none }
  wellFormed := ⟨by simp, by simp, fun _ _ => rfl⟩
  settled := ⟨rfl, rfl, by simp⟩

/-- A process that was started on it. -/
def freshProcess : Process :=
  { barrier := newMutationBarrier true (.error .notExist) (.error .notExist), writer := none,
    readers := [], disk := emptyDisk.disk, log := [.booted false] }

theorem freshProcess_started : Started emptyDisk freshProcess :=
  ⟨_, ⟨_, _, .inr rfl, .inr rfl, rfl⟩, rfl⟩

/-- The first opening of a cluster. -/
def firstOpening : BarrierState := { clusterID := "c", generation := "1", state := .OPEN }

theorem firstOpening_fails : ∃ c : AgentConfig, AgentReachable (fun _ => True) freshProcess c ∧
    c.state.log = [.persistFailed firstOpening, .booted false] := by
  have hruns : Runs agentMachine 0 (setMaintenanceBarrier true (some firstOpening)) freshProcess
      (.pure ()) { freshProcess with
        barrier := { freshProcess.barrier with invalid := true }
        log := [.persistFailed firstOpening, .booted false] } := by
    refine .step (a := ()) ⟨rfl, rfl, rfl⟩ ?_
    refine .step (a := freshProcess.barrier) ⟨rfl, rfl⟩ ?_
    refine .step (a := some ⟨"c", "n", true⟩) rfl ?_
    refine .step (a := freshProcess.barrier) ⟨rfl, rfl⟩ ?_
    refine .step (a := none) ⟨_, .createFail, rfl⟩ ?_
    refine .step (a := ()) rfl ?_
    refine .step (a := ()) rfl ?_
    refine .step (a := ()) rfl ?_
    exact .refl
  exact ⟨_, Reachable.init.call rfl (.inr ⟨_, fun _ _ => trivial, rfl⟩) hruns, rfl⟩

/-! ## A handler and a block -/

/-- The state file holds the first opening. -/
def openedDisk : BootDisk where
  disk := { files := fun _ => ⟨some firstOpening, some firstOpening, true⟩, next := 1,
            dir := fun n => if n = .state then some 0 else none,
            ddir := fun n => if n = .state then some 0 else none }
  wellFormed := ⟨by simp, by simp, fun _ _ => rfl⟩
  settled := ⟨rfl, rfl, by simp⟩

def openedProcess : Process :=
  { barrier := newMutationBarrier true (.error .notExist) (.ok (some firstOpening)), writer := none,
    readers := [], disk := openedDisk.disk, log := [.booted false] }

/-- A mutation under the first opening. -/
def scaleRequest : Request where
  method := "POST"
  rawPath := ascii "/v1/services/s/scale"
  path := ascii "/v1/services/s/scale"
  decoded := by decide
  clusterHeaders := ["c"]
  generationHeaders := ["1"]

/-- Its handler has run. -/
def servedProcess : Process :=
  { openedProcess with
    log := [.finished 0, .started 0 scaleRequest (some ⟨"c", "n", true⟩), .booted false] }

theorem scale_runs : Runs agentMachine 0 (guardProgram true scaleRequest) openedProcess (.pure ())
    servedProcess := by
  rw [guardProgram, if_neg (by decide)]
  refine .step (a := ()) ⟨rfl, rfl⟩ ?_
  refine .step (a := openedProcess.barrier) ⟨rfl, rfl⟩ ?_
  refine .step (a := some ⟨"c", "n", true⟩) rfl ?_
  refine .step (a := openedProcess.barrier) ⟨rfl, rfl⟩ ?_
  refine .step (a := ()) rfl (.step (a := ()) rfl ?_)
  exact .step (a := ()) rfl .refl

/-- A block after the first opening, and its acknowledgement. -/
def laterBlock : BarrierState := { clusterID := "c", generation := "2", state := .BLOCKED }

def blockAck : Ack := ⟨"c", "n", "2", .BLOCKED⟩

theorem block_runs : ∃ d, Runs agentMachine 1 (setMaintenanceBarrier true (some laterBlock))
    servedProcess (.pure ()) { servedProcess with
      barrier := { servedProcess.barrier with state := laterBlock }, disk := d
      log := .acknowledged blockAck :: .persisted laterBlock :: servedProcess.log } := by
  apply Exists.intro
  refine .step (a := ()) ⟨rfl, rfl, rfl⟩ ?_
  refine .step (a := servedProcess.barrier) ⟨rfl, rfl⟩ ?_
  refine .step (a := some ⟨"c", "n", true⟩) rfl ?_
  refine .step (a := servedProcess.barrier) ⟨rfl, rfl⟩ ?_
  -- `persist`
  refine .step (a := some 1) ⟨_, .create rfl, rfl⟩ ?_
  refine .step (a := some ()) ⟨_, .sync, rfl⟩ ?_
  refine .step (a := some ()) ⟨_, .close _, rfl⟩ ?_
  refine .step (a := some ()) ⟨_, .syncDir, rfl⟩ ?_
  refine .step (a := some (0, 2)) ⟨_, .createTemp rfl, rfl⟩ ?_
  refine .step (a := some ()) ⟨_, .chmod _, rfl⟩ ?_
  refine .step (a := some ()) ⟨_, .write, rfl⟩ ?_
  refine .step (a := some ()) ⟨_, .sync, rfl⟩ ?_
  refine .step (a := some ()) ⟨_, .close _, rfl⟩ ?_
  refine .step (a := some ()) ⟨_, .rename (Option.some_ne_none 2), rfl⟩ ?_
  refine .step (a := some ()) ⟨_, .syncDir, rfl⟩ ?_
  refine .step (a := some ()) ⟨_, .remove (Option.some_ne_none 1), rfl⟩ ?_
  refine .step (a := none) ⟨_, .removeFail, rfl⟩ ?_
  -- the answer
  refine .step (a := ()) rfl (.step (a := ⟨true, false, laterBlock⟩) ⟨rfl, rfl⟩ ?_)
  exact .step (a := ()) rfl (.step (a := ()) rfl .refl)

/-- When the block is acknowledged the handler has ended. -/
theorem block_drains : ∃ c : AgentConfig, AgentReachable (fun _ => True) openedProcess c ∧
    c.state.log = [.acknowledged blockAck, .persisted laterBlock, .finished 0,
      .started 0 scaleRequest (some ⟨"c", "n", true⟩), .booted false] ∧
    running (.persisted laterBlock :: servedProcess.log) = [] ∧
    ∀ c', Relation.ReflTransGen ProcessStep c c' →
      c.state.barrier.state.gen ≤ c'.state.barrier.state.gen := by
  have hstarted : Started openedDisk openedProcess := ⟨_, ⟨_, _, .inr rfl, .inr rfl, rfl⟩, rfl⟩
  have hserved : AgentReachable (fun _ => True) openedProcess _ :=
    Reachable.init.call rfl (.inl ⟨scaleRequest, rfl⟩) scale_runs
  obtain ⟨d, hblock⟩ := block_runs
  have hblocked := hserved.call rfl (.inr ⟨_, fun _ _ => trivial, rfl⟩) hblock
  have hdrains := barrier_drains openedDisk openedProcess hstarted _ hblocked
  exact ⟨_, hblocked, rfl, (hdrains.1 [] _ _ rfl rfl).1, hdrains.2.1⟩

end Docklane.Agent
