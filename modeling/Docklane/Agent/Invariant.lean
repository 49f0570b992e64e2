import Docklane.Agent.Process

/-!
# The invariant of the Agent process

`WellLogged` says of every observable event what was true when it happened: a handler starts only
while the state in force is open at its generation, a persist completes only with a newer state and
with no handler running, an acknowledgement reports the state in force with no handler running.
`Invariant` ties the barrier, the lock and the disk to this history. It is kept by every goroutine
under interference of the others (`agent_sound`), so it holds in every reachable state, across any
number of crashes, power losses and restarts.
-/

namespace Docklane.Agent

open Concurrent Storage

/-! ## Reading the history -/

/-- The state of the latest persist that ran to completion. -/
def lastPersisted : List Event → Option BarrierState
  | [] => none
  | .persisted state :: _ => some state
  | _ :: log => lastPersisted log

/-- What the state file should hold, when it held `content` at first. -/
def savedContent (content : Option (Option BarrierState)) (log : List Event) :
    Option (Option BarrierState) :=
  match lastPersisted log with
  | some state => some (some state)
  | none => content

/-- The state a process takes over from such a file. -/
def loadedState : Option (Option BarrierState) → BarrierState
  | some (some state) => state
  | _ => initialState

/-- The state in force: that of the latest completed persist, or the one found at the first start.
-/
def inForce (content : Option (Option BarrierState)) (log : List Event) : BarrierState :=
  loadedState (savedContent content log)

/-- The guarded mutation handlers that have started and not yet returned. -/
def running : List Event → List (Nat × Request × IdentityRead)
  | [] => []
  | .started i r identity :: log => (i, r, identity) :: running log
  | .finished i :: log => (running log).filter (·.1 ≠ i)
  | .booted _ :: _ => []
  | _ :: log => running log

/-- The barrier of the process was found invalid at its start, or a persist has failed since. -/
def unusable : List Event → Bool
  | [] => false
  | .persistFailed _ :: _ => true
  | .booted invalid :: _ => invalid
  | _ :: log => unusable log

/-- A request that matches the state it is admitted under. -/
structure Admitted (state : BarrierState) (r : Request) (identity : IdentityRead) : Prop where
  gate : state.state = .OPEN
  cluster : r.clusterHeaders = [state.clusterID]
  generation : r.generationHeaders = [state.generation]
  live : ∃ live, identity = some live ∧ live.clusterID = state.clusterID

section

variable (content : Option (Option BarrierState)) (Requested : BarrierState → Prop)

/-- What was true when an event happened after the history `log`. -/
def EventOk (log : List Event) : Event → Prop
  | .started _ r identity => unusable log = false ∧ Admitted (inForce content log) r identity
  | .persisted state =>
    Requested state ∧ validBarrierState state = true ∧ (inForce content log).gen < state.gen ∧
      unusable log = false ∧ running log = []
  | .persistFailed state => (inForce content log).gen < state.gen
  | .acknowledged ack =>
    unusable log = false ∧ running log = [] ∧ ack.generation = (inForce content log).generation ∧
      ack.state = (inForce content log).state
  | .finished _ | .booted _ => True

def WellLogged : List Event → Prop
  | [] => True
  | e :: log => EventOk content Requested log e ∧ WellLogged log

/-- A valid barrier has the state in force, and a restart would find it. -/
def Consistent (b : Barrier) (log : List Event) (d : AgentDisk) : Prop :=
  b.invalid = false → b.state = inForce content log ∧ unusable log = false ∧
    d.Settled .state (savedContent content log)

/-- The invariant of the process. -/
structure Invariant (s : Process) : Prop where
  enabled : s.barrier.enabled = true
  wellFormed : s.disk.WellFormed
  nodup : s.readers.Nodup
  exclusive : s.writer ≠ none → s.readers = []
  running : ∀ x ∈ running s.log, x.1 ∈ s.readers ∧ s.barrier.invalid = false
  logged : WellLogged content Requested s.log
  durable : s.disk.Settled .state (savedContent content s.log) ∨ s.disk.Pinned .marker
  quiet : s.writer = none → Consistent content s.barrier s.log s.disk

/-- What goroutine `i` relies on: its hold on the mutex stays, and while it has one the barrier
does not change; while it is the writer, nobody else acts but the disk. -/
structure Rely (i : Nat) (s s' : Process) : Prop where
  reader : i ∈ s'.readers ↔ i ∈ s.readers
  writer : s'.writer = some i ↔ s.writer = some i
  barrier : i ∈ s.readers ∨ s.writer = some i → s'.barrier = s.barrier
  running : ∀ x, x.1 = i → (x ∈ running s'.log ↔ x ∈ running s.log)
  owned : s.writer = some i → s'.log = s.log ∧ s.disk.Flush s'.disk

theorem Rely.refl (i : Nat) (s : Process) : Rely i s s :=
  ⟨Iff.rfl, Iff.rfl, fun _ => rfl, fun _ _ => Iff.rfl, fun _ => ⟨rfl, .refl⟩⟩

theorem Rely.trans {i : Nat} {s₁ s₂ s₃ : Process} (h₁ : Rely i s₁ s₂) (h₂ : Rely i s₂ s₃) :
    Rely i s₁ s₃ := by
  refine ⟨h₂.reader.trans h₁.reader, h₂.writer.trans h₁.writer, fun h => ?_,
    fun x hx => (h₂.running x hx).trans (h₁.running x hx), fun h => ?_⟩
  · have h' : i ∈ s₂.readers ∨ s₂.writer = some i := h.imp h₁.reader.mpr h₁.writer.mpr
    exact (h₂.barrier h').trans (h₁.barrier h)
  · obtain ⟨hlog, hdisk⟩ := h₁.owned h
    obtain ⟨hlog', hdisk'⟩ := h₂.owned (h₁.writer.mpr h)
    exact ⟨hlog'.trans hlog, hdisk.trans hdisk'⟩

/-- The protocol the goroutines of the process follow. A goroutine never takes the generation of the
barrier back. -/
def agentProtocol : Protocol Nat Process where
  Inv := Invariant content Requested
  Rely := Rely
  Guar i s s' := (∀ j, j ≠ i → Rely j s s') ∧ s.barrier.state.gen ≤ s'.barrier.state.gen
  Idle i s := i ∉ s.readers ∧ s.writer ≠ some i
  rely_refl := Rely.refl
  rely_trans := Rely.trans
  rely_of_guar hij _ hg := hg.1 _ (Ne.symm hij)
  idle_rely := fun h hr => ⟨fun hi => h.1 (hr.reader.mp hi), fun hw => h.2 (hr.writer.mp hw)⟩

/-- Goroutine `i` may run the program. -/
abbrev AgentWp {α : Type} (i : Nat) (p : AgentProgram α) (Q : Except Empty α → Process → Prop)
    (s : Process) : Prop :=
  wp agentMachine (agentProtocol content Requested) i p Q s

end

/-! ## Steps of the writer -/

section Writer

variable {content : Option (Option BarrierState)} {Requested : BarrierState → Prop}
  {s s' : Process} {i : Nat}

theorem Invariant.running_nil (hs : Invariant content Requested s) (hw : s.writer ≠ none) :
    Agent.running s.log = [] := by
  refine List.eq_nil_iff_forall_not_mem.mpr fun x hx => ?_
  have := (hs.running x hx).1
  simp [hs.exclusive hw] at this

/-- Whatever the writer does, the others do not see it: they hold no lock. -/
theorem guar_of_writer (hs : Invariant content Requested s) (hs' : Invariant content Requested s')
    (hw : s.writer = some i) (hw' : s'.writer = some i)
    (hgen : s.barrier.state.gen ≤ s'.barrier.state.gen) :
    (agentProtocol content Requested).Guar i s s' := by
  refine ⟨fun j hj => ?_, hgen⟩
  have hsome : s.writer ≠ none := by simp [hw]
  have hsome' : s'.writer ≠ none := by simp [hw']
  have hij : ¬ i = j := fun h => hj h.symm
  refine ⟨?_, ?_, ?_, fun x _ => ?_, ?_⟩
  · simp [hs.exclusive hsome, hs'.exclusive hsome']
  · simp [hw, hw']
  · simp [hs.exclusive hsome, hw, hij]
  · simp [hs.running_nil hsome, hs'.running_nil hsome']
  · simp [hw, hij]

/-- Goroutine `i` holds the write lock and knows the barrier, the history and `D` of the disk. -/
structure Owns (i : Nat) (b : Barrier) (log : List Event) (D : AgentDisk → Prop) (s : Process) :
    Prop where
  writer : s.writer = some i
  barrier : s.barrier = b
  log : s.log = log
  disk : D s.disk

theorem Owns.stable {b : Barrier} {log : List Event} {D : AgentDisk → Prop}
    (hD : Disk.FlushStable D) : Stable (agentProtocol content Requested) i (Owns i b log D) := by
  intro s s' h hr _
  obtain ⟨hlog, hflush⟩ := hr.owned h.writer
  exact ⟨hr.writer.mpr h.writer, (hr.barrier (.inr h.writer)).trans h.barrier, hlog.trans h.log,
    hD _ _ h.disk hflush⟩

/-- What is on disk is the state in force, or a marker that survives everything. -/
def Durable (content : Option (Option BarrierState)) (log : List Event) (d : AgentDisk) : Prop :=
  d.Settled .state (savedContent content log) ∨ d.Pinned .marker

theorem Invariant.setDisk (hs : Invariant content Requested s) (hw : s.writer ≠ none)
    {d : AgentDisk} (hd : d.WellFormed) (hdur : Durable content s.log d) :
    Invariant content Requested { s with disk := d } :=
  { hs with wellFormed := hd, durable := hdur, quiet := fun h => absurd h hw }

end Writer

end Docklane.Agent
