import Docklane.Agent.Barrier
import Docklane.Concurrent.RelyGuarantee
import Docklane.Storage.Disk

/-!
# The Agent process

The handlers of `maintenance_barrier.go` as programs: `guard` around a mutation handler,
`setMaintenanceBarrier` with `persist`, each running in a goroutine of its own. They share the
barrier, its `sync.RWMutex` and the directory of the state file. A crash of the process or a power
loss ends all goroutines at once; the process starts again with `newMutationBarrier`.

`log` is a history variable, newest event first. It records what the outside world can observe and
is read by no program.
-/

namespace Docklane.Agent

open Concurrent Storage

/-- The files in the directory of the state file. -/
inductive FileName where
  | state
  | marker
  | temp (n : Nat)
  deriving DecidableEq, Repr

/-- File contents are what `json.Unmarshal` makes of them. -/
abbrev AgentDisk := Disk FileName (Option BarrierState)

/-- What a handler goroutine asks for. -/
inductive AgentOp where
  | rlock
  | runlock
  | lock
  | unlock
  /-- read the fields of the barrier -/
  | barrier
  /-- `b.state = next` -/
  | accept (next : BarrierState)
  /-- `b.state.State = "BLOCKED"; b.invalid = true` after persisting `next` failed -/
  | invalidate (next : BarrierState)
  | identity
  /-- a file operation on the way to saving a state -/
  | file (saving : BarrierState) (op : FileOp FileName (Option BarrierState))
  | handlerStart (r : Request) (identity : IdentityRead)
  | handlerEnd
  | respond (answer : Except Rejection Ack)
  /-- a request the guard does not look at is served without it -/
  | passThrough (r : Request)

def AgentOp.Ans : AgentOp → Type
  | .barrier => Barrier
  | .identity => IdentityRead
  | .file _ op => op.Ans
  | _ => Unit

abbrev AgentProgram := Program AgentOp AgentOp.Ans Empty

abbrev ask (op : AgentOp) : AgentProgram op.Ans := .perform op

/-! ## The programs -/

namespace Run

def rlock : AgentProgram Unit := ask .rlock
def runlock : AgentProgram Unit := ask .runlock
def lock : AgentProgram Unit := ask .lock
def unlock : AgentProgram Unit := ask .unlock
def barrier : AgentProgram Barrier := ask .barrier
def identity : AgentProgram IdentityRead := ask .identity
def accept (next : BarrierState) : AgentProgram Unit := ask (.accept next)
def invalidate (next : BarrierState) : AgentProgram Unit := ask (.invalidate next)
def handlerStart (r : Request) (identity : IdentityRead) : AgentProgram Unit :=
  ask (.handlerStart r identity)
def handlerEnd : AgentProgram Unit := ask .handlerEnd
def respond (answer : Except Rejection Ack) : AgentProgram Unit := ask (.respond answer)
def passThrough (r : Request) : AgentProgram Unit := ask (.passThrough r)

end Run

section Persist

variable (state : BarrierState)

def openFile (n : FileName) : AgentProgram (Option Nat) := ask (.file state (.create n))

def createTemp : AgentProgram (Option (Nat × Nat)) :=
  ask (.file state (.createTemp .temp))

def chmod (file : Nat) : AgentProgram (Option Unit) := ask (.file state (.chmod file))

def writeFile (file : Nat) (raw : Option BarrierState) : AgentProgram (Option Unit) :=
  ask (.file state (.write file raw))

def syncFile (file : Nat) : AgentProgram (Option Unit) := ask (.file state (.sync file))

def closeFile (file : Nat) : AgentProgram (Option Unit) := ask (.file state (.close file))

def renameFile (source target : FileName) : AgentProgram (Option Unit) :=
  ask (.file state (.rename source target))

def removeFile (n : FileName) : AgentProgram (Option Unit) := ask (.file state (.remove n))

def syncDir : AgentProgram (Option Unit) := ask (.file state .syncDir)

/-- `persist` from the open temporary file to the removal of the marker. `json.Marshal` of three
strings cannot fail. -/
def replaceState (temp file : Nat) : AgentProgram Bool := do
  let some () ← chmod state file
    | do let _ ← closeFile state file; return false
  let some () ← writeFile state file (some state)
    | do let _ ← closeFile state file; return false
  let some () ← syncFile state file
    | do let _ ← closeFile state file; return false
  let some () ← closeFile state file | return false
  let some () ← renameFile state (.temp temp) .state | return false
  let some () ← syncDir state | return false
  let some () ← removeFile state .marker | return false
  return true

/-- `persist`: whether it returned no error. -/
def persist : AgentProgram Bool := do
  let some pending ← openFile state .marker | return false
  let some () ← syncFile state pending
    | do let _ ← closeFile state pending; return false
  let some () ← closeFile state pending | return false
  let some () ← syncDir state | return false
  let some (temp, file) ← createTemp state | return false
  let saved ← replaceState state temp file
  -- deferred: the temporary name is gone after a successful rename, and the error is ignored
  let _ ← removeFile state (.temp temp)
  return saved

end Persist

/-- The body of `setMaintenanceBarrier` under the write lock. -/
def transition (input : BarrierState) : AgentProgram Unit := do
  let b ← Run.barrier
  if b.invalid then
    Run.respond (.error barrierUnavailable)
  else
    let identity ← Run.identity
    let b ← Run.barrier
    match decideBarrier b input identity with
    | .error rejection => Run.respond (.error rejection)
    | .ok (live, newer) =>
      if newer then
        if ← persist input then
          Run.accept input
          acknowledge live
        else
          Run.invalidate input
          Run.respond (.error persistFailed)
      else
        acknowledge live
where
  acknowledge (live : Identity) : AgentProgram Unit := do
    let b ← Run.barrier
    Run.respond (.ok { clusterID := live.clusterID, nodeID := live.nodeID,
                       generation := b.state.generation, state := b.state.state })

/-- `setMaintenanceBarrier` for a decoded body, `none` where decoding fails. -/
def setMaintenanceBarrier (enabled : Bool) (body : Option BarrierState) : AgentProgram Unit :=
  if !enabled then
    Run.respond (.error barrierUnavailable)
  else match checkBarrierRequest body with
    | .error rejection => Run.respond (.error rejection)
    | .ok input => do
      Run.lock
      transition input
      Run.unlock

/-- The body of `guard` under the read lock. -/
def guarded (r : Request) : AgentProgram Unit := do
  let b ← Run.barrier
  match guardBefore b r with
  | .error rejection => Run.respond (.error rejection)
  | .ok () =>
    let identity ← Run.identity
    let b ← Run.barrier
    match guardAfter b r identity with
    | .error rejection => Run.respond (.error rejection)
    | .ok () =>
      Run.handlerStart r identity
      Run.handlerEnd

/-- `guard`: the read lock is held until the mutation handler returns. -/
def guardProgram (enabled : Bool) (r : Request) : AgentProgram Unit :=
  if !enabled ∨ isMutationPath r = false then Run.passThrough r
  else do
    Run.rlock
    guarded r
    Run.runlock

/-! ## The shared state -/

/-- What can be seen of the Agent from outside. -/
inductive Event where
  /-- a guarded mutation handler starts -/
  | started (request : Nat) (r : Request) (identity : IdentityRead)
  | finished (request : Nat)
  /-- a `persist` has run to completion: its marker is removed -/
  | persisted (state : BarrierState)
  /-- a `persist` has returned an error -/
  | persistFailed (state : BarrierState)
  /-- a barrier PUT is acknowledged -/
  | acknowledged (ack : Ack)
  /-- the process starts, and its barrier is found invalid or not -/
  | booted (invalid : Bool)

/-- The memory of the process and its directory, with the history `log`. -/
structure Process where
  barrier : Barrier
  writer : Option Nat
  readers : List Nat
  disk : AgentDisk
  log : List Event

/-- The last thing `persist` does is to remove its marker. -/
def completion (saving : BarrierState) :
    (op : FileOp FileName (Option BarrierState)) → op.Ans → List Event
  | .remove .marker, some () => [.persisted saving]
  | _, _ => []

/-- What a request of the goroutine `i` may answer and do. The mutex is that of `sync.RWMutex`:
readers exclude a writer, and a writer excludes everyone. -/
def AgentExec (i : Nat) : (op : AgentOp) → Process → op.Ans → Process → Prop
  | .rlock, s, _, s' => s.writer = none ∧ s' = { s with readers := i :: s.readers }
  | .runlock, s, _, s' => s' = { s with readers := s.readers.erase i }
  | .lock, s, _, s' => s.writer = none ∧ s.readers = [] ∧ s' = { s with writer := some i }
  | .unlock, s, _, s' => s' = { s with writer := none }
  | .barrier, s, b, s' => b = s.barrier ∧ s' = s
  | .accept next, s, _, s' => s' = { s with barrier := { s.barrier with state := next } }
  | .invalidate next, s, _, s' =>
    s' = { s with
      barrier := { s.barrier with invalid := true,
                                  state := { s.barrier.state with state := .BLOCKED } }
      log := .persistFailed next :: s.log }
  | .identity, s, _, s' => s' = s
  | .file saving op, s, a, s' =>
    ∃ d, op.Exec s.disk a d ∧ s' = { s with disk := d, log := completion saving op a ++ s.log }
  | .handlerStart r identity, s, _, s' => s' = { s with log := .started i r identity :: s.log }
  | .handlerEnd, s, _, s' => s' = { s with log := .finished i :: s.log }
  | .respond (.ok ack), s, _, s' => s' = { s with log := .acknowledged ack :: s.log }
  | .respond (.error _), s, _, s' => s' = s
  | .passThrough _, s, _, s' => s' = s

/-- The outcome of `Stat` on the marker: what the directory holds, or another error. -/
def StatMarker (d : AgentDisk) (outcome : Except FileError Unit) : Prop :=
  outcome = .error .other ∨
    outcome = if d.dir .marker = none then .error .notExist else .ok ()

/-- The outcome of `ReadFile` on the state file: what it holds, or another error. -/
def ReadState (d : AgentDisk) (outcome : Except FileError (Option BarrierState)) : Prop :=
  outcome = .error .other ∨
    outcome = match d.read .state with
      | none => .error .notExist
      | some content => .ok content

/-- A process with the barrier enabled starts on the disk `d`. -/
def Boots (d : AgentDisk) (b : Barrier) : Prop :=
  ∃ marker file, StatMarker d marker ∧ ReadState d file ∧ b = newMutationBarrier true marker file

/-- The process dies, with or without a power loss, and starts again. -/
def AgentCrash (s s' : Process) : Prop :=
  ∃ d b, (d = s.disk ∨ d = s.disk.powerLoss) ∧ Boots d b ∧
    s' = { barrier := b, writer := none, readers := [], disk := d,
           log := .booted b.invalid :: s.log }

def agentMachine : Machine Nat AgentOp AgentOp.Ans Process where
  perform := AgentExec
  env s s' := ∃ d, s.disk.FlushStep d ∧ s' = { s with disk := d }
  crash S s s' := S = Set.univ ∧ AgentCrash s s'

/-- The requests an Agent may get: any request through the guard, and barrier PUTs with a body that
decodes to a requested state. -/
def AgentEntry (Requested : BarrierState → Prop) (p : AgentProgram Unit) : Prop :=
  (∃ r, p = guardProgram true r) ∨
    ∃ body, (∀ input, body = some input → Requested input) ∧ p = setMaintenanceBarrier true body

/-- The directory as the Agent finds it at its first start, with any content: every entry is a file,
and nothing waits to be written back. -/
structure BootDisk where
  disk : AgentDisk
  wellFormed : disk.WellFormed
  settled : disk.Settled .state (disk.read .state)

/-- What the state file held at the first start. -/
def BootDisk.content (d : BootDisk) : Option (Option BarrierState) :=
  d.disk.read .state

/-- An Agent that has just been started for the first time. -/
def Started (d : BootDisk) (s : Process) : Prop :=
  ∃ b, Boots d.disk b ∧
    s = { barrier := b, writer := none, readers := [], disk := d.disk, log := [.booted b.invalid] }

abbrev AgentConfig := Config Nat AgentOp AgentOp.Ans Empty Unit Process

abbrev AgentReachable (Requested : BarrierState → Prop) (s₀ : Process) (c : AgentConfig) : Prop :=
  Reachable agentMachine (AgentEntry Requested) s₀ c

end Docklane.Agent
