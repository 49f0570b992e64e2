import Docklane.Agent.Routes
import Mathlib.Algebra.Group.Nat.Defs
import Mathlib.Data.List.DropRight

/-!
# The mutation barrier of the Agent

The data and the decisions of `agent/internal/httpserver/maintenance_barrier.go`: what a saved
barrier state is, when a barrier file is accepted at start, which requests count as mutations,
what the guard answers and what a barrier PUT does. The decisions are pure functions of the
barrier, the request and the identity that was read; `Docklane.Agent.Process` runs them under the
lock and writes the file.
-/

namespace Docklane.Agent

open UrlPath

/-- The gate of the barrier. A request body or a file may carry any other text. -/
inductive GateState where
  | BLOCKED
  | OPEN
  | other (text : String)
  deriving DecidableEq, Repr

structure BarrierState where
  clusterID : String
  generation : String
  state : GateState
  deriving DecidableEq, Repr

/-- The barrier of a process, without its lock and its path. -/
structure Barrier where
  enabled : Bool
  invalid : Bool
  state : BarrierState
  deriving DecidableEq, Repr

/-- What the Agent reports of the Swarm it belongs to; only the fields the barrier reads. -/
structure Identity where
  clusterID : String
  nodeID : String
  manager : Bool
  deriving DecidableEq, Repr

/-- The result of reading the identity: `none` when the read fails or its context has expired. -/
abbrev IdentityRead := Option Identity

/-- An error answer. -/
structure Rejection where
  status : Nat
  code : String
  error : String
  deriving DecidableEq, Repr

/-- The answer to a barrier request that is acknowledged. -/
structure Ack where
  clusterID : String
  nodeID : String
  generation : String
  state : GateState
  deriving DecidableEq, Repr

/-! ## Values -/

/-- `strconv.ParseUint(s, 10, 64)`: the value it returns, and whether there was no error. -/
def parseUint (s : String) : Nat × Bool :=
  if s.toList = [] ∨ s.toList.all Char.isDigit = false then (0, false)
  else if Nat.ofDigitChars 10 s.toList 0 < 2 ^ 64 then (Nat.ofDigitChars 10 s.toList 0, true)
  else (2 ^ 64 - 1, false)

/-- The regular expression `^[A-Za-z0-9_-]{1,128}$`. -/
def clusterIDValue (s : String) : Bool :=
  1 ≤ s.toList.length && s.toList.length ≤ 128 &&
    s.toList.all fun c => c.isAlphanum || c == '_' || c == '-'

/-- The generation of a state as a number. -/
def BarrierState.gen (v : BarrierState) : Nat :=
  (parseUint v.generation).1

def validBarrierState (v : BarrierState) : Bool :=
  (parseUint v.generation).2 && 0 < v.gen && clusterIDValue v.clusterID &&
    (v.state == .BLOCKED || v.state == .OPEN)

/-- The state of a barrier for which nothing was ever saved. -/
def initialState : BarrierState :=
  { clusterID := "", generation := "0", state := .BLOCKED }

/-! ## Start of the process -/

/-- The outcome of a file operation that the barrier tells apart. -/
inductive FileError where
  | notExist
  | other
  deriving DecidableEq, Repr

/-- `newMutationBarrier` for the outcomes of `Stat` on the marker and of `ReadFile` on the state
file. The content of the file is what `json.Unmarshal` makes of it, `none` where it fails. -/
def newMutationBarrier (enabled : Bool) (marker : Except FileError Unit)
    (file : Except FileError (Option BarrierState)) : Barrier :=
  let b : Barrier := { enabled, invalid := false, state := initialState }
  if !enabled then b
  else match marker with
    | .error .notExist =>
      match file with
      | .error .notExist => b
      | .error .other => { b with invalid := true }
      | .ok none => { b with invalid := true }
      | .ok (some saved) =>
        if validBarrierState saved then { b with state := saved } else { b with invalid := true }
    | _ => { b with invalid := true }

/-! ## The guard -/

/-- `strings.Trim(s, "/")`. -/
def trimSlashes (s : Bytes) : Bytes :=
  (s.dropWhile (· == slash)).rdropWhile (· == slash)

def isMutationPath (r : Request) : Bool :=
  r.method == "POST" && match (trimSlashes r.path).splitOn slash with
  | [version, kind, id, action] =>
    (version == ascii "v1" || version == ascii "v2") && id != [] &&
    ((kind == ascii "services" &&
        [ascii "scale", ascii "restart", ascii "image", ascii "rollback"].contains action) ||
      (kind == ascii "nodes" &&
        [ascii "drain", ascii "activate", ascii "labels"].contains action))
  | _ => false

def clusterUnavailable : Rejection :=
  { status := 503, code := "CLUSTER_IDENTITY_UNAVAILABLE",
    error := "current manager cluster identity could not be verified" }

/-- The checks of `guard` before the identity is read. -/
def guardBefore (b : Barrier) (r : Request) : Except Rejection Unit :=
  if b.invalid ∨ b.state.state ≠ .OPEN then
    .error { status := 409, code := "MAINTENANCE_AGENT_BLOCKED",
             error := "Agent mutation barrier is closed" }
  else match r.clusterHeaders with
    | [cluster] =>
      if !clusterIDValue cluster then
        .error { status := 428, code := "CLUSTER_PRECONDITION_REQUIRED",
                 error := "a valid expected cluster ID is required" }
      else if b.state.clusterID ≠ cluster then
        .error { status := 412, code := "CLUSTER_PRECONDITION_FAILED",
                 error := "saved maintenance barrier belongs to another Swarm" }
      else .ok ()
    | _ =>
      .error { status := 428, code := "CLUSTER_PRECONDITION_REQUIRED",
               error := "a valid expected cluster ID is required" }

/-- The checks of `guard` after the identity is read. -/
def guardAfter (b : Barrier) (r : Request) (identity : IdentityRead) : Except Rejection Unit :=
  match identity with
  | none => .error clusterUnavailable
  | some identity =>
    if !identity.manager ∨ identity.nodeID = "" ∨ identity.clusterID = "" then
      .error clusterUnavailable
    else if identity.clusterID ≠ b.state.clusterID then
      .error { status := 412, code := "CLUSTER_PRECONDITION_FAILED",
               error := "current Swarm differs from saved maintenance barrier" }
    else if r.generationHeaders ≠ [b.state.generation] then
      .error { status := 409, code := "MAINTENANCE_GENERATION_STALE",
               error := "Agent mutation generation is not current" }
    else .ok ()

/-- All checks of `guard`, on a barrier that does not change between them. -/
def guardCheck (b : Barrier) (r : Request) (identity : IdentityRead) : Except Rejection Unit := do
  guardBefore b r
  guardAfter b r identity

/-- The Agent's answer to one request: an error of the guard, or what the mux does with it. -/
inductive Served where
  | rejected (rejection : Rejection)
  | mux (result : MuxResult)
  deriving DecidableEq, Repr

/-- `guard` around the mux, for a request served while the barrier stays `b`. -/
def guard (b : Barrier) (r : Request) (identity : IdentityRead) : Served :=
  if !b.enabled ∨ isMutationPath r = false then .mux (serveMux r)
  else match guardCheck b r identity with
    | .error rejection => .rejected rejection
    | .ok () => .mux (serveMux r)

/-- What a request that passes the guard has shown of the barrier. -/
theorem guardBefore_ok {b : Barrier} {r : Request} (h : guardBefore b r = .ok ()) :
    b.invalid = false ∧ b.state.state = .OPEN ∧ r.clusterHeaders = [b.state.clusterID] := by
  unfold guardBefore at h
  split_ifs at h with hopen
  split at h
  · split_ifs at h with hvalid hcluster
    simp_all
  · cases h

theorem guardAfter_ok {b : Barrier} {r : Request} {identity : IdentityRead}
    (h : guardAfter b r identity = .ok ()) :
    ∃ live, identity = some live ∧ live.manager = true ∧ live.clusterID = b.state.clusterID ∧
      r.generationHeaders = [b.state.generation] := by
  unfold guardAfter at h
  split at h
  · cases h
  · split_ifs at h with hlive hcluster hgen
    exact ⟨_, rfl, by simp_all⟩

/-! ## The barrier requests -/

def barrierUnavailable : Rejection :=
  { status := 503, code := "MAINTENANCE_BARRIER_UNAVAILABLE",
    error := "Agent barrier is disabled or its state is invalid" }

/-- `getMaintenanceBarrier` for the identity it reads. -/
def getMaintenanceBarrier (b : Barrier) (identity : IdentityRead) : Except Rejection Ack :=
  if !b.enabled ∨ b.invalid then .error barrierUnavailable
  else match identity with
    | none => .error clusterUnavailable
    | some live =>
      if !live.manager ∨ live.clusterID = "" ∨ live.nodeID = "" then .error clusterUnavailable
      else if b.state.clusterID ≠ live.clusterID ∨ validBarrierState b.state = false then
        .error { status := 412, code := "CLUSTER_PRECONDITION_FAILED",
                 error := "saved barrier does not match current Swarm" }
      else .ok { clusterID := b.state.clusterID, nodeID := live.nodeID,
                 generation := b.state.generation, state := b.state.state }

/-- The checks of `setMaintenanceBarrier` on its body, before the lock is taken. -/
def checkBarrierRequest (body : Option BarrierState) : Except Rejection BarrierState :=
  match body with
  | some input =>
    if validBarrierState input then .ok input
    else .error { status := 400, code := "INVALID_MAINTENANCE_BARRIER",
                  error := "clusterId, generation and OPEN/BLOCKED state are required" }
  | none => .error { status := 400, code := "INVALID_MAINTENANCE_BARRIER",
                     error := "clusterId, generation and OPEN/BLOCKED state are required" }

/-- The checks of `setMaintenanceBarrier` under the lock and after the identity was read: an error,
or the identity to acknowledge with and whether the input is newer than the state. -/
def decideBarrier (b : Barrier) (input : BarrierState) (identity : IdentityRead) :
    Except Rejection (Identity × Bool) :=
  match identity with
  | none => .error clusterUnavailable
  | some live =>
    if !live.manager ∨ live.clusterID ≠ input.clusterID ∨ live.nodeID = "" then
      .error clusterUnavailable
    else if b.state.clusterID ≠ "" ∧ b.state.clusterID ≠ input.clusterID then
      .error { status := 412, code := "CLUSTER_PRECONDITION_FAILED",
               error := "barrier pinned to a different Swarm" }
    else if input.gen < b.state.gen ∨ (input.gen = b.state.gen ∧ b.state.state ≠ input.state) then
      .error { status := 409, code := "MAINTENANCE_BARRIER_STALE",
               error := "barrier generation cannot move backwards" }
    else .ok (live, b.state.gen < input.gen)

def persistFailed : Rejection :=
  { status := 503, code := "MAINTENANCE_BARRIER_PERSIST_FAILED",
    error := "barrier state could not be persisted" }

theorem decideBarrier_ok {b : Barrier} {input : BarrierState} {identity : IdentityRead}
    {live : Identity} {newer : Bool} (h : decideBarrier b input identity = .ok (live, newer)) :
    identity = some live ∧ live.clusterID = input.clusterID ∧
      (newer = true → b.state.gen < input.gen) ∧
      (newer = false → b.state.gen = input.gen ∧ b.state.state = input.state) := by
  unfold decideBarrier at h
  split at h
  · cases h
  · split_ifs at h with hlive hpinned hstale
    obtain ⟨rfl, rfl⟩ := Prod.mk.injEq _ _ _ _ ▸ Except.ok.inj h
    simp only [not_or, not_and, not_lt, ne_eq, not_not] at hlive hstale
    refine ⟨rfl, hlive.2.1, fun hn => by simpa using hn, fun hn => ?_⟩
    have hle : input.gen ≤ b.state.gen := by simpa using hn
    have heq := le_antisymm hle hstale.1
    exact ⟨heq.symm, hstale.2 heq⟩

end Docklane.Agent
