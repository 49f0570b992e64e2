import Docklane.Concurrent.RelyGuarantee
import Docklane.Control.Tables

/-!
# The control lease, statement by statement

`clusters/maintenance-control-lease.ts` and the transactions that check a lease. Elsewhere a
transaction is one step; here its statements are the steps, so that a holder may stall between any
two of them. A locking read takes the lock of the row that it finds, and the transaction keeps it
until it ends; a locking read that finds no row keeps nobody from inserting one. A statement uses
the time at which it was started, which may lie before the time at which it got its lock.

`log` is a history variable, newest event first.
-/

namespace Docklane.Control

open Concurrent

/-- What the lease calls ask of the database. -/
inductive LeaseOp where
  | randomUUID
  | beginTransaction
  /-- the locking read of `acquire` -/
  | selectLease (clusterId : String)
  | updateLease (lease : MaintenanceLease) (ttlSeconds : Nat)
  | insertLease (lease : MaintenanceLease) (ttlSeconds : Nat)
  /-- the locking read of `assertOwner` -/
  | selectOwner (lease : MaintenanceLease)
  /-- a statement on other tables, in an open transaction -/
  | statement
  /-- the end of a transaction, and the lease it was guarded by -/
  | commit (guard : Option MaintenanceLease)
  | rollback
  /-- the update of `release`, a transaction of its own -/
  | endLease (lease : MaintenanceLease)
  deriving DecidableEq, Repr

/-- What a statement answers when it does not fail. -/
def LeaseOp.Reply : LeaseOp → Type
  | .randomUUID => String
  | .selectLease _ => Option (MaintenanceLease × Bool)
  | .selectOwner _ | .statement | .endLease _ => Bool
  | _ => Unit

/-- Statements that end a transaction. -/
def LeaseOp.ends : LeaseOp → Bool
  | .commit _ | .rollback => true
  | _ => false

abbrev LeaseOp.Ans (op : LeaseOp) : Type := Except Failure op.Reply

abbrev LeaseProgram := Program LeaseOp LeaseOp.Ans Failure

namespace MaintenanceControlLease

def ask (op : LeaseOp) : LeaseProgram op.Reply :=
  .request op Program.ofExcept

/-- A transaction that is rolled back when its body throws. -/
def transaction {α : Type} (body : LeaseProgram α) : LeaseProgram α :=
  (Program.bind (ask .beginTransaction) fun (_ : Unit) => body).tryCatch fun e =>
    Program.bind (ask .rollback) fun (_ : Unit) => .throw e

/-- The new row is written, and committed. -/
def takeLease (lease : MaintenanceLease) (write : LeaseOp) : LeaseProgram MaintenanceLease :=
  (ask write).bind fun _ =>
    Program.bind (ask (.commit none)) fun (_ : Unit) => .pure lease

def acquire (clusterId : String) (ttlSeconds : Nat) : LeaseProgram MaintenanceLease :=
  if ttlSeconds < 5 ∨ 300 < ttlSeconds then .throw (.conflict "Invalid maintenance lease TTL")
  else
    Program.bind (ask .randomUUID) fun (holderId : String) =>
      transaction <|
        Program.bind (ask (.selectLease clusterId))
          fun (found : Option (MaintenanceLease × Bool)) =>
            match found with
            | some (_, false) =>
              .throw (.conflict "Another Control Plane holds the maintenance lease")
            | some (row, true) =>
              let lease : MaintenanceLease := ⟨clusterId, holderId, row.token + 1⟩
              takeLease lease (.updateLease lease ttlSeconds)
            | none =>
              let lease : MaintenanceLease := ⟨clusterId, holderId, 1⟩
              takeLease lease (.insertLease lease ttlSeconds)

def assertOwner (lease : MaintenanceLease) : LeaseProgram Unit :=
  Program.bind (ask (.selectOwner lease)) fun (owned : Bool) =>
    if owned then .pure ()
    else .throw (.conflict "Maintenance lease is expired or fenced")

def release (lease : MaintenanceLease) : LeaseProgram Unit :=
  Program.bind (ask (.endLease lease)) fun (affected : Bool) =>
    if affected then .pure () else .throw (.conflict "Maintenance lease ownership lost")

/-- `commitClosed`, `commitRecoveryTransition` and `resolveWithinTransaction`: what they do between
the check of the lease and the end of the transaction is the body, which says whether to commit. -/
def guarded (lease : MaintenanceLease) (body : LeaseProgram Bool) : LeaseProgram Bool :=
  transaction <|
    (assertOwner lease).bind fun _ =>
      body.bind fun proceed =>
        if proceed then Program.bind (ask (.commit (some lease))) fun (_ : Unit) => .pure true
        else Program.bind (ask .rollback) fun (_ : Unit) => .pure false

end MaintenanceControlLease

/-- The calls of any process. A guarded transaction may be given any lease, its own or not. -/
inductive LeaseCall : LeaseProgram Unit → Prop where
  | acquire (clusterId ttlSeconds) :
      LeaseCall ((MaintenanceControlLease.acquire clusterId ttlSeconds).bind fun _ => .pure ())
  | guarded (lease body) (hbody : body.Uses (· = .statement)) :
      LeaseCall ((MaintenanceControlLease.guarded lease body).bind fun _ => .pure ())
  | release (lease) : LeaseCall (MaintenanceControlLease.release lease)

/-! ## The database -/

inductive LeaseEvent where
  /-- a lease was committed -/
  | issued (lease : MaintenanceLease)
  /-- a transaction guarded by this lease was committed -/
  | committed (lease : MaintenanceLease)
  /-- the holder has given its lease back -/
  | released (lease : MaintenanceLease)
  deriving DecidableEq, Repr

/-- The committed leases by cluster, the locks of their rows, and the open transactions. -/
structure LeaseWorld (Tid : Type) where
  row : String → Option LeaseRow
  lock : String → Option Tid
  active : Tid → Bool
  /-- The row that an open transaction has written. -/
  pending : Tid → Option LeaseRow
  clock : Nat
  log : List LeaseEvent

namespace LeaseWorld

variable {Tid : Type} [DecidableEq Tid] (w : LeaseWorld Tid) (i : Tid)

def begun : LeaseWorld Tid := { w with active := Function.update w.active i true }

/-- The transaction of `i` gets the lock of a row. -/
def take (clusterId : String) : LeaseWorld Tid :=
  { w with lock := Function.update w.lock clusterId (some i) }

def write (row : LeaseRow) : LeaseWorld Tid :=
  { w with pending := Function.update w.pending i (some row) }

/-- The transaction of `i` ends and frees its locks. What it has written is gone. -/
def abort : LeaseWorld Tid :=
  { w with
    lock := fun c => if w.lock c = some i then none else w.lock c
    active := Function.update w.active i false
    pending := Function.update w.pending i none }

/-- What the transaction has written becomes the committed row. -/
def apply : LeaseWorld Tid :=
  match w.pending i with
  | some row =>
    { w with
      row := Function.update w.row row.clusterId (some row)
      log := .issued row.toMaintenanceLease :: w.log }
  | none => w

def record (guard : Option MaintenanceLease) : LeaseWorld Tid :=
  match guard with
  | some lease => { w with log := .committed lease :: w.log }
  | none => w

def commit (guard : Option MaintenanceLease) : LeaseWorld Tid :=
  ((w.apply i).record guard).abort i

omit [DecidableEq Tid] in
/-- The row of this lease, if it is still there, ends at the time `t`. -/
def finish (lease : MaintenanceLease) (t : Nat) : LeaseWorld Tid :=
  match w.row lease.clusterId with
  | some row =>
    if row.toMaintenanceLease = lease then
      { w with
        row := Function.update w.row lease.clusterId (some ⟨lease, t⟩)
        log := .released lease :: w.log }
    else w
  | none => w

/-- The lock of a row is free for the transaction of `i`. -/
def FreeFor (clusterId : String) : Prop := w.lock clusterId = none ∨ w.lock clusterId = some i

omit [DecidableEq Tid] in
/-- A check of this lease with the time `t` finds its row. -/
def Owns (lease : MaintenanceLease) (t : Nat) : Prop :=
  ∃ row, w.row lease.clusterId = some row ∧ row.toMaintenanceLease = lease ∧ t < row.expiresAt

end LeaseWorld

section Database

variable {Tid : Type} [DecidableEq Tid]

/-- What a statement may do, and what it may answer. A statement that has to wait for a lock is not
answered yet, and neither is the end of a transaction whose connection is lost before the server has
given the transaction up. -/
inductive LeaseStep (i : Tid) : (op : LeaseOp) → LeaseWorld Tid → op.Ans → LeaseWorld Tid →
    Prop where
  | failed {op w} (e : Failure) (hop : op.ends = false) : LeaseStep i op w (.error e) w
  /-- the server has given the transaction up -/
  | aborted {op w} (e : Failure) : LeaseStep i op w (.error e) (w.abort i)
  | uuid {w} (id : String) : LeaseStep i .randomUUID w (.ok id) w
  | begun {w} : LeaseStep i .beginTransaction w (.ok ()) (w.begun i)
  | absent {w clusterId} (hactive : w.active i = true) (hrow : w.row clusterId = none) :
      LeaseStep i (.selectLease clusterId) w (.ok none) w
  | found {w clusterId row t} (hactive : w.active i = true) (hfree : w.FreeFor i clusterId)
      (hrow : w.row clusterId = some row) (ht : t ≤ w.clock) :
      LeaseStep i (.selectLease clusterId) w
        (.ok (some (row.toMaintenanceLease, decide (row.expiresAt ≤ t)))) (w.take i clusterId)
  | updated {w lease ttlSeconds t} (hactive : w.active i = true)
      (hfree : w.FreeFor i lease.clusterId) (hrow : w.row lease.clusterId ≠ none)
      (ht : t ≤ w.clock) :
      LeaseStep i (.updateLease lease ttlSeconds) w (.ok ())
        ((w.take i lease.clusterId).write i ⟨lease, t + ttlSeconds * 1000000⟩)
  | unmatched {w lease ttlSeconds} (hactive : w.active i = true)
      (hrow : w.row lease.clusterId = none) :
      LeaseStep i (.updateLease lease ttlSeconds) w (.ok ()) w
  | inserted {w lease ttlSeconds t} (hactive : w.active i = true)
      (hfree : w.FreeFor i lease.clusterId) (hrow : w.row lease.clusterId = none)
      (ht : t ≤ w.clock) :
      LeaseStep i (.insertLease lease ttlSeconds) w (.ok ())
        ((w.take i lease.clusterId).write i ⟨lease, t + ttlSeconds * 1000000⟩)
  | owned {w lease t} (hactive : w.active i = true) (hfree : w.FreeFor i lease.clusterId)
      (ht : t ≤ w.clock) (howns : w.Owns lease t) :
      LeaseStep i (.selectOwner lease) w (.ok true) (w.take i lease.clusterId)
  | fenced {w lease t} (hactive : w.active i = true) (ht : t ≤ w.clock)
      (hnot : ¬ w.Owns lease t) : LeaseStep i (.selectOwner lease) w (.ok false) w
  | statement {w} (hactive : w.active i = true) (answer : Bool) :
      LeaseStep i .statement w (.ok answer) w
  | committed {w guard} (hactive : w.active i = true) :
      LeaseStep i (.commit guard) w (.ok ()) (w.commit i guard)
  | unacknowledged {w guard} (e : Failure) (hactive : w.active i = true) :
      LeaseStep i (.commit guard) w (.error e) (w.commit i guard)
  | rolledBack {w} : LeaseStep i .rollback w (.ok ()) (w.abort i)
  | ended {w lease t} (hfree : w.lock lease.clusterId = none) (ht : t ≤ w.clock) :
      LeaseStep i (.endLease lease) w
        (.ok (decide ((w.row lease.clusterId).map (·.toMaintenanceLease) = some lease)))
        (w.finish lease t)
  | endedUnacknowledged {w lease t} (e : Failure) (hfree : w.lock lease.clusterId = none)
      (ht : t ≤ w.clock) : LeaseStep i (.endLease lease) w (.error e) (w.finish lease t)

/-- Without a call, time passes and sessions are lost. -/
inductive LeaseEnvStep : LeaseWorld Tid → LeaseWorld Tid → Prop where
  | tick {w clock} (h : w.clock ≤ clock) : LeaseEnvStep w { w with clock := clock }
  | loseSession {w} (i : Tid) : LeaseEnvStep w (w.abort i)

/-- Processes die: the server gives up the transactions of their calls. -/
def LeaseCrashStep (S : Set Tid) (w w' : LeaseWorld Tid) : Prop :=
  ∃ _ : DecidablePred (· ∈ S), w' =
    { w with
      lock := fun c => match w.lock c with
        | some i => if i ∈ S then none else some i
        | none => none
      active := fun i => if i ∈ S then false else w.active i
      pending := fun i => if i ∈ S then none else w.pending i }

def leaseMachine (Tid : Type) [DecidableEq Tid] :
    Machine Tid LeaseOp LeaseOp.Ans (LeaseWorld Tid) where
  perform := LeaseStep
  env := LeaseEnvStep
  crash := LeaseCrashStep

/-- No lease was ever issued. -/
def noLeases (Tid : Type) : LeaseWorld Tid := ⟨fun _ => none, fun _ => none, fun _ => false,
  fun _ => none, 0, []⟩

end Database

end Docklane.Control
