import Docklane.Control.Admissions
import Docklane.Control.Settling

/-!
# A control plane and what is assumed of it

A `System` is the Swarm, the configured processes and the requests that may be made, together with
proofs of the assumptions that its premises stand for. The rules below are those of
`Docklane.Concurrent.RelyGuarantee` for the requests of the control plane.
-/

namespace Docklane.Control

open Concurrent

/-! ## Assumptions -/

/-- No service has a name that is the id of another one, now or at another time; and no node. -/
structure NoAlias (docker : Set Swarm) : Prop where
  services : ∀ swarm ∈ docker, ∀ swarm' ∈ docker, ∀ s ∈ swarm.services, ∀ s' ∈ swarm'.services,
    s.name = s'.id → s.id = s'.id
  nodes : ∀ swarm ∈ docker, ∀ swarm' ∈ docker, ∀ n ∈ swarm.nodes, ∀ n' ∈ swarm'.nodes,
    n.hostname = n'.id → n.id = n'.id

/-- An admission is resolved by hand only when no callback is running under it. -/
def CarefulEvidence {Tid : Type} (op : ControlOp) (w : World Tid) : Prop :=
  ∀ input locked observed, op = .db (.resolveEvidence input locked observed) →
    input.type = .ADMISSION → ∀ j a, w.admitted j = some a →
      ¬ (a.clusterId = input.clusterId ∧ a.id = input.evidenceId)

/-- When a call asks for a lock, the deployment that it has read as `FAILED` has not been rolled
back in the meantime. -/
def PatientRollback {Tid : Type} (i : Tid) (op : ControlOp) (w : World Tid) : Prop :=
  ∀ name, op = .getLock name → ∀ d, w.lastRead i = some d → d.status = .FAILED →
    ∀ d' ∈ w.db.deployments, d'.id = d.id → d'.status ≠ .ROLLED_BACK

structure System (Tid : Type) where
  docker : Set Swarm
  Allowed : Tid → ControlOp → World Tid → Prop
  settings : Set Settings
  premises : Premises
  names : ∀ s ∈ settings, s.namedLockName = premises.lockName
  clean : premises.clean → NoAlias docker
  careful : premises.careful → ∀ i op w, Allowed i op w → CarefulEvidence op w
  patient : premises.patient → ∀ i op w, Allowed i op w → PatientRollback i op w
  enforced : premises.enforced → ∀ s ∈ settings, s.maintenanceEnforced = true

/-- The system of some processes: its premises are the assumptions themselves. -/
def Processes.system {Tid : Type} (P : Processes) (docker : Set Swarm)
    (Allowed : Tid → ControlOp → World Tid → Prop) : System Tid where
  docker := docker
  Allowed := Allowed
  settings := P.settings
  premises :=
    { lockName := P.lockName
      clean := NoAlias docker
      careful := ∀ i op w, Allowed i op w → CarefulEvidence op w
      patient := ∀ i op w, Allowed i op w → PatientRollback i op w
      enforced := ∀ s ∈ P.settings, s.maintenanceEnforced = true }
  names := P.names
  clean h := h
  careful h := h
  patient h := h
  enforced h := h

namespace System

variable {Tid : Type} [DecidableEq Tid] (S : System Tid) {i : Tid} {w : World Tid}

abbrev machine : Machine Tid ControlOp ControlOp.Ans (World Tid) :=
  controlMachine S.docker S.Allowed

omit [DecidableEq Tid] in
abbrev protocol : Protocol Tid (World Tid) := controlProtocol S.premises

/-- A call may run the program from `w`. -/
abbrev wp {α : Type} (i : Tid) (p : ControlProgram α) (Q : Except Failure α → World Tid → Prop)
    (w : World Tid) : Prop :=
  Concurrent.wp S.machine S.protocol i p Q w

variable {S} {α : Type} {p : ControlProgram α} {K : World Tid → Prop}

/-! ## Rules -/

/-- A program of quiet requests keeps what the call knows. -/
theorem wp_quiet (hK : Stable S.protocol i K) (hp : p.Uses ControlOp.Quiet) (hs : K w) :
    S.wp i p (Ends K fun _ _ => True) w := by
  refine wp_ends (wp_uses hK (fun op hop s a s' hinv hs hperf => ?_) hp hs)
  obtain ⟨hinv', hguar, hrely⟩ := ControlOp.Quiet.step hop hinv hperf.2
  exact ⟨hinv', hguar, hK hs hrely hinv'⟩

theorem wp_query {op : DbOp} {L : World Tid → Prop} {R : op.Reply → World Tid → Prop}
    (hK : Stable S.protocol i K) (hL : Stable S.protocol i L) (hR : ∀ x, Stable S.protocol i (R x))
    (h : ∀ s answer s', Inv S.premises s → K s → S.Allowed i (.db op) s →
      StatementStep i op s answer s' → Inv S.premises s' ∧ Guar S.premises i s s' ∧ L s' ∧
        ∀ x, answer = .ok x → R x s') (hs : K w) : S.wp i (query op) (Ends L R) w := by
  refine wp_request hK hs fun s hinv hs answer s' hperf => ?_
  obtain ⟨hinv', hguar, hl, hr⟩ := h s answer s' hinv hs hperf.1 hperf.2
  refine ⟨hinv', hguar, ?_⟩
  cases answer with
  | ok x => exact wp_pure_ends hL (hR x) hl (hr x rfl)
  | error e => exact wp_throw_ends hL hl

/-- A statement that only reads: what it finds is true when it is read, and later. -/
theorem wp_read (op : DbOp) (hop : op.Quiet) {f : Db → op.Reply}
    (hexec : ∀ db, op.exec db = .ok (f db, db)) {R : op.Reply → World Tid → Prop}
    (hK : Stable S.protocol i K) (hR : ∀ x, Stable S.protocol i (R x))
    (hfound : ∀ s, Inv S.premises s → K s → R (f s.db) s) (hs : K w) :
    S.wp i (query op) (Ends K R) w := by
  refine wp_query hK hK hR (fun s answer s' hinv hs _ hstep => ?_) hs
  have hquiet : ControlOp.Quiet (.db op) := hop
  have hperf : Performs S.docker i (.db op) s answer s' := hstep
  obtain ⟨hinv', hguar, hrely⟩ := hquiet.step hinv hperf
  refine ⟨hinv', hguar, hK hs hrely hinv', fun x hx => ?_⟩
  cases hstep with
  | executed hexec' _ =>
    rw [hexec] at hexec'
    cases hexec'
    cases hx
    exact hR _ (hfound s hinv hs) hrely hinv'
  | refused _ => cases hx
  | failed _ => cases hx
  | unacknowledged _ _ _ => cases hx

theorem wp_askAgent {read : AgentRead} {R : read.Reply → Prop} (hK : Stable S.protocol i K)
    (hR : ∀ swarm ∈ S.docker, ∀ reply, read.Answers swarm reply → R reply) (hs : K w) :
    S.wp i (askAgent read) (Ends K fun reply _ => R reply) w := by
  refine wp_request hK hs fun s hinv hs answer s' hperf => ?_
  obtain ⟨-, rfl, hanswer⟩ := hperf
  refine ⟨hinv, .refl _ i hinv, ?_⟩
  cases answer with
  | ok reply =>
    obtain ⟨swarm, hswarm, ha⟩ := hanswer reply rfl
    exact wp_pure_ends hK (fun h _ _ => h) hs (hR swarm hswarm reply ha)
  | error e => exact wp_throw_ends hK hs

end System

end Docklane.Control
