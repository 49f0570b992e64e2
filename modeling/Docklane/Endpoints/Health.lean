import Docklane.Control.Verification
import Docklane.Endpoints.Policy

/-!
# Health verification

`HealthVerifier` of `deployments/health-verifier.ts`. `verify` is written over the requests of its
own loop, and `healthVerifier` puts `safeFetch` and the endpoint policy in their place.
`verify_serves` says that the loop is the one that the deployments use.
-/

namespace Docklane.Endpoints

open Concurrent
open Concurrent.Program
open Control (Failure HealthCheckConfig)

/-! ## The loop -/

/-- What the loop of `verify` asks for. A fetched response is answered by its status, once its body
has been cancelled. -/
inductive VerifyOp where
  | assertAllowed (url : String)
  | safeFetch (url : String) (timeoutMs : Nat)
  | assertConverged
  | now
  | sleep (ms : Nat)
  | hang
  deriving DecidableEq, Repr

abbrev VerifyOp.Ans : VerifyOp → Type
  | assertAllowed _ => Except Failure Unit
  | safeFetch _ _ => Except Failure Nat
  | assertConverged => Except Failure Unit
  | now => Int
  | sleep _ => Unit
  | hang => Empty

abbrev VerifyProgram (α : Type) := Program VerifyOp VerifyOp.Ans Failure α

abbrev VerifyEvent := Event VerifyOp VerifyOp.Ans

def converge : VerifyProgram Unit :=
  .request .assertConverged Program.ofExcept

/-- `response.status === config.expectedStatus`, and false for an exception. -/
def succeeded (config : HealthCheckConfig) : Except Failure Nat → Bool
  | .ok status => status = config.expectedStatus
  | .error _ => false

/-- `stableSince ??= Date.now()`. -/
def stableStart : Option Int → VerifyProgram Int
  | some since => .pure since
  | none => .request .now .pure

/-- How long the loop may run after the time it starts at. -/
def budgetMs (config : HealthCheckConfig) : Nat :=
  config.stabilityWindowMs + (config.retries + 1) * (config.timeoutMs + config.intervalMs)

variable (config : HealthCheckConfig)

def verifyLoop (deadline : Int) : Nat → Option Int → Nat → VerifyProgram Unit
  | 0, _, _ => .request .hang fun answer => answer.elim
  | fuel + 1, stableSince, failures =>
    .request .now fun t =>
      if t < deadline then
        converge.bind fun _ =>
          .request (.safeFetch config.url config.timeoutMs) fun answer =>
            if succeeded config answer then
              converge.bind fun _ =>
                (stableStart stableSince).bind fun since =>
                  .request .now fun t =>
                    if config.stabilityWindowMs ≤ t - since then
                      converge.bind fun _ => .pure ()
                    else
                      .request (.sleep config.intervalMs) fun _ =>
                        verifyLoop deadline fuel (some since) failures
            else if config.retries < failures + 1 then
              .throw (.error
                s!"Health verification failed after {failures + 1} unsuccessful checks")
            else
              .request (.sleep config.intervalMs) fun _ =>
                verifyLoop deadline fuel none (failures + 1)
      else
        .throw (.error "Health endpoint did not remain stable for the required window")

/-- `HealthVerifier.verify`. -/
def verify (fuel : Nat) : VerifyProgram Unit :=
  Program.bind (.request (.assertAllowed config.url) Program.ofExcept) fun (_ : Unit) =>
    .request .now fun t => verifyLoop config (t + budgetMs config) fuel none 0

/-- The requests of the loop as requests of the control plane. -/
def serve (assertConverged : Control.ControlProgram Unit) :
    (op : VerifyOp) → Control.ControlProgram op.Ans
  | .assertAllowed url => Program.perform (Control.ControlOp.assertAllowed url)
  | .safeFetch url timeoutMs => Program.perform (Control.ControlOp.fetch url timeoutMs)
  | .assertConverged => assertConverged.attempt
  | .now => Control.now
  | .sleep ms => Control.sleep ms
  | .hang => Control.hang

variable {config} (assertConverged : Control.ControlProgram Unit)

theorem ofExcept_link (r : Except Failure Unit) :
    (Program.ofExcept r : VerifyProgram Unit).link (serve assertConverged) =
      Program.ofExcept r := by
  cases r <;> rfl

theorem converge_serves : converge.link (serve assertConverged) = assertConverged := by
  rw [converge, link_request, funext (ofExcept_link assertConverged)]
  exact attempt_bind_ofExcept assertConverged

theorem stableStart_serves (stableSince : Option Int) :
    (stableStart stableSince).link (serve assertConverged) = Control.stableStart stableSince := by
  cases stableSince <;> rfl

theorem verifyLoop_serves (deadline : Int) (fuel : Nat) (stableSince : Option Int)
    (failures : Nat) :
    (verifyLoop config deadline fuel stableSince failures).link (serve assertConverged) =
      Control.healthLoop config assertConverged deadline fuel stableSince failures := by
  induction fuel generalizing stableSince failures with
  | zero => exact congrArg (Program.request Control.ControlOp.hang) (funext fun x => x.elim)
  | succ fuel ih =>
    simp only [verifyLoop, link_request, link_ite, link_bind, converge_serves,
      stableStart_serves, link_throw, link_pure, ih]
    rfl

/-- The loop is the one that the deployments run. -/
theorem verify_serves (fuel : Nat) :
    (verify config fuel).link (serve assertConverged) =
      Control.healthVerify config assertConverged fuel := by
  have hdeadline (t : Int) : t + budgetMs config =
      t + config.stabilityWindowMs +
        (config.retries + 1) * (config.timeoutMs + config.intervalMs) := by
    simp [budgetMs, Int.add_assoc]
  simp only [verify, link_request, link_bind, verifyLoop_serves, ofExcept_link, hdeadline]
  rfl

/-! ## Redirects -/

section Redirects

variable (privateHosts : List String) (api : UrlApi) (timeoutMs : Nat)

def invalidUrl : Failure := .error "Invalid URL"

/-- The loop of `safeFetch`, with the number of URLs that it may still fetch. -/
def safeFetchLoop : Nat → Url → EndpointProgram Failure Response
  | 0, _ => .throw (.error "Health endpoint exceeded the redirect limit")
  | redirects + 1, current =>
    (assertHealthAllowed privateHosts current).bind fun _ =>
      .request (.fetch ⟨current, "GET", ⟨none, none⟩, timeoutMs⟩) fun answer =>
        match answer with
        | .error message => .throw (.error message)
        | .ok response =>
          if isRedirect response.status then
            .request .cancelBody fun cancelled =>
              match cancelled with
              | .error message => .throw (.error message)
              | .ok () =>
                match response.location with
                | none | some "" =>
                  .throw (.error "Health redirect did not include a Location header")
                | some location =>
                  match api.join location current with
                  | none => .throw invalidUrl
                  | some next => safeFetchLoop redirects next
          else .pure response

/-- `HealthVerifier.safeFetch`. -/
def safeFetch (initial : Url) : EndpointProgram Failure Response :=
  safeFetchLoop privateHosts api timeoutMs 6 initial

/-- The `try` block of a check: the response is fetched and its body cancelled. -/
def checkStatus (url : Url) : EndpointProgram Failure Nat :=
  (safeFetch privateHosts api timeoutMs url).bind fun response =>
    .request .cancelBody fun cancelled =>
      match cancelled with
      | .error message => .throw (.error message)
      | .ok () => .pure response.status

/-- `new URL(text)` and the program that takes it. -/
def withUrl {α : Type} (text : String) (p : Url → EndpointProgram Failure α) :
    EndpointProgram Failure α :=
  match api.parse text with
  | none => .throw invalidUrl
  | some url => p url

/-- The requests of the loop as the programs that carry them out. -/
def wire : (op : VerifyOp) → EndpointProgram Failure op.Ans
  | .assertAllowed url => (withUrl api url (assertHealthAllowed privateHosts)).attempt
  | .safeFetch url timeoutMs => (withUrl api url (checkStatus privateHosts api timeoutMs)).attempt
  | .assertConverged => Program.perform EndpointOp.assertConverged
  | .now => Program.perform EndpointOp.now
  | .sleep ms => Program.perform (EndpointOp.sleep ms)
  | .hang => Program.perform EndpointOp.hang

variable (config)

/-- `HealthVerifier.verify` over the network, the clock and the convergence callback. -/
def healthVerifier (fuel : Nat) : EndpointProgram Failure Unit :=
  (verify config fuel).link (wire privateHosts api)

end Redirects

/-! ## The clock -/

/-- A reading of the clock, or a sleep. -/
inductive Tick where
  | reading (time : Int)
  | pause (ms : Nat)

/-- The earliest time it can be after these ticks, newest first, on a clock started at `start`. -/
def earliest (start : Int) : List Tick → Int
  | [] => start
  | .reading time :: _ => time
  | .pause ms :: older => earliest start older + ms

/-- The clock never goes backwards, and it advances by at least the time of a sleep. -/
def Clocked (start : Int) : List Tick → Prop
  | [] => True
  | .reading time :: older => earliest start older ≤ time ∧ Clocked start older
  | .pause _ :: older => Clocked start older

instance Clocked.decide (start : Int) : (ticks : List Tick) → Decidable (Clocked start ticks)
  | [] => .isTrue trivial
  | .reading time :: older =>
    have := Clocked.decide start older
    inferInstanceAs (Decidable (earliest start older ≤ time ∧ Clocked start older))
  | .pause _ :: older => Clocked.decide start older

def verifyTick : VerifyEvent → Option Tick
  | ⟨.now, time⟩ => some (.reading time)
  | ⟨.sleep ms, _⟩ => some (.pause ms)
  | _ => none

/-- The ticks of a history of the loop. -/
def verifyTicks (h : List VerifyEvent) : List Tick := h.filterMap verifyTick

variable {start t : Int}

theorem Clocked.of_cons {x : VerifyEvent} {h : List VerifyEvent}
    (hclock : Clocked start (verifyTicks (x :: h))) : Clocked start (verifyTicks h) := by
  obtain ⟨op, a⟩ := x
  cases op with
  | now => exact hclock.2
  | sleep ms => exact hclock
  | _ => exact hclock

/-! ## What the loop does with the clock -/

def VerifyOp.isCheck : VerifyOp → Bool
  | .safeFetch _ _ => true
  | _ => false

/-- The checks of a history. -/
def checks (h : List VerifyEvent) : Nat := h.countP fun x => x.1.isCheck

def isFailedCheck (config : HealthCheckConfig) : VerifyEvent → Bool
  | ⟨.safeFetch _ _, answer⟩ => !succeeded config answer
  | _ => false

def failedChecks (config : HealthCheckConfig) (h : List VerifyEvent) : Nat :=
  h.countP (isFailedCheck config)

theorem checks_cons (x : VerifyEvent) (h : List VerifyEvent) :
    checks (x :: h) = checks h + if x.1.isCheck then 1 else 0 := List.countP_cons

theorem failedChecks_cons (config : HealthCheckConfig) (x : VerifyEvent) (h : List VerifyEvent) :
    failedChecks config (x :: h) = failedChecks config h + if isFailedCheck config x then 1 else
      0 :=
  List.countP_cons

/-- No convergence check has failed. -/
def Converged (h : List VerifyEvent) : Prop :=
  ∀ e, (⟨.assertConverged, .error e⟩ : VerifyEvent) ∉ h

/-- A check that returned the expected status, with convergence confirmed before and after it, in a
round of the loop that started at `start`. -/
def confirmedCheck (config : HealthCheckConfig) (start : Int) : List VerifyEvent :=
  [⟨.now, start⟩, ⟨.assertConverged, .ok ()⟩,
    ⟨.safeFetch config.url config.timeoutMs, .ok config.expectedStatus⟩,
    ⟨.assertConverged, .ok ()⟩]

/-- Consecutive checks that all succeeded. The first argument is the time read after the first of
them, and the second the time read after the last. -/
inductive StableBlock (config : HealthCheckConfig) : Int → Int → List VerifyEvent → Prop where
  | first (start since last : Int) :
      StableBlock config since last
        (confirmedCheck config start ++ [⟨.now, since⟩, ⟨.now, last⟩])
  | next {since last : Int} {block : List VerifyEvent} (h : StableBlock config since last block)
      (start last' : Int) :
      StableBlock config since last'
        (block ++ ⟨.sleep config.intervalMs, ()⟩ ::
        (confirmedCheck config start ++ [⟨.now, last'⟩]))

/-- The run ends with a stable block that is long enough, and a last confirmation of convergence. -/
def EndsStable (config : HealthCheckConfig) (run : List VerifyEvent) : Prop :=
  ∃ earlier block since last,
    run = earlier ++ block ++ [⟨.assertConverged, .ok ()⟩] ∧ StableBlock config since last block ∧
      config.stabilityWindowMs ≤ last - since

/-! ## The invariant of the loop -/

section Loop

variable (config)

/-- There is time for so many checks. -/
def Within (extraMs : Nat) (h : List VerifyEvent) : Prop :=
  ∀ start, Clocked start (verifyTicks h) →
    checks h * config.intervalMs < budgetMs config + extraMs

/-- A check starts before the budget is used up, and the fuel lasts. -/
def InTime (h : List VerifyEvent) (op : VerifyOp) : Prop :=
  Converged h ∧ Within config config.intervalMs h ∧ (op.isCheck = true → Within config 0 h) ∧
    (op = .hang → ∀ start, ¬ Clocked start (verifyTicks h))

def Outcome (r : Except Failure Unit) (h : List VerifyEvent) : Prop :=
  (∀ e, (⟨.assertConverged, .error e⟩ : VerifyEvent) ∈ h → r = .error e) ∧
    Within config config.intervalMs h ∧
    (r = .ok () → EndsStable config h.reverse ∧ failedChecks config h ≤ config.retries)

/-- The state of the loop at its head, after `done` checks. -/
structure AtHead (t₀ : Int) (done : Nat) (stableSince : Option Int) (failures : Nat)
    (h : List VerifyEvent) : Prop where
  converged : Converged h
  checks_eq : checks h = done
  failed_eq : failedChecks config h = failures
  spent : failures ≤ config.retries
  window : ∀ since, stableSince = some since → ∃ earlier block last,
    h.reverse = earlier ++ block ++ [⟨.sleep config.intervalMs, ()⟩] ∧
      StableBlock config since last block
  clock : ∀ start, Clocked start (verifyTicks h) →
    t₀ + (done * config.intervalMs : Nat) ≤ earliest start (verifyTicks h)
  inTime : Within config config.intervalMs h

variable {config} {h : List VerifyEvent} {x : VerifyEvent}

theorem Converged.cons (hh : Converged h) (hx : ∀ e, x ≠ ⟨.assertConverged, .error e⟩) :
    Converged (x :: h) := by
  intro e hmem
  rcases List.mem_cons.mp hmem with heq | hmem
  · exact hx e heq.symm
  · exact hh e hmem

theorem Converged.now (hh : Converged h) (t : Int) : Converged (⟨.now, t⟩ :: h) :=
  hh.cons fun _ => nofun

theorem Converged.ok (hh : Converged h) : Converged (⟨.assertConverged, .ok ()⟩ :: h) :=
  hh.cons fun _ => nofun

theorem Within.cons {extraMs : Nat} (hh : Within config extraMs h) (hx : x.1.isCheck = false) :
    Within config extraMs (x :: h) := by
  intro start hclock
  have hsame : checks (x :: h) = checks h := by simp [checks, hx]
  exact hsame ▸ hh start hclock.of_cons

theorem Within.check (hh : Within config 0 h) (hx : x.1.isCheck = true) :
    Within config config.intervalMs (x :: h) := by
  intro start hclock
  have hnext : checks (x :: h) = checks h + 1 := by simp [checks, hx]
  have hbefore := hh start hclock.of_cons
  rw [hnext, Nat.add_one_mul]
  omega

theorem InTime.of_within (hc : Converged h) (hw : Within config config.intervalMs h) {op : VerifyOp}
    (hop : op.isCheck = false) (hhang : op ≠ .hang) : InTime config h op :=
  ⟨hc, hw, fun e => by simp [hop] at e, fun e => (hhang e).elim⟩

theorem Outcome.of_error (hc : Converged h) (hw : Within config config.intervalMs h) (e : Failure) :
    Outcome config (.error e) h :=
  ⟨fun e' hmem => (hc e' hmem).elim, hw, nofun⟩

theorem converge_follows {k : Unit → VerifyProgram Unit} (hc : Converged h)
    (hw : Within config config.intervalMs h)
    (hk : (k ()).Follows (InTime config) (Outcome config) (⟨.assertConverged, .ok ()⟩ :: h)) :
    (converge.bind k).Follows (InTime config) (Outcome config) h := by
  refine ⟨.of_within hc hw rfl nofun, fun answer => ?_⟩
  cases answer with
  | ok _ => exact hk
  | error e =>
    refine ⟨fun e' hmem => ?_, hw.cons rfl, nofun⟩
    rcases List.mem_cons.mp hmem with heq | hmem
    · cases heq
      rfl
    · exact (hc e' hmem).elim

theorem earliest_le_cons (hclock : Clocked start (verifyTicks (x :: h))) :
    earliest start (verifyTicks h) ≤ earliest start (verifyTicks (x :: h)) := by
  obtain ⟨op, a⟩ := x
  cases op with
  | now => exact hclock.1
  | sleep ms => exact Int.le_add_of_nonneg_right (Int.natCast_nonneg ms)
  | _ => exact Int.le_refl _

theorem earliest_le_append {later : List VerifyEvent}
    (hclock : Clocked start (verifyTicks (later ++ h))) :
    Clocked start (verifyTicks h) ∧
      earliest start (verifyTicks h) ≤ earliest start (verifyTicks (later ++ h)) := by
  induction later with
  | nil => exact ⟨hclock, Int.le_refl _⟩
  | cons x later ih =>
    obtain ⟨hh, hle⟩ := ih hclock.of_cons
    exact ⟨hh, hle.trans (earliest_le_cons hclock)⟩

variable {t₀ : Int} {done failures : Nat} {stableSince : Option Int}

theorem AtHead.canCheck (hh : AtHead config t₀ done stableSince failures h)
    (ht : t < t₀ + budgetMs config) :
    Within config 0 (⟨.assertConverged, .ok ()⟩ :: ⟨.now, t⟩ :: h) := by
  intro start hclock
  have htime := hh.clock start hclock.2
  have hread : earliest start (verifyTicks h) ≤ t := hclock.1
  have hcount : checks (⟨.assertConverged, .ok ()⟩ :: ⟨.now, t⟩ :: h) = done := hh.checks_eq
  rw [hcount]
  omega

/-- Events that may follow a check in its round. -/
def Quiet (x : VerifyEvent) : Prop :=
  x.1.isCheck = false ∧ ∀ e, x ≠ ⟨.assertConverged, .error e⟩

theorem Quiet.not_failed (hx : Quiet x) : isFailedCheck config x = false := by
  obtain ⟨op, a⟩ := x
  cases op with
  | safeFetch url timeoutMs => cases hx.1
  | _ => rfl

section Later

variable {later : List VerifyEvent} (hlater : ∀ x ∈ later, Quiet x)

include hlater

theorem checks_later : checks (later ++ h) = checks h := by
  have hnone : later.countP (fun x => x.1.isCheck) = 0 :=
    List.countP_eq_zero.mpr fun x hx => by simp [(hlater x hx).1]
  rw [checks, List.countP_append, hnone, Nat.zero_add, checks]

theorem failedChecks_later : failedChecks config (later ++ h) = failedChecks config h := by
  have hnone : later.countP (isFailedCheck config) = 0 :=
    List.countP_eq_zero.mpr fun x hx => by simp [(hlater x hx).not_failed]
  rw [failedChecks, List.countP_append, hnone, Nat.zero_add, failedChecks]

theorem Converged.append_later (hh : Converged h) : Converged (later ++ h) := by
  intro e hmem
  rcases List.mem_append.mp hmem with hmem | hmem
  · exact (hlater _ hmem).2 e rfl
  · exact hh e hmem

theorem Within.append_later {extraMs : Nat} (hh : Within config extraMs h) :
    Within config extraMs (later ++ h) := by
  intro start hclock
  rw [checks_later hlater]
  exact hh start (earliest_le_append hclock).1

end Later

/-- The history of a round after its check. -/
def checked (config : HealthCheckConfig) (t : Int) (answer : Except Failure Nat)
    (h : List VerifyEvent) : List VerifyEvent :=
  ⟨.safeFetch config.url config.timeoutMs, answer⟩ :: ⟨.assertConverged, .ok ()⟩ ::
    ⟨.now, t⟩ :: h

theorem AtHead.checked_converged (hh : AtHead config t₀ done stableSince failures h) (t : Int)
    (answer : Except Failure Nat) : Converged (checked config t answer h) := by
  intro e hmem
  simp only [checked, List.mem_cons, Sigma.mk.injEq, reduceCtorEq, false_and, false_or,
    true_and, heq_eq_eq] at hmem
  exact hh.converged e hmem

theorem AtHead.next (hh : AtHead config t₀ done stableSince failures h)
    (ht : t < t₀ + budgetMs config) {answer : Except Failure Nat} {later : List VerifyEvent}
    (hlater : ∀ x ∈ later, Quiet x) {stableSince' : Option Int} {failures' : Nat}
    (hfailures : failures' = failures + if succeeded config answer then 0 else 1)
    (hspent : failures' ≤ config.retries)
    (hwindow : ∀ since, stableSince' = some since → ∃ earlier block last,
      (later ++ checked config t answer h).reverse = earlier ++ block ∧
        StableBlock config since last block) :
    AtHead config t₀ (done + 1) stableSince' failures'
      (⟨.sleep config.intervalMs, ()⟩ :: (later ++ checked config t answer h)) := by
  have hround : Within config config.intervalMs (checked config t answer h) :=
    (hh.canCheck ht).check rfl
  constructor
  case converged =>
    exact ((hh.checked_converged t answer).append_later hlater).cons fun _ => nofun
  case checks_eq =>
    simp [checks_cons, checks_later hlater, checked, hh.checks_eq, VerifyOp.isCheck]
  case failed_eq =>
    cases hanswer : succeeded config answer <;>
      simp [failedChecks_cons, failedChecks_later hlater, checked, hh.failed_eq, hfailures, hanswer,
        isFailedCheck]
  case spent => exact hspent
  case window =>
    intro since hsince
    obtain ⟨earlier, block, last, heq, hblock⟩ := hwindow since hsince
    exact ⟨earlier, block, last, by rw [List.reverse_cons, heq], hblock⟩
  case clock =>
    intro start hclock
    obtain ⟨hbefore, hle⟩ := earliest_le_append hclock.of_cons
    have htime := hh.clock start hbefore.2
    have hread : earliest start (verifyTicks h) ≤ t := hbefore.1
    have hround : t ≤ earliest start (verifyTicks (later ++ checked config t answer h)) := hle
    change _ ≤ earliest start (verifyTicks (later ++ _)) + config.intervalMs
    rw [Nat.add_one_mul]
    omega
  case inTime => exact (hround.append_later hlater).cons rfl

theorem succeeded_iff {answer : Except Failure Nat} :
    succeeded config answer = true ↔ answer = .ok config.expectedStatus := by
  cases answer <;> simp [succeeded]

/-- The end of a round whose check succeeded: the window is reached, or another round follows. -/
theorem window_follows (hh : AtHead config t₀ done stableSince failures h)
    (ht : t < t₀ + budgetMs config) (later : List VerifyEvent) (hlater : ∀ x ∈ later, Quiet x)
    {since : Int} (hblock : ∀ last, ∃ earlier block,
      (⟨.now, last⟩ :: (later ++ checked config t (.ok config.expectedStatus) h)).reverse =
          earlier ++ block ∧ StableBlock config since last block) {loop : VerifyProgram Unit}
    (hloop : ∀ h', AtHead config t₀ (done + 1) (some since) failures h' →
      loop.Follows (InTime config) (Outcome config) h') :
    (Program.request VerifyOp.now fun t =>
        if config.stabilityWindowMs ≤ t - since then converge.bind fun _ => .pure ()
        else .request (.sleep config.intervalMs) fun _ => loop : VerifyProgram Unit).Follows
      (InTime config) (Outcome config)
      (later ++ checked config t (.ok config.expectedStatus) h) := by
  have hconverged := (hh.checked_converged t (.ok config.expectedStatus)).append_later hlater
  have hwithin : Within config config.intervalMs
      (later ++ checked config t (.ok config.expectedStatus) h) :=
    ((hh.canCheck ht).check rfl).append_later hlater
  refine ⟨.of_within hconverged hwithin rfl nofun, fun last => ?_⟩
  obtain ⟨earlier, block, heq, hstable⟩ := hblock last
  have hconverged' := hconverged.now last
  have hwithin' := hwithin.cons (x := ⟨.now, last⟩) rfl
  change (if _ then _ else _ : VerifyProgram Unit).Follows _ _ _
  split
  · rename_i hreached
    refine converge_follows hconverged' hwithin' ⟨?_, ?_, fun _ => ⟨?_, ?_⟩⟩
    · exact fun e hmem => (hconverged'.ok e hmem).elim
    · exact hwithin'.cons rfl
    · exact ⟨earlier, block, since, last, by rw [List.reverse_cons, heq], hstable, hreached⟩
    · simp [failedChecks_cons, failedChecks_later hlater, checked, hh.failed_eq, isFailedCheck,
        succeeded, hh.spent]
  · have hquiet : ∀ x ∈ (⟨.now, last⟩ : VerifyEvent) :: later, Quiet x :=
      List.forall_mem_cons.mpr ⟨⟨rfl, fun _ => nofun⟩, hlater⟩
    refine ⟨.of_within hconverged' hwithin' rfl nofun, fun _ => hloop _ ?_⟩
    refine hh.next ht hquiet (by simp [succeeded]) hh.spent fun since' hsince => ?_
    cases hsince
    exact ⟨earlier, block, last, heq, hstable⟩

theorem verifyLoop_follows (hpos : 0 < config.intervalMs) {fuel : Nat}
    (hfuel : budgetMs config / config.intervalMs + 2 ≤ done + fuel)
    (hh : AtHead config t₀ done stableSince failures h) :
    (verifyLoop config (t₀ + budgetMs config) fuel stableSince failures).Follows
      (InTime config) (Outcome config) h := by
  induction fuel generalizing done stableSince failures h with
  | zero =>
    refine ⟨⟨hh.converged, hh.inTime, nofun, fun _ start hclock => ?_⟩, fun answer => answer.elim⟩
    have htime : done * config.intervalMs < budgetMs config + config.intervalMs := by
      simpa only [hh.checks_eq] using hh.inTime start hclock
    have hlong := Nat.mul_le_mul_right config.intervalMs hfuel
    have hdiv := Nat.lt_div_mul_add hpos (a := budgetMs config)
    rw [Nat.add_mul, Nat.add_zero] at hlong
    omega
  | succ fuel ih =>
    refine ⟨.of_within hh.converged hh.inTime rfl nofun, fun t => ?_⟩
    have hconverged := hh.converged.now t
    have hwithin := hh.inTime.cons (x := ⟨.now, t⟩) rfl
    change (if _ then _ else _ : VerifyProgram Unit).Follows _ _ _
    split
    · rename_i ht
      refine converge_follows hconverged hwithin ?_
      refine ⟨⟨hconverged.ok, hwithin.cons rfl, fun _ => hh.canCheck ht, nofun⟩, fun answer => ?_⟩
      change (if _ then _ else _ : VerifyProgram Unit).Follows _ _ _
      split
      · rename_i hanswer
        obtain rfl := succeeded_iff.mp hanswer
        refine converge_follows (hh.checked_converged t _) ((hh.canCheck ht).check rfl) ?_
        have hquiet : Quiet ⟨.assertConverged, .ok ()⟩ := ⟨rfl, fun _ => nofun⟩
        cases stableSince with
        | none =>
          refine ⟨.of_within (hh.checked_converged t _).ok
            (((hh.canCheck ht).check rfl).cons rfl) rfl nofun, fun since => ?_⟩
          refine window_follows hh ht [⟨.now, since⟩, ⟨.assertConverged, .ok ()⟩] ?_
            (fun last => ?_) fun h' hh' => ih (by omega) hh'
          · exact List.forall_mem_cons.mpr ⟨⟨rfl, fun _ => nofun⟩, by simpa using hquiet⟩
          · exact ⟨h.reverse, _, by simp [checked, confirmedCheck], .first t since last⟩
        | some since =>
          obtain ⟨earlier, block, last₀, heq, hblock⟩ := hh.window since rfl
          refine window_follows hh ht [⟨.assertConverged, .ok ()⟩] (by simpa using hquiet)
            (fun last => ?_) fun h' hh' => ih (by omega) hh'
          exact ⟨earlier, _, by simp [checked, confirmedCheck, heq], hblock.next t last⟩
      · rename_i hanswer
        split
        · exact .of_error (hh.checked_converged t answer) ((hh.canCheck ht).check rfl) _
        · rename_i hspent
          refine ⟨.of_within (hh.checked_converged t answer) ((hh.canCheck ht).check rfl) rfl nofun,
            fun _ => ?_⟩
          have hnext : AtHead config t₀ (done + 1) none (failures + 1)
              (⟨.sleep config.intervalMs, ()⟩ :: ([] ++ checked config t answer h)) :=
            hh.next ht (List.forall_mem_nil _) (by simp [hanswer]) (by omega) fun _ => nofun
          exact ih (by omega) hnext
    · exact .of_error hconverged hwithin _

/-- The largest number of checks. -/
def maxChecks (config : HealthCheckConfig) : Nat :=
  budgetMs config / config.intervalMs + 1

theorem verify_follows (hpos : 0 < config.intervalMs) {fuel : Nat}
    (hfuel : maxChecks config < fuel) :
    (verify config fuel).Follows (InTime config) (Outcome config) [] := by
  have hnone (h : List VerifyEvent) (hh : checks h = 0) : Within config config.intervalMs h := by
    intro start _
    rw [hh]
    omega
  have hempty : Converged [] := fun _ => nofun
  refine ⟨.of_within hempty (hnone [] rfl) rfl nofun, fun answer => ?_⟩
  have hconverged : Converged [⟨.assertAllowed config.url, answer⟩] := by
    intro e hmem
    cases List.mem_singleton.mp hmem
  have hwithin := hnone [⟨.assertAllowed config.url, answer⟩] rfl
  cases answer with
  | error e => exact .of_error hconverged hwithin e
  | ok _ =>
    refine ⟨.of_within hconverged hwithin rfl nofun, fun t₀ => ?_⟩
    have hhead : AtHead config t₀ 0 none 0 [⟨.now, t₀⟩, ⟨.assertAllowed config.url, .ok ()⟩] :=
      { converged := hconverged.now t₀
        checks_eq := rfl
        failed_eq := rfl
        spent := Nat.zero_le _
        window := fun _ => nofun
        clock := fun start _ => by simp [verifyTicks, verifyTick, earliest]
        inTime := hnone _ rfl }
    exact verifyLoop_follows hpos (by unfold maxChecks at hfuel; omega) hhead

/-- There are never more checks than there is time for. -/
theorem Within.checks_le (hpos : 0 < config.intervalMs) {extra : Nat}
    (hh : Within config (extra * config.intervalMs) h) (hclock : Clocked start (verifyTicks h)) :
    checks h ≤ budgetMs config / config.intervalMs + extra := by
  have htime := hh start hclock
  have hdiv := Nat.lt_div_mul_add hpos (a := budgetMs config)
  have hlt : checks h * config.intervalMs <
      (budgetMs config / config.intervalMs + extra + 1) * config.intervalMs := by
    rw [Nat.add_mul, Nat.add_mul]
    omega
  exact Nat.lt_succ_iff.mp (Nat.lt_of_mul_lt_mul_right hlt)

end Loop

end Docklane.Endpoints
