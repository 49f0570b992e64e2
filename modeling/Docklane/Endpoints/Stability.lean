import Docklane.Endpoints.Health
import Mathlib.Data.List.Induction

/-!
# Stable health

A run of the whole verifier, cut up along the requests of its loop. Between two requests of the loop
the clock is not read, so that the bounds of the loop are bounds of the run.
-/

namespace Docklane.Endpoints

open Concurrent
open Concurrent.Program
open Control (Failure HealthCheckConfig)

/-! ## The requests of a check -/

/-- The fetches of a history. -/
def fetches (h : List EndpointEvent) : Nat := h.countP fun x => x.1.isFetch

theorem fetches_cons (x : EndpointEvent) (h : List EndpointEvent) :
    fetches (x :: h) = fetches h + if x.1.isFetch then 1 else 0 := List.countP_cons

/-- At most six URLs are fetched, and each only right after the policy has let it pass. -/
def GuardedFetches (privateHosts : List String) (t : List EndpointEvent) : Prop :=
  fetches t ≤ 6 ∧ ∀ before after sent answer, t = before ++ ⟨.fetch sent, answer⟩ :: after →
    PassedBefore (assertHealthAllowed privateHosts) sent.url before.reverse

def EndpointOp.IsNetwork : EndpointOp → Prop
  | .lookup _ | .fetch _ | .cancelBody | .readJson => True
  | _ => False

/-- What a check may ask for: the network only, and a URL only after the policy. -/
def CheckRequest (privateHosts : List String) (h : List EndpointEvent) (op : EndpointOp) : Prop :=
  op.IsNetwork ∧ FetchesPassed (assertHealthAllowed privateHosts) h op ∧
    (op.isFetch = true → fetches h < 6)

variable {h : List EndpointEvent} {parts : List (VerifyEvent × List EndpointEvent)}

section Check

variable {privateHosts : List String} {api : UrlApi} {timeoutMs : Nat}

theorem checkRequest_of_isLookup (op : EndpointOp) (h : List EndpointEvent) (hop : op.IsLookup) :
    CheckRequest privateHosts h op := by
  cases op with
  | lookup hostname => exact ⟨trivial, trivial, nofun⟩
  | _ => exact hop.elim

theorem fetches_of_isLookup {check h : List EndpointEvent} (hcheck : ∀ x ∈ check, x.1.IsLookup) :
    fetches (check ++ h) = fetches h := by
  have hnone : check.countP (fun x => x.1.isFetch) = 0 :=
    List.countP_eq_zero.mpr fun x hx => by simp [(hcheck x hx).not_isFetch]
  rw [fetches, List.countP_append, hnone, Nat.zero_add, fetches]

theorem safeFetchLoop_follows {n : Nat} (hn : fetches h + n ≤ 6) (current : Url) :
    (safeFetchLoop privateHosts api timeoutMs n current).Follows (CheckRequest privateHosts)
      (fun _ _ => True) h := by
  induction n generalizing current h with
  | zero => trivial
  | succ n ih =>
    refine follows_assertAllowed assertHealthAllowed_uses
      checkRequest_of_isLookup (fun _ _ _ => trivial) fun check hcheck hpassed => ?_
    have hcount := fetches_of_isLookup hcheck (h := h)
    refine ⟨⟨trivial, hpassed, fun _ => by omega⟩, fun answer => ?_⟩
    cases answer with
    | error message => trivial
    | ok response =>
      change (if _ then _ else _ : EndpointProgram Failure Response).Follows _ _ _
      split
      · refine ⟨⟨trivial, trivial, nofun⟩, fun cancelled => ?_⟩
        cases cancelled with
        | error message => trivial
        | ok _ =>
          dsimp only [Program.ofExcept, Program.bind]
          split
          · trivial
          · trivial
          · split
            · trivial
            · refine ih ?_ _
              simp only [fetches_cons, EndpointOp.isFetch, if_true, Bool.false_eq_true, if_false]
              omega
      · trivial

theorem withUrl_follows {α : Type} {text : String} {p : Url → EndpointProgram Failure α}
    (hp : ∀ url, (p url).Follows (CheckRequest privateHosts) (fun _ _ => True) h) :
    (withUrl api text p).Follows (CheckRequest privateHosts) (fun _ _ => True) h := by
  unfold withUrl
  split
  · trivial
  · exact hp _

theorem checkStatus_follows (url : Url) :
    (checkStatus privateHosts api timeoutMs url).Follows (CheckRequest privateHosts)
      (fun _ _ => True) [] := by
  refine follows_bind ((safeFetchLoop_follows (by decide) url).mono fun r h _ => ?_)
  cases r with
  | error e => trivial
  | ok response =>
    refine ⟨⟨trivial, trivial, nofun⟩, fun cancelled => ?_⟩
    cases cancelled <;> trivial

/-- The requests of the loop that the network serves. -/
def VerifyOp.IsNetwork : VerifyOp → Prop
  | .assertAllowed _ | .safeFetch _ _ => True
  | _ => False

theorem wire_follows {op : VerifyOp} (hop : op.IsNetwork) :
    (wire privateHosts api op).Follows (CheckRequest privateHosts) (fun _ _ => True) [] := by
  cases op with
  | assertAllowed url =>
    refine follows_attempt (withUrl_follows fun url => ?_)
    exact assertHealthAllowed_uses.follows checkRequest_of_isLookup
  | safeFetch url timeoutMs => exact follows_attempt (withUrl_follows checkStatus_follows)
  | _ => exact hop.elim

variable {op : VerifyOp} {s : List EndpointEvent} {r : EndpointProgram Failure op.Ans}

theorem wire_network (h : Trace (wire privateHosts api op) s r) (hop : op.IsNetwork) :
    ∀ x ∈ s, x.1.IsNetwork := by
  intro x hx
  obtain ⟨before, after, rfl⟩ := List.append_of_mem hx
  exact ((wire_follows hop).allowed_of_mem h).1

theorem wire_local (hop : ¬ op.IsNetwork) (h : Trace (wire privateHosts api op) s r) :
    ∀ x ∈ s, ¬ x.1.IsNetwork := by
  have huses : (wire privateHosts api op).Uses fun op' => ¬ op'.IsNetwork := by
    cases op with
    | assertAllowed url => exact (hop trivial).elim
    | safeFetch url timeoutMs => exact (hop trivial).elim
    | _ => exact ⟨id, fun _ => trivial⟩
  exact huses.of_trace h

/-- A list has at most `n` elements of a kind when there are less than `n` before each of them. -/
theorem countP_le_of_before {α : Type} {p : α → Bool} {n : Nat} {l : List α}
    (h : ∀ before x after, l = before ++ x :: after → p x = true → before.countP p < n) :
    l.countP p ≤ n := by
  induction l using List.reverseRecOn with
  | nil => exact Nat.zero_le n
  | append_singleton l x ih =>
    rw [List.countP_append]
    by_cases hx : p x = true
    · have hlt := h l x [] rfl hx
      simp only [List.countP_singleton, hx, if_true]
      omega
    · rw [List.countP_singleton, if_neg hx]
      exact ih fun before y after heq => h before y (after ++ [x]) (by simp [heq])

theorem wire_guarded (h : Trace (wire privateHosts api op) s r) :
    GuardedFetches privateHosts s := by
  by_cases hop : op.IsNetwork
  · constructor
    · refine countP_le_of_before fun before x after heq hx => ?_
      have hallowed := ((wire_follows hop).allowed_of_mem (heq ▸ h)).2.2 hx
      simpa [fetches] using hallowed
    · intro before after sent answer heq
      have hallowed := ((wire_follows hop).allowed_of_mem (heq ▸ h)).2.1
      rwa [List.append_nil] at hallowed
  · have hlocal := wire_local hop h
    constructor
    · have hnone : fetches s = 0 := by
        refine List.countP_eq_zero.mpr fun x hx hfetch => ?_
        obtain ⟨op', answer⟩ := x
        cases op' with
        | fetch sent => exact hlocal _ hx trivial
        | _ => cases hfetch
      omega
    · rintro before after sent answer rfl
      have hmem : ⟨.fetch sent, answer⟩ ∈ before ++ ⟨.fetch sent, answer⟩ :: after :=
        List.mem_append_right _ List.mem_cons_self
      exact (hlocal _ hmem trivial).elim

/-! ## The clock between the levels -/

def endpointTick : EndpointEvent → Option Tick
  | ⟨.now, time⟩ => some (.reading time)
  | ⟨.sleep ms, _⟩ => some (.pause ms)
  | _ => none

/-- The ticks of a history of the verifier. -/
def endpointTicks (h : List EndpointEvent) : List Tick := h.filterMap endpointTick

theorem endpointTicks_network {s : List EndpointEvent} (hs : ∀ x ∈ s, x.1.IsNetwork) :
    endpointTicks s = [] := by
  refine List.filterMap_eq_nil_iff.mpr fun x hx => ?_
  obtain ⟨op, answer⟩ := x
  have hop := hs _ hx
  cases op <;> first | rfl | exact hop.elim

theorem wire_ticks {x : VerifyEvent} (h : Trace (wire privateHosts api x.1) s (.pure x.2)) :
    endpointTicks s = verifyTicks [x] := by
  obtain ⟨op, a⟩ := x
  cases op with
  | assertAllowed url => exact endpointTicks_network (wire_network h trivial)
  | safeFetch url timeoutMs => exact endpointTicks_network (wire_network h trivial)
  | _ =>
    rcases h.perform_inv with ⟨-, hr⟩ | ⟨a, rfl, hr⟩
    · cases hr
    · cases hr
      rfl

/-- A request that has not been answered has not used the clock, and only a loop without fuel
hangs. -/
theorem wire_pending (h : Trace (wire privateHosts api op) s r) (hr : ∀ a, r ≠ .pure a) :
    (∀ x ∈ s, x.1.IsNetwork) ∧ ∀ k, r = .request .hang k → op = .hang := by
  have hnetwork (hop : op.IsNetwork) : (∀ x ∈ s, x.1.IsNetwork) ∧ ∀ k, r = .request .hang k →
      op = .hang := by
    refine ⟨wire_network h hop, fun k hk => ?_⟩
    subst hk
    exact False.elim ((wire_follows hop).allowed_of_trace h).1
  cases op with
  | assertAllowed url => exact hnetwork trivial
  | safeFetch url timeoutMs => exact hnetwork trivial
  | hang =>
    rcases h.perform_inv with ⟨rfl, -⟩ | ⟨a, -, hr'⟩
    · exact ⟨List.forall_mem_nil _, fun _ _ => rfl⟩
    · exact (hr a hr').elim
  | _ =>
    rcases h.perform_inv with ⟨rfl, rfl⟩ | ⟨a, -, hr'⟩
    · exact ⟨List.forall_mem_nil _, fun _ hk => by cases hk⟩
    · exact (hr a hr').elim

theorem wire_converge {x : VerifyEvent} (h : Trace (wire privateHosts api x.1) s (.pure x.2))
    {e : Failure} (he : ⟨.assertConverged, .error e⟩ ∈ s) : x = ⟨.assertConverged, .error e⟩ := by
  obtain ⟨op, a⟩ := x
  cases op with
  | assertAllowed url => exact (wire_network h trivial _ he).elim
  | safeFetch url timeoutMs => exact (wire_network h trivial _ he).elim
  | assertConverged =>
    rcases h.perform_inv with ⟨-, hr⟩ | ⟨a, rfl, hr⟩
    · cases hr
    · cases hr
      cases List.mem_singleton.mp he
      rfl
  | _ =>
    rcases h.perform_inv with ⟨-, hr⟩ | ⟨a, rfl, hr⟩
    · cases hr
    · cases List.mem_singleton.mp he

end Check

/-! ## The whole run -/

section Run

variable {privateHosts : List String} {api : UrlApi} {config : HealthCheckConfig} {fuel : Nat}

/-- Whether the loop waits for the answer of a check. -/
def checkBegun : VerifyProgram Unit → Nat
  | .request op _ => if op.isCheck then 1 else 0
  | _ => 0

/-- The run `t` of the verifier, which has come to `q`. It is cut up into a part for each answered
request of the loop and the part `last` of the one that is not answered yet, `loop` being the point
the loop has come to. -/
structure VerifierRun (privateHosts : List String) (api : UrlApi) (config : HealthCheckConfig)
    (fuel : Nat) (t : List EndpointEvent) (q : EndpointProgram Failure Unit)
    (parts : List (VerifyEvent × List EndpointEvent)) (loop : VerifyProgram Unit)
    (last : List EndpointEvent) : Prop where
  cut : t = parts.flatMap Prod.snd ++ last
  loop_run : Trace (verify config fuel) (parts.map Prod.fst) loop
  answered : ∀ part ∈ parts, Trace (wire privateHosts api part.1.1) part.2 (.pure part.1.2)
  checks_le : checks (parts.map Prod.fst) + checkBegun loop ≤ maxChecks config
  guarded : ∀ part ∈ parts, GuardedFetches privateHosts part.2
  guarded_last : GuardedFetches privateHosts last
  never_hangs : ∀ k, q ≠ .request .hang k
  passes_on : ∀ e, ⟨.assertConverged, .error e⟩ ∈ t → q = .throw e
  accepts : q = .pure () → last = [] ∧ EndsStable config (parts.map Prod.fst) ∧
    failedChecks config (parts.map Prod.fst) ≤ config.retries

theorem endpointTicks_parts
    (hparts : ∀ part ∈ parts, Trace (wire privateHosts api part.1.1) part.2 (.pure part.1.2)) :
    endpointTicks (parts.flatMap Prod.snd) = verifyTicks (parts.map Prod.fst) := by
  induction parts with
  | nil => rfl
  | cons part parts ih =>
    obtain ⟨hpart, hrest⟩ := List.forall_mem_cons.mp hparts
    have hone := wire_ticks hpart
    rw [List.flatMap_cons, List.map_cons, endpointTicks, List.filterMap_append]
    rw [endpointTicks] at hone ih
    rw [hone, ih hrest, verifyTicks, verifyTicks, verifyTicks, ← List.filterMap_append]
    rfl

theorem endpointTicks_run {last : List EndpointEvent}
    (hparts : ∀ part ∈ parts, Trace (wire privateHosts api part.1.1) part.2 (.pure part.1.2))
    (hlast : ∀ x ∈ last, x.1.IsNetwork) :
    endpointTicks (parts.flatMap Prod.snd ++ last).reverse =
      verifyTicks (parts.map Prod.fst).reverse := by
  have hticks : endpointTicks (parts.flatMap Prod.snd ++ last) =
      verifyTicks (parts.map Prod.fst) := by
    rw [← endpointTicks_parts hparts, endpointTicks, List.filterMap_append]
    rw [show last.filterMap endpointTick = [] from endpointTicks_network hlast, List.append_nil,
      endpointTicks]
  rw [endpointTicks, verifyTicks, List.filterMap_reverse, List.filterMap_reverse]
  exact congrArg List.reverse hticks

theorem checks_reverse (h : List VerifyEvent) : checks h.reverse = checks h := List.countP_reverse

theorem verifierRun_ended (hpos : 0 < config.intervalMs) (hfuel : maxChecks config < fuel)
    {start : Int} {r : Except Failure Unit}
    (hloop : Trace (verify config fuel) (parts.map Prod.fst) (ended r))
    (hparts : ∀ part ∈ parts, Trace (wire privateHosts api part.1.1) part.2 (.pure part.1.2))
    (hclock : Clocked start (verifyTicks (parts.map Prod.fst).reverse)) :
    VerifierRun privateHosts api config fuel (parts.flatMap Prod.snd ++ []) (ended r) parts
      (ended r) [] := by
  obtain ⟨herror, hwithin, haccepts⟩ := (verify_follows hpos hfuel).post_of_trace hloop
  rw [List.append_nil] at herror hwithin haccepts
  constructor
  case cut => rfl
  case loop_run => exact hloop
  case answered => exact hparts
  case checks_le =>
    have hle : checks (parts.map Prod.fst).reverse ≤ maxChecks config :=
      Within.checks_le hpos (by simpa using hwithin) hclock
    cases r <;> simpa [checkBegun, ended, checks_reverse] using hle
  case guarded => exact fun part hpart => wire_guarded (hparts part hpart)
  case guarded_last => exact ⟨Nat.zero_le _, fun before after sent answer h => by simp at h⟩
  case never_hangs => cases r <;> nofun
  case passes_on =>
    intro e he
    rw [List.append_nil] at he
    obtain ⟨part, hpart, hmem⟩ := List.mem_flatMap.mp he
    have hevent := wire_converge (hparts part hpart) hmem
    have hr := herror e (List.mem_reverse.mpr (hevent ▸ List.mem_map_of_mem hpart))
    rw [hr]
    rfl
  case accepts =>
    intro hq
    cases r with
    | error e => cases hq
    | ok _ =>
      obtain ⟨hstable, hfailed⟩ := haccepts rfl
      rw [List.reverse_reverse] at hstable
      refine ⟨rfl, hstable, ?_⟩
      rwa [failedChecks, List.countP_reverse] at hfailed

theorem verifierRun_pending (hpos : 0 < config.intervalMs) (hfuel : maxChecks config < fuel)
    {start : Int} {op : VerifyOp} {k : op.Ans → VerifyProgram Unit} {last : List EndpointEvent}
    {r : EndpointProgram Failure op.Ans} {g : op.Ans → EndpointProgram Failure Unit}
    (hloop : Trace (verify config fuel) (parts.map Prod.fst) (.request op k))
    (hparts : ∀ part ∈ parts, Trace (wire privateHosts api part.1.1) part.2 (.pure part.1.2))
    (hclock : Clocked start (verifyTicks (parts.map Prod.fst).reverse))
    (hlast : Trace (wire privateHosts api op) last r) (hr : ∀ a, r ≠ .pure a) :
    VerifierRun privateHosts api config fuel (parts.flatMap Prod.snd ++ last) (r.bind g) parts
      (.request op k) last := by
  obtain ⟨hnetwork, hhang⟩ := wire_pending hlast hr
  obtain ⟨hconverged, hwithin, hcheck, hfuelled⟩ :=
    (verify_follows hpos hfuel).allowed_of_trace hloop
  rw [List.append_nil] at hconverged hwithin hcheck hfuelled
  constructor
  case cut => rfl
  case loop_run => exact hloop
  case answered => exact hparts
  case checks_le =>
    rw [← checks_reverse, checkBegun]
    split
    · rename_i hop
      have hle : checks (parts.map Prod.fst).reverse ≤ budgetMs config / config.intervalMs + 0 :=
        Within.checks_le hpos (by simpa using hcheck hop) hclock
      exact Nat.succ_le_succ hle
    · exact Within.checks_le hpos (by simpa using hwithin) hclock
  case guarded => exact fun part hpart => wire_guarded (hparts part hpart)
  case guarded_last => exact wire_guarded hlast
  case never_hangs =>
    intro k' hk'
    cases r with
    | pure a => exact hr a rfl
    | throw e => cases hk'
    | request op' k'' =>
      cases hk'
      exact hfuelled (hhang _ rfl) start hclock
  case passes_on =>
    intro e he
    rcases List.mem_append.mp he with he | he
    · obtain ⟨part, hpart, hmem⟩ := List.mem_flatMap.mp he
      have hevent := wire_converge (hparts part hpart) hmem
      exact (hconverged e (List.mem_reverse.mpr (hevent ▸ List.mem_map_of_mem hpart))).elim
    · exact (hnetwork _ he).elim
  case accepts =>
    intro hq
    cases r with
    | pure a => exact (hr a rfl).elim
    | throw e => cases hq
    | request op' k' => cases hq

/-- Every run of the verifier is one of its loop, in which each check fetches at most six URLs that
the policy has let pass. The loop makes a bounded number of checks and ends, and it accepts only
after a block of good checks that lasts for the stability window. -/
theorem health_verification_stable (hpos : 0 < config.intervalMs) (hfuel : maxChecks config < fuel)
    {start : Int} {t : List EndpointEvent} {q : EndpointProgram Failure Unit}
    (ht : Trace (healthVerifier config privateHosts api fuel) t q)
    (hclock : Clocked start (endpointTicks t.reverse)) :
    ∃ parts loop last, VerifierRun privateHosts api config fuel t q parts loop last := by
  obtain ⟨parts, loop, last, rfl, hloop, hparts, hend⟩ := ht.unlink
  rcases hend with ⟨rfl, r, rfl, rfl⟩ | ⟨op, k, r, rfl, hlast, rfl, hr⟩
  · rw [endpointTicks_run hparts (List.forall_mem_nil _)] at hclock
    exact ⟨parts, _, [], verifierRun_ended hpos hfuel hloop hparts hclock⟩
  · rw [endpointTicks_run hparts (wire_pending hlast hr).1] at hclock
    exact ⟨parts, _, last, verifierRun_pending hpos hfuel hloop hparts hclock hlast hr⟩

end Run

/-! ## Runs on one host -/

def appUrl : Url := webUrl "app.internal" "/health"

def appApi : UrlApi := .ofTable [(appUrl.href, appUrl)] [] (by decide) (by decide) (by decide)

def appConfig (stabilityWindowMs : Nat) : HealthCheckConfig where
  url := appUrl.href
  intervalMs := 1000
  timeoutMs := 500
  retries := 1
  stabilityWindowMs := stabilityWindowMs
  expectedStatus := 200

def appResponse (status : Nat) : Response where
  status := status
  location := none
  wwwAuthenticate := none
  dockerContentDigest := none
  contentType := none
  contentLength := none

/-- A check of the host that is answered with this status. -/
def appCheck (status : Nat) : List EndpointEvent :=
  [⟨.fetch ⟨appUrl, "GET", ⟨none, none⟩, 500⟩, .ok (appResponse status)⟩, ⟨.cancelBody, .ok ()⟩]

/-- A failed check, and two good ones a second apart. -/
def steadyRun : List EndpointEvent :=
  [⟨.now, 0⟩, ⟨.now, 0⟩, ⟨.assertConverged, .ok ()⟩] ++ appCheck 503 ++
    [⟨.sleep 1000, ()⟩, ⟨.now, 1000⟩, ⟨.assertConverged, .ok ()⟩] ++ appCheck 200 ++
    [⟨.assertConverged, .ok ()⟩, ⟨.now, 1001⟩, ⟨.now, 1001⟩, ⟨.sleep 1000, ()⟩, ⟨.now, 2001⟩,
      ⟨.assertConverged, .ok ()⟩] ++ appCheck 200 ++
    [⟨.assertConverged, .ok ()⟩, ⟨.now, 2001⟩, ⟨.assertConverged, .ok ()⟩]

theorem steadyRun_trace :
    Trace (healthVerifier (appConfig 1000) ["app.internal"] appApi 6) steadyRun (.pure ()) :=
  trace_of_replay rfl

theorem steadyRun_clocked : Clocked 0 (endpointTicks steadyRun.reverse) := by decide

theorem steadyRun_stable :
    Trace (healthVerifier (appConfig 1000) ["app.internal"] appApi 6) steadyRun (.pure ()) ∧
      Clocked 0 (endpointTicks steadyRun.reverse) ∧
      ∃ parts loop last, VerifierRun ["app.internal"] appApi (appConfig 1000) 6 steadyRun (.pure ())
        parts loop last :=
  ⟨steadyRun_trace, steadyRun_clocked,
    health_verification_stable (by decide) (by decide) steadyRun_trace steadyRun_clocked⟩

/-- A single good check, after which the clock jumps between the two readings of the window. -/
def jumpRun : List EndpointEvent :=
  [⟨.now, 0⟩, ⟨.now, 0⟩, ⟨.assertConverged, .ok ()⟩] ++ appCheck 200 ++
    [⟨.assertConverged, .ok ()⟩, ⟨.now, 0⟩, ⟨.now, 1000⟩, ⟨.assertConverged, .ok ()⟩]

/-- Two successes of a run are a stability window apart, by these times of its events. -/
def SuccessesApart (config : HealthCheckConfig) (time : Nat → Int) (t : List EndpointEvent) :
    Prop :=
  ∃ first last sent sent' response response',
    t[first]? = some ⟨.fetch sent, .ok response⟩ ∧ response.status = config.expectedStatus ∧
    t[last]? = some ⟨.fetch sent', .ok response'⟩ ∧ response'.status = config.expectedStatus ∧
    time first + config.stabilityWindowMs ≤ time last

theorem jumpRun_fetch {i : Nat} {x : EndpointEvent} (hx : jumpRun[i]? = some x)
    (hfetch : x.1.isFetch = true) : i = 3 := by
  have honly : ∀ j < 9, (jumpRun[j]?.any fun x => x.1.isFetch) = true → j = 3 := by decide
  refine honly i (List.getElem?_eq_some_iff.mp hx).1 ?_
  rw [hx]
  exact hfetch

/-- One success is enough for a window of a second when the clock jumps; whenever its events happen,
the run has no two successes that are a window apart. -/
theorem jumpRun_accepted :
    Trace (healthVerifier (appConfig 1000) ["app.internal"] appApi 6) jumpRun (.pure ()) ∧
      Clocked 0 (endpointTicks jumpRun.reverse) ∧ 0 < (appConfig 1000).intervalMs ∧
      0 < (appConfig 1000).stabilityWindowMs ∧ fetches jumpRun = 1 ∧
      ∀ time, ¬ SuccessesApart (appConfig 1000) time jumpRun := by
  refine ⟨trace_of_replay rfl, by decide, by decide, by decide, by decide, ?_⟩
  rintro time ⟨first, last, sent, sent', response, response', hfirst, -, hlast, -, hapart⟩
  rw [jumpRun_fetch hfirst rfl, jumpRun_fetch hlast rfl] at hapart
  change time 3 + 1000 ≤ time 3 at hapart
  omega

end Docklane.Endpoints
