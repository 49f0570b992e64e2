import Mathlib.Data.Set.Basic
import Mathlib.Logic.Function.Basic
import Mathlib.Logic.Relation
import Docklane.Concurrent.Program

/-!
# Rely-guarantee reasoning for interleaved programs

Any number of threads, each running a `Program`, share one state. A machine says what a request
of a thread may do to the state, what the surroundings may do on their own, and what is left when
a set of threads dies. A `Protocol` names the invariant of the state, what a thread relies on
(every step the others take), what it guarantees (every step it takes itself), and what is known of
a thread that is not running.

`wp` is the weakest precondition under interference: before every request the others may have
moved the state along the thread's rely. `Reachable.safe` is the soundness theorem: when every
program that may be started is safe on its own, the invariant holds in every reachable state and
every step of a thread keeps its guarantee.
-/

namespace Concurrent

variable {Tid E : Type} {Ans : E → Type} {ε α β σ : Type}

/-- What the requests of a thread, the surroundings and the death of threads do to the state. -/
structure Machine (Tid E : Type) (Ans : E → Type) (σ : Type) where
  perform : Tid → (op : E) → σ → Ans op → σ → Prop
  env : σ → σ → Prop
  crash : Set Tid → σ → σ → Prop

/-- The threads and the state they share. A thread that is not running is `none`. -/
structure Config (Tid E : Type) (Ans : E → Type) (ε α σ : Type) where
  thread : Tid → Option (Program E Ans ε α)
  state : σ

variable {s₀ : σ} {f : α → Program E Ans ε β} {L : σ → Prop}

section Steps

variable [DecidableEq Tid]

/-- One step of the system. `Entry` says which programs may be started. -/
inductive Step (M : Machine Tid E Ans σ) (Entry : Program E Ans ε α → Prop) :
    Config Tid E Ans ε α σ → Config Tid E Ans ε α σ → Prop where
  | spawn {c i p} (hnone : c.thread i = none) (hp : Entry p) :
      Step M Entry c ⟨Function.update c.thread i (some p), c.state⟩
  | perform {c i op k a s'} (hi : c.thread i = some (.request op k))
      (h : M.perform i op c.state a s') :
      Step M Entry c ⟨Function.update c.thread i (some (k a)), s'⟩
  | finish {c i p} (hi : c.thread i = some p) (hend : ∀ op k, p ≠ .request op k) :
      Step M Entry c ⟨Function.update c.thread i none, c.state⟩
  | env {c s'} (h : M.env c.state s') : Step M Entry c ⟨c.thread, s'⟩
  | crash {c s'} (S : Set Tid) [DecidablePred (· ∈ S)] (h : M.crash S c.state s') :
      Step M Entry c ⟨fun i => if i ∈ S then none else c.thread i, s'⟩

/-- The configurations the system can get into from the state `s₀`, with no thread running. -/
inductive Reachable (M : Machine Tid E Ans σ) (Entry : Program E Ans ε α → Prop) (s₀ : σ) :
    Config Tid E Ans ε α σ → Prop where
  | init : Reachable M Entry s₀ ⟨fun _ => none, s₀⟩
  | step {c c'} (hc : Reachable M Entry s₀ c) (h : Step M Entry c c') :
      Reachable M Entry s₀ c'

/-- Thread `i` takes some steps with nobody interfering. -/
inductive Runs (M : Machine Tid E Ans σ) (i : Tid) :
    Program E Ans ε α → σ → Program E Ans ε α → σ → Prop where
  | refl {p s} : Runs M i p s p s
  | step {op k s a s₁ p' s'} (h : M.perform i op s a s₁) (hrest : Runs M i (k a) s₁ p' s') :
      Runs M i (.request op k) s p' s'

variable {M : Machine Tid E Ans σ} {Entry : Program E Ans ε α → Prop} {c : Config Tid E Ans ε α σ}

theorem Runs.steps {i : Tid} {p p' : Program E Ans ε α} {s s' : σ} (h : Runs M i p s p' s')
    (hi : c.thread i = some p) (hs : c.state = s) :
    Relation.ReflTransGen (Step M Entry) c ⟨Function.update c.thread i (some p'), s'⟩ := by
  induction h generalizing c with
  | refl =>
    obtain ⟨thread, state⟩ := c
    obtain rfl : state = _ := hs
    simpa [← hi] using Relation.ReflTransGen.refl
  | step hperf _ ih =>
    subst hs
    refine .head (.perform hi hperf) ?_
    simpa using ih (c := ⟨Function.update c.thread i (some _), _⟩) (by simp) rfl

theorem Reachable.steps {c c' : Config Tid E Ans ε α σ} (hc : Reachable M Entry s₀ c)
    (h : Relation.ReflTransGen (Step M Entry) c c') : Reachable M Entry s₀ c' := by
  induction h with
  | refl => exact hc
  | tail _ hstep ih => exact ih.step hstep

theorem Reachable.call {i : Tid} {p p' : Program E Ans ε α} {s' : σ} (hc : Reachable M Entry s₀ c)
    (hi : c.thread i = none) (hp : Entry p) (h : Runs M i p c.state p' s') :
    Reachable M Entry s₀ ⟨Function.update c.thread i (some p'), s'⟩ := by
  simpa using (hc.step (.spawn hi hp)).steps (h.steps (by simp) rfl)

/-- Take up to `n` steps with the answers of a function, which may keep a state of its own. -/
def advance {τ : Type} (answer : τ → (op : E) → Option (Ans op × τ)) :
    Nat → Program E Ans ε α → τ → Program E Ans ε α × τ
  | n + 1, .request op k, t =>
    match answer t op with
    | some (a, t') => advance answer n (k a) t'
    | none => (.request op k, t)
  | _, p, t => (p, t)

omit [DecidableEq Tid] in
theorem advance_runs {τ : Type} {i : Tid} (view : τ → σ)
    {answer : τ → (op : E) → Option (Ans op × τ)}
    (h : ∀ t op a t', answer t op = some (a, t') → M.perform i op (view t) a (view t')) (n : Nat)
    (p : Program E Ans ε α) (t : τ) :
    Runs M i p (view t) (advance answer n p t).1 (view (advance answer n p t).2) := by
  induction n generalizing p t with
  | zero => exact .refl
  | succ n ih =>
    cases p with
    | pure a => exact .refl
    | throw e => exact .refl
    | request op k =>
      rw [advance]
      split
      · rename_i a t' ht
        exact .step (h t op a t' ht) (ih (k a) t')
      · exact .refl

theorem Step.mono {Entry Entry' : Program E Ans ε α → Prop} {c c' : Config Tid E Ans ε α σ}
    (hEntry : ∀ p, Entry p → Entry' p) (h : Step M Entry c c') : Step M Entry' c c' := by
  cases h with
  | spawn hnone hp => exact .spawn hnone (hEntry _ hp)
  | perform hi hperform => exact .perform hi hperform
  | finish hi hend => exact .finish hi hend
  | env henv => exact .env henv
  | crash S hcrash => exact .crash S hcrash

theorem Reachable.mono {Entry Entry' : Program E Ans ε α → Prop} (hEntry : ∀ p, Entry p → Entry' p)
    (hc : Reachable M Entry s₀ c) : Reachable M Entry' s₀ c := by
  induction hc with
  | init => exact .init
  | step _ hstep ih => exact ih.step (hstep.mono hEntry)

end Steps

/-- The invariant of the shared state, what a thread relies on and guarantees, and what holds of a
thread that is not running. -/
structure Protocol (Tid σ : Type) where
  Inv : σ → Prop
  Rely : Tid → σ → σ → Prop
  Guar : Tid → σ → σ → Prop
  Idle : Tid → σ → Prop
  rely_refl : ∀ i s, Rely i s s
  rely_trans : ∀ {i s₁ s₂ s₃}, Rely i s₁ s₂ → Rely i s₂ s₃ → Rely i s₁ s₃
  rely_of_guar : ∀ {i j s s'}, i ≠ j → Inv s → Guar i s s' → Rely j s s'
  idle_rely : ∀ {i s s'}, Idle i s → Rely i s s' → Idle i s'

section Wp

variable (M : Machine Tid E Ans σ) (P : Protocol Tid σ) (i : Tid)

/-- Thread `i` may run the program from `s` with the others interfering: it keeps the invariant
and its guarantee at every request, and ends in `Q`. -/
def wp : Program E Ans ε α → (Except ε α → σ → Prop) → σ → Prop
  | .pure a, Q, s => ∀ s', P.Rely i s s' → P.Inv s' → Q (.ok a) s'
  | .throw e, Q, s => ∀ s', P.Rely i s s' → P.Inv s' → Q (.error e) s'
  | .request op k, Q, s => ∀ s₁, P.Rely i s s₁ → P.Inv s₁ →
      ∀ a s₂, M.perform i op s₁ a s₂ → P.Inv s₂ ∧ P.Guar i s₁ s₂ ∧ wp (k a) Q s₂

/-- An assertion the other threads cannot falsify. -/
def Stable (K : σ → Prop) : Prop :=
  ∀ {s s'}, K s → P.Rely i s s' → P.Inv s' → K s'

variable {M P i} {p : Program E Ans ε α} {Q R : Except ε α → σ → Prop} {s s' : σ} {K : σ → Prop}

theorem wp_rely (h : wp M P i p Q s) (hr : P.Rely i s s') : wp M P i p Q s' := by
  cases p with
  | pure a => exact fun _ h' hi => h _ (P.rely_trans hr h') hi
  | throw e => exact fun _ h' hi => h _ (P.rely_trans hr h') hi
  | request op k => exact fun _ h' hi => h _ (P.rely_trans hr h') hi

theorem wp_mono (h : wp M P i p Q s) (hQ : ∀ r s', P.Inv s' → Q r s' → R r s') :
    wp M P i p R s := by
  induction p generalizing s with
  | pure a => exact fun s' hr hi => hQ _ _ hi (h s' hr hi)
  | throw e => exact fun s' hr hi => hQ _ _ hi (h s' hr hi)
  | request op k ih =>
    intro s₁ hr hi a s₂ hs
    obtain ⟨hi₂, hg, hk⟩ := h s₁ hr hi a s₂ hs
    exact ⟨hi₂, hg, ih a hk⟩

/-- The rule for one request, with the knowledge `K` that the thread has kept so far. -/
theorem wp_request {op : E} {k : Ans op → Program E Ans ε α} (hK : Stable P i K) (hs : K s)
    (h : ∀ s₁, P.Inv s₁ → K s₁ → ∀ a s₂, M.perform i op s₁ a s₂ →
      P.Inv s₂ ∧ P.Guar i s₁ s₂ ∧ wp M P i (k a) Q s₂) : wp M P i (.request op k) Q s :=
  fun s₁ hr hi a s₂ hp => h s₁ hi (hK hs hr hi) a s₂ hp

theorem wp_pure {a : α} (hK : Stable P i K) (hs : K s)
    (h : ∀ s', P.Inv s' → K s' → Q (.ok a) s') : wp M P i (.pure a) Q s :=
  fun s' hr hi => h s' hi (hK hs hr hi)

theorem wp_throw {e : ε} (hK : Stable P i K) (hs : K s)
    (h : ∀ s', P.Inv s' → K s' → Q (.error e) s') : wp M P i (.throw e) Q s :=
  fun s' hr hi => h s' hi (hK hs hr hi)

/-- The postcondition that carries on with `f` after a value, and with `h` after an exception. -/
def andThen (M : Machine Tid E Ans σ) (P : Protocol Tid σ) (i : Tid)
    (f : α → Program E Ans ε β) (h : ε → Program E Ans ε β) (Q : Except ε β → σ → Prop) :
    Except ε α → σ → Prop
  | .ok a, s => wp M P i (f a) Q s
  | .error e, s => wp M P i (h e) Q s

theorem wp_bind {Q : Except ε β → σ → Prop} (hi : P.Inv s)
    (h : wp M P i p (andThen M P i f .throw Q) s) : wp M P i (p.bind f) Q s := by
  induction p generalizing s with
  | pure a => exact h s (P.rely_refl i s) hi
  | throw e => exact h s (P.rely_refl i s) hi
  | request op k ih =>
    intro s₁ hr hi₁ a s₂ hs
    obtain ⟨hi₂, hg, hk⟩ := h s₁ hr hi₁ a s₂ hs
    exact ⟨hi₂, hg, ih a hi₂ hk⟩

theorem wp_tryCatch {h : ε → Program E Ans ε α} (hi : P.Inv s)
    (hp : wp M P i p (andThen M P i .pure h Q) s) : wp M P i (p.tryCatch h) Q s := by
  induction p generalizing s with
  | pure a => exact hp s (P.rely_refl i s) hi
  | throw e => exact hp s (P.rely_refl i s) hi
  | request op k ih =>
    intro s₁ hr hi₁ a s₂ hs
    obtain ⟨hi₂, hg, hk⟩ := hp s₁ hr hi₁ a s₂ hs
    exact ⟨hi₂, hg, ih a hi₂ hk⟩

theorem wp_attempt {Q : Except ε (Except ε α) → σ → Prop}
    (hp : wp M P i p (fun r s => Q (.ok r) s) s) : wp M P i p.attempt Q s := by
  induction p generalizing s with
  | pure a => exact hp
  | throw e => exact hp
  | request op k ih =>
    intro s₁ hr hi₁ a s₂ hs
    obtain ⟨hi₂, hg, hk⟩ := hp s₁ hr hi₁ a s₂ hs
    exact ⟨hi₂, hg, ih a hk⟩

/-- A program that makes only requests of a harmless kind keeps every stable assertion that one
such request keeps. -/
theorem wp_uses {allowed : E → Prop} (hK : Stable P i K)
    (hstep : ∀ op, allowed op → ∀ s a s', P.Inv s → K s → M.perform i op s a s' →
      P.Inv s' ∧ P.Guar i s s' ∧ K s')
    (hp : p.Uses allowed) (hs : K s) : wp M P i p (fun _ s' => K s') s := by
  induction p generalizing s with
  | pure a => exact wp_pure hK hs fun _ _ h => h
  | throw e => exact wp_throw hK hs fun _ _ h => h
  | request op k ih =>
    refine wp_request hK hs fun s₁ hi hs₁ a s₂ hperf => ?_
    obtain ⟨hi₂, hg, hs₂⟩ := hstep op hp.1 s₁ a s₂ hi hs₁ hperf
    exact ⟨hi₂, hg, ih a (hp.2 a) hs₂⟩

/-- As `wp_uses`, for a program whose request of the kind `F` turns the assertion `K` into `L`. -/
theorem wp_usesUntil {A F B : E → Prop} (hK : Stable P i K) (hL : Stable P i L)
    (hKL : ∀ s, K s → L s) (hA : ∀ op, A op → ∀ s a s', P.Inv s → K s → M.perform i op s a s' →
      P.Inv s' ∧ P.Guar i s s' ∧ K s')
    (hF : ∀ op, F op → ∀ s a s', P.Inv s → K s → M.perform i op s a s' →
      P.Inv s' ∧ P.Guar i s s' ∧ L s')
    (hB : ∀ op, B op → ∀ s a s', P.Inv s → L s → M.perform i op s a s' →
      P.Inv s' ∧ P.Guar i s s' ∧ L s') (hp : p.UsesUntil A F B) (hs : K s) :
    wp M P i p (fun _ s' => L s') s := by
  induction p generalizing s with
  | pure a => exact wp_pure hK hs fun s' _ h => hKL s' h
  | throw e => exact wp_throw hK hs fun s' _ h => hKL s' h
  | request op k ih =>
    refine wp_request hK hs fun s₁ hi hs₁ a s₂ hperf => ?_
    rcases hp with ⟨hop, hk⟩ | ⟨hop, hk⟩
    · obtain ⟨hi₂, hg, hs₂⟩ := hA op hop s₁ a s₂ hi hs₁ hperf
      exact ⟨hi₂, hg, ih a (hk a) hs₂⟩
    · obtain ⟨hi₂, hg, hs₂⟩ := hF op hop s₁ a s₂ hi hs₁ hperf
      exact ⟨hi₂, hg, wp_uses hL hB (hk a) hs₂⟩

/-- What the requests of a program leave alone is still true when it ends. -/
theorem wp_and_uses {allowed : E → Prop} (hK : Stable P i K)
    (hstep : ∀ op, allowed op → ∀ s a s', K s → M.perform i op s a s' → K s') (hp : p.Uses allowed)
    (h : wp M P i p Q s) (hs : K s) : wp M P i p (fun r s' => Q r s' ∧ K s') s := by
  induction p generalizing s with
  | pure a => exact fun s' hr hi => ⟨h s' hr hi, hK hs hr hi⟩
  | throw e => exact fun s' hr hi => ⟨h s' hr hi, hK hs hr hi⟩
  | request op k ih =>
    intro s₁ hr hi a s₂ hperf
    obtain ⟨hi₂, hg, hk⟩ := h s₁ hr hi a s₂ hperf
    exact ⟨hi₂, hg, ih a (hp.2 a) hk (hstep op hp.1 s₁ a s₂ (hK hs hr hi) hperf)⟩

/-- What no step of the thread itself can falsify is still true when its program ends. -/
theorem wp_frame (hK : Stable P i K) (hguar : ∀ s s', K s → P.Guar i s s' → K s')
    (h : wp M P i p Q s) (hs : K s) : wp M P i p (fun r s' => Q r s' ∧ K s') s := by
  induction p generalizing s with
  | pure a => exact fun s' hr hi => ⟨h s' hr hi, hK hs hr hi⟩
  | throw e => exact fun s' hr hi => ⟨h s' hr hi, hK hs hr hi⟩
  | request op k ih =>
    intro s₁ hr hi a s₂ hperf
    obtain ⟨hi₂, hg, hk⟩ := h s₁ hr hi a s₂ hperf
    exact ⟨hi₂, hg, ih a hk (hguar s₁ s₂ (hK hs hr hi) hg)⟩

/-! ### Postconditions in two parts -/

/-- The program ends in `K`, and with a value in `R`. -/
def Ends (K : σ → Prop) (R : α → σ → Prop) : Except ε α → σ → Prop
  | .ok a, s => K s ∧ R a s
  | .error _, s => K s

/-- A program after which nothing has to be known. -/
def Whatever : Except ε α → σ → Prop := fun _ _ => True

variable {R : α → σ → Prop}

theorem wp_whatever (h : wp M P i p Q s) : wp M P i p Whatever s :=
  wp_mono h fun _ _ _ _ => trivial

theorem wp_ends (h : wp M P i p (fun _ s' => K s') s) : wp M P i p (Ends K fun _ _ => True) s := by
  refine wp_mono h fun r s' _ hr => ?_
  cases r with
  | ok a => exact ⟨hr, trivial⟩
  | error e => exact hr

theorem wp_pure_ends {a : α} (hK : Stable P i K) (hR : Stable P i (R a)) (hs : K s) (ha : R a s) :
    wp M P i (.pure a : Program E Ans ε α) (Ends K R) s :=
  fun _ hr hi => ⟨hK hs hr hi, hR ha hr hi⟩

theorem wp_throw_ends {e : ε} (hK : Stable P i K) (hs : K s) :
    wp M P i (.throw e : Program E Ans ε α) (Ends K R) s :=
  fun _ hr hi => hK hs hr hi

theorem wp_bind_ends {T : β → σ → Prop} (hi : P.Inv s) (hL : Stable P i L) (hKL : ∀ s, K s → L s)
    (h : wp M P i p (Ends K R) s)
    (hf : ∀ a s, P.Inv s → K s → R a s → wp M P i (f a) (Ends L T) s) :
    wp M P i (p.bind f) (Ends L T) s := by
  refine wp_bind hi (wp_mono h fun r s' hi' hr => ?_)
  cases r with
  | ok a => exact hf a s' hi' hr.1 hr.2
  | error e => exact wp_throw_ends (M := M) hL (hKL s' hr)

theorem wp_bind_whatever (hi : P.Inv s) (h : wp M P i p (Ends K R) s)
    (hf : ∀ a s, P.Inv s → K s → R a s → wp M P i (f a) Whatever s) :
    wp M P i (p.bind f) Whatever s := by
  refine wp_bind hi (wp_mono h fun r s' hi' hr => ?_)
  cases r with
  | ok a => exact hf a s' hi' hr.1 hr.2
  | error e => exact fun _ _ _ => trivial

theorem wp_attempt_ends (h : wp M P i p (Ends K R) s) :
    wp M P i p.attempt (Ends K fun r s => ∀ a, r = .ok a → R a s) s := by
  refine wp_attempt (wp_mono h fun r s' _ hr => ?_)
  cases r with
  | ok a => exact ⟨hr.1, fun b hb => Except.ok.inj hb ▸ hr.2⟩
  | error e => exact ⟨hr, nofun⟩

theorem wp_rethrow {g : ε → ε} (hi : P.Inv s) (hK : Stable P i K) (hR : ∀ a, Stable P i (R a))
    (h : wp M P i p (Ends K R) s) : wp M P i (p.tryCatch fun e => .throw (g e)) (Ends K R) s := by
  refine wp_tryCatch hi (wp_mono h fun r s' _ hr => ?_)
  cases r with
  | ok a => exact wp_pure_ends (M := M) hK (hR a) hr.1 hr.2
  | error e => exact wp_throw_ends (M := M) hK hr

/-- `try { p } finally { f }` at the end of a call. -/
theorem wp_andFinally {f : Program E Ans ε Unit} (hi : P.Inv s)
    (h : wp M P i p (fun _ s' => K s') s) (hf : ∀ s, P.Inv s → K s → wp M P i f Whatever s) :
    wp M P i (p.andFinally f) Whatever s := by
  refine wp_bind hi (wp_attempt (wp_mono h fun r s' hi' hs => ?_))
  refine wp_bind hi' (wp_mono (hf s' hi' hs) fun r' s'' _ _ => ?_)
  cases r' with
  | ok _ => cases r <;> exact fun _ _ _ => trivial
  | error e => exact fun _ _ _ => trivial

theorem stable_true : Stable P i fun _ => True := fun _ _ _ => trivial

/-- As `wp_bind_ends`, with nothing asked of an exception. -/
theorem wp_bind_returns {T : β → σ → Prop} (hi : P.Inv s) (h : wp M P i p (Ends K R) s)
    (hf : ∀ a s, P.Inv s → K s → R a s → wp M P i (f a) (Ends (fun _ => True) T) s) :
    wp M P i (p.bind f) (Ends (fun _ => True) T) s :=
  wp_bind_ends hi stable_true (fun _ _ => trivial) h hf

theorem stable_const {h : Prop} : Stable P i fun _ => h := fun hh _ _ => hh

theorem Stable.and (hK : Stable P i K) (hL : Stable P i L) : Stable P i fun s => K s ∧ L s :=
  fun h hr hi => ⟨hK h.1 hr hi, hL h.2 hr hi⟩

theorem Stable.imp {h : Prop} (hK : h → Stable P i K) : Stable P i fun s => h → K s :=
  fun hs hr hi hh => hK hh (hs hh) hr hi

end Wp

/-! ## Soundness -/

section Soundness

variable [DecidableEq Tid] (M : Machine Tid E Ans σ) (P : Protocol Tid σ)
  (Entry : Program E Ans ε α → Prop)

/-- What has to be shown of a system, one program and one kind of step at a time. -/
structure Sound where
  entry : ∀ {i p s}, Entry p → P.Inv s → P.Idle i s → wp M P i p (fun _ s' => P.Idle i s') s
  env : ∀ {s s'}, P.Inv s → M.env s s' → P.Inv s' ∧ ∀ j, P.Rely j s s'
  crash : ∀ {S s s'}, P.Inv s → M.crash S s s' →
    P.Inv s' ∧ (∀ j ∈ S, P.Idle j s') ∧ ∀ j ∉ S, P.Rely j s s'

/-- What is known of a thread in the state `s`. -/
def ThreadSafe (i : Tid) (s : σ) : Option (Program E Ans ε α) → Prop
  | none => P.Idle i s
  | some p => wp M P i p (fun _ s' => P.Idle i s') s

/-- The invariant holds and every thread is safe. -/
structure Safe (c : Config Tid E Ans ε α σ) : Prop where
  inv : P.Inv c.state
  threads : ∀ i, ThreadSafe M P i c.state (c.thread i)

variable {M P Entry} {c c' : Config Tid E Ans ε α σ} {i : Tid} {s' : σ}

omit [DecidableEq Tid] in
theorem ThreadSafe.rely {s s' : σ} {t : Option (Program E Ans ε α)} (h : ThreadSafe M P i s t)
    (hr : P.Rely i s s') : ThreadSafe M P i s' t := by
  cases t with
  | none => exact P.idle_rely h hr
  | some p => exact wp_rely h hr

omit [DecidableEq Tid] in
theorem Safe.perform (hc : Safe M P c) {op : E} {k : Ans op → Program E Ans ε α}
    (hi : c.thread i = some (.request op k)) {a : Ans op} (h : M.perform i op c.state a s') :
    P.Inv s' ∧ P.Guar i c.state s' ∧ wp M P i (k a) (fun _ s => P.Idle i s) s' := by
  have hthread := hc.threads i
  rw [hi] at hthread
  exact hthread _ (P.rely_refl i _) hc.inv a s' h

omit [DecidableEq Tid] in
theorem Safe.finished (hc : Safe M P c) {p : Program E Ans ε α} (hi : c.thread i = some p)
    (hend : ∀ op k, p ≠ .request op k) : P.Idle i c.state := by
  have hthread := hc.threads i
  rw [hi] at hthread
  cases p with
  | pure a => exact hthread _ (P.rely_refl i _) hc.inv
  | throw e => exact hthread _ (P.rely_refl i _) hc.inv
  | request op k => exact absurd rfl (hend op k)

/-- One thread has moved on to `t` and the others have seen a step they rely on. -/
theorem Safe.update (hc : Safe M P c) {t : Option (Program E Ans ε α)} (hinv : P.Inv s')
    (hi : ThreadSafe M P i s' t) (hr : ∀ j, j ≠ i → P.Rely j c.state s') :
    Safe M P ⟨Function.update c.thread i t, s'⟩ := by
  refine ⟨hinv, fun j => ?_⟩
  by_cases hij : j = i
  · subst hij
    simpa using hi
  · simpa [hij] using (hc.threads j).rely (hr j hij)

theorem Safe.step (hM : Sound M P Entry) (hc : Safe M P c) (h : Step M Entry c c') :
    Safe M P c' := by
  cases h with
  | @spawn i p hnone hp =>
    have hidle := hc.threads i
    rw [hnone] at hidle
    exact hc.update hc.inv (hM.entry hp hc.inv hidle) fun j _ => P.rely_refl j _
  | @perform i op k a s' hi hperf =>
    obtain ⟨hinv, hg, hk⟩ := hc.perform hi hperf
    exact hc.update hinv hk fun j hij => P.rely_of_guar (Ne.symm hij) hc.inv hg
  | @finish i p hi hend =>
    exact hc.update hc.inv (hc.finished hi hend) fun j _ => P.rely_refl j _
  | env henv =>
    obtain ⟨hinv, hr⟩ := hM.env hc.inv henv
    exact ⟨hinv, fun j => (hc.threads j).rely (hr j)⟩
  | crash S hcr =>
    obtain ⟨hinv, hidle, hr⟩ := hM.crash hc.inv hcr
    refine ⟨hinv, fun j => ?_⟩
    by_cases hjS : j ∈ S
    · simpa [hjS, ThreadSafe] using hidle j hjS
    · simpa [hjS] using (hc.threads j).rely (hr j hjS)

/-- Soundness: the invariant holds in every reachable state. -/
theorem Reachable.safe (hM : Sound M P Entry) (h₀ : P.Inv s₀) (hidle : ∀ i, P.Idle i s₀)
    (hc : Reachable M Entry s₀ c) : Safe M P c := by
  induction hc with
  | init => exact ⟨h₀, hidle⟩
  | step _ h ih => exact ih.step hM h

/-- What one step of the system does to the shared state: it leaves it alone, keeps the guarantee
of the thread that took it, or is a step of the surroundings or the death of some threads. -/
theorem Safe.step_state (hc : Safe M P c) (h : Step M Entry c c') :
    c'.state = c.state ∨ (∃ i, P.Guar i c.state c'.state) ∨ M.env c.state c'.state ∨
      ∃ S, M.crash S c.state c'.state := by
  cases h with
  | spawn => exact .inl rfl
  | @perform i op k a s' hi hperf => exact .inr (.inl ⟨i, (hc.perform hi hperf).2.1⟩)
  | finish => exact .inl rfl
  | env henv => exact .inr (.inr (.inl henv))
  | crash S hcr => exact .inr (.inr (.inr ⟨S, hcr⟩))

end Soundness

end Concurrent
