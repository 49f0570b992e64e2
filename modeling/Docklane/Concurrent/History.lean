import Docklane.Concurrent.Program

/-!
# What a program may ask, given what it was answered

A program on its own, with every sequence of answers its surroundings may give. `Trace` says that
the program got these answers and has come to this point. `Follows` is a weakest precondition over
the history of answers: each request of the program is allowed by what it was answered before, and
the program ends in a postcondition on its result and its history. Histories have the newest answer
first.
-/

namespace Concurrent

namespace Program

variable {E : Type} {Ans : E → Type} {ε α β : Type}

/-- A request together with the answer it got. -/
abbrev Event (E : Type) (Ans : E → Type) := (op : E) × Ans op

/-- The program gets the answers of a list, in order, and becomes another program. -/
inductive Trace : Program E Ans ε α → List (Event E Ans) → Program E Ans ε α → Prop where
  | nil {p} : Trace p [] p
  | cons {op k a t p'} (h : Trace (k a) t p') : Trace (.request op k) (⟨op, a⟩ :: t) p'

variable {t u : List (Event E Ans)} {A asks : E → Prop} {x : Event E Ans}

theorem Trace.append {p q r : Program E Ans ε α} (h : Trace p t q) (hr : Trace q u r) :
    Trace p (t ++ u) r := by
  induction h with
  | nil => exact hr
  | cons _ ih => exact .cons (ih hr)

/-- A trace of a program to its result goes on with the program that gets the result. -/
theorem Trace.bind_pure {p : Program E Ans ε α} {a : α} (h : Trace p t (.pure a))
    {f : α → Program E Ans ε β} {q : Program E Ans ε β} (hf : Trace (f a) u q) :
    Trace (p.bind f) (t ++ u) q := by
  generalize hend : Program.pure a = p' at h
  induction h with
  | nil =>
    subst hend
    exact hf
  | cons _ ih => exact .cons (ih hend)

/-- The program that has ended with a result. -/
def ended : Except ε α → Program E Ans ε α
  | .ok a => .pure a
  | .error e => .throw e

/-- Every request is allowed by the history at which it is made, and the program ends in `Q`. -/
def Follows (allowed : List (Event E Ans) → E → Prop)
    (Q : Except ε α → List (Event E Ans) → Prop) :
    Program E Ans ε α → List (Event E Ans) → Prop
  | .pure a, h => Q (.ok a) h
  | .throw e, h => Q (.error e) h
  | .request op k, h => allowed h op ∧ ∀ a, Follows allowed Q (k a) (⟨op, a⟩ :: h)

variable {allowed : List (Event E Ans) → E → Prop} {Q R : Except ε α → List (Event E Ans) → Prop}
  {p q : Program E Ans ε α} {h : List (Event E Ans)}

theorem Follows.mono (hp : p.Follows allowed Q h) (hQ : ∀ r h', Q r h' → R r h') :
    p.Follows allowed R h := by
  induction p generalizing h with
  | pure a => exact hQ _ _ hp
  | throw e => exact hQ _ _ hp
  | request op k ih => exact ⟨hp.1, fun a => ih a (hp.2 a)⟩

theorem Follows.weaken {other : List (Event E Ans) → E → Prop} (hp : p.Follows allowed Q h)
    (hallowed : ∀ h' op, allowed h' op → other h' op) : p.Follows other Q h := by
  induction p generalizing h with
  | pure a => exact hp
  | throw e => exact hp
  | request op k ih => exact ⟨hallowed _ _ hp.1, fun a => ih a (hp.2 a)⟩

theorem Follows.and (hp : p.Follows allowed Q h) (hr : p.Follows allowed R h) :
    p.Follows allowed (fun r h' => Q r h' ∧ R r h') h := by
  induction p generalizing h with
  | pure a => exact ⟨hp, hr⟩
  | throw e => exact ⟨hp, hr⟩
  | request op k ih => exact ⟨hp.1, fun a => ih a (hp.2 a) (hr.2 a)⟩

theorem follows_bind {f : α → Program E Ans ε β} {Q : Except ε β → List (Event E Ans) → Prop}
    (hp : p.Follows allowed (fun r h' => match r with
      | .ok a => (f a).Follows allowed Q h'
      | .error e => Q (.error e) h') h) : (p.bind f).Follows allowed Q h := by
  induction p generalizing h with
  | pure a => exact hp
  | throw e => exact hp
  | request op k ih => exact ⟨hp.1, fun a => ih a (hp.2 a)⟩

theorem follows_attempt {Q : Except ε (Except ε α) → List (Event E Ans) → Prop}
    (hp : p.Follows allowed (fun r h' => Q (.ok r) h') h) : p.attempt.Follows allowed Q h := by
  induction p generalizing h with
  | pure a => exact hp
  | throw e => exact hp
  | request op k ih => exact ⟨hp.1, fun a => ih a (hp.2 a)⟩

/-- Knowledge about the history that further answers keep, and that allows every request, carries a
program to its end. -/
theorem Follows.of_stable {K : List (Event E Ans) → Prop} (hcons : ∀ x h', K h' → K (x :: h'))
    (hallowed : ∀ op h', K h' → allowed h' op) (hQ : ∀ r h', K h' → Q r h') (hK : K h) :
    p.Follows allowed Q h := by
  induction p generalizing h with
  | pure a => exact hQ _ _ hK
  | throw e => exact hQ _ _ hK
  | request op k ih => exact ⟨hallowed op h hK, fun a => ih a (hcons _ _ hK)⟩

theorem Uses.follows (hp : p.Uses A) (hA : ∀ op h', A op → allowed h' op) :
    p.Follows allowed (fun _ _ => True) h := by
  induction p generalizing h with
  | pure a => trivial
  | throw e => trivial
  | request op k ih => exact ⟨hA op h hp.1, fun a => ih a (hp.2 a)⟩

/-- The postcondition may also use that the program got the answers between the two histories. -/
theorem Follows.traced (hp : p.Follows allowed Q h) :
    p.Follows allowed (fun r h' => Q r h' ∧ ∃ t, h' = t.reverse ++ h ∧ Trace p t (ended r)) h := by
  induction p generalizing h with
  | pure a => exact ⟨hp, [], rfl, .nil⟩
  | throw e => exact ⟨hp, [], rfl, .nil⟩
  | request op k ih =>
    refine ⟨hp.1, fun a => (ih a (hp.2 a)).mono ?_⟩
    rintro r h' ⟨hr, t, rfl, ht⟩
    exact ⟨hr, ⟨op, a⟩ :: t, by simp, .cons ht⟩

/-- Soundness: along every trace, each request was allowed when it was made. -/
theorem Follows.allowed_of_trace (hp : p.Follows allowed Q h) {op : E}
    {k : Ans op → Program E Ans ε α} (ht : Trace p t (.request op k)) :
    allowed (t.reverse ++ h) op := by
  generalize hq : Program.request op k = q at ht
  induction ht generalizing h with
  | nil =>
    subst hq
    exact hp.1
  | cons _ ih =>
    simpa using ih (hp.2 _) hq

/-- Soundness: a run that has come to an end is in the postcondition. -/
theorem Follows.post_of_trace (hp : p.Follows allowed Q h) {r : Except ε α}
    (ht : Trace p t (ended r)) : Q r (t.reverse ++ h) := by
  generalize hq : ended r = q at ht
  induction ht generalizing h with
  | @nil p =>
    subst hq
    cases r <;> exact hp
  | cons _ ih => simpa using ih (hp.2 _) hq

/-- A program is allowed at every history when its requests of the kind `A` and its parts of the
kind `J` are. -/
theorem Built.follows {J : (β : Type) → Program E Ans ε β → Prop} (hp : p.Built A J)
    (hA : ∀ op h', A op → allowed h' op)
    (hJ : ∀ (β : Type) (q : Program E Ans ε β), J β q → ∀ h',
    q.Follows allowed (fun _ _ => True) h')
    (h : List (Event E Ans)) : p.Follows allowed (fun _ _ => True) h := by
  induction hp generalizing h with
  | pure a => trivial
  | throw e => trivial
  | request hop _ ih => exact ⟨hA _ h hop, fun a => ih a _⟩
  | part hq _ ih => exact follows_bind (follows_attempt ((hJ _ _ hq h).mono fun r h' _ => ih r h'))

/-- Run the program on the answers of a list. -/
def replay [DecidableEq E] : Program E Ans ε α → List (Event E Ans) → Option (Program E Ans ε α)
  | p, [] => some p
  | .request op k, x :: t => if h : x.1 = op then replay (k (h ▸ x.2)) t else none
  | _, _ :: _ => none

theorem trace_of_replay [DecidableEq E] (h : replay p t = some q) : Trace p t q := by
  induction t generalizing p with
  | nil =>
    cases p <;> cases h <;> exact .nil
  | cons x t ih =>
    cases p with
    | pure a => cases h
    | throw e => cases h
    | request op k =>
      obtain ⟨op', a⟩ := x
      rw [replay] at h
      split at h
      · rename_i heq
        obtain rfl : op' = op := heq
        exact .cons (ih h)
      · cases h

/-- The newest of the requests of the kind `asks` was answered like this. -/
def Latest (asks : E → Prop) (x : Event E Ans) (h : List (Event E Ans)) : Prop :=
  ∃ newer older, h = newer ++ x :: older ∧ asks x.1 ∧ ∀ y ∈ newer, ¬ asks y.1

theorem latest_self (hx : asks x.1) : Latest asks x (x :: h) :=
  ⟨[], h, rfl, hx, nofun⟩

theorem Latest.cons {x y : Event E Ans} (hx : Latest asks x h) (hy : ¬ asks y.1) :
    Latest asks x (y :: h) := by
  obtain ⟨newer, older, rfl, hasks, hnewer⟩ := hx
  refine ⟨y :: newer, older, rfl, hasks, fun z hz => ?_⟩
  rcases List.mem_cons.mp hz with rfl | hz
  · exact hy
  · exact hnewer z hz

/-- The newest request of the kind is the last one, or it was made before it. -/
theorem Latest.cons_inv {x y : Event E Ans} (hx : Latest asks x (y :: h)) :
    x = y ∨ ¬ asks y.1 ∧ Latest asks x h := by
  obtain ⟨newer, older, heq, hasks, hnewer⟩ := hx
  cases newer with
  | nil => exact .inl (List.cons.inj heq).1.symm
  | cons z newer =>
    obtain ⟨rfl, rfl⟩ := List.cons.inj heq
    exact .inr ⟨hnewer y List.mem_cons_self, newer, older, rfl, hasks,
      fun z hz => hnewer z (List.mem_cons_of_mem _ hz)⟩

/-- A request among the answers of a trace was made at the history before it. -/
theorem Trace.split (ht : Trace p (t ++ x :: u) q) :
    ∃ k, Trace p t (.request x.1 k) ∧ Trace (k x.2) u q := by
  induction t generalizing p with
  | nil =>
    cases ht with
    | cons hrest => exact ⟨_, .nil, hrest⟩
  | cons y t ih =>
    cases ht with
    | cons hrest =>
      obtain ⟨k, hk, hu⟩ := ih hrest
      exact ⟨k, .cons hk, hu⟩

theorem Uses.of_trace (hp : p.Uses A) (ht : Trace p t q) : ∀ x ∈ t, A x.1 := by
  induction ht with
  | nil => exact nofun
  | cons _ ih => exact List.forall_mem_cons.mpr ⟨hp.1, ih (hp.2 _)⟩

theorem Trace.perform_inv {op : E} {r : Program E Ans ε (Ans op)} (h : Trace (perform op) t r) :
    t = [] ∧ r = perform op ∨ ∃ a, t = [⟨op, a⟩] ∧ r = .pure a := by
  cases h with
  | nil => exact .inl ⟨rfl, rfl⟩
  | @cons _ _ a _ _ hrest =>
    cases hrest
    exact .inr ⟨a, rfl, rfl⟩

/-- Every answered request of a trace was allowed by the answers before it. -/
theorem Follows.allowed_of_mem (hp : p.Follows allowed Q h) (ht : Trace p (t ++ x :: u) q) :
    allowed (t.reverse ++ h) x.1 := by
  obtain ⟨k, hk, -⟩ := ht.split
  exact hp.allowed_of_trace hk

end Program

end Concurrent
