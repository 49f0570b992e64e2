import Docklane.Concurrent.History

/-!
# Programs whose requests are programs

A request that one level of a design takes as a single step may itself be a program of the level
below. `link` puts the programs of the lower level in the place of the requests. A trace of a linked
program to its result is cut up along the sequence of the upper level.
-/

namespace Concurrent

namespace Program

variable {E E' : Type} {Ans : E → Type} {Ans' : E' → Type} {ε α β : Type}

/-- Every request `op` is carried out by the program `f op`. -/
def link (f : (op : E) → Program E' Ans' ε (Ans op)) : Program E Ans ε α → Program E' Ans' ε α
  | pure a => pure a
  | throw e => throw e
  | request op k => (f op).bind fun x => (k x).link f

variable {f : (op : E) → Program E' Ans' ε (Ans op)}

@[simp] theorem link_pure (a : α) : (pure a : Program E Ans ε α).link f = pure a := rfl

@[simp] theorem link_throw (e : ε) : (throw e : Program E Ans ε α).link f = throw e := rfl

@[simp] theorem link_request (op : E) (k : Ans op → Program E Ans ε α) :
    (request op k).link f = (f op).bind fun x => (k x).link f := rfl

@[simp] theorem link_bind (p : Program E Ans ε α) (g : α → Program E Ans ε β) :
    (p.bind g).link f = (p.link f).bind fun a => (g a).link f := by
  induction p with
  | pure a => rfl
  | throw e => rfl
  | request op k ih =>
    change (f op).bind (fun x => ((k x).bind g).link f) = _
    rw [funext ih, link_request, bind_assoc]

@[simp] theorem link_ite {c : Prop} [Decidable c] (p q : Program E Ans ε α) :
    (if c then p else q).link f = if c then p.link f else q.link f := by
  split <;> rfl

/-- The program ends with a value, whatever it is answered. -/
def NoThrow : Program E Ans ε α → Prop
  | pure _ => True
  | throw _ => False
  | request _ k => ∀ x, (k x).NoThrow

theorem noThrow_attempt {p : Program E Ans ε α} : p.attempt.NoThrow := by
  induction p with
  | pure a => trivial
  | throw e => trivial
  | request op k ih => exact ih

variable {p : Program E Ans ε α} {g : α → Program E Ans ε β} {t : List (Event E Ans)}

theorem NoThrow.bind_attempt (hp : p.NoThrow) (g : α → Program E Ans ε β) :
    (p.bind g).attempt = p.bind fun a => (g a).attempt := by
  induction p with
  | pure a => rfl
  | throw e => exact hp.elim
  | request op k ih => exact congrArg (request op) (funext fun x => ih x (hp x))

theorem link_attempt (hf : ∀ op, (f op).NoThrow) (p : Program E Ans ε α) :
    p.attempt.link f = (p.link f).attempt := by
  induction p with
  | pure a => rfl
  | throw e => rfl
  | request op k ih =>
    change (f op).bind (fun x => (k x).attempt.link f) = _
    rw [link_request, (hf op).bind_attempt, funext ih]

theorem Trace.bind_inv {b : β} (h : Trace (p.bind g) t (.pure b)) :
    ∃ a t₁ t₂, t = t₁ ++ t₂ ∧ Trace p t₁ (.pure a) ∧ Trace (g a) t₂ (.pure b) := by
  induction p generalizing t with
  | pure a => exact ⟨a, [], t, rfl, .nil, h⟩
  | throw e => cases h
  | request op k ih =>
    cases h with
    | cons hrest =>
      obtain ⟨a, t₁, t₂, rfl, hp, hg⟩ := ih _ hrest
      exact ⟨a, _ :: t₁, t₂, rfl, .cons hp, hg⟩

theorem Trace.link_bind_inv {t : List (Event E' Ans')} {b : β}
    (h : Trace ((p.bind g).link f) t (.pure b)) :
    ∃ a t₁ t₂, t = t₁ ++ t₂ ∧ Trace (p.link f) t₁ (.pure a) ∧
      Trace ((g a).link f) t₂ (.pure b) := by
  rw [link_bind] at h
  exact h.bind_inv

theorem Trace.ofExcept_inv {r : Except ε α} {a : α} (h : Trace (ofExcept r) t (.pure a)) :
    t = [] ∧ r = .ok a := by
  cases r with
  | error e => cases h
  | ok b =>
    cases h
    exact ⟨rfl, rfl⟩

theorem Trace.attempt_inv {a : α} (h : Trace p.attempt t (.pure (.ok a))) :
    Trace p t (.pure a) := by
  induction p generalizing t with
  | pure b =>
    cases h
    exact .nil
  | throw e => cases h
  | request op k ih =>
    cases h with
    | cons hrest => exact .cons (ih _ hrest)

theorem Trace.attempt {a : α} (h : Trace p t (.pure a)) : Trace p.attempt t (.pure (.ok a)) := by
  generalize hend : Program.pure a = q at h
  induction h with
  | nil =>
    subst hend
    exact .nil
  | cons _ ih => exact .cons (ih hend)

/-! ## Cutting up a run along the upper level -/

theorem Trace.bind_cases {q : Program E Ans ε β} (h : Trace (p.bind g) t q) :
    (∃ a t₁ t₂, t = t₁ ++ t₂ ∧ Trace p t₁ (.pure a) ∧ Trace (g a) t₂ q) ∨
      ∃ r, Trace p t r ∧ q = r.bind g ∧ ∀ a, r ≠ .pure a := by
  induction p generalizing t with
  | pure a => exact .inl ⟨a, [], t, rfl, .nil, h⟩
  | throw e =>
    cases h
    exact .inr ⟨.throw e, .nil, rfl, nofun⟩
  | request op k ih =>
    cases h with
    | nil => exact .inr ⟨.request op k, .nil, rfl, nofun⟩
    | cons hrest =>
      rcases ih _ hrest with ⟨a, t₁, t₂, rfl, hp, hg⟩ | ⟨r, hr, hq, hne⟩
      · exact .inl ⟨a, _ :: t₁, t₂, rfl, .cons hp, hg⟩
      · exact .inr ⟨r, .cons hr, hq, hne⟩

/-- A run of a linked program is cut up into parts, one for each answered request of the upper
level. Either both levels have come to the same end, or the lower one is still inside a request of
the upper one. -/
theorem Trace.unlink {t : List (Event E' Ans')} {q : Program E' Ans' ε α}
    (h : Trace (p.link f) t q) :
    ∃ (parts : List (Event E Ans × List (Event E' Ans'))) (p' : Program E Ans ε α)
      (last : List (Event E' Ans')),
      t = parts.flatMap Prod.snd ++ last ∧ Trace p (parts.map Prod.fst) p' ∧
        (∀ part ∈ parts, Trace (f part.1.1) part.2 (.pure part.1.2)) ∧
        ((last = [] ∧ ∃ r, p' = ended r ∧ q = ended r) ∨
          ∃ op k r, p' = .request op k ∧ Trace (f op) last r ∧
            q = r.bind (fun a => (k a).link f) ∧ ∀ a, r ≠ .pure a) := by
  induction p generalizing t with
  | pure a =>
    cases h
    exact ⟨[], _, [], rfl, .nil, nofun, .inl ⟨rfl, .ok a, rfl, rfl⟩⟩
  | throw e =>
    cases h
    exact ⟨[], _, [], rfl, .nil, nofun, .inl ⟨rfl, .error e, rfl, rfl⟩⟩
  | request op k ih =>
    rcases h.bind_cases with ⟨a, s, u, rfl, hs, hu⟩ | ⟨r, hr, hq, hne⟩
    · obtain ⟨parts, p', last, rfl, hparts, hall, hend⟩ := ih a hu
      exact ⟨(⟨op, a⟩, s) :: parts, p', last, (List.append_assoc ..).symm, .cons hparts,
        List.forall_mem_cons.mpr ⟨hs, hall⟩, hend⟩
    · exact ⟨[], _, t, rfl, .nil, nofun, .inr ⟨op, k, r, rfl, hr, hq, hne⟩⟩

end Program

end Concurrent
