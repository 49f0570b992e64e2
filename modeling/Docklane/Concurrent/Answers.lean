import Docklane.Concurrent.RelyGuarantee

/-!
# What a program does under answers of a kind

`Given answers allowed Q p`: as long as every request of `p` is answered as `answers` says, the
requests of `p` are allowed and it ends in `Q`. No history is kept, so the rules are those of a
plain program logic. `Given.alongside` moves such a fact to a machine: when knowledge `K` of the
state survives every step of the system and makes the answers what they are assumed to be, it holds
of a thread for as long as the thread runs.
-/

namespace Concurrent

namespace Program

variable {E : Type} {Ans : E → Type} {ε α β : Type}

def Given (answers : (op : E) → Ans op → Prop) (allowed : E → Prop) (Q : Except ε α → Prop) :
    Program E Ans ε α → Prop
  | .pure a => Q (.ok a)
  | .throw e => Q (.error e)
  | .request op k => allowed op ∧ ∀ a, answers op a → (k a).Given answers allowed Q

/-- The program ended with an exception. -/
def Refused (r : Except ε α) : Prop := ∀ a, r ≠ .ok a

variable {answers : (op : E) → Ans op → Prop} {allowed : E → Prop} {Q R : Except ε α → Prop}
  {p : Program E Ans ε α}

theorem refused_error (e : ε) : Refused (.error e : Except ε α) := fun _ h => nomatch h

theorem Given.mono (hp : p.Given answers allowed Q) (hQ : ∀ r, Q r → R r) :
    p.Given answers allowed R := by
  induction p with
  | pure a => exact hQ _ hp
  | throw e => exact hQ _ hp
  | request op k ih => exact ⟨hp.1, fun a ha => ih a (hp.2 a ha)⟩

theorem Given.of_answers {fewer : (op : E) → Ans op → Prop} (hp : p.Given answers allowed Q)
    (h : ∀ op a, fewer op a → answers op a) : p.Given fewer allowed Q := by
  induction p with
  | pure a => exact hp
  | throw e => exact hp
  | request op k ih => exact ⟨hp.1, fun a ha => ih a (hp.2 a (h op a ha))⟩

variable {f : α → Program E Ans ε β}

theorem Given.bind {Q : Except ε β → Prop} (hp : p.Given answers allowed (fun r => match r with
      | .ok a => (f a).Given answers allowed Q
      | .error e => Q (.error e))) : (p.bind f).Given answers allowed Q := by
  induction p with
  | pure a => exact hp
  | throw e => exact hp
  | request op k ih => exact ⟨hp.1, fun a ha => ih a (hp.2 a ha)⟩

theorem Given.of_bind {Q : Except ε β → Prop} (hp : (p.bind f).Given answers allowed Q) :
    p.Given answers allowed (fun r => match r with
      | .ok a => (f a).Given answers allowed Q
      | .error e => Q (.error e)) := by
  induction p with
  | pure a => exact hp
  | throw e => exact hp
  | request op k ih => exact ⟨hp.1, fun a ha => ih a (hp.2 a ha)⟩

theorem Given.attempt {Q : Except ε (Except ε α) → Prop}
    (hp : p.Given answers allowed fun r => Q (.ok r)) : p.attempt.Given answers allowed Q := by
  induction p with
  | pure a => exact hp
  | throw e => exact hp
  | request op k ih => exact ⟨hp.1, fun a ha => ih a (hp.2 a ha)⟩

theorem Given.of_uses (hp : p.Uses allowed) : p.Given answers allowed fun _ => True := by
  induction p with
  | pure a => trivial
  | throw e => trivial
  | request op k ih => exact ⟨hp.1, fun a _ => ih a (hp.2 a)⟩

theorem given_ofExcept {r : Except ε α} (h : Q r) :
    (ofExcept r : Program E Ans ε α).Given answers allowed Q := by
  cases r <;> exact h

theorem Given.refused_bind (hp : p.Given answers allowed Refused) :
    (p.bind f).Given answers allowed Refused := by
  refine .bind (hp.mono ?_)
  rintro (e | a) h
  · exact refused_error e
  · exact absurd rfl (h a)

theorem Given.andFinally {f : Program E Ans ε Unit} (hp : p.Given answers allowed Q)
    (hf : f.Uses allowed) (hQ : ∀ e, Q (.error e)) : (p.andFinally f).Given answers allowed Q := by
  refine .bind (.attempt (hp.mono fun r hr => .bind ((Given.of_uses hf).mono ?_)))
  rintro (e | -) -
  · exact hQ e
  · exact given_ofExcept hr

end Program

section Alongside

variable {Tid E : Type} [DecidableEq Tid] {Ans : E → Type} {ε α σ : Type}

/-- A step of the system while thread `i` goes on running: its own next request is answered, or it
is not involved. -/
def Continues (M : Machine Tid E Ans σ) (Entry : Program E Ans ε α → Prop) (i : Tid)
    (c c' : Config Tid E Ans ε α σ) : Prop :=
  Step M Entry c c' ∧ (c'.thread i = c.thread i ∨
    ∃ op k a, c.thread i = some (.request op k) ∧ M.perform i op c.state a c'.state ∧
      c'.thread i = some (k a))

variable {M : Machine Tid E Ans σ} {Entry : Program E Ans ε α → Prop} {i : Tid}

open Program in
theorem Given.alongside {answers : (op : E) → Ans op → Prop} {allowed : E → Prop}
    {Q : Except ε α → Prop} {K : σ → Prop} {c c' : Config Tid E Ans ε α σ}
    {p : Program E Ans ε α} (hp : p.Given answers allowed Q) (hi : c.thread i = some p)
    (hs : K c.state) (hK : ∀ {c c'}, Step M Entry c c' → K c.state → K c'.state)
    (hanswers : ∀ {op s a s'}, K s → M.perform i op s a s' → answers op a)
    (h : Relation.ReflTransGen (Continues M Entry i) c c') :
    K c'.state ∧ ∃ q, c'.thread i = some q ∧ q.Given answers allowed Q := by
  induction h with
  | refl => exact ⟨hs, p, hi, hp⟩
  | tail _ hstep ih =>
    obtain ⟨hKb, q, hq, hgiven⟩ := ih
    refine ⟨hK hstep.1 hKb, ?_⟩
    rcases hstep.2 with hsame | ⟨op, k, a, hop, hperform, hnext⟩
    · exact ⟨q, hsame.trans hq, hgiven⟩
    · obtain rfl : q = .request op k := Option.some.inj (hq.symm.trans hop)
      exact ⟨k a, hnext, hgiven.2 a (hanswers hKb hperform)⟩

end Alongside

end Concurrent
