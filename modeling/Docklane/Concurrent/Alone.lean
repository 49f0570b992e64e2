import Docklane.Concurrent.Program

/-!
# A program that runs alone

`Ends answer Q p s`: run from `s` with nobody interfering, `p` is answered at every request, and
however the requests are answered within `answer`, it ends in `Q`.
-/

namespace Concurrent.Program

variable {E : Type} {Ans : E → Type} {ε α β σ : Type}

def Ends (answer : (op : E) → σ → Ans op → σ → Prop) (Q : Except ε α → σ → Prop) :
    Program E Ans ε α → σ → Prop
  | .pure a, s => Q (.ok a) s
  | .throw e, s => Q (.error e) s
  | .request op k, s => (∃ a s', answer op s a s') ∧
      ∀ a s', answer op s a s' → (k a).Ends answer Q s'

variable {answer : (op : E) → σ → Ans op → σ → Prop} {Q R : Except ε α → σ → Prop}
  {p : Program E Ans ε α} {s : σ}

theorem Ends.and (hp : p.Ends answer Q s) (hR : p.Ends answer R s) :
    p.Ends answer (fun r s' => Q r s' ∧ R r s') s := by
  induction p generalizing s with
  | pure a => exact ⟨hp, hR⟩
  | throw e => exact ⟨hp, hR⟩
  | request op k ih => exact ⟨hp.1, fun a s' h => ih a (hp.2 a s' h) (hR.2 a s' h)⟩

theorem Ends.exists (hp : p.Ends answer Q s) : ∃ r s', Q r s' := by
  induction p generalizing s with
  | pure a => exact ⟨_, _, hp⟩
  | throw e => exact ⟨_, _, hp⟩
  | request op k ih =>
    obtain ⟨⟨a, s', h⟩, hk⟩ := hp
    exact ih a (hk a s' h)

theorem Ends.bind {f : α → Program E Ans ε β} {Q : Except ε β → σ → Prop}
    (hp : p.Ends answer (fun r s' => match r with
      | .ok a => (f a).Ends answer Q s'
      | .error e => Q (.error e) s') s) : (p.bind f).Ends answer Q s := by
  induction p generalizing s with
  | pure a => exact hp
  | throw e => exact hp
  | request op k ih => exact ⟨hp.1, fun a s' h => ih a (hp.2 a s' h)⟩

theorem Ends.attempt {Q : Except ε (Except ε α) → σ → Prop}
    (hp : p.Ends answer (fun r => Q (.ok r)) s) : p.attempt.Ends answer Q s := by
  induction p generalizing s with
  | pure a => exact hp
  | throw e => exact hp
  | request op k ih => exact ⟨hp.1, fun a s' h => ih a (hp.2 a s' h)⟩

end Concurrent.Program
