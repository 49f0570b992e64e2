import Docklane.Concurrent.Program

/-!
# Running a program

A machine that answers every request at once, with nobody else around, turns a program into a
computation: how it ends, the state it leaves, and the requests it has made on the way.
-/

namespace Concurrent.Program

variable {E : Type} {Ans : E → Type} {ε α β σ : Type}

/-- A run to its end. -/
structure Run (E ε σ α : Type) where
  result : Except ε α
  state : σ
  asked : List E

/-- The run that continues another one. -/
def Run.after (r : Run E ε σ α) (asked : List E) : Run E ε σ α :=
  { r with asked := asked ++ r.asked }

@[simp] theorem Run.result_after (r : Run E ε σ α) (asked : List E) :
    (r.after asked).result = r.result := rfl

@[simp] theorem Run.state_after (r : Run E ε σ α) (asked : List E) :
    (r.after asked).state = r.state := rfl

@[simp] theorem Run.asked_after (r : Run E ε σ α) (asked : List E) :
    (r.after asked).asked = asked ++ r.asked := rfl

theorem Run.after_after (r : Run E ε σ α) (first second : List E) :
    (r.after second).after first = r.after (first ++ second) := by
  simp [Run.after]

theorem request_bind (op : E) (k : Ans op → Program E Ans ε α) (f : α → Program E Ans ε β) :
    (request op k).bind f = request op fun x => (k x).bind f := rfl

variable (answer : (op : E) → σ → Ans op × σ)

def run : Program E Ans ε α → σ → Run E ε σ α
  | .pure a, s => ⟨.ok a, s, []⟩
  | .throw e, s => ⟨.error e, s, []⟩
  | .request op k, s => ((k (answer op s).1).run (answer op s).2).after [op]

@[simp] theorem run_pure (a : α) (s : σ) :
    (pure a : Program E Ans ε α).run answer s = ⟨.ok a, s, []⟩ := rfl

@[simp] theorem run_throw (e : ε) (s : σ) :
    (throw e : Program E Ans ε α).run answer s = ⟨.error e, s, []⟩ := rfl

@[simp] theorem run_request (op : E) (k : Ans op → Program E Ans ε α) (s : σ) :
    (request op k).run answer s = ((k (answer op s).1).run answer (answer op s).2).after [op] := rfl

@[simp] theorem run_ofExcept (r : Except ε α) (s : σ) :
    (ofExcept r : Program E Ans ε α).run answer s = ⟨r, s, []⟩ := by
  cases r <;> rfl

theorem run_bind (p : Program E Ans ε α) (f : α → Program E Ans ε β) (s : σ) :
    (p.bind f).run answer s =
      match (p.run answer s).result with
      | .ok a => ((f a).run answer (p.run answer s).state).after (p.run answer s).asked
      | .error e => ⟨.error e, (p.run answer s).state, (p.run answer s).asked⟩ := by
  induction p generalizing s with
  | pure a => rfl
  | throw e => rfl
  | request op k ih =>
    change (((k _).bind f).run answer _).after [op] = _
    rw [ih]
    simp only [run_request, Run.result_after, Run.state_after, Run.asked_after]
    split
    · rw [Run.after_after]
    · rfl

theorem run_attempt (p : Program E Ans ε α) (s : σ) :
    p.attempt.run answer s = ⟨.ok (p.run answer s).result, (p.run answer s).state,
      (p.run answer s).asked⟩ := by
  induction p generalizing s with
  | pure a => rfl
  | throw e => rfl
  | request op k ih =>
    change ((k _).attempt.run answer _).after [op] = _
    rw [ih]
    rfl

theorem Uses.asked_run {allowed : E → Prop} {p : Program E Ans ε α} (hp : p.Uses allowed) (s : σ) :
    ∀ op ∈ (p.run answer s).asked, allowed op := by
  induction p generalizing s with
  | pure a => simp
  | throw e => simp
  | request op k ih =>
    intro op' hop'
    rcases List.mem_cons.mp hop' with rfl | hrest
    · exact hp.1
    · exact ih _ (hp.2 _) _ op' hrest

end Concurrent.Program
