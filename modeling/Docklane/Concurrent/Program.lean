import Mathlib.Logic.Basic

/-!
# Programs as trees of requests

A program asks its surroundings for one thing at a time and continues with the answer it
gets. Nothing is said here about what an answer may be: that belongs to the machine that runs
the program (`Docklane.Concurrent.RelyGuarantee`). Exceptions are leaves of the tree, so that
`try`/`catch` and `finally` of the modelled code are ordinary program transformations.
-/

namespace Concurrent

/-- Programs over the requests `E`, where the request `op` is answered by an `Ans op`. -/
inductive Program (E : Type) (Ans : E → Type) (ε α : Type) where
  | pure (value : α)
  | throw (error : ε)
  | request (op : E) (next : Ans op → Program E Ans ε α)

namespace Program

variable {E : Type} {Ans : E → Type} {ε α β γ : Type}

/-- Run a program, then the program its value selects. -/
def bind : Program E Ans ε α → (α → Program E Ans ε β) → Program E Ans ε β
  | pure a, f => f a
  | throw e, _ => throw e
  | request op k, f => request op fun x => (k x).bind f

/-- Run a program and continue with `handler` where it throws. -/
def tryCatch : Program E Ans ε α → (ε → Program E Ans ε α) → Program E Ans ε α
  | pure a, _ => pure a
  | throw e, handler => handler e
  | request op k, handler => request op fun x => (k x).tryCatch handler

/-- Run a program to its end, and return how it ended. -/
def attempt : Program E Ans ε α → Program E Ans ε (Except ε α)
  | pure a => pure (.ok a)
  | throw e => pure (.error e)
  | request op k => request op fun x => (k x).attempt

/-- Ask for one thing and return the answer. -/
def perform (op : E) : Program E Ans ε (Ans op) :=
  request op pure

instance : Monad (Program E Ans ε) where
  pure := Program.pure
  bind := Program.bind

instance : MonadExceptOf ε (Program E Ans ε) where
  throw := Program.throw
  tryCatch := Program.tryCatch

/-- A value or an exception, as a program that asks for nothing. -/
def ofExcept : Except ε α → Program E Ans ε α
  | .ok a => pure a
  | .error e => throw e

/-- `try { p } finally { f }`: `f` runs however `p` ends, and its own exception wins. -/
def andFinally (p : Program E Ans ε α) (f : Program E Ans ε Unit) : Program E Ans ε α :=
  p.attempt.bind fun r => f.bind fun _ => ofExcept r

@[simp] theorem pure_eq (a : α) : (Pure.pure a : Program E Ans ε α) = .pure a := rfl

@[simp] theorem bind_eq (p : Program E Ans ε α) (f : α → Program E Ans ε β) :
    p >>= f = p.bind f := rfl

@[simp] theorem pure_bind (a : α) (f : α → Program E Ans ε β) : (Program.pure a).bind f = f a := rfl

@[simp] theorem throw_bind (e : ε) (f : α → Program E Ans ε β) :
    (Program.throw e : Program E Ans ε α).bind f = .throw e := rfl

/-! ## The requests a program may make -/

/-- Every request the program can ever make, whatever the answers, is allowed. -/
def Uses (allowed : E → Prop) : Program E Ans ε α → Prop
  | pure _ => True
  | throw _ => True
  | request op k => allowed op ∧ ∀ x, (k x).Uses allowed

variable {allowed : E → Prop}

@[simp] theorem uses_pure {a : α} : (Program.pure a : Program E Ans ε α).Uses allowed := trivial

@[simp] theorem uses_throw {e : ε} : (Program.throw e : Program E Ans ε α).Uses allowed :=
  trivial

@[simp] theorem uses_perform {op : E} :
    (perform op : Program E Ans ε (Ans op)).Uses allowed ↔ allowed op :=
  ⟨And.left, fun h => ⟨h, fun _ => trivial⟩⟩

variable {f : α → Program E Ans ε β}

theorem Uses.bind {p : Program E Ans ε α} (hp : p.Uses allowed) (hf : ∀ a, (f a).Uses allowed) :
    (p.bind f).Uses allowed := by
  induction p with
  | pure a => exact hf a
  | throw e => trivial
  | request op k ih => exact ⟨hp.1, fun x => ih x (hp.2 x)⟩

theorem Uses.tryCatch {p : Program E Ans ε α} {h : ε → Program E Ans ε α}
    (hp : p.Uses allowed) (hh : ∀ e, (h e).Uses allowed) : (p.tryCatch h).Uses allowed := by
  induction p with
  | pure a => trivial
  | throw e => exact hh e
  | request op k ih => exact ⟨hp.1, fun x => ih x (hp.2 x)⟩

theorem Uses.attempt {p : Program E Ans ε α} (hp : p.Uses allowed) : p.attempt.Uses allowed := by
  induction p with
  | pure a => trivial
  | throw e => trivial
  | request op k ih => exact ⟨hp.1, fun x => ih x (hp.2 x)⟩

@[simp] theorem uses_ofExcept (r : Except ε α) : (ofExcept r : Program E Ans ε α).Uses allowed := by
  cases r <;> trivial

theorem Uses.andFinally {p : Program E Ans ε α} {f : Program E Ans ε Unit}
    (hp : p.Uses allowed) (hf : f.Uses allowed) : (p.andFinally f).Uses allowed :=
  hp.attempt.bind fun r => hf.bind fun _ => uses_ofExcept r

theorem Uses.mono {other : E → Prop} (h : ∀ op, allowed op → other op)
    {p : Program E Ans ε α} (hp : p.Uses allowed) : p.Uses other := by
  induction p with
  | pure a => trivial
  | throw e => trivial
  | request op k ih => exact ⟨h op hp.1, fun x => ih x (hp.2 x)⟩

/-- Requests of the kind `A`, then perhaps one of the kind `F`, and only `B` after that. -/
def UsesUntil (A F B : E → Prop) : Program E Ans ε α → Prop
  | pure _ => True
  | throw _ => True
  | request op k => A op ∧ (∀ x, (k x).UsesUntil A F B) ∨ F op ∧ ∀ x, (k x).Uses B

variable {A F B : E → Prop}

theorem Uses.until {p : Program E Ans ε α} (hp : p.Uses A) : p.UsesUntil A F B := by
  induction p with
  | pure a => trivial
  | throw e => trivial
  | request op k ih => exact .inl ⟨hp.1, fun x => ih x (hp.2 x)⟩

theorem Uses.bind_until {p : Program E Ans ε α} (hp : p.Uses A) (hf : ∀ a, (f a).UsesUntil A F B) :
    (p.bind f).UsesUntil A F B := by
  induction p with
  | pure a => exact hf a
  | throw e => trivial
  | request op k ih => exact .inl ⟨hp.1, fun x => ih x (hp.2 x)⟩

theorem UsesUntil.mono {A' F' : E → Prop} (hA : ∀ op, A op → A' op) (hF : ∀ op, F op → F' op)
    {p : Program E Ans ε α} (hp : p.UsesUntil A F B) : p.UsesUntil A' F' B := by
  induction p with
  | pure a => trivial
  | throw e => trivial
  | request op k ih =>
    rcases hp with ⟨hop, hk⟩ | ⟨hop, hk⟩
    · exact .inl ⟨hA op hop, fun x => ih x (hk x)⟩
    · exact .inr ⟨hF op hop, hk⟩

/-! ## The values a program may return -/

/-- Every value the program can end with, whatever the answers, has the property. -/
def Returns (R : α → Prop) : Program E Ans ε α → Prop
  | pure a => R a
  | throw _ => True
  | request _ k => ∀ x, (k x).Returns R

variable {R : α → Prop}

@[simp] theorem returns_pure {a : α} : (Program.pure a : Program E Ans ε α).Returns R ↔ R a :=
  Iff.rfl

theorem Returns.bind {p : Program E Ans ε α} {T : β → Prop} (hp : p.Returns R)
    (hf : ∀ a, R a → (f a).Returns T) : (p.bind f).Returns T := by
  induction p with
  | pure a => exact hf a hp
  | throw e => trivial
  | request op k ih => exact fun x => ih x (hp x)

theorem returns_true {p : Program E Ans ε α} : p.Returns fun _ => True := by
  induction p with
  | pure a => trivial
  | throw e => trivial
  | request op k ih => exact ih

/-- A first part whose value restricts how the program goes on. -/
theorem Uses.bind_returns {p : Program E Ans ε α} (hp : p.Uses A) (hr : p.Returns R)
    (hf : ∀ a, R a → (f a).UsesUntil A F B) : (p.bind f).UsesUntil A F B := by
  induction p with
  | pure a => exact hf a hr
  | throw e => trivial
  | request op k ih => exact .inl ⟨hp.1, fun x => ih x (hp.2 x) (hr x)⟩

theorem UsesUntil.uses {p : Program E Ans ε α} (hp : p.UsesUntil A F B)
    (hA : ∀ op, A op → allowed op) (hF : ∀ op, F op → allowed op) (hB : ∀ op, B op → allowed op) :
    p.Uses allowed := by
  induction p with
  | pure a => trivial
  | throw e => trivial
  | request op k ih =>
    rcases hp with ⟨hop, hk⟩ | ⟨hop, hk⟩
    · exact ⟨hA op hop, fun x => ih x (hk x)⟩
    · exact ⟨hF op hop, fun x => (hk x).mono hB⟩

/-! ## Programs with parts of their own kind -/

theorem bind_assoc (p : Program E Ans ε α) (f : α → Program E Ans ε β)
    (g : β → Program E Ans ε γ) : (p.bind f).bind g = p.bind fun a => (f a).bind g := by
  induction p with
  | pure a => rfl
  | throw e => rfl
  | request op k ih => exact congrArg (request op) (funext ih)

theorem attempt_bind_attempt (p : Program E Ans ε α) (f : Except ε α → Program E Ans ε β) :
    (p.attempt.bind f).attempt = p.attempt.bind fun r => (f r).attempt := by
  induction p with
  | pure a => rfl
  | throw e => rfl
  | request op k ih => exact congrArg (request op) (funext ih)

theorem attempt_bind_ofExcept (p : Program E Ans ε α) : p.attempt.bind ofExcept = p := by
  induction p with
  | pure a => rfl
  | throw e => rfl
  | request op k ih => exact congrArg (request op) (funext ih)

/-- Requests of the kind `A`, and between them whole programs of the kind `J`. -/
inductive Built (A : E → Prop) (J : (β : Type) → Program E Ans ε β → Prop) :
    Program E Ans ε α → Prop where
  | pure (a : α) : Built A J (.pure a)
  | throw (e : ε) : Built A J (.throw e)
  | request {op : E} {k : Ans op → Program E Ans ε α} (hop : A op) (hk : ∀ x, Built A J (k x)) :
      Built A J (.request op k)
  | part {β : Type} {p : Program E Ans ε β} {f : Except ε β → Program E Ans ε α} (hp : J β p)
      (hf : ∀ r, Built A J (f r)) : Built A J (p.attempt.bind f)

namespace Built

variable {J : (β : Type) → Program E Ans ε β → Prop} {p : Program E Ans ε α}

theorem bind (hp : p.Built A J) (hf : ∀ a, (f a).Built A J) : (p.bind f).Built A J := by
  induction hp with
  | pure a => exact hf a
  | throw e => exact .throw e
  | request hop _ ih => exact .request hop ih
  | part hq _ ih =>
    rw [bind_assoc]
    exact .part hq ih

theorem attempt (hp : p.Built A J) : p.attempt.Built A J := by
  induction hp with
  | pure a => exact .pure _
  | throw e => exact .pure _
  | request hop _ ih => exact .request hop ih
  | part hq _ ih =>
    rw [attempt_bind_attempt]
    exact .part hq ih

theorem of_uses (hp : p.Uses A) : p.Built A J := by
  induction p with
  | pure a => exact .pure a
  | throw e => exact .throw e
  | request op k ih => exact .request hp.1 fun x => ih x (hp.2 x)

theorem whole (hp : J α p) : p.Built A J := by
  rw [← attempt_bind_ofExcept p]
  exact .part hp fun r => of_uses (uses_ofExcept r)

theorem andFinally {f : Program E Ans ε Unit} (hp : p.Built A J) (hf : f.Built A J) :
    (p.andFinally f).Built A J :=
  hp.attempt.bind fun r => hf.bind fun _ => of_uses (uses_ofExcept r)

theorem mono {A' : E → Prop} (hA : ∀ op, A op → A' op) (hp : p.Built A J) : p.Built A' J := by
  induction hp with
  | pure a => exact .pure a
  | throw e => exact .throw e
  | request hop _ ih => exact .request (hA _ hop) ih
  | part hq _ ih => exact .part hq ih

theorem uses (hp : p.Built A J) (hA : ∀ op, A op → allowed op)
    (hJ : ∀ (β : Type) (q : Program E Ans ε β), J β q → q.Uses allowed) : p.Uses allowed := by
  induction hp with
  | pure a => trivial
  | throw e => trivial
  | request hop _ ih => exact ⟨hA _ hop, ih⟩
  | part hq _ ih => exact (hJ _ _ hq).attempt.bind ih

end Built

end Program

end Concurrent
