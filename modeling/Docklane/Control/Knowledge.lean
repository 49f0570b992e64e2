import Docklane.Control.Statements

/-!
# What a call knows, and the steps that use it

Under its locks a call may know more than others let it know without them. `Knows` is such
knowledge: a call that has lost its session knows nothing, but its statements change nothing any
more, either.
-/

namespace Docklane.Control

open Concurrent Storage

section Steps

variable {Tid : Type} {E : Premises} {w w' : World Tid} {i : Tid}

/-- The invariant says nothing about locks, sessions and the deployments that calls have read. -/
theorem Inv.congr (h : Inv E w) (hdb : w'.db = w.db) (hcreator : w'.creator = w.creator)
    (hsent : w'.sent = w.sent) (hissued : w'.issued = w.issued)
    (hadmitted : w'.admitted = w.admitted) : Inv E w' := by
  obtain ⟨db, lock, session, sent, creator, admitted, issued, lastRead⟩ := w'
  cases hdb
  cases hcreator
  cases hsent
  cases hissued
  cases hadmitted
  exact ⟨h.keyed, ⟨h.dispatched.created, h.dispatched.once, h.dispatched.sent⟩,
    ⟨h.issued.admissions, h.issued.resolutions⟩, h.exclusive, h.consistent,
    fun hcareful => ⟨(h.fenced hcareful).recorded, (h.fenced hcareful).distinct,
      (h.fenced hcareful).shut⟩⟩

/-- A step of the lock server, or of what a call remembers. -/
theorem Guar.congr (h : Inv E w) (hdb : w'.db = w.db) (hcreator : w'.creator = w.creator)
    (hsent : w'.sent = w.sent) (hissued : w'.issued = w.issued)
    (hadmitted : w'.admitted = w.admitted)
    (hlock : ∀ name j, j ≠ i → (w'.lock name = some j ↔ w.lock name = some j))
    (hsession : ∀ j, j ≠ i → w'.session j = w.session j)
    (hlastRead : ∀ j, j ≠ i → w'.lastRead j = w.lastRead j) : Guar E i w w' where
  lock := hlock
  session := hsession
  admitted _ _ := by rw [hadmitted]
  lastRead := hlastRead
  db := by rw [hdb]; exact .refl E _ _
  rollback _ _ := by rw [hdb]; exact (Db.Gentle.refl _).rollbackStep h.keyed
  settled _ := .of_eq (by rw [hdb])
  sent _ hr := .inl (hsent ▸ hr)
  creator _ _ hc := hcreator ▸ hc
  issued _ _ hi := hissued ▸ hi
  unused _ _ _ _ hu := hdb ▸ hu

theorem freeLocks_other (S : Tid → Prop) [DecidablePred S] (name : String) {j : Tid} (hj : ¬ S j) :
    (w.freeLocks S).lock name = some j ↔ w.lock name = some j := by
  simp only [World.freeLocks]
  cases hlock : w.lock name with
  | none => simp
  | some holder =>
    by_cases hS : S holder
    · have hne : holder ≠ j := fun heq => hj (heq ▸ hS)
      simp [hS, hne]
    · simp [hS]

theorem getLock_step (hinv : Inv E w) {name : String} (hfree : w.lock name = none) :
    let w' := { w with lock := Function.update w.lock name (some i) }
    Inv E w' ∧ Guar E i w w' := by
  refine ⟨hinv.congr rfl rfl rfl rfl rfl, .congr hinv rfl rfl rfl rfl rfl (fun name' j hj => ?_)
    (fun _ _ => rfl) fun _ _ => rfl⟩
  by_cases hname : name' = name
  · subst hname
    simp [hfree, Ne.symm hj]
  · simp [hname]

variable [DecidableEq Tid]

/-- The requests that begin and end a session or give locks back. -/
def ControlOp.Unlocking : ControlOp → Prop
  | .getConnection | .releaseConnection | .releaseLock _ | .destroySession => True
  | _ => False

theorem ControlOp.Unlocking.step {docker : Set Swarm} {op : ControlOp} (hop : op.Unlocking)
    (hinv : Inv E w) {answer : op.Ans} (h : Performs docker i op w answer w') :
    Inv E w' ∧ Guar E i w w' := by
  cases op with
  | getConnection =>
    cases answer with
    | ok _ =>
      cases h
      refine ⟨hinv.congr rfl rfl rfl rfl rfl, .congr hinv rfl rfl rfl rfl rfl (fun _ _ _ => Iff.rfl)
        (fun j hj => ?_) fun _ _ => rfl⟩
      exact Function.update_of_ne hj _ _
    | error e =>
      cases h
      exact ⟨hinv, .refl E i hinv⟩
  | releaseConnection =>
    cases h
    refine ⟨hinv.congr rfl rfl rfl rfl rfl, .congr hinv rfl rfl rfl rfl rfl (fun _ _ _ => Iff.rfl)
      (fun j hj => ?_) fun j hj => ?_⟩
    · exact Function.update_of_ne hj _ _
    · exact Function.update_of_ne hj _ _
  | releaseLock name =>
    cases answer with
    | ok _ =>
      change w' = _ at h
      split at h
      · next hown =>
        cases h
        refine ⟨hinv.congr rfl rfl rfl rfl rfl, .congr hinv rfl rfl rfl rfl rfl
          (fun name' j hj => ?_) (fun _ _ => rfl) fun _ _ => rfl⟩
        by_cases hname : name' = name
        · subst hname
          simp [hown, Ne.symm hj]
        · simp [hname]
      · cases h
        exact ⟨hinv, .refl E i hinv⟩
    | error e =>
      cases h
      exact ⟨hinv, .refl E i hinv⟩
  | destroySession =>
    cases h
    refine ⟨hinv.congr rfl rfl rfl rfl rfl, .congr hinv rfl rfl rfl rfl rfl
      (fun name j hj => freeLocks_other (· = i) name hj) (fun j hj => ?_) fun j hj => ?_⟩
    · exact Function.update_of_ne hj _ _
    · exact Function.update_of_ne hj _ _
  | _ => exact hop.elim

theorem findDeployment_step (hinv : Inv E w) {id : String}
    {answer : Except Failure (DbOp.findDeployment id).Reply}
    (h : StatementStep i (DbOp.findDeployment id) w answer w') :
    Inv E w' ∧ Guar E i w w' ∧ w'.db = w.db ∧
      ∀ found : Option DeploymentRecord, answer = .ok found →
        found = w.db.findDeployment id ∧ w'.lastRead i = found := by
  have hread : ∀ found : Option DeploymentRecord,
      let v := { w with lastRead := Function.update w.lastRead i found }
      Inv E v ∧ Guar E i w v := by
    refine fun found => ⟨hinv.congr rfl rfl rfl rfl rfl, .congr hinv rfl rfl rfl rfl rfl
      (fun _ _ _ => Iff.rfl) (fun _ _ => rfl) fun j hj => ?_⟩
    exact Function.update_of_ne hj _ _
  cases h with
  | executed hexec _ =>
    cases hexec
    refine ⟨(hread _).1, (hread _).2, rfl, fun found hfound => ?_⟩
    cases hfound
    exact ⟨rfl, Function.update_self _ _ _⟩
  | refused hexec => cases hexec
  | failed _ =>
    exact ⟨hinv, .refl E i hinv, rfl, fun _ h => by cases h⟩
  | unacknowledged _ hexec _ =>
    cases hexec
    exact ⟨hinv, .refl E i hinv, rfl, fun _ h => by cases h⟩

/-- A statement that inserts no operation: it changes the database, in a session that is alive, or
nothing. -/
theorem statement_effect {op : DbOp} (hcreates : op.creates = none)
    (hanswered : ∀ (v : World Tid) r, v.answered i op r = v) {answer : Except Failure op.Reply}
    (h : StatementStep i op w answer w') :
    w' = w ∨ ∃ reply db', op.exec w.db = .ok (reply, db') ∧ w.session i ≠ .lost ∧
      w' = { w with db := db' } := by
  have hcommit : ∀ db, w.commit i op db = { w with db := db } := by
    intro db
    simp only [World.commit, hcreates]
  cases h with
  | executed hexec hlive =>
    rw [hanswered, hcommit]
    rcases hlive with hlive | rfl
    · exact .inr ⟨_, _, hexec, hlive, rfl⟩
    · exact .inl rfl
  | refused _ => exact .inl (hanswered _ _)
  | failed _ => exact .inl (hanswered _ _)
  | unacknowledged _ hexec hlive =>
    rw [hanswered, hcommit]
    exact .inr ⟨_, _, hexec, hlive, rfl⟩

theorem statement_create {op : DbOp} {key : OperationKey} (hcreates : op.creates = some key)
    (hanswered : ∀ (v : World Tid) r, v.answered i op r = v)
    (hnew : ∀ reply db', op.exec w.db = .ok (reply, db') → db' ≠ w.db)
    {answer : Except Failure op.Reply} (h : StatementStep i op w answer w') :
    w' = w ∧ (∃ e, answer = .error e) ∨
      ∃ reply db', op.exec w.db = .ok (reply, db') ∧ w.session i ≠ .lost ∧
        w' = { w with db := db', creator := Function.update w.creator key (some i) } ∧
        ∀ x, answer = .ok x → x = reply := by
  have hcommit : ∀ db, w.commit i op db =
      { w with db := db, creator := Function.update w.creator key (some i) } := by
    intro db
    simp only [World.commit, hcreates]
  cases h with
  | executed hexec hlive =>
    rw [hanswered, hcommit]
    have hlive := hlive.resolve_right (hnew _ _ hexec)
    exact .inr ⟨_, _, hexec, hlive, rfl, fun x hx => (Except.ok.inj hx).symm⟩
  | refused _ => exact .inl ⟨hanswered _ _, _, rfl⟩
  | failed _ => exact .inl ⟨hanswered _ _, _, rfl⟩
  | unacknowledged _ hexec hlive =>
    rw [hanswered, hcommit]
    exact .inr ⟨_, _, hexec, hlive, rfl, nofun⟩

end Steps

/-! ## Knowledge under locks -/

section Knowledge

variable {Tid : Type} {E : Premises} {i : Tid} {names : List String} {F : World Tid → Prop}

/-- The call has been granted this lock. -/
def World.Held (w : World Tid) (i : Tid) (name : String) : Prop :=
  w.lock name = some i ∨ w.session i = .lost

/-- While the call holds these locks, and names are not ambiguous, `F` holds. -/
def Knows (E : Premises) (i : Tid) (names : List String) (F : World Tid → Prop) (w : World Tid) :
    Prop :=
  (∀ name ∈ names, w.Held i name) ∧ (E.clean → (∀ name ∈ names, w.lock name = some i) → F w)

theorem Held.stable (name : String) : Stable (controlProtocol E) i fun w => w.Held i name := by
  intro w w' h hr _
  rcases h with hlock | hlost
  · exact hr.lock_kept name hlock
  · exact .inr (hr.lost hlost)

/-- Knowledge is stable when nobody but the owner of the locks can falsify it. -/
theorem Knows.stable (hF : ∀ {w w' : World Tid}, E.clean → Rely E i w w' → Inv E w' →
      (∀ name ∈ names, w'.lock name = some i) → F w → F w') :
    Stable (controlProtocol E) i (Knows E i names F) := by
  intro w w' h hr hinv
  refine ⟨fun name hname => Held.stable name (h.1 name hname) hr hinv, fun hclean hlocks => ?_⟩
  exact hF hclean hr hinv hlocks (h.2 hclean fun name hname => hr.lock_old name (hlocks name hname))

theorem Knows.locks {w : World Tid} (h : Knows E i names F w) (hlive : w.session i ≠ .lost) :
    ∀ name ∈ names, w.lock name = some i :=
  fun name hname => (h.1 name hname).resolve_right hlive

theorem Knows.fact {w : World Tid} (h : Knows E i names F w) (hlive : w.session i ≠ .lost)
    (hclean : E.clean) : F w :=
  h.2 hclean (h.locks hlive)

theorem Knows.mono {w : World Tid} {G : World Tid → Prop} (h : Knows E i names F w)
    (hFG : E.clean → (∀ name ∈ names, w.lock name = some i) → F w → G w) : Knows E i names G w :=
  ⟨h.1, fun hclean hlocks => hFG hclean hlocks (h.2 hclean hlocks)⟩

end Knowledge

end Docklane.Control
