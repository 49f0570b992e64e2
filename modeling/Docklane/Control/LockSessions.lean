import Docklane.Concurrent.Linking
import Docklane.Concurrent.RelyGuarantee
import Docklane.Control.Execution
import Mathlib.Data.List.Sort
import Mathlib.Data.String.Basic

/-!
# Sessions and their locks

`withResourceLocks` of `operations/operation-lock.ts` once more, now with the connections of the
pool and the lock table of the server. A session may hold a lock more than once, `GET_LOCK` may time
out, every query may fail, and a failed `RELEASE_LOCK` may have been executed. The callback is any
program that leaves named locks and the session alone; each of its requests carries the keys of its
call, so that a call which is in its callback can be told from the others.
-/

namespace Docklane.Control

open Concurrent Concurrent.Program

/-! ## The machine -/

inductive LockOp where
  | getConnection
  | releaseConnection
  | getLock (name : String)
  | releaseLock (name : String)
  | destroySession
  /-- A request of the callback that runs under the locks of these keys. -/
  | callback (keys : List LockKey) (op : ControlOp)

abbrev LockOp.Ans : LockOp → Type
  | getConnection => Except Failure Unit
  | releaseConnection => Unit
  | getLock _ => Except Failure Bool
  | releaseLock _ => Except Failure Unit
  | destroySession => Unit
  | callback _ op => op.Ans

abbrev LockProgram (α : Type) := Program LockOp LockOp.Ans Failure α

/-- The requests of a call with these keys. -/
def onSession (keys : List LockKey) : (op : ControlOp) → LockProgram op.Ans
  | .getConnection => .request .getConnection .pure
  | .releaseConnection => .request .releaseConnection .pure
  | .getLock name => .request (.getLock name) .pure
  | .releaseLock name => .request (.releaseLock name) .pure
  | .destroySession => .request .destroySession .pure
  | op => .request (.callback keys op) .pure

/-- A request of a callback: neither named locks nor the session. -/
def ControlOp.LeavesLocks : ControlOp → Prop
  | .getConnection | .releaseConnection | .getLock _ | .releaseLock _ | .destroySession => False
  | _ => True

/-- The lease of a connection for each call, and the lock table of the server: the session that
holds a lock, and how many times. A session that is neither leased nor destroyed is in the pool. -/
structure LockTable (Tid Sid : Type) where
  lease : Tid → Option Sid
  destroyed : Sid → Prop
  owner : String → Option (Sid × Nat)

namespace LockTable

variable {Tid Sid : Type} [DecidableEq Tid] [DecidableEq Sid] (w : LockTable Tid Sid)

/-- The session holds the lock. -/
def Holds (s : Sid) (name : String) : Prop := ∃ n, w.owner name = some (s, n)

/-- `RELEASE_LOCK` in this session: one level of the lock, if it is the holder. -/
def release (s : Sid) (name : String) : LockTable Tid Sid :=
  { w with owner := Function.update w.owner name (match w.owner name with
      | some (holder, n) =>
        if holder = s then (if n ≤ 1 then none else some (s, n - 1)) else some (holder, n)
      | none => none) }

/-- A session of these calls. -/
def LeasedIn (S : Set Tid) (s : Sid) : Prop := ∃ i ∈ S, w.lease i = some s

omit [DecidableEq Tid] [DecidableEq Sid] in
/-- The sessions of these calls end: the server frees their locks. -/
structure Destroys (S : Set Tid) (w w' : LockTable Tid Sid) : Prop where
  ended : ∀ i ∈ S, w'.lease i = none
  lease : ∀ i ∉ S, w'.lease i = w.lease i
  destroyed : ∀ s, w'.destroyed s ↔ w.destroyed s ∨ w.LeasedIn S s
  freed : ∀ name s n, w.owner name = some (s, n) → w.LeasedIn S s → w'.owner name = none
  owner : ∀ name, (∀ s n, w.owner name = some (s, n) → ¬ w.LeasedIn S s) →
    w'.owner name = w.owner name

end LockTable

section Machine

variable {Tid Sid : Type} [DecidableEq Tid] [DecidableEq Sid]

def LockPerforms (i : Tid) : (op : LockOp) → LockTable Tid Sid → op.Ans → LockTable Tid Sid → Prop
  | .getConnection, w, (answer : Except Failure Unit), w' =>
    match answer with
    | .ok () => ∃ s, ¬ w.destroyed s ∧ (∀ j, w.lease j ≠ some s) ∧
        w' = { w with lease := Function.update w.lease i (some s) }
    | .error _ => w' = w
  | .releaseConnection, w, _, w' => w' = { w with lease := Function.update w.lease i none }
  | .getLock name, w, (answer : Except Failure Bool), w' =>
    match answer with
    | .ok true => ∃ s, w.lease i = some s ∧
        ((w.owner name = none ∧
            w' = { w with owner := Function.update w.owner name (some (s, 1)) }) ∨
          ∃ n, w.owner name = some (s, n) ∧
            w' = { w with owner := Function.update w.owner name (some (s, n + 1)) })
    | .ok false | .error _ => w' = w
  | .releaseLock name, w, (answer : Except Failure Unit), w' =>
    match answer with
    | .ok () => ∃ s, w.lease i = some s ∧ w' = w.release s name
    | .error _ => w' = w ∨ ∃ s, w.lease i = some s ∧ w' = w.release s name
  | .destroySession, w, _, w' => LockTable.Destroys {i} w w'
  | .callback _ _, w, _, w' => w' = w

/-- Calls may die at any time, and their sessions with them. -/
def lockMachine (Tid Sid : Type) [DecidableEq Tid] [DecidableEq Sid] :
    Machine Tid LockOp LockOp.Ans (LockTable Tid Sid) where
  perform := LockPerforms
  env _ _ := False
  crash S w w' := LockTable.Destroys S w w'

/-- A call of one of the processes, with any keys and any callback. -/
inductive LockedCall (P : Processes) {α : Type} : LockProgram α → Prop where
  | call {settings keys fn} (hsettings : settings ∈ P.settings)
      (hfn : fn.Uses ControlOp.LeavesLocks) :
      LockedCall P ((withResourceLocks settings keys fn).link (onSession keys))

/-- Nothing is leased, and no lock is held. -/
def freshTable (Tid Sid : Type) : LockTable Tid Sid :=
    ⟨fun _ => none, fun _ => False, fun _ => none⟩

abbrev LockConfig (Tid Sid α : Type) := Config Tid LockOp LockOp.Ans Failure α (LockTable Tid Sid)

def LockReachable (P : Processes) {α : Type} : LockConfig Tid Sid α → Prop :=
  Reachable (lockMachine Tid Sid) (LockedCall P) (freshTable Tid Sid)

end Machine

/-! ## Where a call is -/

section Points

variable {α : Type} {lockName : LockKey → String} {keys : List LockKey}

/-- The names of the locks, in the order in which they are taken. -/
def lockNames (lockName : LockKey → String) (keys : List LockKey) : List String :=
  sortedUnique (keys.map lockName)

theorem lockNames_sorted (lockName : LockKey → String) (keys : List LockKey) :
    (lockNames lockName keys).Pairwise (· < ·) := by
  have hle : (lockNames lockName keys).Pairwise (· ≤ ·) := List.pairwise_mergeSort' _ _
  have hnodup : (lockNames lockName keys).Nodup :=
    (List.mergeSort_perm _ _).nodup_iff.mpr (List.nodup_dedup _)
  exact hle.imp₂ (fun a b hab hne => lt_of_le_of_ne hab hne) hnodup

/-- What a call that has these locks, the last one first, asks for next. -/
inductive Point (lockName : LockKey → String) (keys : List LockKey) :
    LockProgram α → List String → Prop where
  | acquiring {p fn name rest acquired} (hfn : fn.Uses ControlOp.LeavesLocks)
      (hnames : acquired.reverse ++ name :: rest = lockNames lockName keys)
      (hp : p = .request (.getLock name) fun (answer : Except Failure Bool) =>
        link (onSession keys) (match answer with
          | .ok true => withNamedLocks fn rest (name :: acquired)
          | .ok false => (Program.throw (.conflict
              "Another mutation is in progress for an affected resource")).andFinally
                (releaseLocks acquired)
          | .error e => (Program.throw e).andFinally (releaseLocks acquired))) :
      Point lockName keys p acquired
  | running {p op} {k : op.Ans → ControlProgram α} {acquired}
      (hk : ∀ x, (k x).Uses ControlOp.LeavesLocks)
      (hnames : acquired.reverse = lockNames lockName keys)
      (hp : p = .request (.callback keys op) fun x =>
        link (onSession keys) ((k x).andFinally (releaseLocks acquired))) :
      Point lockName keys p acquired
  | releasing {p name rest} (r : Except Failure α) (hnodup : (name :: rest).Nodup)
      (hp : p = .request (.releaseLock name) fun (answer : Except Failure Unit) =>
        link (onSession keys) ((match answer with
          | .ok () => releaseLocks rest
          | .error _ => Program.perform ControlOp.destroySession).bind
            fun _ => Program.ofExcept r)) :
      Point lockName keys p (name :: rest)
  | released {p} (r : Except Failure α)
      (hp : p = .request .releaseConnection fun _ => Program.ofExcept r) : Point lockName keys p []

theorem link_ofExcept {r : Except Failure α} :
    link (onSession keys) (Program.ofExcept r) = Program.ofExcept r := by
  cases r <;> rfl

theorem Point.of_releaseLocks {acquired : List String} (hnodup : acquired.Nodup)
    (r : Except Failure α) :
    Point lockName keys (link (onSession keys)
      ((releaseLocks acquired).bind fun _ => Program.ofExcept r)) acquired := by
  cases acquired with
  | nil =>
    exact .released r (congrArg (Program.request LockOp.releaseConnection)
      (funext fun _ => link_ofExcept))
  | cons name rest =>
    refine .releasing r hnodup (congrArg (Program.request (LockOp.releaseLock name)) ?_)
    funext answer
    cases answer <;> rfl

theorem onSession_callback {op : ControlOp} (h : op.LeavesLocks) :
    onSession keys op = .request (.callback keys op) .pure := by
  cases op <;> first | rfl | exact h.elim

theorem Point.of_callback {fn : ControlProgram α} {acquired : List String}
    (hfn : fn.Uses ControlOp.LeavesLocks) (hnames : acquired.reverse = lockNames lockName keys) :
    Point lockName keys (link (onSession keys) (fn.andFinally (releaseLocks acquired)))
      acquired := by
  have hnodup : acquired.Nodup := by
    rw [← List.nodup_reverse, hnames]
    exact (lockNames_sorted lockName keys).imp ne_of_lt
  cases fn with
  | pure a => exact .of_releaseLocks hnodup (.ok a)
  | throw e => exact .of_releaseLocks hnodup (.error e)
  | request op k =>
    refine .running hfn.2 hnames ?_
    change (onSession keys op).bind _ = _
    rw [onSession_callback hfn.1]
    rfl

theorem Point.of_withNamedLocks {fn : ControlProgram α} {acquired rest : List String}
    (hfn : fn.Uses ControlOp.LeavesLocks)
    (hnames : acquired.reverse ++ rest = lockNames lockName keys) :
    Point lockName keys (link (onSession keys) (withNamedLocks fn rest acquired)) acquired := by
  cases rest with
  | nil => exact .of_callback hfn (by simpa using hnames)
  | cons name rest => exact .acquiring hfn hnames rfl

end Points

/-! ## The invariant -/

section Invariant

variable {Tid Sid α : Type} {lockName : LockKey → String} {w w' : LockTable Tid Sid} {i j : Tid}

/-- The program has ended. -/
def Finished (p : LockProgram α) : Prop := ∀ op k, p ≠ .request op k

theorem finished_throw {e : Failure} : Finished (.throw e : LockProgram α) := by
  intro op k h
  cases h

theorem finished_ofExcept {r : Except Failure α} : Finished (Program.ofExcept r) := by
  intro op k h
  cases r <;> cases h

/-- The session holds exactly these locks, each of them once. -/
def HoldsExactly (w : LockTable Tid Sid) (s : Sid) (names : List String) : Prop :=
  ∀ name n, w.owner name = some (s, n) ↔ name ∈ names ∧ n = 1

/-- Where thread `i` is, and what its session holds. -/
inductive Located (lockName : LockKey → String) (w : LockTable Tid Sid) (i : Tid) :
    LockProgram α → Prop where
  | starting {p keys fn} (hlease : w.lease i = none) (hfn : fn.Uses ControlOp.LeavesLocks)
      (hp : p = .request .getConnection fun (answer : Except Failure Unit) =>
        link (onSession keys) (match answer with
          | .error e => .throw e
          | .ok () => withNamedLocks fn (lockNames lockName keys) [])) : Located lockName w i p
  | inside {p keys acquired s} (hlease : w.lease i = some s)
      (hpoint : Point lockName keys p acquired)
      (hheld : HoldsExactly w s acquired) : Located lockName w i p
  | destroying {p} (r : Except Failure α) (s : Sid) (hlease : w.lease i = some s)
      (hp : p = .request .destroySession fun _ => Program.ofExcept r) : Located lockName w i p
  | ended {p} (hlease : w.lease i = none) (hp : Finished p) : Located lockName w i p

/-- A call keeps its session, and the session keeps its locks. -/
structure SameForOther (j : Tid) (w w' : LockTable Tid Sid) : Prop where
  lease : w'.lease j = w.lease j
  owner : ∀ s, w.lease j = some s → ∀ name n,
    w'.owner name = some (s, n) ↔ w.owner name = some (s, n)

theorem SameForOther.refl : SameForOther j w w := ⟨rfl, fun _ _ _ _ => Iff.rfl⟩

theorem Located.untouched {p : LockProgram α} (h : Located lockName w j p)
    (hw : SameForOther j w w') : Located lockName w' j p := by
  cases h with
  | starting hnone hfn hp => exact .starting (hw.lease.trans hnone) hfn hp
  | inside hsome hpoint hheld =>
    refine .inside (hw.lease.trans hsome) hpoint fun name n => ?_
    rw [hw.owner _ hsome]
    exact hheld name n
  | destroying r s hsome hp => exact .destroying r s (hw.lease.trans hsome) hp
  | ended hnone hp => exact .ended (hw.lease.trans hnone) hp

/-- The calls other than `i` are left alone. -/
def Others (i : Tid) (w w' : LockTable Tid Sid) : Prop := ∀ j, j ≠ i → SameForOther j w w'

theorem Others.refl : Others i w w := fun _ _ => .refl

/-- Leases are exclusive, and every lock is held by a session that is leased. -/
structure TableInv (w : LockTable Tid Sid) : Prop where
  exclusive : ∀ i j s, w.lease i = some s → w.lease j = some s → i = j
  owned : ∀ name s n, w.owner name = some (s, n) → ∃ i, w.lease i = some s

structure LockInv (lockName : LockKey → String) (c : LockConfig Tid Sid α) : Prop where
  table : TableInv c.state
  idle : ∀ i, c.thread i = none → c.state.lease i = none
  located : ∀ i p, c.thread i = some p → Located lockName c.state i p

end Invariant

/-! ## One request -/

section Steps

variable {Tid Sid α : Type} [DecidableEq Tid] [DecidableEq Sid] {lockName : LockKey → String}
  {w w' : LockTable Tid Sid} {i : Tid} {s : Sid} {name : String} {keys : List LockKey}
  {acquired rest : List String}

omit [DecidableEq Tid] [DecidableEq Sid] in
theorem take_lock (hinv : TableInv w) (hlease : w.lease i = some s)
    (hheld : HoldsExactly w s acquired) (hfree : w.owner name = none)
    (hw : w' = { w with owner := Function.update w.owner name (some (s, 1)) }) :
    TableInv w' ∧ Others i w w' ∧ HoldsExactly w' s (name :: acquired) := by
  subst hw
  refine ⟨⟨hinv.exclusive, fun other s' n h => ?_⟩, fun j hji => ⟨rfl, fun s' hj other n => ?_⟩,
    fun other n => ?_⟩
  · by_cases hname : other = name
    · subst hname
      obtain ⟨rfl, -⟩ : s = s' ∧ 1 = n := by simpa using h
      exact ⟨i, hlease⟩
    · exact hinv.owned other s' n (by simpa [hname] using h)
  · by_cases hname : other = name
    · subst hname
      have hne : s ≠ s' := by
        rintro rfl
        exact hji (hinv.exclusive j i s hj hlease)
      simp [hfree, hne]
    · simp [hname]
  · by_cases hname : other = name
    · subst hname
      simp [eq_comm]
    · simp [hname, hheld other n]

omit [DecidableEq Tid] in
theorem release_lock (hinv : TableInv w) (hlease : w.lease i = some s)
    (hheld : HoldsExactly w s (name :: rest)) (hnodup : (name :: rest).Nodup) :
    TableInv (w.release s name) ∧ Others i w (w.release s name) ∧
      HoldsExactly (w.release s name) s rest := by
  have howner : w.owner name = some (s, 1) := (hheld name 1).mpr ⟨List.mem_cons_self, rfl⟩
  have hnot : name ∉ rest := (List.nodup_cons.mp hnodup).1
  have hrelease : w.release s name = { w with owner := Function.update w.owner name none } := by
    simp [LockTable.release, howner]
  rw [hrelease]
  refine ⟨⟨hinv.exclusive, fun other s' n h => ?_⟩, fun j hji => ⟨rfl, fun s' hj other n => ?_⟩,
    fun other n => ?_⟩
  · by_cases hname : other = name
    · simp [hname] at h
    · exact hinv.owned other s' n (by simpa [hname] using h)
  · by_cases hname : other = name
    · have hne : s ≠ s' := by
        rintro rfl
        exact hji (hinv.exclusive j i s hj hlease)
      simp [hname, howner, hne]
    · simp [hname]
  · by_cases hname : other = name
    · simp [hname, hnot]
    · simp [hname, hheld other n]

omit [DecidableEq Tid] [DecidableEq Sid] in
/-- The end of some sessions leaves the other calls alone. -/
theorem TableInv.destroys {S : Set Tid} (hinv : TableInv w) (h : LockTable.Destroys S w w') :
    TableInv w' ∧ ∀ j ∉ S, SameForOther j w w' := by
  have hlease {j : Tid} {s : Sid} (hj : w'.lease j = some s) : j ∉ S ∧ w.lease j = some s := by
    by_cases hjS : j ∈ S
    · rw [h.ended j hjS] at hj
      cases hj
    · exact ⟨hjS, (h.lease j hjS).symm.trans hj⟩
  have howner {name : String} {s : Sid} {n : Nat} (hname : w'.owner name = some (s, n)) :
      w.owner name = some (s, n) ∧ ¬ w.LeasedIn S s := by
    cases hold : w.owner name with
    | none =>
      rw [h.owner name (by simp [hold]), hold] at hname
      cases hname
    | some held =>
      obtain ⟨s', n'⟩ := held
      by_cases hin : w.LeasedIn S s'
      · rw [h.freed name s' n' hold hin] at hname
        cases hname
      · have hkept : ∀ t m, w.owner name = some (t, m) → ¬ w.LeasedIn S t := by
          intro t m ht
          rw [hold] at ht
          cases ht
          exact hin
        rw [h.owner name hkept, hold] at hname
        cases hname
        exact ⟨rfl, hin⟩
  have hnotIn {j : Tid} {s : Sid} (hjS : j ∉ S) (hj : w.lease j = some s) : ¬ w.LeasedIn S s := by
    rintro ⟨i, hiS, hi⟩
    exact hjS (hinv.exclusive i j s hi hj ▸ hiS)
  refine ⟨⟨fun i j s hi hj => ?_, fun name s n hname => ?_⟩, fun j hjS => ⟨h.lease j hjS,
    fun s hj name n => ⟨fun hname => (howner hname).1, fun hname => ?_⟩⟩⟩
  · exact hinv.exclusive i j s (hlease hi).2 (hlease hj).2
  · obtain ⟨hold, hout⟩ := howner hname
    obtain ⟨j, hj⟩ := hinv.owned name s n hold
    have hjS : j ∉ S := fun hjS => hout ⟨j, hjS, hj⟩
    exact ⟨j, (h.lease j hjS).trans hj⟩
  · rw [h.owner name, hname]
    intro t m ht
    rw [hname] at ht
    cases ht
    exact hnotIn hjS hj

omit [DecidableEq Sid] in
/-- A connection of the pool is leased. It holds nothing, because nobody has leased it. -/
theorem take_session (hinv : TableInv w) (hfree : ∀ j, w.lease j ≠ some s)
    (hnone : w.lease i = none) (hw : w' = { w with lease := Function.update w.lease i (some s) }) :
    TableInv w' ∧ Others i w w' ∧ w'.lease i = some s ∧ HoldsExactly w' s [] := by
  subst hw
  have hunheld (name : String) (n : Nat) : w.owner name ≠ some (s, n) := by
    intro howner
    obtain ⟨j, hj⟩ := hinv.owned name s n howner
    exact hfree j hj
  refine ⟨⟨fun j k t hj hk => ?_, fun name t n howner => ?_⟩,
    fun j hji => ⟨by simp [hji], fun _ _ _ _ => Iff.rfl⟩, by simp, fun name n => ?_⟩
  · by_cases hji : j = i <;> by_cases hki : k = i
    · rw [hji, hki]
    · obtain rfl : s = t := by simpa [hji] using hj
      exact absurd (by simpa [hki] using hk) (hfree k)
    · obtain rfl : s = t := by simpa [hki] using hk
      exact absurd (by simpa [hji] using hj) (hfree j)
    · exact hinv.exclusive j k t (by simpa [hji] using hj) (by simpa [hki] using hk)
  · obtain ⟨j, hj⟩ := hinv.owned name t n howner
    have hji : j ≠ i := by
      rintro rfl
      rw [hnone] at hj
      cases hj
    exact ⟨j, by simpa [hji] using hj⟩
  · simp [hunheld]

omit [DecidableEq Sid] in
theorem return_session (hinv : TableInv w) (hlease : w.lease i = some s)
    (hheld : HoldsExactly w s []) (hw : w' = { w with lease := Function.update w.lease i none }) :
    TableInv w' ∧ Others i w w' ∧ w'.lease i = none := by
  subst hw
  have hleased {j : Tid} {t : Sid} (hj : Function.update w.lease i none j = some t) :
      w.lease j = some t := by
    by_cases hji : j = i
    · simp [hji] at hj
    · simpa [hji] using hj
  refine ⟨⟨fun j k t hj hk => hinv.exclusive j k t (hleased hj) (hleased hk),
    fun name t n howner => ?_⟩, fun j hji => ⟨by simp [hji], fun _ _ _ _ => Iff.rfl⟩, by simp⟩
  obtain ⟨j, hj⟩ := hinv.owned name t n howner
  have hji : j ≠ i := by
    rintro rfl
    obtain rfl : s = t := Option.some.inj (hlease.symm.trans hj)
    simpa using (hheld name n).mp howner
  exact ⟨j, by simpa [hji] using hj⟩

theorem Point.perform {op : LockOp} {k : op.Ans → LockProgram α} {a : op.Ans} (hinv : TableInv w)
    (hlease : w.lease i = some s) (hheld : HoldsExactly w s acquired)
    (h : Point lockName keys (.request op k) acquired) (hperf : LockPerforms i op w a w') :
    TableInv w' ∧ Others i w w' ∧ Located lockName w' i (k a) := by
  cases h with
  | @acquiring fn name rest _ hfn hnames hp =>
    cases hp
    have hfresh : name ∉ acquired ∧ acquired.Nodup := by
      have hsorted := lockNames_sorted lockName keys
      rw [← hnames, List.pairwise_append] at hsorted
      refine ⟨fun hmem => ?_, List.nodup_reverse.mp (hsorted.1.imp ne_of_lt)⟩
      exact lt_irrefl name (hsorted.2.2 name (List.mem_reverse.mpr hmem) name List.mem_cons_self)
    match a, hperf with
    | .ok true, ⟨t, ht, hgrant⟩ =>
      obtain rfl : s = t := Option.some.inj (hlease.symm.trans ht)
      rcases hgrant with ⟨hfree, hw⟩ | ⟨n, howner, -⟩
      · obtain ⟨hinv', hothers, hheld'⟩ := take_lock hinv hlease hheld hfree hw
        refine ⟨hinv', hothers, .inside (s := s) ?_ (.of_withNamedLocks hfn ?_) hheld'⟩
        · rw [hw]
          exact hlease
        · simpa using hnames
      · exact absurd ((hheld name n).mp howner).1 hfresh.1
    | .ok false, hperf =>
      obtain rfl : w' = w := hperf
      exact ⟨hinv, .refl, .inside hlease (.of_releaseLocks hfresh.2 (.error _)) hheld⟩
    | .error e, hperf =>
      obtain rfl : w' = w := hperf
      exact ⟨hinv, .refl, .inside hlease (.of_releaseLocks hfresh.2 (.error e)) hheld⟩
  | running hk hnames hp =>
    cases hp
    obtain rfl : w' = w := hperf
    exact ⟨hinv, .refl, .inside hlease (.of_callback (hk a) hnames) hheld⟩
  | @releasing name rest r hnodup hp =>
    cases hp
    have hgiven := release_lock hinv hlease hheld hnodup
    have hdestroys : link (onSession keys) ((Program.perform ControlOp.destroySession).bind
        fun _ => Program.ofExcept r) = .request .destroySession fun _ => Program.ofExcept r :=
      congrArg (Program.request LockOp.destroySession) (funext fun _ => link_ofExcept)
    match a, hperf with
    | .ok (), ⟨t, ht, hw⟩ =>
      obtain rfl : s = t := Option.some.inj (hlease.symm.trans ht)
      subst hw
      exact ⟨hgiven.1, hgiven.2.1,
        .inside hlease (.of_releaseLocks (List.nodup_cons.mp hnodup).2 r) hgiven.2.2⟩
    | .error e, hperf =>
      rcases hperf with hw | ⟨t, ht, hw⟩
      · subst hw
        exact ⟨hinv, .refl, .destroying r s hlease hdestroys⟩
      · obtain rfl : s = t := Option.some.inj (hlease.symm.trans ht)
        subst hw
        exact ⟨hgiven.1, hgiven.2.1, .destroying r s hlease hdestroys⟩
  | released r hp =>
    cases hp
    obtain ⟨hinv', hothers, hnone⟩ := return_session hinv hlease hheld hperf
    exact ⟨hinv', hothers, .ended hnone finished_ofExcept⟩

theorem Located.perform {op : LockOp} {k : op.Ans → LockProgram α} {a : op.Ans} (hinv : TableInv w)
    (h : Located lockName w i (.request op k)) (hperf : LockPerforms i op w a w') :
    TableInv w' ∧ Others i w w' ∧ Located lockName w' i (k a) := by
  cases h with
  | @starting keys fn hnone hfn hp =>
    cases hp
    match a, hperf with
    | .error e, hperf =>
      obtain rfl : w' = w := hperf
      exact ⟨hinv, .refl, .ended hnone finished_throw⟩
    | .ok (), ⟨s, _, hfree, hw⟩ =>
      obtain ⟨hinv', hothers, hlease, hheld⟩ := take_session hinv hfree hnone hw
      exact ⟨hinv', hothers, .inside hlease (.of_withNamedLocks hfn (by simp)) hheld⟩
  | inside hlease hpoint hheld => exact hpoint.perform hinv hlease hheld hperf
  | destroying r s hlease hp =>
    cases hp
    obtain ⟨hinv', hothers⟩ := hinv.destroys hperf
    exact ⟨hinv', hothers, .ended (hperf.ended i rfl) finished_ofExcept⟩
  | ended hnone hp => exact absurd rfl (hp op k)

end Steps

/-! ## Every run -/

section Runs

variable {Tid Sid α : Type} [DecidableEq Tid] [DecidableEq Sid] {P : Processes}
  {c c' : LockConfig Tid Sid α} {i j : Tid}

omit [DecidableEq Tid] [DecidableEq Sid] in
theorem LockedCall.located {p : LockProgram α} (h : LockedCall P p) {w : LockTable Tid Sid}
    (hlease : w.lease i = none) : Located P.lockName w i p := by
  obtain @⟨settings, keys, fn, hsettings, hfn⟩ := h
  have hp : link (onSession keys) (withResourceLocks settings keys fn) =
      .request .getConnection fun (answer : Except Failure Unit) =>
        link (onSession keys) (match answer with
          | .error e => .throw e
          | .ok () => withNamedLocks fn (lockNames P.lockName keys) []) := by
    rw [lockNames, ← P.names settings hsettings]
    refine congrArg (Program.request LockOp.getConnection) (funext fun answer => ?_)
    cases answer <;> rfl
  exact .starting hlease hfn hp

omit [DecidableEq Sid] in
theorem LockInv.update (h : LockInv P.lockName c) {w' : LockTable Tid Sid}
    {t : Option (LockProgram α)}
    (htable : TableInv w') (hothers : Others i c.state w') (hnone : t = none → w'.lease i = none)
    (hsome : ∀ p, t = some p → Located P.lockName w' i p) :
    LockInv P.lockName ⟨Function.update c.thread i t, w'⟩ := by
  refine ⟨htable, fun j hj => ?_, fun j p hj => ?_⟩
  · by_cases hji : j = i
    · subst hji
      exact hnone (by simpa using hj)
    · exact (hothers j hji).lease.trans (h.idle j (by simpa [hji] using hj))
  · by_cases hji : j = i
    · subst hji
      exact hsome p (by simpa using hj)
    · exact (h.located j p (by simpa [hji] using hj)).untouched (hothers j hji)

theorem LockInv.step (h : LockInv P.lockName c)
    (hstep : Step (lockMachine Tid Sid) (LockedCall P) c c') : LockInv P.lockName c' := by
  cases hstep with
  | @spawn i p hnone hp =>
    exact h.update h.table .refl nofun fun q hq => Option.some.inj hq ▸ hp.located (h.idle i hnone)
  | @perform i op k a w' hi hperf =>
    obtain ⟨htable, hothers, hlocated⟩ := (h.located i _ hi).perform h.table hperf
    exact h.update htable hothers nofun fun q hq => Option.some.inj hq ▸ hlocated
  | @finish i p hi hend =>
    refine h.update h.table .refl (fun _ => ?_) nofun
    cases h.located i p hi with
    | starting hnone _ _ => exact hnone
    | inside _ hpoint _ => cases hpoint <;> exact absurd ‹_› (hend _ _)
    | destroying _ _ _ hp => exact absurd hp (hend _ _)
    | ended hnone _ => exact hnone
  | env henv => exact henv.elim
  | crash S hcrash =>
    obtain ⟨htable, hothers⟩ := h.table.destroys hcrash
    refine ⟨htable, fun j hj => ?_, fun j p hj => ?_⟩
    · by_cases hjS : j ∈ S
      · exact hcrash.ended j hjS
      · exact (hothers j hjS).lease.trans (h.idle j (by simpa [hjS] using hj))
    · have hjS : j ∉ S := by
        intro hjS
        simp [hjS] at hj
      exact (h.located j p (by simpa [hjS] using hj)).untouched (hothers j hjS)

theorem LockReachable.inv (hc : LockReachable P c) : LockInv P.lockName c := by
  induction hc with
  | init => exact ⟨⟨nofun, nofun⟩, fun _ _ => rfl, nofun⟩
  | step _ hstep ih => exact ih.step hstep

end Runs

/-! ## Waiting -/

section Waiting

variable {Tid Sid α : Type} {P : Processes} {c : LockConfig Tid Sid α} {i j : Tid}

/-- The call asks for this lock. -/
def Wants (c : LockConfig Tid Sid α) (i : Tid) (name : String) : Prop :=
  ∃ k, c.thread i = some (.request (.getLock name) k)

/-- The call asks for a lock that the session of another call holds. -/
def WaitsFor (c : LockConfig Tid Sid α) (i j : Tid) : Prop :=
  ∃ name s, Wants c i name ∧ c.state.lease j = some s ∧ c.state.Holds s name

/-- The call is in its callback. -/
def InCallback (c : LockConfig Tid Sid α) (i : Tid) (keys : List LockKey) : Prop :=
  ∃ op k, c.thread i = some (.request (.callback keys op) k)

/-- A call that asks for a lock has only smaller ones. -/
theorem LockInv.lt_wanted (h : LockInv P.lockName c) {name held : String} {s : Sid}
    (hwants : Wants c i name) (hlease : c.state.lease i = some s) (hheld : c.state.Holds s held) :
    held < name := by
  obtain ⟨k, hi⟩ := hwants
  cases h.located i _ hi with
  | starting _ _ hp => cases hp
  | destroying _ _ _ hp => cases hp
  | ended _ hp => exact absurd rfl (hp _ _)
  | inside hsome hpoint hexactly =>
    obtain rfl : s = _ := Option.some.inj (hlease.symm.trans hsome)
    obtain ⟨n, howner⟩ := hheld
    have hmem := ((hexactly held n).mp howner).1
    cases hpoint with
    | acquiring _ hnames hp =>
      cases hp
      have hsorted := lockNames_sorted P.lockName ‹_›
      rw [← hnames, List.pairwise_append] at hsorted
      exact hsorted.2.2 held (List.mem_reverse.mpr hmem) name List.mem_cons_self
    | running _ _ hp => cases hp
    | releasing _ _ hp => cases hp
    | released _ hp => cases hp

theorem Wants.unique {name name' : String} (h : Wants c i name) (h' : Wants c i name') :
    name = name' := by
  obtain ⟨k, hk⟩ := h
  obtain ⟨k', hk'⟩ := h'
  rw [hk] at hk'
  cases hk'
  rfl

/-- Along the edges of the wait graph the wanted names grow. -/
theorem LockInv.waits_lt (h : LockInv P.lockName c) (hwaits : Relation.TransGen (WaitsFor c) i j)
    {name name' : String} (hi : Wants c i name) (hj : Wants c j name') : name < name' := by
  induction hwaits generalizing name' with
  | single hedge =>
    obtain ⟨held, s, hwants, hlease, hholds⟩ := hedge
    rw [hi.unique hwants]
    exact h.lt_wanted hj hlease hholds
  | tail _ hedge ih =>
    obtain ⟨held, s, hwants, hlease, hholds⟩ := hedge
    exact lt_trans (ih hwants) (h.lt_wanted hj hlease hholds)

theorem LockInv.holds (h : LockInv P.lockName c) {keys : List LockKey} (hin : InCallback c i keys) :
    ∃ s, c.state.lease i = some s ∧ ∀ key ∈ keys, c.state.Holds s (P.lockName key) := by
  obtain ⟨op, k, hi⟩ := hin
  cases h.located i _ hi with
  | starting _ _ hp => cases hp
  | destroying _ _ _ hp => cases hp
  | ended _ hp => exact absurd rfl (hp _ _)
  | @inside _ acquired s hlease hpoint hexactly =>
    refine ⟨s, hlease, fun key hkey => ⟨1, (hexactly _ 1).mpr ⟨?_, rfl⟩⟩⟩
    cases hpoint with
    | acquiring _ _ hp => cases hp
    | running _ hnames hp =>
      cases hp
      rw [← List.mem_reverse, hnames, lockNames, mem_sortedUnique]
      exact List.mem_map_of_mem hkey
    | releasing _ _ hp => cases hp
    | released _ hp => cases hp

/-- What is true of the locks and sessions at any time. -/
structure LocksSafe (lockName : LockKey → String) (c : LockConfig Tid Sid α) : Prop where
  acyclic : ∀ i, ¬ Relation.TransGen (WaitsFor c) i i
  exclusive : ∀ i j keys keys', i ≠ j → InCallback c i keys → InCallback c j keys' →
    ∀ key ∈ keys, key ∉ keys'
  held : ∀ i keys, InCallback c i keys → ∃ s, c.state.lease i = some s ∧
    ∀ key ∈ keys, c.state.Holds s (lockName key)
  /-- A call that has ended has no session any more. -/
  ended : ∀ i, (∀ op k, c.thread i ≠ some (.request op k)) → c.state.lease i = none
  /-- A session in the pool, or one that was destroyed, holds no lock. -/
  returned : ∀ s, (∀ i, c.state.lease i ≠ some s) → ∀ name, ¬ c.state.Holds s name

end Waiting

/-- However many calls there are, whatever their keys and callbacks and whichever queries fail:
waiting has no cycle, callbacks with a common key exclude each other and no lock is leaked. -/
theorem resource_locks_safe {Tid Sid α : Type} [DecidableEq Tid] [DecidableEq Sid] (P : Processes)
    {c : LockConfig Tid Sid α} (hc : LockReachable P c) : LocksSafe P.lockName c where
  acyclic i hcycle := by
    obtain ⟨j, ⟨name, s, hwants, -⟩, -⟩ := Relation.TransGen.head'_iff.mp hcycle
    exact lt_irrefl name (hc.inv.waits_lt hcycle hwants hwants)
  exclusive i j keys keys' hij hi hj key hkey hkey' := by
    obtain ⟨s, hlease, hholds⟩ := hc.inv.holds hi
    obtain ⟨s', hlease', hholds'⟩ := hc.inv.holds hj
    obtain ⟨n, hn⟩ := hholds key hkey
    obtain ⟨n', hn'⟩ := hholds' key hkey'
    rw [hn] at hn'
    cases hn'
    exact hij (hc.inv.table.exclusive i j s hlease hlease')
  held _ _ := hc.inv.holds
  ended i hend := by
    cases hi : c.thread i with
    | none => exact hc.inv.idle i hi
    | some p =>
      rw [hi] at hend
      cases hc.inv.located i p hi with
      | starting hnone _ _ => exact hnone
      | inside _ hpoint _ => cases hpoint <;> exact absurd (congrArg some ‹_›) (hend _ _)
      | destroying _ _ _ hp => exact absurd (congrArg some hp) (hend _ _)
      | ended hnone _ => exact hnone
  returned s hfree name hholds := by
    obtain ⟨n, howner⟩ := hholds
    obtain ⟨i, hi⟩ := hc.inv.table.owned name s n howner
    exact hfree i hi

/-- The keys of the example, and the name of their lock. -/
def webKeys : List LockKey := serviceLockKeys "c" "web"

def webLock : String := readableLockName ⟨.service, "c", "web"⟩

/-- A call whose callback looks at the clock once. -/
def clockCall : LockProgram Unit :=
  (withResourceLocks plainProcess webKeys (now.bind fun _ => .pure ())).link (onSession webKeys)

theorem clockCall_eq : clockCall = .request .getConnection fun (answer : Except Failure Unit) =>
    link (onSession webKeys) (match answer with
      | .error e => .throw e
      | .ok () => withNamedLocks (now.bind fun _ => .pure ()) [webLock] []) := by
  have hnames : sortedUnique (webKeys.map plainProcess.namedLockName) = [webLock] := by
    simp [sortedUnique, webKeys, serviceLockKeys, webLock, plainProcess]
  rw [clockCall, withResourceLocks, hnames]
  rfl

/-- The session 0 is leased to the call 0 and holds the lock. -/
def clockTable : LockTable Nat Nat where
  lease := Function.update (fun _ => none) 0 (some 0)
  destroyed _ := False
  owner := Function.update (fun _ => none) webLock (some (0, 1))

theorem clockCall_runs : ∃ k, Runs (lockMachine Nat Nat) 0 clockCall (freshTable Nat Nat)
    (.request (.callback webKeys .now) k) clockTable := by
  have hconnect : (lockMachine Nat Nat).perform 0 .getConnection (freshTable Nat Nat) (.ok ())
      { freshTable Nat Nat with lease := clockTable.lease } := ⟨0, not_false, nofun, rfl⟩
  have hlock : (lockMachine Nat Nat).perform 0 (.getLock webLock)
      { freshTable Nat Nat with lease := clockTable.lease } (.ok true) clockTable :=
    ⟨0, rfl, .inl ⟨rfl, rfl⟩⟩
  rw [clockCall_eq]
  exact ⟨_, .step hconnect (.step hlock .refl)⟩

theorem clockCall_waits : ∃ k, Runs (lockMachine Nat Nat) 1 clockCall clockTable
    (.request (.getLock webLock) k)
    { clockTable with lease := Function.update clockTable.lease 1 (some 1) } := by
  have hfree (j : Nat) : clockTable.lease j ≠ some 1 := by
    by_cases hj : j = 0 <;> simp [clockTable, hj]
  have hconnect : (lockMachine Nat Nat).perform 1 .getConnection clockTable (.ok ())
      { clockTable with lease := Function.update clockTable.lease 1 (some 1) } :=
    ⟨1, not_false, hfree, rfl⟩
  rw [clockCall_eq]
  exact ⟨_, .step hconnect .refl⟩

/-- One call is in its callback and another one waits for its lock. -/
theorem clock_calls_safe :
    ∃ c : LockConfig Nat Nat Unit, LockReachable plainProcess.alone c ∧ InCallback c 0 webKeys ∧
      WaitsFor c 1 0 ∧ LocksSafe plainProcess.alone.lockName c := by
  have hcall : LockedCall plainProcess.alone clockCall := .call rfl ⟨trivial, fun _ => trivial⟩
  obtain ⟨k, hruns⟩ := clockCall_runs
  obtain ⟨k', hwaits⟩ := clockCall_waits
  have hinit : Reachable (lockMachine Nat Nat) (LockedCall plainProcess.alone) (freshTable Nat Nat)
      (⟨fun _ => none, freshTable Nat Nat⟩ : LockConfig Nat Nat Unit) := .init
  have hfirst := (hinit.step (.spawn (i := 0) rfl hcall)).steps (hruns.steps rfl rfl)
  have hsecond := (hfirst.step (.spawn (i := 1) rfl hcall)).steps (hwaits.steps rfl rfl)
  exact ⟨_, hsecond, ⟨_, _, rfl⟩, ⟨webLock, 0, ⟨_, rfl⟩, rfl, 1, rfl⟩,
    resource_locks_safe plainProcess.alone hsecond⟩

end Docklane.Control
