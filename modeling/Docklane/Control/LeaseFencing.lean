import Docklane.Control.Leases

/-!
# Fencing by the control lease

A transaction that has found the row of a lease keeps its lock until it ends, so the row stays as
the transaction has seen it: nobody else can issue a lease, or end this one, before the transaction
is committed or given up. That is what the transactions know while they run (`Holds`), and
everything about the tokens follows from it.
-/

namespace Docklane.Control

open Concurrent

/-! ## The history -/

/-- What was true of the history `log` when an event was added to it. -/
def LeaseEvent.Follows (log : List LeaseEvent) : LeaseEvent → Prop
  | .issued lease => ∀ older, .issued older ∈ log → older.clusterId = lease.clusterId →
      older.token < lease.token
  | .committed lease => ∀ other, .issued other ∈ log → other.clusterId = lease.clusterId →
      other.token ≤ lease.token
  | .released _ => True

def WellFenced : List LeaseEvent → Prop
  | [] => True
  | event :: log => event.Follows log ∧ WellFenced log

section Protocol

variable {Tid : Type}

structure LeaseInv (w : LeaseWorld Tid) : Prop where
  locked : ∀ c i, w.lock c = some i → w.active i = true
  keyed : ∀ c row, w.row c = some row → row.clusterId = c
  /-- A row that is about to be committed replaces an older one that has expired. -/
  pending : ∀ i row, w.pending i = some row → w.lock row.clusterId = some i ∧
    ∀ old, w.row row.clusterId = some old → old.token < row.token ∧ old.expiresAt ≤ w.clock
  issued : ∀ lease, .issued lease ∈ w.log → ∃ row, w.row lease.clusterId = some row ∧
    lease.token ≤ row.token
  logged : WellFenced w.log

/-- The transaction of `i` has written nothing and holds no lock. -/
def LeaseWorld.Clean (w : LeaseWorld Tid) (i : Tid) : Prop :=
  w.pending i = none ∧ ∀ c, w.lock c ≠ some i

/-- No transaction of `i` is open. -/
def LeaseWorld.Idle (w : LeaseWorld Tid) (i : Tid) : Prop := w.active i = false ∧ w.Clean i

/-- The others leave the transaction of `i` and the rows it has locked alone, unless the server
gives the transaction up. -/
structure LeaseRely (i : Tid) (w w' : LeaseWorld Tid) : Prop where
  clock : w.clock ≤ w'.clock
  kept : w'.Idle i ∨ w'.active i = w.active i ∧ w'.pending i = w.pending i ∧
    ∀ c, (w'.lock c = some i ↔ w.lock c = some i) ∧ (w.lock c = some i → w'.row c = w.row c)

/-- What a step may do to the row of a lease: nothing, end it in the name of this very lease, or
replace it by a later lease once it has expired. -/
def RowLaw (w w' : LeaseWorld Tid) : Prop :=
  ∀ c row, w.row c = some row → w'.row c = some row ∨
    (∃ t ≤ w.clock, w'.row c = some ⟨row.toMaintenanceLease, t⟩ ∧
      w'.log = .released row.toMaintenanceLease :: w.log) ∨
    ∃ next, w'.row c = some next ∧ row.token < next.token ∧ row.expiresAt ≤ w.clock ∧
      .issued next.toMaintenanceLease ∈ w'.log

theorem LeaseRely.refl (i : Tid) (w : LeaseWorld Tid) : LeaseRely i w w :=
  ⟨Nat.le_refl _, .inr ⟨rfl, rfl, fun _ => ⟨Iff.rfl, fun _ => rfl⟩⟩⟩

theorem LeaseRely.trans {i : Tid} {w₁ w₂ w₃ : LeaseWorld Tid} (h₁ : LeaseRely i w₁ w₂)
    (h₂ : LeaseRely i w₂ w₃) : LeaseRely i w₁ w₃ := by
  refine ⟨Nat.le_trans h₁.clock h₂.clock, ?_⟩
  rcases h₂.kept with hidle | ⟨hactive₂, hpending₂, hlock₂⟩
  · exact .inl hidle
  rcases h₁.kept with hidle | ⟨hactive₁, hpending₁, hlock₁⟩
  · refine .inl ⟨hactive₂.trans hidle.1, hpending₂.trans hidle.2.1, fun c hc => ?_⟩
    exact hidle.2.2 c ((hlock₂ c).1.mp hc)
  · refine .inr ⟨hactive₂.trans hactive₁, hpending₂.trans hpending₁, fun c => ?_⟩
    refine ⟨(hlock₂ c).1.trans (hlock₁ c).1, fun hc => ?_⟩
    exact ((hlock₂ c).2 ((hlock₁ c).1.mpr hc)).trans ((hlock₁ c).2 hc)

variable {w w' : LeaseWorld Tid}

theorem rowLaw_of_eq (h : w'.row = w.row) : RowLaw w w' :=
  fun c row hrow => .inl (by rw [h, hrow])

theorem LeaseRely.of_eq {j : Tid} (hclock : w'.clock = w.clock) (hactive : w'.active j = w.active j)
    (hpending : w'.pending j = w.pending j) (hlock : ∀ c, w'.lock c = some j ↔ w.lock c = some j)
    (hrow : ∀ c, w.lock c = some j → w'.row c = w.row c) : LeaseRely j w w' :=
  ⟨Nat.le_of_eq hclock.symm, .inr ⟨hactive, hpending, fun c => ⟨hlock c, hrow c⟩⟩⟩

theorem LeaseWorld.Idle.rely {i : Tid} (h : w.Idle i) (hr : LeaseRely i w w') : w'.Idle i := by
  rcases hr.kept with hidle | ⟨hactive, hpending, hlock⟩
  · exact hidle
  · exact ⟨hactive.trans h.1, hpending.trans h.2.1, fun c hc => h.2.2 c ((hlock c).1.mp hc)⟩

def leaseProtocol (Tid : Type) : Protocol Tid (LeaseWorld Tid) where
  Inv := LeaseInv
  Rely := LeaseRely
  Guar i w w' := (∀ j, j ≠ i → LeaseRely j w w') ∧ RowLaw w w'
  Idle i w := w.Idle i
  rely_refl := LeaseRely.refl
  rely_trans := LeaseRely.trans
  rely_of_guar hij _ hg := hg.1 _ (Ne.symm hij)
  idle_rely := fun h hr => h.rely hr

end Protocol

/-! ## The steps of a transaction -/

variable {c : String} {row : LeaseRow} {lease : MaintenanceLease} {t ttlSeconds : Nat}

section Steps

variable {Tid : Type} {w : LeaseWorld Tid} {i j : Tid}

theorem LeaseWorld.lock_take {c d : String} (hfree : w.FreeFor i c) (hj : j ≠ i) :
    (w.take i c).lock d = some j ↔ w.lock d = some j := by
  by_cases hd : d = c
  · subst hd
    rcases hfree with h | h <;> simp [LeaseWorld.take, h, Ne.symm hj]
  · simp [LeaseWorld.take, hd]

theorem LeaseRely.take (hfree : w.FreeFor i c) (hne : j ≠ i) : LeaseRely j w (w.take i c) :=
  .of_eq rfl rfl rfl (fun _ => LeaseWorld.lock_take hfree hne) fun _ _ => rfl

/-- The token of a row that is about to be committed is larger than every token issued before. -/
theorem LeaseInv.issued_lt (h : LeaseInv w) (hrow : w.pending i = some row)
    (hlease : .issued lease ∈ w.log) (hc : lease.clusterId = row.clusterId) :
    lease.token < row.token := by
  obtain ⟨old, hold, hle⟩ := h.issued lease hlease
  exact Nat.lt_of_le_of_lt hle ((h.pending i row hrow).2 old (hc ▸ hold)).1

/-! ### The end of a lease -/

theorem LeaseWorld.finish_cases (lease : MaintenanceLease) (t : Nat) :
    w.finish lease t = w ∨
      (∃ row, w.row lease.clusterId = some row ∧ row.toMaintenanceLease = lease) ∧
        w.finish lease t =
          { w with
            row := Function.update w.row lease.clusterId (some ⟨lease, t⟩)
            log := .released lease :: w.log } := by
  unfold finish
  split
  case h_1 row hrow =>
    split
    case isTrue heq => exact .inr ⟨⟨row, hrow, heq⟩, rfl⟩
    case isFalse => exact .inl rfl
  case h_2 => exact .inl rfl

theorem LeaseInv.finish (h : LeaseInv w) (hfree : w.lock lease.clusterId = none) (t : Nat) :
    LeaseInv (w.finish lease t) := by
  obtain hsame | ⟨⟨row, hrow, rfl⟩, hnew⟩ := w.finish_cases lease t
  · rwa [hsame]
  rw [hnew]
  refine ⟨h.locked, fun c other hother => ?_, fun j other hother => ?_, fun lease hlease => ?_,
    trivial, h.logged⟩
  · by_cases hc : c = row.clusterId
    · subst hc
      have hother : (⟨row.toMaintenanceLease, t⟩ : LeaseRow) = other := by simpa using hother
      rw [← hother]
    · exact h.keyed c other (by simpa [hc] using hother)
  · obtain ⟨hlock, hold⟩ := h.pending j other hother
    have hc : other.clusterId ≠ row.clusterId := by
      intro hc
      rw [hc, hfree] at hlock
      cases hlock
    exact ⟨hlock, fun old hold' => hold old (by simpa [hc] using hold')⟩
  · obtain ⟨old, hold, hle⟩ := h.issued lease (by simpa using hlease)
    by_cases hc : lease.clusterId = row.clusterId
    · rw [hc, hrow] at hold
      cases hold
      exact ⟨⟨row.toMaintenanceLease, t⟩, by simp [hc], hle⟩
    · exact ⟨old, by simpa [hc] using hold, hle⟩

theorem LeaseRely.finish (hfree : w.lock lease.clusterId = none) (t : Nat) :
    LeaseRely j w (w.finish lease t) := by
  obtain hsame | ⟨_, hnew⟩ := w.finish_cases lease t
  · rw [hsame]
    exact .refl j w
  rw [hnew]
  refine .of_eq rfl rfl rfl (fun _ => Iff.rfl) fun c hc => ?_
  have : c ≠ lease.clusterId := by
    rintro rfl
    rw [hfree] at hc
    cases hc
  exact Function.update_of_ne this _ _

theorem RowLaw.finish (ht : t ≤ w.clock) : RowLaw w (w.finish lease t) := by
  obtain hsame | ⟨⟨row, hrow, rfl⟩, hnew⟩ := w.finish_cases lease t
  · rw [hsame]
    exact rowLaw_of_eq rfl
  rw [hnew]
  intro c old hold
  by_cases hc : c = row.clusterId
  · subst hc
    rw [hrow] at hold
    cases hold
    exact .inr (.inl ⟨t, ht, by simp, rfl⟩)
  · exact .inl (by simpa [hc] using hold)

theorem LeaseRely.tick {clock : Nat} (h : w.clock ≤ clock) :
    LeaseRely i w { w with clock := clock } :=
  ⟨h, .inr ⟨rfl, rfl, fun _ => ⟨Iff.rfl, fun _ => rfl⟩⟩⟩

theorem LeaseInv.tick {clock : Nat} (h : LeaseInv w) (hclock : w.clock ≤ clock) :
    LeaseInv { w with clock := clock } where
  locked := h.locked
  keyed := h.keyed
  pending j row hrow := by
    obtain ⟨hlock, hold⟩ := h.pending j row hrow
    exact ⟨hlock, fun old hrow => ⟨(hold old hrow).1, Nat.le_trans (hold old hrow).2 hclock⟩⟩
  issued := h.issued
  logged := h.logged

variable [DecidableEq Tid]

namespace LeaseWorld

@[simp] theorem row_abort : (w.abort i).row = w.row := rfl
@[simp] theorem clock_abort : (w.abort i).clock = w.clock := rfl
@[simp] theorem log_abort : (w.abort i).log = w.log := rfl

theorem lock_abort : (w.abort i).lock c = some j ↔ w.lock c = some j ∧ j ≠ i := by
  simp only [abort]
  split
  case isTrue h => simp [h, eq_comm]
  case isFalse h =>
    refine ⟨fun hj => ⟨hj, ?_⟩, And.left⟩
    rintro rfl
    exact h hj

theorem active_abort (h : j ≠ i) : (w.abort i).active j = w.active j :=
  Function.update_of_ne h _ _

theorem pending_abort (h : j ≠ i) : (w.abort i).pending j = w.pending j :=
  Function.update_of_ne h _ _

theorem idle_abort : (w.abort i).Idle i := by
  refine ⟨Function.update_self .., Function.update_self .., fun c hc => ?_⟩
  exact (lock_abort.mp hc).2 rfl

end LeaseWorld

theorem LeaseInv.abort (h : LeaseInv w) : LeaseInv (w.abort i) where
  locked c j hj := by
    obtain ⟨hlock, hne⟩ := LeaseWorld.lock_abort.mp hj
    rw [LeaseWorld.active_abort hne]
    exact h.locked c j hlock
  keyed := h.keyed
  pending j row hrow := by
    by_cases hne : j = i
    · subst hne
      exact absurd hrow (by simp [LeaseWorld.abort])
    · rw [LeaseWorld.pending_abort hne] at hrow
      obtain ⟨hlock, hold⟩ := h.pending j row hrow
      exact ⟨LeaseWorld.lock_abort.mpr ⟨hlock, hne⟩, hold⟩
  issued := h.issued
  logged := h.logged

theorem LeaseRely.abort (i j : Tid) : LeaseRely j w (w.abort i) := by
  by_cases hne : j = i
  · subst hne
    exact ⟨Nat.le_refl _, .inl LeaseWorld.idle_abort⟩
  · refine .of_eq rfl (LeaseWorld.active_abort hne) (LeaseWorld.pending_abort hne) (fun c => ?_)
      fun _ _ => rfl
    simp [LeaseWorld.lock_abort, hne]

theorem LeaseInv.take (h : LeaseInv w) (hactive : w.active i = true) (hfree : w.FreeFor i c) :
    LeaseInv (w.take i c) where
  locked d j hj := by
    by_cases hne : j = i
    · rw [hne]
      exact hactive
    · exact h.locked d j ((LeaseWorld.lock_take hfree hne).mp hj)
  keyed := h.keyed
  pending j row hrow := by
    obtain ⟨hlock, hold⟩ := h.pending j row hrow
    refine ⟨?_, hold⟩
    by_cases hne : j = i
    · subst hne
      by_cases hc : row.clusterId = c <;> simp [LeaseWorld.take, hc, hlock]
    · exact (LeaseWorld.lock_take hfree hne).mpr hlock
  issued := h.issued
  logged := h.logged

theorem LeaseInv.write (h : LeaseInv w) (hlock : w.lock row.clusterId = some i)
    (hold : ∀ old, w.row row.clusterId = some old →
      old.token < row.token ∧ old.expiresAt ≤ w.clock) :
    LeaseInv (w.write i row) where
  locked := h.locked
  keyed := h.keyed
  pending j other hother := by
    by_cases hne : j = i
    · subst hne
      have hrow : row = other := by simpa [LeaseWorld.write] using hother
      exact hrow ▸ ⟨hlock, hold⟩
    · exact h.pending j other (by simpa [LeaseWorld.write, hne] using hother)
  issued := h.issued
  logged := h.logged

theorem LeaseRely.write (hne : j ≠ i) : LeaseRely j w (w.write i row) :=
  .of_eq rfl rfl (Function.update_of_ne hne _ _) (fun _ => Iff.rfl) fun _ _ => rfl

/-! ### The end of a transaction -/

theorem LeaseWorld.commit_pending (hrow : w.pending i = some row) :
    w.commit i none = LeaseWorld.abort
      { w with
        row := Function.update w.row row.clusterId (some row)
        log := .issued row.toMaintenanceLease :: w.log } i := by
  simp [commit, apply, hrow, record]

theorem LeaseWorld.commit_guard (hnone : w.pending i = none) :
    w.commit i (some lease) =
      LeaseWorld.abort { w with log := .committed lease :: w.log } i := by
  simp [commit, apply, hnone, record]

theorem LeaseInv.commit_pending (h : LeaseInv w) (hrow : w.pending i = some row) :
    LeaseInv (w.commit i none) := by
  have hlock := (h.pending i row hrow).1
  rw [LeaseWorld.commit_pending hrow]
  have hrest := h.abort (i := i)
  refine ⟨hrest.locked, fun c other hother => ?_, fun j other hother => ?_, fun lease hlease => ?_,
    fun older holder hc => h.issued_lt hrow holder hc, h.logged⟩
  · by_cases hc : c = row.clusterId
    · subst hc
      have : row = other := by simpa using hother
      rw [this]
    · exact h.keyed c other (by simpa [hc] using hother)
  · -- whoever else has a row pending holds the lock of another cluster
    obtain ⟨hother_lock, hold⟩ := hrest.pending j other hother
    obtain ⟨hj, hne⟩ := LeaseWorld.lock_abort.mp hother_lock
    have hc : other.clusterId ≠ row.clusterId := by
      intro hc
      rw [hc, hlock] at hj
      exact hne (Option.some.inj hj).symm
    refine ⟨hother_lock, fun old hold' => hold old ?_⟩
    simpa [hc] using hold'
  · by_cases hc : lease.clusterId = row.clusterId
    · refine ⟨row, by simp [hc], ?_⟩
      rcases List.mem_cons.mp hlease with heq | hlease
      · cases heq
        exact Nat.le_refl _
      · exact Nat.le_of_lt (h.issued_lt hrow hlease hc)
    · rcases List.mem_cons.mp hlease with heq | hlease
      · cases heq
        exact absurd rfl hc
      · simpa [hc] using h.issued lease hlease

theorem LeaseInv.commit_guard (h : LeaseInv w) (hnone : w.pending i = none)
    (hrow : w.row row.clusterId = some row) :
    LeaseInv (w.commit i (some row.toMaintenanceLease)) := by
  rw [LeaseWorld.commit_guard hnone]
  refine LeaseInv.abort ⟨h.locked, h.keyed, h.pending, fun lease hlease => ?_, ?_, h.logged⟩
  · rcases List.mem_cons.mp hlease with heq | hlease
    · cases heq
    · exact h.issued lease hlease
  · intro other hother hc
    obtain ⟨row', hrow', hle⟩ := h.issued other hother
    rw [hc, hrow] at hrow'
    cases hrow'
    exact hle

theorem LeaseWorld.idle_commit {guard : Option MaintenanceLease} : (w.commit i guard).Idle i :=
  LeaseWorld.idle_abort

theorem LeaseRely.commit_pending (h : LeaseInv w) (hrow : w.pending i = some row) (hne : j ≠ i) :
    LeaseRely j w (w.commit i none) := by
  rw [LeaseWorld.commit_pending hrow]
  refine LeaseRely.trans ?_ (.abort i j)
  refine .of_eq rfl rfl rfl (fun _ => Iff.rfl) fun c hc => ?_
  have : c ≠ row.clusterId := by
    rintro rfl
    rw [(h.pending i row hrow).1] at hc
    exact hne (Option.some.inj hc).symm
  exact Function.update_of_ne this _ _

theorem LeaseRely.commit_guard (hnone : w.pending i = none) :
    LeaseRely j w (w.commit i (some lease)) := by
  rw [LeaseWorld.commit_guard hnone]
  refine LeaseRely.trans ?_ (.abort i j)
  exact .of_eq rfl rfl rfl (fun _ => Iff.rfl) fun _ _ => rfl

theorem RowLaw.commit_pending (h : LeaseInv w) (hrow : w.pending i = some row) :
    RowLaw w (w.commit i none) := by
  rw [LeaseWorld.commit_pending hrow]
  intro c old hold
  by_cases hc : c = row.clusterId
  · subst hc
    obtain ⟨htoken, hexpired⟩ := (h.pending i row hrow).2 old hold
    exact .inr (.inr ⟨row, by simp, htoken, hexpired, by simp⟩)
  · exact .inl (by simpa [hc] using hold)

theorem RowLaw.commit_guard (hnone : w.pending i = none) : RowLaw w (w.commit i (some lease)) := by
  rw [LeaseWorld.commit_guard hnone]
  exact rowLaw_of_eq rfl

theorem LeaseInv.begun (h : LeaseInv w) : LeaseInv (w.begun i) where
  locked c j hj := by
    by_cases hne : j = i
    · simp [LeaseWorld.begun, hne]
    · simpa [LeaseWorld.begun, hne] using h.locked c j hj
  keyed := h.keyed
  pending := h.pending
  issued := h.issued
  logged := h.logged

theorem LeaseRely.begun (hne : j ≠ i) : LeaseRely j w (w.begun i) :=
  .of_eq rfl (Function.update_of_ne hne _ _) rfl (fun _ => Iff.rfl) fun _ _ => rfl

end Steps

/-! ## The calls -/

variable {clusterId : String}

section Calls

variable {Tid : Type} {i : Tid} {α : Type} {w w' : LeaseWorld Tid}

/-- The transaction of `i` was given up, or it holds the lock of this row. -/
def LeaseWorld.Holds (w : LeaseWorld Tid) (i : Tid) (row : LeaseRow) : Prop :=
  w.active i = true → w.pending i = none ∧ w.lock row.clusterId = some i ∧
    w.row row.clusterId = some row

/-- The transaction of `i` was given up, or it is about to commit a lease. -/
def LeaseWorld.Writes (w : LeaseWorld Tid) (i : Tid) : Prop :=
  w.active i = true → ∃ row, w.pending i = some row

theorem stable_clean : Stable (leaseProtocol Tid) i fun w => w.Clean i := by
  intro w w' h hr _
  rcases LeaseRely.kept hr with hidle | ⟨_, hpending, hlock⟩
  · exact hidle.2
  · exact ⟨hpending.trans h.1, fun c hc => h.2 c ((hlock c).1.mp hc)⟩

theorem stable_holds {row : LeaseRow} : Stable (leaseProtocol Tid) i fun w => w.Holds i row := by
  intro w w' h hr _ hactive
  rcases LeaseRely.kept hr with hidle | ⟨hactive', hpending, hlock⟩
  · rw [hidle.1] at hactive
    cases hactive
  · obtain ⟨hnone, hheld, hrow⟩ := h (hactive' ▸ hactive)
    exact ⟨hpending.trans hnone, (hlock _).1.mpr hheld, ((hlock _).2 hheld).trans hrow⟩

theorem stable_expired {t : Nat} : Stable (leaseProtocol Tid) i fun w => t ≤ w.clock :=
  fun h hr _ => Nat.le_trans h (LeaseRely.clock hr)

theorem stable_writes : Stable (leaseProtocol Tid) i fun w => w.Writes i := by
  intro w w' h hr _ hactive
  rcases LeaseRely.kept hr with hidle | ⟨hactive', hpending, _⟩
  · rw [hidle.1] at hactive
    cases hactive
  · obtain ⟨row, hrow⟩ := h (hactive' ▸ hactive)
    exact ⟨row, hpending.trans hrow⟩

theorem stable_idle : Stable (leaseProtocol Tid) i fun w => w.Idle i :=
  fun h hr _ => h.rely hr

/-- What the locking read of `acquire` has found before an update. -/
def LeaseWorld.Expired (w : LeaseWorld Tid) (i : Tid) (found : MaintenanceLease) : Prop :=
  ∃ row : LeaseRow, row.toMaintenanceLease = found ∧ row.expiresAt ≤ w.clock ∧ w.Holds i row

theorem stable_expiredRow {found : MaintenanceLease} :
    Stable (leaseProtocol Tid) i fun w => w.Expired i found := by
  rintro w w' ⟨row, hfound, hexpired, hholds⟩ hr hi
  exact ⟨row, hfound, stable_expired hexpired hr hi, stable_holds hholds hr hi⟩

/-- What the locking read of `acquire` knows after its answer. -/
def LeaseWorld.Found (w : LeaseWorld Tid) (i : Tid) (clusterId : String) :
    Option (MaintenanceLease × Bool) → Prop
  | none => w.Clean i
  | some (found, expired) => found.clusterId = clusterId ∧ (expired = true → w.Expired i found)

theorem stable_found (answer : Option (MaintenanceLease × Bool)) :
    Stable (leaseProtocol Tid) i fun w => w.Found i clusterId answer := by
  intro w w' h hr hi
  match answer, h with
  | none, h => exact stable_clean h hr hi
  | some (found, _), h => exact ⟨h.1, fun hexp => stable_expiredRow (h.2 hexp) hr hi⟩

/-- The transaction of `i` was given up, or it holds the row of this lease. -/
def LeaseWorld.HoldsLease (w : LeaseWorld Tid) (i : Tid) (lease : MaintenanceLease) : Prop :=
  ∃ row : LeaseRow, row.toMaintenanceLease = lease ∧ w.Holds i row

theorem stable_holdsLease {lease : MaintenanceLease} :
    Stable (leaseProtocol Tid) i fun w => w.HoldsLease i lease := by
  rintro w w' ⟨row, hrow, hholds⟩ hr hi
  exact ⟨row, hrow, stable_holds hholds hr hi⟩

theorem LeaseWorld.holds_take (hclean : w.Clean i) (hrow : w.row row.clusterId = some row) :
    (w.take i row.clusterId).Holds i row :=
  fun _ => ⟨hclean.1, Function.update_self .., hrow⟩

theorem LeaseWorld.Idle.finish (h : w.Idle i) (lease : MaintenanceLease) (t : Nat) :
    (w.finish lease t).Idle i := by
  obtain hsame | ⟨_, hnew⟩ := w.finish_cases lease t
  · rwa [hsame]
  · rw [hnew]
    exact h

/-- A check of a lease of a cluster finds the one committed row of the cluster. -/
theorem LeaseWorld.Owns.unique {lease other : MaintenanceLease} {t u : Nat}
    (hc : lease.clusterId = other.clusterId) (h : w.Owns lease t) (h' : w.Owns other u) :
    lease = other := by
  obtain ⟨row, hrow, rfl, _⟩ := h
  obtain ⟨row', hrow', rfl, _⟩ := h'
  rw [hc, hrow'] at hrow
  cases hrow
  rfl

theorem leaseCrash {S : Set Tid} (h : LeaseInv w) (hcrash : LeaseCrashStep S w w') :
    LeaseInv w' ∧ (∀ j ∈ S, w'.Idle j) ∧ ∀ j ∉ S, LeaseRely j w w' := by
  obtain ⟨_, hw'⟩ := hcrash
  have hlock (c : String) (j : Tid) : w'.lock c = some j ↔ w.lock c = some j ∧ j ∉ S := by
    rw [hw']
    dsimp only
    cases hc : w.lock c with
    | none => simp
    | some k =>
      by_cases hk : k ∈ S
      · simp only [hk, if_true]
        refine ⟨nofun, ?_⟩
        rintro ⟨⟨⟩, hj⟩
        exact absurd hk hj
      · simp only [hk, if_false]
        refine ⟨?_, And.left⟩
        rintro ⟨⟩
        exact ⟨rfl, hk⟩
  subst hw'
  refine ⟨⟨fun c j hj => ?_, h.keyed, fun j row hrow => ?_, h.issued, h.logged⟩,
    fun j hj => ⟨if_pos hj, if_pos hj, fun c hc => ((hlock c j).mp hc).2 hj⟩, fun j hj => ?_⟩
  · obtain ⟨hj, hjS⟩ := (hlock c j).mp hj
    exact (if_neg hjS).trans (h.locked c j hj)
  · dsimp only at hrow
    split at hrow
    case isTrue => cases hrow
    case isFalse hjS =>
      obtain ⟨hj, hold⟩ := h.pending j row hrow
      exact ⟨(hlock _ j).mpr ⟨hj, hjS⟩, hold⟩
  · refine .of_eq rfl (if_neg hj) (if_neg hj) (fun c => ?_) fun _ _ => rfl
    exact (hlock c j).trans (and_iff_left hj)

/-- What a statement that did not commit anything owes to the others. -/
def Permitted (i : Tid) (w w' : LeaseWorld Tid) : Prop :=
  LeaseInv w' ∧ (leaseProtocol Tid).Guar i w w'

theorem permitted_refl (h : LeaseInv w) : Permitted i w w :=
  ⟨h, fun j _ => .refl j w, rowLaw_of_eq rfl⟩

theorem permitted_finish (h : LeaseInv w) (hfree : w.lock lease.clusterId = none)
    (ht : t ≤ w.clock) :
    Permitted i w (w.finish lease t) :=
  ⟨h.finish hfree t, fun _ _ => .finish hfree t, .finish ht⟩

variable [DecidableEq Tid]

theorem permitted_abort (h : LeaseInv w) : Permitted i w (w.abort i) :=
  ⟨h.abort, fun j _ => .abort i j, rowLaw_of_eq rfl⟩

theorem permitted_take (h : LeaseInv w) (hactive : w.active i = true) (hfree : w.FreeFor i c) :
    Permitted i w (w.take i c) :=
  ⟨h.take hactive hfree, fun _ hne => .take hfree hne, rowLaw_of_eq rfl⟩

/-- The lock is taken and the new row written, over a row that has expired or over none. -/
theorem permitted_write {expiresAt : Nat} (h : LeaseInv w) (hactive : w.active i = true)
    (hfree : w.FreeFor i lease.clusterId) (hold : ∀ old, w.row lease.clusterId = some old →
      old.token < lease.token ∧ old.expiresAt ≤ w.clock) :
    Permitted i w ((w.take i lease.clusterId).write i ⟨lease, expiresAt⟩) := by
  refine ⟨(h.take hactive hfree).write (Function.update_self ..) hold, fun j hne => ?_,
    rowLaw_of_eq rfl⟩
  exact (LeaseRely.take hfree hne).trans (.write hne)

theorem permitted_commit_pending (h : LeaseInv w) (hrow : w.pending i = some row) :
    Permitted i w (w.commit i none) :=
  ⟨h.commit_pending hrow, fun _ hne => .commit_pending h hrow hne, .commit_pending h hrow⟩

theorem permitted_commit_guard (h : LeaseInv w) (hnone : w.pending i = none)
    (hrow : w.row row.clusterId = some row) :
    Permitted i w (w.commit i (some row.toMaintenanceLease)) :=
  ⟨h.commit_guard hnone hrow, fun _ _ => .commit_guard hnone, .commit_guard hnone⟩

abbrev LeaseWp (i : Tid) (p : LeaseProgram α) (Q : Except Failure α → LeaseWorld Tid → Prop)
    (w : LeaseWorld Tid) : Prop :=
  wp (leaseMachine Tid) (leaseProtocol Tid) i p Q w

/-- The rule for a statement with more to come: after a failure nothing is known any more. -/
theorem wp_ask_bind {op : LeaseOp} {K : LeaseWorld Tid → Prop}
    {R : op.Reply → LeaseWorld Tid → Prop} {f : op.Reply → LeaseProgram α}
    {T : α → LeaseWorld Tid → Prop} (hi : LeaseInv w) (hK : Stable (leaseProtocol Tid) i K)
    (hw : K w) (hR : ∀ reply, Stable (leaseProtocol Tid) i (R reply))
    (h : ∀ w₁ r w₂, LeaseInv w₁ → K w₁ → LeaseStep i op w₁ r w₂ →
      Permitted i w₁ w₂ ∧ ∀ reply, r = .ok reply → R reply w₂)
    (hf : ∀ reply w, LeaseInv w → R reply w → LeaseWp i (f reply) (Ends (fun _ => True) T) w) :
    LeaseWp i ((MaintenanceControlLease.ask op).bind f)
      (Ends (fun _ => True) T) w := by
  refine wp_bind_ends (K := fun _ => True) (R := R) hi stable_true (fun _ _ => trivial) ?_
    fun reply w hi _ hr => hf reply w hi hr
  refine wp_request hK hw fun w₁ hi hK₁ r w₂ hstep => ?_
  obtain ⟨⟨hinv, hguar⟩, hok⟩ := h w₁ r w₂ hi hK₁ hstep
  refine ⟨hinv, hguar, ?_⟩
  cases r with
  | error e => exact wp_throw_ends stable_true trivial
  | ok reply => exact wp_pure_ends stable_true (hR reply) trivial (hok reply rfl)

theorem wp_rollback :
    LeaseWp i (MaintenanceControlLease.ask .rollback)
      (fun _ w => w.Idle i) w := by
  refine wp_request stable_true trivial fun w₁ hi₁ _ r w₂ hstep => ?_
  have hw₂ : w₂ = w₁.abort i := by
    cases hstep with
    | failed e hop => cases hop
    | aborted e => rfl
    | rolledBack => rfl
  subst hw₂
  obtain ⟨hinv, hguar⟩ := permitted_abort (i := i) hi₁
  refine ⟨hinv, hguar, ?_⟩
  cases r with
  | error e => exact wp_throw stable_idle LeaseWorld.idle_abort fun _ _ h => h
  | ok _ => exact wp_pure stable_idle LeaseWorld.idle_abort fun _ _ h => h

/-- A transaction is closed at its end when its body, where it does not throw, has closed it. -/
theorem wp_transaction {body : LeaseProgram α} (hi : LeaseInv w) (hw : w.Idle i)
    (hbody : ∀ w, LeaseInv w → w.Clean i →
      LeaseWp i body
        (Ends (fun _ => True) fun _ w => w.Idle i) w) :
    LeaseWp i (MaintenanceControlLease.transaction body)
      (fun _ w => w.Idle i) w := by
  refine wp_tryCatch hi (wp_mono (Q := Ends (fun _ => True) fun _ w => w.Idle i) ?_ ?_)
  · refine wp_ask_bind (K := fun w => w.Clean i) (R := fun _ w => w.Clean i) hi stable_clean hw.2
      (fun _ => stable_clean) ?_ fun _ => hbody
    intro w₁ r w₂ hi₁ hclean hstep
    cases hstep with
    | failed e => exact ⟨permitted_refl hi₁, nofun⟩
    | aborted e => exact ⟨permitted_abort hi₁, nofun⟩
    | begun => exact ⟨⟨hi₁.begun, fun _ hne => .begun hne, rowLaw_of_eq rfl⟩, fun _ _ => hclean⟩
  · intro r w' hi' hr
    cases r with
    | ok a => exact fun _ hrely _ => LeaseWorld.Idle.rely hr.2 hrely
    | error e =>
      refine wp_bind hi' (wp_mono wp_rollback fun r w'' _ hidle => ?_)
      cases r <;> exact fun _ hrely _ => hidle.rely hrely

/-! ### A new lease -/

theorem wp_takeLease {op : LeaseOp} {K : LeaseWorld Tid → Prop} (hi : LeaseInv w)
    (hK : Stable (leaseProtocol Tid) i K) (hw : K w)
    (hop : ∀ w₁ r w₂, LeaseInv w₁ → K w₁ → LeaseStep i op w₁ r w₂ →
      Permitted i w₁ w₂ ∧ ∀ reply, r = .ok reply → w₂.Writes i) :
    LeaseWp i (MaintenanceControlLease.takeLease lease op)
      (Ends (fun _ => True) fun _ w => w.Idle i) w := by
  refine wp_ask_bind (R := fun _ w => w.Writes i) hi hK hw (fun _ => stable_writes) hop
    fun _ w hi hwrites => ?_
  refine wp_ask_bind (R := fun _ w => w.Idle i) hi stable_writes hwrites (fun _ => stable_idle) ?_
    fun _ w _ hidle => wp_pure_ends stable_true stable_idle trivial hidle
  intro w₁ r w₂ hi₁ hwrites hstep
  cases hstep with
  | failed e hop => cases hop
  | aborted e => exact ⟨permitted_abort hi₁, nofun⟩
  | committed hactive =>
    obtain ⟨row, hrow⟩ := hwrites hactive
    exact ⟨permitted_commit_pending hi₁ hrow, fun _ _ => LeaseWorld.idle_commit⟩
  | unacknowledged e hactive =>
    obtain ⟨row, hrow⟩ := hwrites hactive
    exact ⟨permitted_commit_pending hi₁ hrow, nofun⟩

theorem LeaseStep.insertLease {r : (LeaseOp.insertLease lease ttlSeconds).Ans} (h : LeaseInv w)
    (hstep : LeaseStep i (.insertLease lease ttlSeconds) w r w') :
    Permitted i w w' ∧ ∀ reply, r = .ok reply → w'.Writes i := by
  cases hstep with
  | failed e => exact ⟨permitted_refl h, nofun⟩
  | aborted e => exact ⟨permitted_abort h, nofun⟩
  | inserted hactive hfree hrow ht =>
    refine ⟨permitted_write h hactive hfree fun old hold => ?_,
      fun _ _ _ => ⟨_, Function.update_self ..⟩⟩
    rw [hrow] at hold
    cases hold

theorem LeaseStep.updateLease {found lease : MaintenanceLease}
    {r : (LeaseOp.updateLease lease ttlSeconds).Ans} (h : LeaseInv w) (hfound : w.Expired i found)
    (hc : found.clusterId = lease.clusterId) (htoken : found.token < lease.token)
    (hstep : LeaseStep i (.updateLease lease ttlSeconds) w r w') :
    Permitted i w w' ∧ ∀ reply, r = .ok reply → w'.Writes i := by
  obtain ⟨row, rfl, hexpired, hholds⟩ := hfound
  cases hstep with
  | failed e => exact ⟨permitted_refl h, nofun⟩
  | aborted e => exact ⟨permitted_abort h, nofun⟩
  | updated hactive hfree hsome ht =>
    refine ⟨permitted_write h hactive hfree fun old hold => ?_,
      fun _ _ _ => ⟨_, Function.update_self ..⟩⟩
    -- the lock is held, so the row is still the one that was found
    have hrow := (hholds hactive).2.2
    rw [hc] at hrow
    cases hrow.symm.trans hold
    exact ⟨htoken, hexpired⟩
  | unmatched hactive hnone =>
    have hrow := (hholds hactive).2.2
    rw [hc, hnone] at hrow
    cases hrow

theorem LeaseStep.selectLease {r : (LeaseOp.selectLease clusterId).Ans} (h : LeaseInv w)
    (hclean : w.Clean i) (hstep : LeaseStep i (.selectLease clusterId) w r w') :
    Permitted i w w' ∧ ∀ reply, r = .ok reply → w'.Found i clusterId reply := by
  cases hstep with
  | failed e => exact ⟨permitted_refl h, nofun⟩
  | aborted e => exact ⟨permitted_abort h, nofun⟩
  | absent hactive hrow =>
    refine ⟨permitted_refl h, ?_⟩
    rintro _ ⟨⟩
    exact hclean
  | @found _ _ row t hactive hfree hrow ht =>
    obtain rfl := h.keyed _ _ hrow
    refine ⟨permitted_take h hactive hfree, ?_⟩
    rintro _ ⟨⟩
    refine ⟨rfl, fun hexpired => ⟨row, rfl, ?_, LeaseWorld.holds_take hclean hrow⟩⟩
    exact Nat.le_trans (of_decide_eq_true hexpired) ht

theorem wp_acquire (hi : LeaseInv w) (hw : w.Idle i) :
    LeaseWp i
      (MaintenanceControlLease.acquire clusterId ttlSeconds) (fun _ w => w.Idle i) w := by
  unfold MaintenanceControlLease.acquire
  split
  · exact wp_throw stable_idle hw fun _ _ h => h
  have huuid : LeaseWp i
      (MaintenanceControlLease.ask .randomUUID) (fun _ w => w.Idle i) w := by
    have huses : (MaintenanceControlLease.ask .randomUUID).Uses (· = .randomUUID) :=
      ⟨rfl, fun r => by cases r <;> trivial⟩
    refine wp_uses stable_idle ?_ huses hw
    rintro _ rfl w₁ r w₂ hi₁ hidle hstep
    cases hstep with
    | failed e => exact ⟨hi₁, (permitted_refl hi₁).2, hidle⟩
    | aborted e => exact ⟨hi₁.abort, (permitted_abort hi₁).2, LeaseWorld.idle_abort⟩
    | uuid id => exact ⟨hi₁, (permitted_refl hi₁).2, hidle⟩
  refine wp_bind hi (wp_mono huuid fun r w hi hidle => ?_)
  cases r with
  | error e => exact fun _ hrely _ => hidle.rely hrely
  | ok holderId =>
    refine wp_transaction hi hidle fun w hi hclean => ?_
    refine wp_ask_bind hi stable_clean hclean stable_found
      (fun _ _ _ hi hclean hstep => hstep.selectLease hi hclean) fun found w hi hfound => ?_
    match found, hfound with
    | none, hclean =>
      exact wp_takeLease hi stable_true trivial fun _ _ _ hi _ hstep => hstep.insertLease hi
    | some (row, true), ⟨hc, hexpired⟩ =>
      refine wp_takeLease hi stable_expiredRow (hexpired rfl)
        fun _ _ _ hi hrow hstep => hstep.updateLease hi hrow hc ?_
      exact Nat.lt_succ_self row.token
    | some (_, false), _ => exact wp_throw_ends stable_true trivial

/-! ### A guarded transaction -/

theorem wp_assertOwner (hi : LeaseInv w) (hclean : w.Clean i) :
    LeaseWp i (MaintenanceControlLease.assertOwner lease)
      (Ends (fun _ => True) fun _ w => w.HoldsLease i lease) w := by
  refine wp_ask_bind
    (R := fun (owned : (LeaseOp.selectOwner lease).Reply) w => owned = true → w.HoldsLease i lease)
    hi stable_clean hclean (fun _ => Stable.imp fun _ => stable_holdsLease) ?_
    fun owned w _ howned => ?_
  · intro w₁ r w₂ hi₁ hclean hstep
    cases hstep with
    | failed e => exact ⟨permitted_refl hi₁, nofun⟩
    | aborted e => exact ⟨permitted_abort hi₁, nofun⟩
    | owned hactive hfree ht howns =>
      obtain ⟨row, hrow, rfl, _⟩ := howns
      exact ⟨permitted_take hi₁ hactive hfree,
        fun _ _ _ => ⟨row, rfl, LeaseWorld.holds_take hclean hrow⟩⟩
    | fenced => exact ⟨permitted_refl hi₁, by rintro _ ⟨⟩ ⟨⟩⟩
  · split
    case isTrue h => exact wp_pure_ends stable_true stable_holdsLease trivial (howned h)
    case isFalse => exact wp_throw_ends stable_true trivial

theorem wp_statements {body : LeaseProgram α} (hbody : body.Uses (· = .statement))
    (hw : w.HoldsLease i lease) : LeaseWp i body (fun _ w => w.HoldsLease i lease) w := by
  refine wp_uses stable_holdsLease ?_ hbody hw
  rintro _ rfl w₁ r w₂ hi₁ hholds hstep
  cases hstep with
  | failed e => exact ⟨hi₁, (permitted_refl hi₁).2, hholds⟩
  | aborted e =>
    obtain ⟨row, hrow, _⟩ := hholds
    refine ⟨hi₁.abort, (permitted_abort hi₁).2, row, hrow, fun hactive => ?_⟩
    rw [LeaseWorld.idle_abort.1] at hactive
    cases hactive
  | statement => exact ⟨hi₁, (permitted_refl hi₁).2, hholds⟩

theorem LeaseStep.commitGuarded {r : (LeaseOp.commit (some lease)).Ans} (h : LeaseInv w)
    (hholds : w.HoldsLease i lease) (hstep : LeaseStep i (.commit (some lease)) w r w') :
    Permitted i w w' ∧ w'.Idle i := by
  obtain ⟨row, rfl, hholds⟩ := hholds
  cases hstep with
  | failed e hop => cases hop
  | aborted e => exact ⟨permitted_abort h, LeaseWorld.idle_abort⟩
  | committed hactive =>
    obtain ⟨hnone, _, hrow⟩ := hholds hactive
    exact ⟨permitted_commit_guard h hnone hrow, LeaseWorld.idle_commit⟩
  | unacknowledged e hactive =>
    obtain ⟨hnone, _, hrow⟩ := hholds hactive
    exact ⟨permitted_commit_guard h hnone hrow, LeaseWorld.idle_commit⟩

theorem wp_guarded {body : LeaseProgram Bool} (hbody : body.Uses (· = .statement)) (hi : LeaseInv w)
    (hw : w.Idle i) :
    LeaseWp i (MaintenanceControlLease.guarded lease body)
      (fun _ w => w.Idle i) w := by
  refine wp_transaction hi hw fun w hi hclean => ?_
  refine wp_bind_ends hi stable_true (fun _ h => h) (wp_assertOwner hi hclean)
    fun _ w hi _ hholds => ?_
  refine wp_bind_returns hi (wp_ends (wp_statements hbody hholds)) fun proceed w hi hholds _ => ?_
  split
  case isTrue =>
    refine wp_ask_bind (R := fun _ w => w.Idle i) hi stable_holdsLease hholds
      (fun _ => stable_idle) ?_ fun _ w _ hidle => wp_pure_ends stable_true stable_idle trivial
        hidle
    intro w₁ r w₂ hi₁ hholds hstep
    obtain ⟨hpermitted, hidle⟩ := hstep.commitGuarded hi₁ hholds
    exact ⟨hpermitted, fun _ _ => hidle⟩
  case isFalse =>
    refine wp_bind_returns hi (wp_ends wp_rollback) fun _ w _ hidle _ => ?_
    exact wp_pure_ends stable_true stable_idle trivial hidle

theorem wp_release (hw : w.Idle i) :
    LeaseWp i (MaintenanceControlLease.release lease)
      (fun _ w => w.Idle i) w := by
  have huses : (MaintenanceControlLease.release lease).Uses (· = .endLease lease) := by
    refine ⟨rfl, fun r => ?_⟩
    cases r with
    | error e => trivial
    | ok affected => cases affected <;> trivial
  refine wp_uses stable_idle ?_ huses hw
  rintro _ rfl w₁ r w₂ hi₁ hidle hstep
  cases hstep with
  | failed e => exact ⟨hi₁, (permitted_refl hi₁).2, hidle⟩
  | aborted e => exact ⟨hi₁.abort, (permitted_abort hi₁).2, LeaseWorld.idle_abort⟩
  | @ended _ _ t hfree ht =>
    exact ⟨hi₁.finish hfree t, (permitted_finish hi₁ hfree ht).2, hidle.finish lease t⟩
  | @endedUnacknowledged _ _ t e hfree ht =>
    exact ⟨hi₁.finish hfree t, (permitted_finish hi₁ hfree ht).2, hidle.finish lease t⟩

theorem wp_leaseCall {p : LeaseProgram Unit} (hp : LeaseCall p) (hi : LeaseInv w) (hw : w.Idle i) :
    LeaseWp i p (fun _ w => w.Idle i) w := by
  have hdiscard {α : Type} {p : LeaseProgram α}
      (hp : LeaseWp i p (fun _ w => w.Idle i) w) :
      LeaseWp i (p.bind fun _ => .pure ())
        (fun _ w => w.Idle i) w := by
    refine wp_bind hi (wp_mono hp fun r w _ hidle => ?_)
    cases r <;> exact fun _ hrely _ => hidle.rely hrely
  cases hp with
  | acquire clusterId ttlSeconds => exact hdiscard (wp_acquire hi hw)
  | guarded lease body hbody => exact hdiscard (wp_guarded hbody hi hw)
  | release lease => exact wp_release hw

/-! ## Every run -/

theorem leaseSound : Sound (leaseMachine Tid) (leaseProtocol Tid) LeaseCall where
  entry hp hi hidle := wp_leaseCall hp hi hidle
  env := by
    rintro w w' hi (hclock | j)
    · exact ⟨hi.tick hclock, fun _ => .tick hclock⟩
    · exact ⟨hi.abort, fun i => .abort j i⟩
  crash hi hcrash := leaseCrash hi hcrash

theorem WellFenced.follows {event : LeaseEvent} {later earlier : List LeaseEvent}
    (h : WellFenced (later ++ event :: earlier)) : event.Follows earlier := by
  induction later with
  | nil => exact h.1
  | cons _ later ih => exact ih h.2

/-- Who gives back a lease that was taken over changes no row. -/
theorem LeaseStep.endLease_taken {r : (LeaseOp.endLease lease).Ans}
    (hstep : LeaseStep i (.endLease lease) w r w') (hrow : w.row lease.clusterId = some row)
    (hne : row.toMaintenanceLease ≠ lease) : w'.row = w.row := by
  have hfinish (t : Nat) : w.finish lease t = w := by simp [LeaseWorld.finish, hrow, hne]
  cases hstep with
  | failed e => rfl
  | aborted e => rfl
  | @ended _ _ t => rw [hfinish t]
  | @endedUnacknowledged _ _ t => rw [hfinish t]

theorem RowLaw.step {c c' : Config Tid LeaseOp LeaseOp.Ans Failure Unit (LeaseWorld Tid)}
    (hsafe : Safe (leaseMachine Tid) (leaseProtocol Tid) c)
    (hstep : Step (leaseMachine Tid) LeaseCall c c') : RowLaw c.state c'.state := by
  obtain hsame | ⟨i, hguar⟩ | henv | ⟨S, hcrash⟩ := hsafe.step_state hstep
  · exact rowLaw_of_eq (by rw [hsame])
  · exact hguar.2
  · generalize c'.state = w' at henv
    cases henv <;> exact rowLaw_of_eq rfl
  · obtain ⟨_, hw'⟩ := hcrash
    exact rowLaw_of_eq (by rw [hw'])

/-- Fencing, in every run of any number of calls: the tokens of a cluster's leases increase, one
lease of a cluster at most passes the check at a time, a transaction guarded by a lease is not
committed after a later lease was issued, and the row of a lease changes only when the lease is
given back in its own name or has expired and is replaced by a later one; who gives back another
lease does not change it. -/
theorem leases_fence_commits {c : Config Tid LeaseOp LeaseOp.Ans Failure Unit (LeaseWorld Tid)}
    (hc : Reachable (leaseMachine Tid) LeaseCall (noLeases Tid) c) :
    (∀ later new earlier old, c.state.log = later ++ .issued new :: earlier →
      .issued old ∈ earlier → old.clusterId = new.clusterId → old.token < new.token) ∧
    (∀ lease other t u, lease.clusterId = other.clusterId → c.state.Owns lease t →
      c.state.Owns other u → lease = other) ∧
    (∀ later lease earlier other, c.state.log = later ++ .committed lease :: earlier →
      .issued other ∈ earlier → other.clusterId = lease.clusterId → other.token ≤ lease.token) ∧
    (∀ c', Step (leaseMachine Tid) LeaseCall c c' → RowLaw c.state c'.state) ∧
    ∀ i old row r w', c.state.row old.clusterId = some row → row.toMaintenanceLease ≠ old →
      (leaseMachine Tid).perform i (.endLease old) c.state r w' → w'.row = c.state.row := by
  have h₀ : LeaseInv (noLeases Tid) := ⟨nofun, nofun, nofun, nofun, trivial⟩
  have hsafe := hc.safe leaseSound h₀ fun _ => ⟨rfl, rfl, nofun⟩
  have hlog : WellFenced c.state.log := hsafe.inv.logged
  refine ⟨fun later new earlier old heq hold hcluster => ?_,
    fun _ _ _ _ hcluster h h' => h.unique hcluster h',
    fun later lease earlier other heq hother hcluster => ?_, fun _ => RowLaw.step hsafe,
    fun _ _ _ _ _ hrow hne hstep => LeaseStep.endLease_taken hstep hrow hne⟩
  · rw [heq] at hlog
    exact hlog.follows old hold hcluster
  · rw [heq] at hlog
    exact hlog.follows other hother hcluster

end Calls

/-! ## A lease that is taken over -/

def firstLease : MaintenanceLease := ⟨"cluster", "first", 1⟩

def secondLease : MaintenanceLease := ⟨"cluster", "second", 2⟩

/-- The first lease has been issued, and has expired. -/
def expiredWorld : LeaseWorld Nat :=
  { ((((noLeases Nat).begun 0).take 0 "cluster").write 0 ⟨firstLease, 0 + 30 * 1000000⟩).commit 0
      none with clock := 30000000 }

/-- The second lease has been issued. -/
def takenOverWorld : LeaseWorld Nat :=
  ((((expiredWorld.begun 1).take 1 "cluster").take 1 "cluster").write 1
    ⟨secondLease, 30000000 + 30 * 1000000⟩).commit 1 none

theorem expiredWorld_reachable : ∃ c, Reachable (leaseMachine Nat) LeaseCall (noLeases Nat) c ∧
    c.state = expiredWorld ∧ c.thread 1 = none ∧ c.thread 2 = none := by
  have hruns : Runs (leaseMachine Nat) 0
      ((MaintenanceControlLease.acquire "cluster" 30).bind fun _ => .pure ()) (noLeases Nat)
      (.pure ()) { expiredWorld with clock := 0 } := by
    refine .step (.uuid "first") ?_
    refine .step .begun ?_
    refine .step (.absent rfl rfl) ?_
    refine .step (.inserted (t := 0) rfl (.inl rfl) rfl (Nat.zero_le _)) ?_
    exact .step (.committed rfl) .refl
  have hcall := Reachable.init.call rfl (LeaseCall.acquire "cluster" 30) hruns
  exact ⟨_, hcall.step (.env (.tick (Nat.zero_le 30000000))), rfl, rfl, rfl⟩

theorem takeover_runs : Runs (leaseMachine Nat) 1
    ((MaintenanceControlLease.acquire "cluster" 30).bind fun _ => .pure ()) expiredWorld (.pure ())
    takenOverWorld := by
  refine .step (.uuid "second") ?_
  refine .step .begun ?_
  refine .step (.found (t := 30000000) rfl (.inl rfl) rfl (Nat.le_refl _)) ?_
  refine .step (.updated (t := 30000000) rfl (.inr rfl) nofun (Nat.le_refl _)) ?_
  exact .step (.committed rfl) .refl

/-- A transaction of one statement, guarded by the second lease. -/
theorem guarded_runs : Runs (leaseMachine Nat) 2
    ((MaintenanceControlLease.guarded secondLease (MaintenanceControlLease.ask .statement)).bind
      fun _ => .pure ()) takenOverWorld (.pure ())
    (((takenOverWorld.begun 2).take 2 "cluster").commit 2 (some secondLease)) := by
  refine .step .begun ?_
  refine .step (.owned (t := 30000000) rfl (.inl rfl) (Nat.le_refl _) ⟨_, rfl, rfl, by decide⟩) ?_
  refine .step (.statement rfl true) ?_
  exact .step (.committed rfl) .refl

/-- After a takeover the transaction of the second holder is committed, and nobody but this holder
passes the check. -/
theorem takeover_fences :
    ∃ c : Config Nat LeaseOp LeaseOp.Ans Failure Unit (LeaseWorld Nat),
      Reachable (leaseMachine Nat) LeaseCall (noLeases Nat) c ∧
        c.state.log = [.committed secondLease, .issued secondLease, .issued firstLease] ∧
        c.state.Owns secondLease 30000000 ∧ firstLease.token < secondLease.token ∧
        ∀ other u, "cluster" = other.clusterId → c.state.Owns other u → secondLease = other := by
  obtain ⟨⟨thread, _⟩, hc, rfl, hone, htwo⟩ := expiredWorld_reachable
  have htaken := hc.call hone (.acquire "cluster" 30) takeover_runs
  have hguarded := htaken.call (i := 2) (by simpa using htwo)
    (.guarded secondLease (.request .statement _) ⟨rfl, fun answer => by cases answer <;> trivial⟩)
    guarded_runs
  have howns : (((takenOverWorld.begun 2).take 2 "cluster").commit 2 (some secondLease)).Owns
      secondLease 30000000 := ⟨_, rfl, rfl, by decide⟩
  obtain ⟨hincrease, halone, -⟩ := leases_fence_commits hguarded
  exact ⟨_, hguarded, rfl, howns, hincrease [.committed secondLease] secondLease
    [.issued firstLease] firstLease rfl (List.mem_singleton_self _) rfl,
    fun other u hcluster hother => halone _ other _ u hcluster howns hother⟩

end Docklane.Control
