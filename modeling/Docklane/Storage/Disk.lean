import Mathlib.Logic.Function.Basic
import Mathlib.Logic.Relation
import Mathlib.Tactic.Common

/-!
# A directory on a disk that may lose power

One directory of files, with the contents the running system sees (`dir`, `data`) beside those
that survive a power loss (`ddir`, `durable`). A create, rename or remove becomes durable entry by
entry, at any later moment or at a directory sync; what a file holds becomes durable at a file
sync, and before that the disk may hold anything for it.

Two properties carry the proofs about writers of such a directory: an entry is `Settled` when both
sides agree on it and its content is synced, and `Pinned` when it exists on both sides.
-/

namespace Storage

/-- A file: what a reader sees, what survives, and whether it was synced since the last write. -/
structure File (Content : Type) where
  data : Content
  durable : Content
  synced : Bool

structure Disk (Name Content : Type) where
  files : Nat → File Content
  next : Nat
  dir : Name → Option Nat
  ddir : Name → Option Nat

namespace Disk

variable {Name Content : Type} [DecidableEq Name] (d : Disk Name Content)

/-! ## Operations -/

/-- A new file under the name `n`. -/
def create [Inhabited Content] (n : Name) : Disk Name Content :=
  { d with
    files := Function.update d.files d.next ⟨default, default, false⟩
    next := d.next + 1
    dir := Function.update d.dir n (some d.next) }

def write (file : Nat) (c : Content) : Disk Name Content :=
  { d with files := Function.update d.files file { d.files file with data := c, synced := false } }

def sync (file : Nat) : Disk Name Content :=
  { d with files := Function.update d.files file
            ⟨(d.files file).data, (d.files file).data, true⟩ }

def rename (source target : Name) : Disk Name Content :=
  { d with dir := Function.update (Function.update d.dir target (d.dir source)) source none }

def remove (n : Name) : Disk Name Content :=
  { d with dir := Function.update d.dir n none }

def syncDir : Disk Name Content :=
  { d with ddir := d.dir }

/-- Only what was durable is left. -/
def powerLoss : Disk Name Content :=
  { d with
    files := fun f => ⟨(d.files f).durable, (d.files f).durable, true⟩
    dir := d.ddir }

/-- What a reader finds under a name. -/
def read (n : Name) : Option Content :=
  (d.dir n).map fun f => (d.files f).data

/-- The disk writes something back on its own. -/
inductive FlushStep : Disk Name Content → Disk Name Content → Prop where
  | entry (d : Disk Name Content) (n : Name) :
      FlushStep d { d with ddir := Function.update d.ddir n (d.dir n) }
  | content (d : Disk Name Content) (file : Nat) (c : Content)
      (h : (d.files file).synced = false) :
      FlushStep d { d with files := Function.update d.files file
                            { d.files file with durable := c } }

/-- Any number of such steps. -/
abbrev Flush : Disk Name Content → Disk Name Content → Prop :=
  Relation.ReflTransGen FlushStep

/-! ## Well-formed disks, settled and pinned entries -/

/-- Every entry names a file that was created, and a synced file is durable. -/
structure WellFormed : Prop where
  dir_lt : ∀ n f, d.dir n = some f → f < d.next
  ddir_lt : ∀ n f, d.ddir n = some f → f < d.next
  synced : ∀ f, (d.files f).synced = true → (d.files f).durable = (d.files f).data

/-- The entry is the same before and after a power loss, and reads as `c`. -/
structure Settled (n : Name) (c : Option Content) : Prop where
  entry : d.ddir n = d.dir n
  read : d.read n = c
  synced : ∀ f, d.dir n = some f → (d.files f).synced = true

/-- The entry exists before and after a power loss. -/
structure Pinned (n : Name) : Prop where
  dir : d.dir n ≠ none
  ddir : d.ddir n ≠ none

variable {d} {d' : Disk Name Content} {n m : Name} {c : Option Content}

theorem FlushStep.dir (h : FlushStep d d') : d'.dir = d.dir := by
  cases h <;> rfl

theorem FlushStep.next (h : FlushStep d d') : d'.next = d.next := by
  cases h <;> rfl

theorem FlushStep.file (h : FlushStep d d') (f : Nat) :
    (d'.files f).data = (d.files f).data ∧ (d'.files f).synced = (d.files f).synced := by
  cases h with
  | entry n => exact ⟨rfl, rfl⟩
  | content file c hf =>
    by_cases hff : f = file
    · subst hff; simp
    · simp [hff]

theorem Flush.volatile (h : Flush d d') :
    d'.dir = d.dir ∧ d'.next = d.next ∧
      ∀ f, (d'.files f).data = (d.files f).data ∧ (d'.files f).synced = (d.files f).synced := by
  induction h with
  | refl => exact ⟨rfl, rfl, fun f => ⟨rfl, rfl⟩⟩
  | tail _ hstep ih =>
    obtain ⟨hdir, hnext, hfiles⟩ := ih
    refine ⟨hstep.dir.trans hdir, hstep.next.trans hnext, fun f => ?_⟩
    exact ⟨(hstep.file f).1.trans (hfiles f).1, (hstep.file f).2.trans (hfiles f).2⟩

/-! ## What each operation keeps -/

theorem WellFormed.flushStep (hd : d.WellFormed) (h : FlushStep d d') : d'.WellFormed := by
  cases h with
  | entry n =>
    refine ⟨hd.dir_lt, fun m f hm => ?_, hd.synced⟩
    by_cases hmn : m = n
    · subst hmn
      exact hd.dir_lt m f (by simpa using hm)
    · exact hd.ddir_lt m f (by simpa [hmn] using hm)
  | content file c hf =>
    refine ⟨hd.dir_lt, hd.ddir_lt, fun f hs => ?_⟩
    by_cases hff : f = file
    · subst hff
      simp [hf] at hs
    · simpa [hff] using hd.synced f (by simpa [hff] using hs)

theorem Settled.flushStep (hs : d.Settled n c) (h : FlushStep d d') : d'.Settled n c := by
  cases h with
  | entry m =>
    refine ⟨?_, hs.read, hs.synced⟩
    by_cases hnm : n = m
    · simp [hnm]
    · simpa [hnm] using hs.entry
  | content file v hf =>
    -- the content of a settled entry is synced, so another file is written back
    have hne : ∀ f, d.dir n = some f → f ≠ file := by
      rintro f hdir rfl
      simp [hs.synced f hdir] at hf
    refine ⟨hs.entry, ?_, fun f hdir => ?_⟩
    · rw [← hs.read]
      simp only [Disk.read]
      cases hdir : d.dir n with
      | none => rfl
      | some f => simp [hne f hdir]
    · simpa [hne f hdir] using hs.synced f hdir

theorem Pinned.flushStep (hp : d.Pinned n) (h : FlushStep d d') : d'.Pinned n := by
  cases h with
  | entry m =>
    refine ⟨hp.dir, ?_⟩
    by_cases hnm : n = m
    · subst hnm
      simpa using hp.dir
    · simpa [hnm] using hp.ddir
  | content => exact ⟨hp.dir, hp.ddir⟩

theorem Settled.flush (hs : d.Settled n c) (h : Flush d d') : d'.Settled n c := by
  induction h with
  | refl => exact hs
  | tail _ hstep ih => exact ih.flushStep hstep

theorem Pinned.flush (hp : d.Pinned n) (h : Flush d d') : d'.Pinned n := by
  induction h with
  | refl => exact hp
  | tail _ hstep ih => exact ih.flushStep hstep

/-- A property of the disk that no write-back can change. -/
def FlushStable (D : Disk Name Content → Prop) : Prop :=
  ∀ d d', D d → Flush d d' → D d'

theorem FlushStable.settled (n : Name) (c : Option Content) :
    FlushStable fun d : Disk Name Content => d.Settled n c :=
  fun _ _ h hf => h.flush hf

theorem FlushStable.pinned (n : Name) : FlushStable fun d : Disk Name Content => d.Pinned n :=
  fun _ _ h hf => h.flush hf

theorem FlushStable.dir (p : (Name → Option Nat) → Prop) :
    FlushStable fun d : Disk Name Content => p d.dir := by
  intro d d' h hf
  rwa [(Flush.volatile hf).1]

theorem FlushStable.file (f : Nat) (p : Content → Bool → Prop) :
    FlushStable fun d : Disk Name Content => p (d.files f).data (d.files f).synced := by
  intro d d' h hf
  obtain ⟨hdata, hsynced⟩ := (Flush.volatile hf).2.2 f
  simpa [hdata, hsynced] using h

theorem FlushStable.and {D D' : Disk Name Content → Prop} (h : FlushStable D)
    (h' : FlushStable D') : FlushStable fun d => D d ∧ D' d :=
  fun d d' hd hf => ⟨h d d' hd.1 hf, h' d d' hd.2 hf⟩

section Create

variable [Inhabited Content]

theorem WellFormed.create (hd : d.WellFormed) (n : Name) : (d.create n).WellFormed := by
  refine ⟨fun m f hm => ?_, fun m f hm => ?_, fun f hs => ?_⟩
  · by_cases hmn : m = n
    · subst hmn
      obtain rfl : d.next = f := by simpa [Disk.create] using hm
      exact Nat.lt_succ_self _
    · exact Nat.lt_succ_of_lt (hd.dir_lt m f (by simpa [Disk.create, hmn] using hm))
  · exact Nat.lt_succ_of_lt (hd.ddir_lt m f hm)
  · by_cases hf : f = d.next
    · subst hf
      simp [Disk.create] at hs
    · simpa [Disk.create, hf] using hd.synced f (by simpa [Disk.create, hf] using hs)

theorem Settled.create (hd : d.WellFormed) (hs : d.Settled n c) (hmn : n ≠ m) :
    (d.create m).Settled n c := by
  have hfresh : ∀ f, d.dir n = some f → f ≠ d.next := fun f hf => Nat.ne_of_lt (hd.dir_lt n f hf)
  refine ⟨by simpa [Disk.create, hmn] using hs.entry, ?_, fun f hdir => ?_⟩
  · rw [← hs.read]
    simp only [Disk.read, Disk.create, Function.update_of_ne hmn]
    cases hdir : d.dir n with
    | none => rfl
    | some f => simp [hfresh f hdir]
  · have hdir' : d.dir n = some f := by simpa [Disk.create, hmn] using hdir
    simpa [Disk.create, hfresh f hdir'] using hs.synced f hdir'

theorem Pinned.create (hp : d.Pinned n) (m : Name) : (d.create m).Pinned n := by
  refine ⟨?_, hp.ddir⟩
  by_cases hnm : n = m
  · simp [Disk.create, hnm]
  · simpa [Disk.create, hnm] using hp.dir

end Create

section Contents

-- none of these looks a name up
omit [DecidableEq Name]

theorem WellFormed.write (hd : d.WellFormed) (file : Nat) (v : Content) :
    (d.write file v).WellFormed := by
  refine ⟨hd.dir_lt, hd.ddir_lt, fun f hs => ?_⟩
  by_cases hf : f = file
  · subst hf
    simp [Disk.write] at hs
  · simpa [Disk.write, hf] using hd.synced f (by simpa [Disk.write, hf] using hs)

theorem Settled.write (hs : d.Settled n c) {file : Nat} (hne : d.dir n ≠ some file) (v : Content) :
    (d.write file v).Settled n c := by
  have hother : ∀ f, d.dir n = some f → f ≠ file := by
    rintro f hdir rfl
    exact hne hdir
  refine ⟨hs.entry, ?_, fun f hdir => ?_⟩
  · rw [← hs.read]
    simp only [Disk.read, Disk.write]
    cases hdir : d.dir n with
    | none => rfl
    | some f => simp [hother f hdir]
  · simpa [Disk.write, hother f hdir] using hs.synced f hdir

theorem WellFormed.sync (hd : d.WellFormed) (file : Nat) : (d.sync file).WellFormed := by
  refine ⟨hd.dir_lt, hd.ddir_lt, fun f hs => ?_⟩
  by_cases hf : f = file
  · subst hf
    simp [Disk.sync]
  · simpa [Disk.sync, hf] using hd.synced f (by simpa [Disk.sync, hf] using hs)

theorem sync_data (d : Disk Name Content) (file f : Nat) :
    ((d.sync file).files f).data = (d.files f).data := by
  by_cases hf : f = file
  · subst hf; simp [Disk.sync]
  · simp [Disk.sync, hf]

theorem Settled.sync (hs : d.Settled n c) (file : Nat) : (d.sync file).Settled n c := by
  refine ⟨hs.entry, ?_, fun f hdir => ?_⟩
  · rw [← hs.read]
    simp only [Disk.read, sync_data]
    rfl
  · by_cases hf : f = file
    · subst hf; simp [Disk.sync]
    · simpa [Disk.sync, hf] using hs.synced f hdir

theorem WellFormed.syncDir (hd : d.WellFormed) : d.syncDir.WellFormed :=
  ⟨hd.dir_lt, hd.dir_lt, hd.synced⟩

/-- A directory sync settles every entry whose content is synced. -/
theorem settled_syncDir (hread : d.read n = c)
    (hsynced : ∀ f, d.dir n = some f → (d.files f).synced = true) : d.syncDir.Settled n c :=
  ⟨rfl, hread, hsynced⟩

theorem pinned_syncDir (h : d.dir n ≠ none) : d.syncDir.Pinned n :=
  ⟨h, h⟩

theorem WellFormed.powerLoss (hd : d.WellFormed) : d.powerLoss.WellFormed :=
  ⟨hd.ddir_lt, hd.ddir_lt, fun _ _ => rfl⟩

theorem Settled.powerLoss (hd : d.WellFormed) (hs : d.Settled n c) : d.powerLoss.Settled n c := by
  refine ⟨rfl, ?_, fun _ _ => rfl⟩
  rw [← hs.read]
  simp only [Disk.read, Disk.powerLoss, hs.entry]
  cases hdir : d.dir n with
  | none => rfl
  | some f => simp [hd.synced f (hs.synced f hdir)]

theorem Pinned.powerLoss (hp : d.Pinned n) : d.powerLoss.Pinned n :=
  ⟨hp.ddir, hp.ddir⟩

end Contents

theorem WellFormed.rename (hd : d.WellFormed) (source target : Name) :
    (d.rename source target).WellFormed := by
  refine ⟨fun m f hm => ?_, hd.ddir_lt, hd.synced⟩
  by_cases hs : m = source
  · simp [Disk.rename, hs] at hm
  · by_cases ht : m = target
    · subst ht
      exact hd.dir_lt source f (by simpa [Disk.rename, hs] using hm)
    · exact hd.dir_lt m f (by simpa [Disk.rename, hs, ht] using hm)

theorem Pinned.rename (hp : d.Pinned n) {source target : Name} (hs : n ≠ source) (ht : n ≠ target) :
    (d.rename source target).Pinned n :=
  ⟨by simpa [Disk.rename, hs, ht] using hp.dir, hp.ddir⟩

theorem WellFormed.remove (hd : d.WellFormed) (m : Name) : (d.remove m).WellFormed := by
  refine ⟨fun k f hk => ?_, hd.ddir_lt, hd.synced⟩
  by_cases hkm : k = m
  · simp [Disk.remove, hkm] at hk
  · exact hd.dir_lt k f (by simpa [Disk.remove, hkm] using hk)

theorem Settled.remove (hs : d.Settled n c) (hmn : n ≠ m) : (d.remove m).Settled n c :=
  ⟨by simpa [Disk.remove, hmn] using hs.entry, by simpa [Disk.read, Disk.remove, hmn] using hs.read,
    fun f hf => hs.synced f (by simpa [Disk.remove, hmn] using hf)⟩

theorem Pinned.remove (hp : d.Pinned n) (hmn : n ≠ m) : (d.remove m).Pinned n :=
  ⟨by simpa [Disk.remove, hmn] using hp.dir, hp.ddir⟩

end Disk

/-! ## File operations that may fail -/

/-- The operations a program may ask of the directory. -/
inductive FileOp (Name Content : Type) where
  /-- Open a new file, failing when the name exists. -/
  | create (n : Name)
  /-- Open a new file under an unused name of a family. -/
  | createTemp (temp : Nat → Name)
  | chmod (file : Nat)
  | write (file : Nat) (c : Content)
  | sync (file : Nat)
  | close (file : Nat)
  | rename (source target : Name)
  | remove (n : Name)
  | syncDir

/-- The answer of an operation, `none` when it fails. -/
def FileOp.Ans {Name Content : Type} : FileOp Name Content → Type
  | .create _ => Option Nat
  | .createTemp _ => Option (Nat × Nat)
  | _ => Option Unit

section

variable {Name Content : Type} [DecidableEq Name] [Inhabited Content]

/-- What an operation may answer and leave behind. Each of them may fail; a failed operation leaves
the directory as it was, but a failed write may leave anything in the file. -/
inductive FileOp.Exec (d : Disk Name Content) :
    (op : FileOp Name Content) → op.Ans → Disk Name Content → Prop where
  | create {n} (h : d.dir n = none) : Exec d (.create n) (some d.next) (d.create n)
  | createFail {n} : Exec d (.create n) none d
  | createTemp {temp} {k : Nat} (h : d.dir (temp k) = none) :
      Exec d (.createTemp temp) (some (k, d.next)) (d.create (temp k))
  | createTempFail {temp} : Exec d (.createTemp temp) none d
  | chmod {file} (r : Option Unit) : Exec d (.chmod file) r d
  | write {file c} : Exec d (.write file c) (some ()) (d.write file c)
  | writeFail {file c} (partly : Content) : Exec d (.write file c) none (d.write file partly)
  | sync {file} : Exec d (.sync file) (some ()) (d.sync file)
  | syncFail {file} : Exec d (.sync file) none d
  | close {file} (r : Option Unit) : Exec d (.close file) r d
  | rename {source target} (h : d.dir source ≠ none) :
      Exec d (.rename source target) (some ()) (d.rename source target)
  | renameFail {source target} : Exec d (.rename source target) none d
  | remove {n} (h : d.dir n ≠ none) : Exec d (.remove n) (some ()) (d.remove n)
  | removeFail {n} : Exec d (.remove n) none d
  | syncDir : Exec d .syncDir (some ()) d.syncDir
  | syncDirFail : Exec d .syncDir none d

theorem FileOp.Exec.wellFormed {d d' : Disk Name Content} {op : FileOp Name Content}
    {a : op.Ans} (h : op.Exec d a d') (hd : d.WellFormed) : d'.WellFormed := by
  cases h with
  | create | createTemp => exact hd.create _
  | write | writeFail => exact hd.write _ _
  | sync => exact hd.sync _
  | rename => exact hd.rename _ _
  | remove => exact hd.remove _
  | syncDir => exact hd.syncDir
  | _ => exact hd

end

end Storage
