import Docklane.Agent.Invariant

/-!
# Writing the barrier state

The order of the operations of `persist` against every crash point. A state is replaced only while
the marker is pinned, and the marker is removed only after the new state has settled; so at every
step either the state in force is what a restart finds, or a restart finds the marker. The stages
below are what the writer knows of the disk between two operations.
-/

namespace Docklane.Agent

open Concurrent Storage

variable {d d' : AgentDisk} {a : Option Unit}

section

variable {content : Option (Option BarrierState)} {Requested : BarrierState → Prop}
  {s : Process} {i : Nat} {b : Barrier} {log : List Event}

/-- The rule for a file operation of the writer that is not the last one of `persist`: it takes the
disk from `D` to `T` and leaves it durable. -/
theorem wp_file {α : Type} {saving : BarrierState} {op : FileOp FileName (Option BarrierState)}
    {k : op.Ans → AgentProgram α} {Q : Except Empty α → Process → Prop}
    {D : AgentDisk → Prop} {T : op.Ans → AgentDisk → Prop} (hD : Disk.FlushStable D)
    (hs : Owns i b log D s) (hlog : ∀ a, completion saving op a = [])
    (hstep : ∀ {d a d'}, d.WellFormed → D d → op.Exec d a d' → Durable content log d →
      Durable content log d' ∧ T a d')
    (hk : ∀ a s', Invariant content Requested s' → Owns i b log (T a) s' →
      AgentWp content Requested i (k a) Q s') :
    AgentWp content Requested i (.request (.file saving op) k) Q s := by
  refine wp_request (Owns.stable hD) hs fun s₁ hinv hown a s₂ hperf => ?_
  obtain ⟨d, hexec, rfl⟩ := hperf
  obtain ⟨hw, hb, rfl, hdisk⟩ := hown
  have hsome : s₁.writer ≠ none := by simp [hw]
  obtain ⟨hdur, hT⟩ := hstep hinv.wellFormed hdisk hexec hinv.durable
  rw [hlog a, List.nil_append]
  have hinv' := hinv.setDisk hsome (hexec.wellFormed hinv.wellFormed) hdur
  exact ⟨hinv', guar_of_writer hinv hinv' hw hw le_rfl, hk a _ hinv' ⟨hw, hb, rfl, hT⟩⟩

/-! ## The stages of `persist` -/

/-- The marker is there, but a power loss may take it away. -/
def Marked (content : Option (Option BarrierState)) (log : List Event) (d : AgentDisk) : Prop :=
  d.Settled .state (savedContent content log) ∧ d.dir .marker ≠ none

/-- The marker is pinned; the state file is still the old one. -/
def Fenced (content : Option (Option BarrierState)) (log : List Event) (d : AgentDisk) : Prop :=
  d.Settled .state (savedContent content log) ∧ d.Pinned .marker

/-- The temporary file is open, and is not the state file. -/
def Staged (content : Option (Option BarrierState)) (log : List Event) (temp file : Nat)
    (d : AgentDisk) : Prop :=
  Fenced content log d ∧ d.dir (.temp temp) = some file ∧ d.dir .state ≠ some file

/-- The temporary file holds `c`, and whether that is synced. -/
def Filled (content : Option (Option BarrierState)) (log : List Event) (temp file : Nat)
    (c : Option BarrierState) (synced : Bool) (d : AgentDisk) : Prop :=
  Staged content log temp file d ∧ (d.files file).data = c ∧ (synced → (d.files file).synced)

/-- The state file is the synced temporary one, under the pinned marker. -/
def Replaced (file : Nat) (c : Option BarrierState) (d : AgentDisk) : Prop :=
  d.Pinned .marker ∧ d.dir .state = some file ∧ (d.files file).data = c ∧
    (d.files file).synced = true

/-- The new state has settled; the marker is still there. -/
def Replicated (c : Option BarrierState) (d : AgentDisk) : Prop :=
  d.Settled .state (some c) ∧ d.Pinned .marker

variable {temp file : Nat} {c : Option BarrierState}

theorem marked_stable : Disk.FlushStable (Marked content log) :=
  (Disk.FlushStable.settled _ _).and (Disk.FlushStable.dir fun dir => dir FileName.marker ≠ none)

theorem fenced_stable : Disk.FlushStable (Fenced content log) :=
  (Disk.FlushStable.settled _ _).and (Disk.FlushStable.pinned _)

theorem staged_stable : Disk.FlushStable (Staged content log temp file) :=
  fenced_stable.and (Disk.FlushStable.dir fun dir =>
    dir (FileName.temp temp) = some file ∧ dir FileName.state ≠ some file)

theorem filled_stable {synced : Bool} : Disk.FlushStable (Filled content log temp file c synced) :=
  staged_stable.and (Disk.FlushStable.file file fun data isSynced =>
    data = c ∧ (synced → isSynced))

theorem replaced_stable : Disk.FlushStable (Replaced file c) :=
  (Disk.FlushStable.pinned _).and ((Disk.FlushStable.dir fun dir =>
    dir FileName.state = some file).and
    (Disk.FlushStable.file file fun data synced => data = c ∧ synced = true))

theorem replicated_stable : Disk.FlushStable (Replicated c) :=
  (Disk.FlushStable.settled _ _).and (Disk.FlushStable.pinned _)

theorem true_stable : Disk.FlushStable fun _ : AgentDisk => True :=
  fun _ _ _ _ => trivial

/-! ## One operation at a time -/

/-- Where an operation fails, nothing is known of the disk but that it is durable. -/
def orElse {α : Type} (D : α → AgentDisk → Prop) : Option α → AgentDisk → Prop
  | some a => D a
  | none => fun _ => True

/-- Closing a file or removing a temporary name does not touch what matters. -/
theorem durable_removeTemp (h : Durable content log d) {k : Nat} :
    Durable content log (d.remove (.temp k)) :=
  h.imp (fun hs => hs.remove (by simp)) (fun hp => hp.remove (by simp))

theorem exec_openMarker {a : Option Nat} (hd : d.WellFormed)
    (hs : d.Settled .state (savedContent content log)) (h : FileOp.Exec d (.create .marker) a d') :
    Durable content log d' ∧ orElse (fun _ => Marked content log) a d' := by
  cases h with
  | create =>
    have hs' := hs.create hd (m := .marker) (by simp)
    exact ⟨.inl hs', hs', by simp [Disk.create]⟩
  | createFail => exact ⟨.inl hs, trivial⟩

theorem exec_syncMarker (hm : Marked content log d) (h : FileOp.Exec d (.sync file) a d') :
    Durable content log d' ∧ orElse (fun _ => Marked content log) a d' := by
  cases h with
  | sync =>
    have hs' := hm.1.sync file
    exact ⟨.inl hs', hs', hm.2⟩
  | syncFail => exact ⟨.inl hm.1, trivial⟩

theorem exec_syncDir_marked (hm : Marked content log d) (h : FileOp.Exec d .syncDir a d') :
    Durable content log d' ∧ orElse (fun _ => Fenced content log) a d' := by
  cases h with
  | syncDir =>
    have hs' := Disk.settled_syncDir hm.1.read hm.1.synced
    exact ⟨.inl hs', hs', Disk.pinned_syncDir hm.2⟩
  | syncDirFail => exact ⟨.inl hm.1, trivial⟩

theorem exec_createTemp {a : Option (Nat × Nat)} (hd : d.WellFormed) (hf : Fenced content log d)
    (h : FileOp.Exec d (.createTemp .temp) a d') :
    Durable content log d' ∧ orElse (fun p => Staged content log p.1 p.2) a d' := by
  cases h with
  | @createTemp _ k hk =>
    have hs := hf.1.create hd (m := .temp k) (by simp)
    refine ⟨.inl hs, ⟨hs, hf.2.create _⟩, by simp [Disk.create], ?_⟩
    intro hstate
    have := hd.dir_lt .state d.next (by simpa [Disk.create] using hstate)
    omega
  | createTempFail => exact ⟨.inl hf.1, trivial⟩

theorem exec_write (hs : Staged content log temp file d) (h : FileOp.Exec d (.write file c) a d') :
    Durable content log d' ∧ orElse (fun _ => Filled content log temp file c false) a d' := by
  obtain ⟨⟨hset, hpin⟩, htemp, hstate⟩ := hs
  cases h with
  | write =>
    have hset' := hset.write hstate c
    exact ⟨.inl hset', ⟨⟨hset', hpin.dir, hpin.ddir⟩, htemp, hstate⟩, by simp [Disk.write], by simp⟩
  | writeFail p => exact ⟨.inl (hset.write hstate p), trivial⟩

theorem exec_sync (hf : Filled content log temp file c false d)
    (h : FileOp.Exec d (.sync file) a d') :
    Durable content log d' ∧ orElse (fun _ => Filled content log temp file c true) a d' := by
  obtain ⟨⟨⟨hset, hpin⟩, htemp, hstate⟩, hdata, -⟩ := hf
  cases h with
  | sync =>
    have hset' := hset.sync file
    exact ⟨.inl hset', ⟨⟨hset', hpin.dir, hpin.ddir⟩, htemp, hstate⟩,
      by simpa [Disk.sync] using hdata, by simp [Disk.sync]⟩
  | syncFail => exact ⟨.inl hset, trivial⟩

theorem exec_rename (hf : Filled content log temp file c true d)
    (h : FileOp.Exec d (.rename (.temp temp) .state) a d') :
    Durable content log d' ∧ orElse (fun _ => Replaced file c) a d' := by
  obtain ⟨⟨⟨hset, hpin⟩, htemp, hstate⟩, hdata, hsynced⟩ := hf
  cases h with
  | rename =>
    have hpin' : (d.rename (.temp temp) .state).Pinned .marker := hpin.rename (by simp) (by simp)
    exact ⟨.inr hpin', hpin', by simp [Disk.rename, htemp], hdata, hsynced rfl⟩
  | renameFail => exact ⟨.inl hset, trivial⟩

theorem exec_syncDir_replaced (hr : Replaced file c d) (h : FileOp.Exec d .syncDir a d') :
    Durable content log d' ∧ orElse (fun _ => Replicated c) a d' := by
  obtain ⟨hpin, hstate, hdata, hsynced⟩ := hr
  cases h with
  | syncDir =>
    have hpin' := Disk.pinned_syncDir hpin.dir
    refine ⟨.inr hpin', Disk.settled_syncDir ?_ ?_, hpin'⟩
    · simp [Disk.read, hstate, hdata]
    · intro f hf
      obtain rfl : file = f := by simpa [hstate] using hf
      exact hsynced
  | syncDirFail => exact ⟨.inr hpin, trivial⟩

/-! ## The whole of `persist` -/

/-- What is known when a write of `input` has ended. -/
def Outcome (i : Nat) (b : Barrier) (log : List Event)
    (input : BarrierState) : Except Empty Bool → Process → Prop
  | .ok true => Owns i b (.persisted input :: log) fun d => d.Settled .state (some (some input))
  | .ok false => Owns i b log fun _ => True
  | .error _ => fun _ => True

variable {input : BarrierState}

theorem wp_giveUp (hs : Owns i b log (fun _ => True) s) :
    AgentWp content Requested i (.pure false)
      (Outcome i b log input) s :=
  wp_pure (Owns.stable true_stable) hs fun _ _ h => h

theorem wp_closeAndGiveUp (hs : Owns i b log (fun _ => True) s) :
    AgentWp content Requested i
      (.request (.file input (.close file)) fun _ => .pure false)
      (Outcome i b log input) s := by
  refine wp_file (T := fun _ _ => True) true_stable hs (fun _ => rfl) ?_ fun _ _ _ h => wp_giveUp h
  intro d a d' _ _ hexec hdur
  cases hexec
  exact ⟨hdur, trivial⟩

/-- The last operation of `persist`: with the marker gone, the new state is in force. -/
theorem wp_removeMarker (hok : EventOk content Requested log (.persisted input))
    (hs : Owns i b log (Replicated (some input)) s) :
    AgentWp content Requested i
      (do let some () ← removeFile input .marker | return false
          return true)
      (Outcome i b log input) s := by
  refine wp_request (Owns.stable replicated_stable) hs fun s₁ hinv hown a s₂ hperf => ?_
  obtain ⟨d, hexec, rfl⟩ := hperf
  obtain ⟨hw, hb, rfl, hset, hpin⟩ := hown
  have hsome : s₁.writer ≠ none := by simp [hw]
  cases hexec with
  | remove =>
    have hset' := hset.remove (m := .marker) (by simp)
    have hinv' : Invariant content Requested
        { s₁ with disk := s₁.disk.remove .marker, log := .persisted input :: s₁.log } :=
      { hinv with
        wellFormed := hinv.wellFormed.remove _
        logged := ⟨hok, hinv.logged⟩
        durable := .inl hset'
        quiet := fun h => absurd h hsome }
    exact ⟨hinv', guar_of_writer hinv hinv' hw hw le_rfl,
      wp_pure (Owns.stable (Disk.FlushStable.settled _ _)) ⟨hw, hb, rfl, hset'⟩ fun _ _ h => h⟩
  | removeFail =>
    exact ⟨hinv, guar_of_writer hinv hinv hw hw le_rfl, wp_giveUp ⟨hw, hb, rfl, trivial⟩⟩

theorem wp_replaceState (hok : EventOk content Requested log (.persisted input))
    (hs : Owns i b log (Staged content log temp file) s) :
    AgentWp content Requested i (replaceState input temp file)
      (Outcome i b log input) s := by
  refine wp_file (T := fun _ => Staged content log temp file) staged_stable hs (fun _ => rfl) ?_ ?_
  · intro d a d' _ hD hexec hdur
    cases hexec
    exact ⟨hdur, hD⟩
  rintro (_ | ⟨⟨⟩⟩) s₁ - h₁
  · exact wp_closeAndGiveUp ⟨h₁.writer, h₁.barrier, h₁.log, trivial⟩
  refine wp_file staged_stable h₁ (fun _ => rfl) (fun _ hD hexec _ => exec_write hD hexec) ?_
  rintro (_ | ⟨⟨⟩⟩) s₂ - h₂
  · exact wp_closeAndGiveUp h₂
  refine wp_file filled_stable h₂ (fun _ => rfl) (fun _ hD hexec _ => exec_sync hD hexec) ?_
  rintro (_ | ⟨⟨⟩⟩) s₃ - h₃
  · exact wp_closeAndGiveUp h₃
  refine wp_file (T := fun _ => Filled content log temp file (some input) true) filled_stable h₃
    (fun _ => rfl) ?_ ?_
  · intro d a d' _ hD hexec hdur
    cases hexec
    exact ⟨hdur, hD⟩
  rintro (_ | ⟨⟨⟩⟩) s₄ - h₄
  · exact wp_giveUp ⟨h₄.writer, h₄.barrier, h₄.log, trivial⟩
  refine wp_file filled_stable h₄ (fun _ => rfl) (fun _ hD hexec _ => exec_rename hD hexec) ?_
  rintro (_ | ⟨⟨⟩⟩) s₅ - h₅
  · exact wp_giveUp h₅
  refine wp_file replaced_stable h₅ (fun _ => rfl)
    (fun _ hD hexec _ => exec_syncDir_replaced hD hexec) ?_
  rintro (_ | ⟨⟨⟩⟩) s₆ - h₆
  · exact wp_giveUp h₆
  exact wp_removeMarker hok h₆

/-- The deferred removal of the temporary name keeps the outcome. -/
theorem wp_removeTemp {saved : Bool} (hs : Outcome i b log input (.ok saved) s) :
    AgentWp content Requested i
      (.request (.file input (.remove (.temp temp))) fun _ => .pure saved)
      (Outcome i b log input) s := by
  cases saved with
  | false =>
    refine wp_file (T := fun _ _ => True) true_stable hs (fun _ => rfl) ?_
      fun _ _ _ h => wp_giveUp h
    intro d a d' _ _ hexec hdur
    cases hexec with
    | remove => exact ⟨durable_removeTemp hdur, trivial⟩
    | removeFail => exact ⟨hdur, trivial⟩
  | true =>
    have hstable := Disk.FlushStable.settled FileName.state (some (some input))
    refine wp_file (T := fun _ d => d.Settled .state (some (some input))) hstable hs
      (fun _ => rfl) ?_ fun _ _ _ h => wp_pure (Owns.stable hstable) h fun _ _ h => h
    intro d a d' _ hD hexec hdur
    cases hexec with
    | remove => exact ⟨durable_removeTemp hdur, hD.remove (by simp)⟩
    | removeFail => exact ⟨hdur, hD⟩

/-- `persist` of a newer state, by the writer: it completes and the state has settled, or it
reports an error and the state in force has not changed. -/
theorem wp_persist (hok : EventOk content Requested log (.persisted input))
    (hs : Owns i b log (fun d => d.Settled .state (savedContent content log)) s) :
    AgentWp content Requested i (persist input)
      (Outcome i b log input) s := by
  refine wp_file (Disk.FlushStable.settled _ _) hs (fun _ => rfl)
    (fun hd hD hexec _ => exec_openMarker hd hD hexec) ?_
  rintro (_ | pending) s₁ - h₁
  · exact wp_giveUp h₁
  refine wp_file marked_stable h₁ (fun _ => rfl) (fun _ hD hexec _ => exec_syncMarker hD hexec) ?_
  rintro (_ | ⟨⟨⟩⟩) s₂ - h₂
  · exact wp_closeAndGiveUp h₂
  refine wp_file (T := fun _ => Marked content log) marked_stable h₂ (fun _ => rfl) ?_ ?_
  · intro d a d' _ hD hexec hdur
    cases hexec
    exact ⟨hdur, hD⟩
  rintro (_ | ⟨⟨⟩⟩) s₃ - h₃
  · exact wp_giveUp ⟨h₃.writer, h₃.barrier, h₃.log, trivial⟩
  refine wp_file marked_stable h₃ (fun _ => rfl)
    (fun _ hD hexec _ => exec_syncDir_marked hD hexec) ?_
  rintro (_ | ⟨⟨⟩⟩) s₄ - h₄
  · exact wp_giveUp h₄
  refine wp_file fenced_stable h₄ (fun _ => rfl)
    (fun hd hD hexec _ => exec_createTemp hd hD hexec) ?_
  rintro (_ | ⟨temp, file⟩) s₅ hinv₅ h₅
  · exact wp_giveUp h₅
  change wp _ _ i ((replaceState input temp file).bind fun saved =>
    (removeFile input (.temp temp)).bind fun _ => .pure saved) _ s₅
  refine wp_bind hinv₅ (wp_mono (wp_replaceState hok h₅) ?_)
  rintro (e | saved) s₆ - h₆
  · exact e.elim
  · exact wp_removeTemp h₆

end

end Docklane.Agent
