import Docklane.Agent.Persist

/-!
# Every goroutine keeps the invariant

The weakest preconditions of `setMaintenanceBarrier` and `guardProgram` under interference, and the
soundness of the whole process: `Invariant` holds in every state an Agent can get into.
-/

namespace Docklane.Agent

open Concurrent Storage

variable {α : Type} {D : AgentDisk → Prop} {rejection : Rejection} {input : BarrierState}
  {r : Request} {d : AgentDisk}

section

variable {content : Option (Option BarrierState)} {Requested : BarrierState → Prop}
  {s : Process} {i : Nat} {b : Barrier} {log : List Event}

theorem consistent_stable : Disk.FlushStable (Consistent content b log) := by
  intro d d' h hf hvalid
  obtain ⟨hstate, husable, hset⟩ := h hvalid
  exact ⟨hstate, husable, hset.flush hf⟩

/-! ## The writer -/

variable {Q : Except Empty α → Process → Prop}

/-- The rule for any request of the writer. -/
theorem wp_owner {op : AgentOp} {k : op.Ans → AgentProgram α} (hD : Disk.FlushStable D)
    (hs : Owns i b log D s)
    (h : ∀ s₁ a s₂, Invariant content Requested s₁ → Owns i b log D s₁ → AgentExec i op s₁ a s₂ →
      Invariant content Requested s₂ ∧ s₂.writer = some i ∧ b.state.gen ≤ s₂.barrier.state.gen ∧
        AgentWp content Requested i (k a) Q s₂) :
    AgentWp content Requested i (.request op k) Q s := by
  refine wp_request (Owns.stable hD) hs fun s₁ hinv hown a s₂ hperf => ?_
  obtain ⟨hinv', hw', hgen, hk⟩ := h s₁ a s₂ hinv hown hperf
  exact ⟨hinv', guar_of_writer hinv hinv' hown.writer hw' (hown.barrier ▸ hgen), hk⟩

/-- The writer may let go of the lock. -/
def Ready (content : Option (Option BarrierState)) (i : Nat) (s : Process) : Prop :=
  ∃ b log, Owns i b log (Consistent content b log) s

theorem Owns.ready (h : Owns i b log (Consistent content b log) s) : Ready content i s :=
  ⟨b, log, h⟩

theorem wp_reject (hs : Owns i b log (Consistent content b log) s) :
    AgentWp content Requested i (Run.respond (.error rejection))
      (fun _ => Ready content i) s := by
  refine wp_owner consistent_stable hs fun s₁ a s₂ hinv hown hperf => ?_
  obtain rfl : s₂ = s₁ := hperf
  exact ⟨hinv, hown.writer, by rw [hown.barrier],
    wp_pure (Owns.stable consistent_stable) hown fun _ _ h => h.ready⟩

/-- Reading the barrier tells the writer what it knows already. -/
theorem wp_readBarrier {k : Barrier → AgentProgram α} (hD : Disk.FlushStable D)
    (hs : Owns i b log D s) (hk : ∀ s₁, Invariant content Requested s₁ → Owns i b log D s₁ →
      AgentWp content Requested i (k b) Q s₁) :
    AgentWp content Requested i (Run.barrier.bind k) Q s := by
  change wp agentMachine _ i (.request AgentOp.barrier k) Q s
  refine wp_owner hD hs fun s₁ a s₂ hinv hown hperf => ?_
  obtain ⟨rfl, rfl⟩ := hperf
  exact ⟨hinv, hown.writer, by rw [hown.barrier], by simpa only [hown.barrier] using hk _ hinv hown⟩

theorem wp_readIdentity {k : IdentityRead → AgentProgram α} (hD : Disk.FlushStable D)
    (hs : Owns i b log D s)
    (hk : ∀ identity s₁, Owns i b log D s₁ → AgentWp content Requested i (k identity) Q s₁) :
    AgentWp content Requested i (Run.identity.bind k) Q s := by
  change wp agentMachine _ i (.request AgentOp.identity k) Q s
  refine wp_owner hD hs fun s₁ a s₂ hinv hown hperf => ?_
  obtain rfl : s₂ = s₁ := hperf
  exact ⟨hinv, hown.writer, by rw [hown.barrier], hk a _ hown⟩

theorem wp_acknowledge {live : Identity} (hvalid : b.invalid = false)
    (hs : Owns i b log (Consistent content b log) s) :
    AgentWp content Requested i (transition.acknowledge live)
      (fun _ => Ready content i) s := by
  refine wp_readBarrier consistent_stable hs fun s₁ _ h₁ => ?_
  refine wp_owner consistent_stable h₁ fun s₂ a s₃ hinv hown hperf => ?_
  obtain rfl : s₃ = { s₂ with log := _ } := hperf
  obtain ⟨hw, rfl, rfl, hcons⟩ := hown
  obtain ⟨hstate, husable, hset⟩ := hcons hvalid
  have hsome : s₂.writer ≠ none := by simp [hw]
  refine ⟨{ hinv with
      logged := ⟨⟨husable, hinv.running_nil hsome, by rw [hstate], by rw [hstate]⟩, hinv.logged⟩
      quiet := fun h => absurd h hsome }, hw, le_rfl, ?_⟩
  exact wp_pure (Owns.stable consistent_stable)
    ⟨hw, rfl, rfl, fun _ => ⟨hstate, husable, hset⟩⟩ fun _ _ h => h.ready

theorem wp_accept {live : Identity} (hvalid : b.invalid = false) (hnewer : b.state.gen < input.gen)
    (husable : unusable log = false)
    (hs : Owns i b (.persisted input :: log) (fun d => d.Settled .state (some (some input))) s) :
    AgentWp content Requested i
      ((Run.accept input).bind fun _ => transition.acknowledge live)
      (fun _ => Ready content i) s := by
  refine wp_owner (Disk.FlushStable.settled _ _) hs fun s₁ a s₂ hinv hown hperf => ?_
  obtain rfl : s₂ = { s₁ with barrier := _ } := hperf
  have hsome : s₁.writer ≠ none := by simp [hown.writer]
  refine ⟨{ hinv with quiet := fun h => absurd h hsome }, hown.writer, hnewer.le, ?_⟩
  have hnow : Owns i { b with state := input } (.persisted input :: log)
      (Consistent content { b with state := input } (.persisted input :: log))
      { s₁ with barrier := { s₁.barrier with state := input } } :=
    ⟨hown.writer, by rw [hown.barrier], hown.log, fun _ => ⟨rfl, husable, hown.disk⟩⟩
  exact wp_acknowledge (b := { b with state := input }) hvalid hnow

theorem wp_invalidate (hnewer : (inForce content log).gen < input.gen)
    (hs : Owns i b log (fun _ => True) s) :
    AgentWp content Requested i
      ((Run.invalidate input).bind fun _ => Run.respond (.error persistFailed))
      (fun _ => Ready content i) s := by
  refine wp_owner true_stable hs fun s₁ a s₂ hinv hown hperf => ?_
  obtain rfl : s₂ = { s₁ with barrier := _, log := _ } := hperf
  obtain ⟨hw, rfl, rfl, -⟩ := hown
  have hsome : s₁.writer ≠ none := by simp [hw]
  refine ⟨{ hinv with
      running := fun x hx => by simp [running, hinv.running_nil hsome] at hx
      logged := ⟨hnewer, hinv.logged⟩
      quiet := fun h => absurd h hsome }, hw, le_rfl, ?_⟩
  exact wp_reject ⟨hw, rfl, rfl, fun h => by simp at h⟩

theorem wp_transition (hreq : Requested input) (hvalid : validBarrierState input = true)
    (hs : Owns i b log (Consistent content b log) s) :
    AgentWp content Requested i (transition input)
      (fun _ => Ready content i) s := by
  unfold transition
  refine wp_readBarrier consistent_stable hs fun s₁ _ h₁ => ?_
  cases hinvalid : b.invalid with
  | true => exact wp_reject h₁
  | false =>
    refine wp_readIdentity consistent_stable h₁ fun identity s₂ h₂ => ?_
    refine wp_readBarrier consistent_stable h₂ fun s₃ hinv₃ h₃ => ?_
    split
    · exact wp_reject h₃
    · rename_i live newer hdecide
      obtain ⟨-, -, hnewer, -⟩ := decideBarrier_ok hdecide
      obtain ⟨hstate, husable, hset⟩ := h₃.disk hinvalid
      cases newer with
      | false => exact wp_acknowledge hinvalid h₃
      | true =>
        have hgen := hnewer rfl
        rw [hstate] at hgen
        have hnil : running log = [] := by
          rw [← h₃.log]
          exact hinv₃.running_nil (by simp [h₃.writer])
        have hok : EventOk content Requested log (.persisted input) :=
          ⟨hreq, hvalid, hgen, husable, hnil⟩
        refine wp_bind hinv₃ (wp_mono (wp_persist hok ⟨h₃.writer, h₃.barrier, h₃.log, hset⟩) ?_)
        rintro (e | saved) s₄ - h₄
        · exact e.elim
        · cases saved with
          | true => exact wp_accept hinvalid (hnewer rfl) husable h₄
          | false => exact wp_invalidate hgen h₄

theorem idle_stable :
    Stable (agentProtocol content Requested) i ((agentProtocol content Requested).Idle i) :=
  fun h hr _ => (agentProtocol content Requested).idle_rely h hr

theorem wp_answer {answer : Except Rejection Ack} (ha : answer = .error rejection)
    (hs : (agentProtocol content Requested).Idle i s) :
    AgentWp content Requested i (Run.respond answer)
      (fun _ => (agentProtocol content Requested).Idle i) s := by
  subst ha
  refine wp_request idle_stable hs fun s₁ hinv h₁ a s₂ hperf => ?_
  obtain rfl : s₂ = s₁ := hperf
  exact ⟨hinv, ⟨fun j _ => Rely.refl j _, le_rfl⟩, wp_pure idle_stable h₁ fun _ _ h => h⟩

theorem wp_unlock (hs : Ready content i s) :
    AgentWp content Requested i Run.unlock
      (fun _ => (agentProtocol content Requested).Idle i) s := by
  obtain ⟨b, log, hs⟩ := hs
  refine wp_request (Owns.stable consistent_stable) hs fun s₁ hinv hown a s₂ hperf => ?_
  obtain rfl : s₂ = { s₁ with writer := none } := hperf
  obtain ⟨hw, rfl, rfl, hcons⟩ := hown
  have hreaders := hinv.exclusive (by simp [hw])
  refine ⟨{ hinv with exclusive := fun h => absurd rfl h, quiet := fun _ => hcons },
    ⟨fun j hj => ?_, le_rfl⟩,
    wp_pure idle_stable ⟨by simp [hreaders], by simp⟩ fun _ _ h => h⟩
  have hij : ¬ i = j := fun h => hj h.symm
  exact ⟨Iff.rfl, by simp [hw, hij], fun _ => rfl, fun _ _ => Iff.rfl, by simp [hw, hij]⟩

theorem wp_setMaintenanceBarrier {body : Option BarrierState}
    (hreq : ∀ input, body = some input → Requested input)
    (hs : (agentProtocol content Requested).Idle i s) :
    AgentWp content Requested i (setMaintenanceBarrier true body)
      (fun _ => (agentProtocol content Requested).Idle i) s := by
  unfold setMaintenanceBarrier
  rw [if_neg (by simp)]
  split
  · exact wp_answer rfl hs
  · rename_i input hcheck
    obtain ⟨rfl, hvalid⟩ : body = some input ∧ validBarrierState input = true := by
      unfold checkBarrierRequest at hcheck
      split at hcheck
      · split_ifs at hcheck with hv
        cases hcheck
        exact ⟨rfl, hv⟩
      · cases hcheck
    refine wp_request idle_stable hs fun s₁ hinv h₁ a s₂ hperf => ?_
    obtain ⟨hw, hreaders, rfl⟩ := hperf
    have hinv' : Invariant content Requested { s₁ with writer := some i } :=
      { hinv with exclusive := fun _ => hreaders, quiet := fun h => by simp at h }
    refine ⟨hinv', ⟨fun j hj => ?_, le_rfl⟩, ?_⟩
    · have hij : ¬ i = j := fun h => hj h.symm
      exact ⟨Iff.rfl, by simp [hw, hij], fun _ => rfl, fun _ _ => Iff.rfl, by simp [hw]⟩
    · change wp _ _ i ((transition input).bind fun _ => Run.unlock) _ _
      refine wp_bind hinv' (wp_mono (wp_transition (hreq input rfl) hvalid
        ⟨rfl, rfl, rfl, hinv.quiet hw⟩) ?_)
      rintro (e | ⟨⟨⟩⟩) s₃ - h₃
      · exact e.elim
      · exact wp_unlock h₃

/-! ## The readers -/

/-- Goroutine `i` holds the read lock, sees the barrier `b`, and its handler is not running. -/
structure Reads (i : Nat) (b : Barrier) (s : Process) : Prop where
  mem : i ∈ s.readers
  barrier : s.barrier = b
  waiting : ∀ x ∈ running s.log, x.1 ≠ i

theorem Reads.stable : Stable (agentProtocol content Requested) i (Reads i b) := by
  intro s s' h hr _
  refine ⟨hr.reader.mpr h.mem, (hr.barrier (.inl h.mem)).trans h.barrier, fun x hx hxi => ?_⟩
  exact h.waiting x ((hr.running x hxi).mp hx) hxi

theorem Invariant.writer_none (hs : Invariant content Requested s) (hi : i ∈ s.readers) :
    s.writer = none := by
  by_contra hw
  simp [hs.exclusive hw] at hi

/-- The rule for a request of a reader that leaves everything as it is. -/
theorem wp_look {op : AgentOp} {k : op.Ans → AgentProgram α} (hs : Reads i b s)
    (hop : ∀ {s₁ a s₂}, AgentExec i op s₁ a s₂ → s₂ = s₁)
    (hk : ∀ s₁ a, Reads i b s₁ → AgentExec i op s₁ a s₁ → AgentWp content Requested i (k a) Q s₁) :
    AgentWp content Requested i (.request op k) Q s := by
  refine wp_request Reads.stable hs fun s₁ hinv h₁ a s₂ hperf => ?_
  obtain rfl := hop hperf
  exact ⟨hinv, ⟨fun j _ => Rely.refl j _, le_rfl⟩, hk _ a h₁ hperf⟩

theorem wp_lookBarrier {k : Barrier → AgentProgram α} (hs : Reads i b s)
    (hk : ∀ s₁, Reads i b s₁ → AgentWp content Requested i (k b) Q s₁) :
    AgentWp content Requested i (Run.barrier.bind k) Q s := by
  change wp agentMachine _ i (.request AgentOp.barrier k) Q s
  refine wp_look hs (fun h => h.2) fun s₁ a h₁ ha => ?_
  obtain rfl : a = b := ha.1.trans h₁.barrier
  exact hk s₁ h₁

theorem wp_lookIdentity {k : IdentityRead → AgentProgram α} (hs : Reads i b s)
    (hk : ∀ identity s₁, Reads i b s₁ → AgentWp content Requested i (k identity) Q s₁) :
    AgentWp content Requested i (Run.identity.bind k) Q s := by
  change wp agentMachine _ i (.request AgentOp.identity k) Q s
  exact wp_look hs (fun h => h) fun s₁ identity h₁ _ => hk identity s₁ h₁

theorem wp_guardReject (hs : Reads i b s) :
    AgentWp content Requested i (Run.respond (.error rejection))
      (fun _ => Reads i b) s :=
  wp_look hs (fun h => h) fun _ _ h _ => wp_pure Reads.stable h fun _ _ h => h

/-- A handler starts under the read lock, with the barrier open at its generation. -/
theorem wp_handler {identity : IdentityRead} (hs : Reads i b s) (hbefore : guardBefore b r = .ok ())
    (hafter : guardAfter b r identity = .ok ()) :
    AgentWp content Requested i
      ((Run.handlerStart r identity).bind fun _ => Run.handlerEnd) (fun _ => Reads i b) s := by
  obtain ⟨hvalid, hopen, hcluster⟩ := guardBefore_ok hbefore
  obtain ⟨live, hlive, -, hlive', hgen⟩ := guardAfter_ok hafter
  refine wp_request Reads.stable hs fun s₁ hinv h₁ a s₂ hperf => ?_
  obtain rfl : s₂ = { s₁ with log := _ } := hperf
  obtain ⟨hmem, rfl, hwaiting⟩ := h₁
  have hnone := hinv.writer_none hmem
  obtain ⟨hstate, husable, hset⟩ := hinv.quiet hnone hvalid
  have hadmitted : Admitted (inForce content s₁.log) r identity := by
    rw [← hstate]
    exact ⟨hopen, hcluster, hgen, live, hlive, hlive'⟩
  refine ⟨{ hinv with
      running := ?_
      logged := ⟨⟨husable, hadmitted⟩, hinv.logged⟩ }, ⟨fun j hj => ?_, le_rfl⟩, ?_⟩
  · rintro x (_ | ⟨_, hx⟩)
    · exact ⟨hmem, hvalid⟩
    · exact hinv.running x hx
  · refine ⟨Iff.rfl, Iff.rfl, fun _ => rfl, ?_, by simp [hnone]⟩
    rintro ⟨_, _⟩ rfl
    simp [running, hj]
  · -- the handler runs for as long as it likes, and returns
    refine wp_request (K := fun s => i ∈ s.readers ∧ s.barrier = s₁.barrier)
      (fun h hr _ => ⟨hr.reader.mpr h.1, (hr.barrier (.inl h.1)).trans h.2⟩) ⟨hmem, rfl⟩
      fun s₃ hinv₃ h₃ a s₄ hperf => ?_
    obtain rfl : s₄ = { s₃ with log := _ } := hperf
    have hnone₃ := hinv₃.writer_none h₃.1
    refine ⟨{ hinv₃ with
        running := fun x hx => hinv₃.running x (List.mem_of_mem_filter hx)
        logged := ⟨trivial, hinv₃.logged⟩ }, ⟨fun j hj => ?_, le_rfl⟩, ?_⟩
    · refine ⟨Iff.rfl, Iff.rfl, fun _ => rfl, ?_, by simp [hnone₃]⟩
      rintro ⟨_, _⟩ rfl
      simp [running, hj]
    · exact wp_pure Reads.stable ⟨h₃.1, h₃.2, fun x hx => by simpa using (List.mem_filter.mp hx).2⟩
        fun _ _ h => h

theorem wp_guarded (hs : Reads i b s) :
    AgentWp content Requested i (guarded r) (fun _ => Reads i b) s := by
  unfold guarded
  refine wp_lookBarrier hs fun s₁ h₁ => ?_
  split
  · exact wp_guardReject h₁
  · rename_i hbefore
    refine wp_lookIdentity h₁ fun identity s₂ h₂ => wp_lookBarrier h₂ fun s₃ h₃ => ?_
    split
    · exact wp_guardReject h₃
    · rename_i hafter
      exact wp_handler h₃ hbefore hafter

theorem wp_runlock (hs : Reads i b s) :
    AgentWp content Requested i Run.runlock
      (fun _ => (agentProtocol content Requested).Idle i) s := by
  refine wp_request Reads.stable hs fun s₁ hinv h₁ a s₂ hperf => ?_
  obtain rfl : s₂ = { s₁ with readers := s₁.readers.erase i } := hperf
  have hnone := hinv.writer_none h₁.mem
  refine ⟨{ hinv with
      nodup := hinv.nodup.erase i
      exclusive := fun h => absurd hnone h
      running := fun x hx => ⟨(List.mem_erase_of_ne (h₁.waiting x hx)).mpr (hinv.running x hx).1,
        (hinv.running x hx).2⟩ }, ⟨fun j hj => ?_, le_rfl⟩, ?_⟩
  · exact ⟨List.mem_erase_of_ne hj, Iff.rfl, fun _ => rfl, fun _ _ => Iff.rfl, by simp [hnone]⟩
  · exact wp_pure idle_stable ⟨hinv.nodup.not_mem_erase, by simp [hnone]⟩ fun _ _ h => h

theorem wp_guardProgram (hs : (agentProtocol content Requested).Idle i s) :
    AgentWp content Requested i (guardProgram true r)
      (fun _ => (agentProtocol content Requested).Idle i) s := by
  unfold guardProgram
  by_cases hpass : (!true) = true ∨ isMutationPath r = false
  · rw [if_pos hpass]
    refine wp_request idle_stable hs fun s₁ hinv h₁ a s₂ hperf => ?_
    obtain rfl : s₂ = s₁ := hperf
    exact ⟨hinv, ⟨fun j _ => Rely.refl j _, le_rfl⟩, wp_pure idle_stable h₁ fun _ _ h => h⟩
  · rw [if_neg hpass]
    refine wp_request idle_stable hs fun s₁ hinv h₁ a s₂ hperf => ?_
    obtain ⟨hnone, rfl⟩ := hperf
    have hinv' : Invariant content Requested { s₁ with readers := i :: s₁.readers } :=
      { hinv with
        nodup := List.nodup_cons.mpr ⟨h₁.1, hinv.nodup⟩
        exclusive := fun h => absurd hnone h
        running := fun x hx => (hinv.running x hx).imp (List.mem_cons_of_mem _) id }
    refine ⟨hinv', ⟨fun j hj => ?_, le_rfl⟩, ?_⟩
    · exact ⟨by simp [hj], Iff.rfl, fun _ => rfl, fun _ _ => Iff.rfl, by simp [hnone]⟩
    · change wp _ _ i ((guarded r).bind fun _ => Run.runlock) _ _
      have hreads : Reads i s₁.barrier { s₁ with readers := i :: s₁.readers } :=
        ⟨List.mem_cons_self, rfl, fun x hx hxi => h₁.1 (hxi ▸ (hinv.running x hx).1)⟩
      refine wp_bind hinv' (wp_mono (wp_guarded hreads) ?_)
      rintro (e | ⟨⟨⟩⟩) s₃ - h₃
      · exact e.elim
      · exact wp_runlock h₃

end

/-! ## Restarts -/

/-- A barrier that starts valid has found no marker, and has loaded what the file holds. -/
theorem Boots.valid {b : Barrier} (h : Boots d b) (hvalid : b.invalid = false) :
    d.dir .marker = none ∧ b.state = loadedState (d.read .state) := by
  obtain ⟨marker, file, hmarker, hfile, rfl⟩ := h
  unfold newMutationBarrier at hvalid ⊢
  simp only [Bool.not_true, Bool.false_eq_true, if_false] at hvalid ⊢
  rcases hmarker with rfl | rfl
  · simp at hvalid
  split_ifs at hvalid ⊢ with hm
  · refine ⟨hm, ?_⟩
    rcases hfile with rfl | rfl
    · simp at hvalid
    rcases hread : d.read .state with _ | _ | saved
    · simp [loadedState]
    · simp [hread] at hvalid
    · simp only [hread] at hvalid ⊢
      split_ifs at hvalid ⊢
      rfl

theorem Boots.enabled {b : Barrier} (h : Boots d b) : b.enabled = true := by
  obtain ⟨marker, file, -, -, rfl⟩ := h
  unfold newMutationBarrier
  simp only
  repeat' split
  all_goals rfl

/-- Whatever a restart finds on a durable disk is consistent with the history. -/
theorem Boots.consistent {content : Option (Option BarrierState)} {b : Barrier} {log : List Event}
    (h : Boots d b) (hd : Durable content log d) :
    Consistent content b (.booted b.invalid :: log) d := by
  intro hvalid
  obtain ⟨hmarker, hstate⟩ := h.valid hvalid
  rcases hd with hset | hpin
  · exact ⟨by rw [hstate, hset.read]; rfl, hvalid, hset⟩
  · exact absurd hmarker hpin.dir

section

variable {content : Option (Option BarrierState)} {Requested : BarrierState → Prop}
  {s s' : Process}

theorem Invariant.flush (hs : Invariant content Requested s) (hd : s.disk.FlushStep d) :
    Invariant content Requested { s with disk := d } :=
  { hs with
    wellFormed := hs.wellFormed.flushStep hd
    durable := hs.durable.imp (fun h => h.flushStep hd) (fun h => h.flushStep hd)
    quiet := fun hw => consistent_stable _ _ (hs.quiet hw) (.single hd) }

theorem Invariant.crash (hs : Invariant content Requested s) (h : AgentCrash s s') :
    Invariant content Requested s' := by
  obtain ⟨d, b, hd, hboots, rfl⟩ := h
  have hwf : d.WellFormed := by
    rcases hd with rfl | rfl
    · exact hs.wellFormed
    · exact hs.wellFormed.powerLoss
  have hdur : Durable content s.log d := by
    rcases hd with rfl | rfl
    · exact hs.durable
    · exact hs.durable.imp (fun h => h.powerLoss hs.wellFormed) (fun h => h.powerLoss)
  exact {
    enabled := hboots.enabled
    wellFormed := hwf
    nodup := List.nodup_nil
    exclusive := fun _ => rfl
    running := by simp [Agent.running]
    logged := ⟨trivial, hs.logged⟩
    durable := hdur
    quiet := fun _ => hboots.consistent hdur }

/-- Every goroutine, the disk and every crash keep the invariant. -/
theorem agent_sound :
    Sound agentMachine (agentProtocol content Requested) (AgentEntry Requested) where
  entry := by
    rintro i p s (⟨r, rfl⟩ | ⟨body, hreq, rfl⟩) _ hidle
    · exact wp_guardProgram hidle
    · exact wp_setMaintenanceBarrier hreq hidle
  env := by
    rintro s s' hs ⟨d, hd, rfl⟩
    refine ⟨hs.flush hd, fun j => ?_⟩
    exact ⟨Iff.rfl, Iff.rfl, fun _ => rfl, fun _ _ => Iff.rfl, fun _ => ⟨rfl, .single hd⟩⟩
  crash := by
    rintro S s s' hs ⟨rfl, hcrash⟩
    refine ⟨hs.crash hcrash, fun j _ => ?_, fun j hj => absurd (Set.mem_univ j) hj⟩
    obtain ⟨d, b, -, -, rfl⟩ := hcrash
    exact ⟨by simp, by simp⟩

theorem Started.invariant {d : BootDisk} (hs : Started d s) : Invariant d.content Requested s := by
  obtain ⟨b, hboots, rfl⟩ := hs
  have hdur : Durable d.content [] d.disk := .inl d.settled
  exact {
    enabled := hboots.enabled
    wellFormed := d.wellFormed
    nodup := List.nodup_nil
    exclusive := fun _ => rfl
    running := by simp [Agent.running]
    logged := ⟨trivial, trivial⟩
    durable := hdur
    quiet := fun _ => hboots.consistent hdur }

theorem AgentReachable.safe {d : BootDisk} {c : AgentConfig} (hs : Started d s)
    (hc : AgentReachable Requested s c) :
    Safe agentMachine (agentProtocol d.content Requested) c := by
  refine Reachable.safe agent_sound hs.invariant ?_ hc
  obtain ⟨b, -, rfl⟩ := hs
  exact fun i => ⟨by simp, by simp⟩

theorem AgentReachable.invariant {d : BootDisk} {c : AgentConfig} (hs : Started d s)
    (hc : AgentReachable Requested s c) : Invariant d.content Requested c.state :=
  (hc.safe hs).inv

end

end Docklane.Agent
