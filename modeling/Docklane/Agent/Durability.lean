import Docklane.Agent.Drain

/-!
# Durability of the barrier

What a process finds when it starts again after a crash or a power loss at any point of any run.
The answer is in the history: the barrier is invalid, or it has the state of the latest persist
that ran to completion.
-/

namespace Docklane.Agent

open Concurrent Storage

variable {content : Option (Option BarrierState)} {Requested : BarrierState → Prop}
  {s s' : Process}

/-- A restart yields an invalid barrier, or the state in force. -/
theorem Invariant.restart (hs : Invariant content Requested s) (h : AgentCrash s s') :
    s'.barrier.invalid = true ∨ s'.barrier.state = inForce content s.log := by
  have hs' := hs.crash h
  obtain ⟨d, b, -, -, rfl⟩ := h
  cases hvalid : b.invalid with
  | true => exact .inl rfl
  | false =>
    have hstate : b.state = inForce content (.booted b.invalid :: s.log) := (hs'.quiet rfl hvalid).1
    exact .inr hstate

/-- An invalid barrier rejects every mutation request and every barrier request. -/
theorem invalid_rejects {b : Barrier} (h : b.invalid = true) :
    (∀ r, ∃ rejection, guardBefore b r = .error rejection) ∧
      ∀ identity, ∃ rejection, getMaintenanceBarrier b identity = .error rejection := by
  refine ⟨fun r => ?_, fun identity => ?_⟩
  · unfold guardBefore
    exact ⟨_, if_pos (.inl h)⟩
  · unfold getMaintenanceBarrier
    exact ⟨_, if_pos (.inr h)⟩

/-- Crash durability of the barrier: whatever the Agent has done, with whatever I/O failures, a
crash or a power loss at this point leaves a process whose barrier is invalid, or has exactly the
state of the latest persist that ran to completion. -/
theorem restart_restores (d : BootDisk) (s : Process) (hs : Started d s) (c : AgentConfig)
    (hc : AgentReachable (fun _ => True) s c) (s' : Process) (hcrash : AgentCrash c.state s') :
    -- invalid, or the latest completed persist, or what the file held before there was one
    (s'.barrier.invalid = true ∨
      s'.barrier.state = (lastPersisted c.state.log).getD (loadedState d.content)) ∧
    -- an invalid barrier blocks everything, and nothing is acknowledged until the next start
    (s'.barrier.invalid = true →
      (∀ r, ∃ rejection, guardBefore s'.barrier r = .error rejection) ∧
        ∀ identity, ∃ rejection, getMaintenanceBarrier s'.barrier identity = .error rejection) ∧
    (∀ later pre, c.state.log = later ++ .booted true :: pre →
      (∀ invalid, .booted invalid ∉ later) →
      (∀ i r identity, .started i r identity ∉ later) ∧ ∀ ack, .acknowledged ack ∉ later) ∧
    -- an acknowledged state gives way only to a later completed persist or to the invalid state
    (∀ later ack pre, c.state.log = later ++ .acknowledged ack :: pre →
      s'.barrier.invalid = true ∨
      (s'.barrier.state.generation = ack.generation ∧ s'.barrier.state.state = ack.state) ∨
      .persisted s'.barrier.state ∈ later) ∧
    -- after an acknowledged block no restart yields an opening of the same or an older generation
    (∀ ack, .acknowledged ack ∈ c.state.log → ack.state = .BLOCKED →
      s'.barrier.invalid = true ∨ s'.barrier.state.state ≠ .OPEN ∨
      (parseUint ack.generation).1 < s'.barrier.state.gen) ∧
    -- a transition whose persist reported an error does not come into force
    ∀ later state pre, c.state.log = later ++ .persistFailed state :: pre →
      s'.barrier.invalid = true ∨ .persisted s'.barrier.state ∈ later ∨
      (s'.barrier.state = inForce d.content pre ∧ s'.barrier.state ≠ state) := by
  have hinv := hc.invariant hs
  have hrestart := hinv.restart hcrash
  -- the state in force, seen from an earlier point of the history
  have hsince : ∀ later e pre, c.state.log = later ++ e :: pre → (∀ state, e ≠ .persisted state) →
      s'.barrier.invalid = true ∨ .persisted s'.barrier.state ∈ later ∨
        s'.barrier.state = inForce d.content pre := by
    intro later e pre hlog he
    refine hrestart.imp_right fun hstate => ?_
    rw [hlog] at hstate
    cases hlast : lastPersisted later with
    | none =>
      right
      rw [hstate, inForce_of_none hlast]
      exact (inForce_cons d.content e pre).resolve_right fun ⟨state, heq, _⟩ => he state heq
    | some state =>
      left
      rw [hstate, inForce_of_some hlast]
      exact mem_of_lastPersisted hlast
  refine ⟨?_, invalid_rejects, fun later pre hlog hboot => ?_,
    fun later ack pre hlog => ?_, fun ack hack hblocked => ?_, fun later state pre hlog => ?_⟩
  · refine hrestart.imp_right fun hstate => ?_
    rw [hstate, inForce, savedContent]
    cases lastPersisted c.state.log <;> rfl
  · exact (hlog ▸ hinv.logged).silent hboot rfl
  · obtain ⟨-, -, hgen, hgate⟩ := (hlog ▸ hinv.logged).event
    rcases hsince later _ pre hlog (by simp) with h | h | h
    · exact .inl h
    · exact .inr (.inr h)
    · exact .inr (.inl ⟨by rw [h, hgen], by rw [h, hgate]⟩)
  · obtain ⟨later, pre, hlog⟩ := List.append_of_mem hack
    have hlogged := hlog ▸ hinv.logged
    obtain ⟨-, -, hgen, hgate⟩ := hlogged.event
    refine hrestart.imp_right fun hstate => ?_
    rw [hlog] at hstate
    cases hlast : lastPersisted later with
    | none =>
      left
      rw [hstate, inForce_of_none hlast]
      change (inForce d.content pre).state ≠ .OPEN
      simp [← hgate, hblocked]
    | some state =>
      right
      rw [hstate, inForce_of_some hlast, hgen]
      exact hlogged.gen_lt hlast
  · have hlt : (inForce d.content pre).gen < state.gen := (hlog ▸ hinv.logged).event
    refine (hsince later _ pre hlog (by simp)).imp_right (Or.imp_right fun h => ⟨h, ?_⟩)
    rintro rfl
    rw [h] at hlt
    exact lt_irrefl _ hlt

/-- After a power loss the Agent of the failed first opening is as it was before it. -/
theorem firstOpening_fails_restarts : ∃ (c : AgentConfig) (s' : Process),
    .persistFailed firstOpening ∈ c.state.log ∧ AgentCrash c.state s' ∧
      (s'.barrier.invalid = true ∨ s'.barrier.state = initialState) := by
  obtain ⟨c, hc, hlog⟩ := firstOpening_fails
  have hcrash : AgentCrash c.state _ :=
    ⟨c.state.disk.powerLoss, _, .inr rfl, ⟨_, _, .inr rfl, .inr rfl, rfl⟩, rfl⟩
  have hrestart := (restart_restores emptyDisk freshProcess freshProcess_started c hc _ hcrash).1
  rw [hlog] at hrestart
  exact ⟨c, _, by simp [hlog], hcrash, hrestart⟩

end Docklane.Agent
