import Docklane.Control.CallRules

/-!
# The calls of maintenance

The transitions of a cluster need no knowledge: what they check is checked by the statement that
commits them. Evidence is resolved under the locks of its resource.
-/

namespace Docklane.Control

open Concurrent Concurrent.Program

variable {Tid : Type}

/-- Requests that may be made at any time and are not part of a dispatch. -/
def ControlOp.Maintains (op : ControlOp) : Prop := op.Quiet ∧ op.Apart

theorem ControlOp.Looks.maintains {op : ControlOp} (h : op.Looks) : op.Maintains :=
  ⟨h.quiet, h.mutates.apart⟩

variable {α : Type} {clusterId swarmClusterId : String} {generation : Nat} {state : Gate}
  {targets : List ManagerTarget} {settings : Settings} {input : ResolveEvidenceInput}

namespace MaintenanceService

/-! ## Footprints -/

theorem maintains_of_looks {p : ControlProgram α} (h : p.Uses ControlOp.Looks) :
    p.Uses ControlOp.Maintains :=
  h.mono fun _ => ControlOp.Looks.maintains

theorem query_maintains {op : DbOp} (hquiet : op.Quiet) (hjournal : ¬ (ControlOp.db op).Journals) :
    (query op).Uses ControlOp.Maintains :=
  uses_query.mpr ⟨hquiet, hjournal⟩

theorem requireRecord_looks : (requireRecord clusterId).Uses ControlOp.Looks := by
  refine Uses.bind (Uses.attempt (uses_query.mpr trivial)) fun answer => ?_
  split <;> simp

theorem inspectConfiguredManagers_maintains :
    (inspectConfiguredManagers swarmClusterId).Uses ControlOp.Maintains :=
  ⟨⟨trivial, id⟩, fun answer => uses_ofExcept answer⟩

theorem putManagerBarrier_maintains {target : ManagerTarget} :
    (putManagerBarrier target swarmClusterId generation state).Uses ControlOp.Maintains := by
  refine ⟨⟨trivial, id⟩, fun answer => ?_⟩
  rcases answer with e | barrier
  · exact uses_throw
  · change Uses _ (if _ then _ else _)
    split <;> simp

theorem inspectManagerBarrier_maintains {target : ManagerTarget} :
    (inspectManagerBarrier target swarmClusterId generation state).Uses ControlOp.Maintains := by
  refine ⟨⟨trivial, id⟩, fun answer => ?_⟩
  rcases answer with e | barrier
  · exact uses_throw
  · change Uses _ (if _ then _ else _)
    split <;> simp

theorem inspectManagerBarriers_maintains :
    (inspectManagerBarriers swarmClusterId generation state targets).Uses ControlOp.Maintains := by
  induction targets with
  | nil => exact uses_pure
  | cons target rest ih =>
    exact inspectManagerBarrier_maintains.bind fun _ => ih

theorem assertRoster_maintains {message : String} :
    (assertRoster swarmClusterId targets message).Uses ControlOp.Maintains := by
  refine inspectConfiguredManagers_maintains.bind fun fresh => ?_
  split <;> simp

theorem openManagers_maintains :
    (openManagers swarmClusterId generation targets).Uses ControlOp.Maintains := by
  induction targets with
  | nil => exact uses_pure
  | cons target rest ih => exact putManagerBarrier_maintains.bind fun _ => ih

theorem openAll_maintains :
    (openAll settings clusterId swarmClusterId generation).Uses ControlOp.Maintains := by
  refine (maintains_of_looks requireRecord_looks).bind fun state => ?_
  split
  · exact uses_throw
  refine inspectConfiguredManagers_maintains.bind fun targets => ?_
  split
  · exact uses_throw
  refine openManagers_maintains.bind fun _ => assertRoster_maintains.bind fun _ =>
    inspectManagerBarriers_maintains.bind fun _ =>
      assertRoster_maintains.bind fun _ =>
        (maintains_of_looks requireRecord_looks).bind fun latest => ?_
  split <;> simp

theorem blockManagers_maintains :
    (blockManagers clusterId swarmClusterId generation targets).Uses ControlOp.Maintains := by
  induction targets with
  | nil => exact uses_pure
  | cons target rest ih =>
    exact putManagerBarrier_maintains.bind fun _ =>
      Uses.bind (query_maintains trivial id) fun _ => ih

theorem blockAll_maintains :
    (blockAll settings clusterId swarmClusterId generation).Uses ControlOp.Maintains := by
  refine (maintains_of_looks requireRecord_looks).bind fun state => ?_
  split
  · exact uses_throw
  refine inspectConfiguredManagers_maintains.bind fun targets => ?_
  split
  · exact uses_throw
  refine blockManagers_maintains.bind fun _ => assertRoster_maintains.bind fun _ =>
    inspectManagerBarriers_maintains.bind fun _ =>
      assertRoster_maintains.bind fun _ =>
        (maintains_of_looks requireRecord_looks).bind fun latest => ?_
  split
  · exact uses_throw
  refine Uses.bind (query_maintains trivial id) fun rows => ?_
  split <;> simp

theorem withLease_maintains {fn : MaintenanceLease → ControlProgram α}
    (hfn : ∀ lease, (fn lease).Uses ControlOp.Maintains) :
    (withLease clusterId fn).Uses ControlOp.Maintains := by
  refine (maintains_of_looks randomUUID_looks).bind fun holderId => ?_
  refine Uses.bind (query_maintains trivial id) fun lease => ?_
  exact (hfn lease).andFinally (Uses.bind (Uses.attempt (query_maintains trivial id))
    fun _ => uses_pure)

theorem initializeMaintenance_maintains :
    (initializeMaintenance settings clusterId).Uses ControlOp.Maintains := by
  unfold initializeMaintenance
  split
  · exact uses_throw
  split
  · exact uses_throw
  exact (maintains_of_looks assertRegistered_looks).bind fun _ =>
    Uses.bind (query_maintains trivial id) fun _ => maintains_of_looks requireRecord_looks

theorem requestClosing_maintains :
    (requestClosing settings clusterId generation).Uses ControlOp.Maintains := by
  unfold requestClosing
  split
  · exact uses_throw
  refine (maintains_of_looks assertRegistered_looks).bind fun _ =>
    Uses.bind (query_maintains trivial id) fun (updated : Bool) => ?_
  split
  · exact (maintains_of_looks assertRegistered_looks).bind fun _ =>
      maintains_of_looks requireRecord_looks
  · exact uses_throw

theorem confirmClosed_maintains :
    (confirmClosed settings clusterId generation).Uses ControlOp.Maintains := by
  refine (uses_ofExcept _).bind fun swarmClusterId => ?_
  split
  · exact uses_throw
  refine (maintains_of_looks assertRegistered_looks).bind fun _ => ?_
  refine withLease_maintains fun lease => blockAll_maintains.bind fun blocked => ?_
  refine Uses.bind (query_maintains trivial id) fun (updated : Bool) => ?_
  split <;> simp

theorem checkRecovery_maintains :
    (checkRecovery settings clusterId generation).Uses ControlOp.Maintains := by
  refine (uses_ofExcept _).bind fun swarmClusterId => ?_
  split
  · exact uses_throw
  · exact (maintains_of_looks assertRegistered_looks).bind fun _ => uses_pure

theorem beginReconciliation_maintains :
    (beginReconciliation settings clusterId generation).Uses ControlOp.Maintains := by
  refine checkRecovery_maintains.bind fun _ => withLease_maintains fun lease => ?_
  refine Uses.bind (query_maintains trivial id) fun (updated : Bool) => ?_
  split <;> simp

theorem completeReconciliation_maintains :
    (completeReconciliation settings clusterId generation).Uses ControlOp.Maintains := by
  refine checkRecovery_maintains.bind fun swarmClusterId => ?_
  refine withLease_maintains fun lease => blockAll_maintains.bind fun blocked => ?_
  refine Uses.bind (query_maintains trivial id) fun (updated : Bool) => ?_
  split
  · exact openAll_maintains.bind fun _ => uses_pure
  · exact uses_throw

theorem resumeManagers_maintains :
    (resumeManagers settings clusterId generation).Uses ControlOp.Maintains :=
  checkRecovery_maintains.bind fun _ => withLease_maintains fun _ =>
    openAll_maintains

/-! ## Evidence -/

variable [DecidableEq Tid] {S : System Tid} {i : Tid} {w : World Tid}

theorem wp_maintains {p : ControlProgram α} (hp : p.Uses ControlOp.Maintains) :
    S.wp i p Whatever w :=
  wp_whatever (System.wp_quiet (K := fun _ => True) stable_true (hp.mono fun _ h => h.1) trivial)

theorem wp_withLease (hinv : Inv S.premises w) {clusterId : String}
    {fn : MaintenanceLease → ControlProgram α}
    (hfn : ∀ lease s, Inv S.premises s → S.wp i (fn lease) Whatever s) :
    S.wp i (withLease clusterId fn) Whatever w := by
  have hK : Stable S.protocol i fun _ => True := stable_true
  refine wp_bind_whatever hinv (System.wp_looks hK randomUUID_looks trivial)
    fun holderId s hinv _ _ => ?_
  refine wp_bind_whatever hinv (System.wp_quiet hK (uses_query.mpr trivial) trivial)
    fun lease s hinv _ _ => ?_
  exact wp_andFinally (K := fun _ => True) hinv (hfn lease s hinv) fun _ _ _ =>
    wp_maintains (Uses.bind (Uses.attempt (query_maintains trivial id)) fun _ => uses_pure)

/-- The resource that a dispatch was locked for is the one that is closed with it. -/
theorem wp_resolveEvidence {K : World Tid → Prop} (hK : Stable S.protocol i K) (hs : K w)
    {locked : Option LockedResource} {observed : Option ObservedUnchanged}
    (hlock : ∀ s, K s → ∀ id, locked = some (.service id) →
      s.Held i (S.premises.serviceLock input.clusterId id)) :
    S.wp i (query (.resolveEvidence input locked observed)) Whatever w := by
  refine wp_whatever (System.wp_query (L := fun _ => True) (R := fun _ _ => True) hK stable_true
    (fun _ => stable_true) (fun s answer s' hinv hs hallowed hstep => ?_) hs)
  obtain ⟨hinv', hguar⟩ := resolveEvidence_statement hinv
    (fun hlive _ id hid => (hlock s hs id hid).resolve_right hlive)
    (fun hcareful htype => S.careful hcareful i _ s hallowed input locked observed rfl htype) hstep
  exact ⟨hinv', hguar, trivial, fun _ _ => trivial⟩

theorem observeResource_maintains {evidenceId clusterId : String} :
    (observeResource evidenceId clusterId).Uses ControlOp.Maintains := by
  refine Uses.bind (query_maintains trivial id) fun (operations : List EvidenceOperation) => ?_
  split
  · exact (maintains_of_looks inspectService_looks).bind fun _ => uses_pure
  · exact (maintains_of_looks inspectNode_looks).bind fun _ => uses_pure
  · exact uses_throw

theorem wp_resolveLocked (hinv : Inv S.premises w) {locked : LockedResource}
    (hheld : ∀ id, locked = .service id → w.Held i (S.premises.serviceLock input.clusterId id)) :
    S.wp i (resolveLocked input locked) Whatever w := by
  have hK : Stable S.protocol i fun s : World Tid => ∀ id, locked = .service id →
      s.Held i (S.premises.serviceLock input.clusterId id) :=
    fun h hr hinv id hid => Held.stable _ (h id hid) hr hinv
  refine wp_bind_whatever hinv (System.wp_quiet hK (observeResource_maintains.mono
    fun _ h => h.1) hheld) fun observed s _ hs _ => ?_
  exact wp_resolveEvidence hK hs fun s hs id hid =>
    hs id (Option.some.inj hid)

theorem wp_recoverEvidence (hsettings : settings ∈ S.settings) (hinv : Inv S.premises w) :
    S.wp i (recoverEvidence settings input) Whatever w := by
  have hK : Stable S.protocol i fun _ => True := stable_true
  refine wp_bind_whatever hinv (System.wp_looks hK requireRecord_looks trivial)
    fun state s hinv _ _ => ?_
  split
  · exact fun _ _ _ => trivial
  split
  · exact wp_resolveEvidence hK trivial fun _ _ _ hid => by cases hid
  · refine wp_bind_whatever hinv (System.wp_quiet hK (uses_query.mpr trivial) trivial)
      fun (operations : List EvidenceOperation) s hinv _ _ => ?_
    split
    · next operation =>
      split
      · exact fun _ _ _ => trivial
      · split
        · next id _ =>
          split
          · exact fun _ _ _ => trivial
          · refine System.wp_withServiceRecoveryLock hsettings hinv hK (fun _ _ _ h => h) trivial
              fun s hinv _ hheld => wp_resolveLocked hinv fun id' hid => ?_
            cases hid
            exact hheld
        · split
          · exact fun _ _ _ => trivial
          · exact System.wp_withRecoveryLocks hsettings hK (fun _ _ _ h => h)
              System.protected_trivial hinv trivial fun s hinv _ _ =>
                wp_resolveLocked hinv fun _ hid => by cases hid
    · exact fun _ _ _ => trivial

theorem wp_resolve (hsettings : settings ∈ S.settings) (hinv : Inv S.premises w)
    {request : ResolveRequest} :
    S.wp i (resolveEvidence settings clusterId request) Whatever w := by
  have hK : Stable S.protocol i fun _ => True := stable_true
  refine wp_bind_whatever hinv (System.wp_quiet hK (uses_ofExcept _) trivial)
    fun swarmClusterId s hinv _ _ => ?_
  refine wp_bind_whatever hinv (System.wp_assertRegistered hK trivial) fun _ s hinv _ _ => ?_
  split
  · exact fun _ _ _ => trivial
  refine wp_withLease hinv fun lease s hinv => ?_
  refine wp_bind_whatever hinv (System.wp_looks hK requireRecord_looks trivial)
    fun current s hinv _ _ => ?_
  split
  · exact fun _ _ _ => trivial
  · exact wp_bind_whatever hinv (System.wp_quiet hK (blockAll_maintains.mono
      fun _ h => h.1) trivial) fun _ s hinv _ _ => wp_recoverEvidence hsettings hinv

end MaintenanceService

end Docklane.Control
