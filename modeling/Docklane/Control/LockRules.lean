import Docklane.Control.Callbacks
import Docklane.Control.System

/-!
# Rules for locks and admissions

What a callback may count on when `withResourceLocks` and `withAdmission` run it: the locks are held
as long as the session lives, and with maintenance enforced the call is admitted. Whatever the
callback does, locks and admission are given back.
-/

namespace Docklane.Control

open Concurrent Concurrent.Program

variable {Tid : Type}

/-- An assertion that does not look at admissions. -/
def IgnoresAdmissions (K : World Tid → Prop) : Prop :=
  ∀ w admissions admitted, K w → K { w with
    db := { w.db with admissions := admissions }
    admitted := admitted }

/-- An assertion that does not look at locks and sessions. -/
def IgnoresLocks (K : World Tid → Prop) : Prop :=
  ∀ w lock session, K w → K { w with lock := lock, session := session }

variable {op : ControlOp} {keys : List LockKey}

theorem ControlOp.Looks.quiet (h : op.Looks) : op.Quiet := by
  cases op with
  | db op => cases op <;> trivial
  | _ => trivial

theorem ControlOp.Journals.quiet (h : op.Journals) : op.Quiet := by
  cases op with
  | db op => cases op <;> trivial
  | _ => trivial

/-- The requests that leave the admission of the call alone. -/
def ControlOp.KeepsAdmission : ControlOp → Prop
  | .db (.insertAdmission _ _ _) | .db (.releaseAdmission _) => False
  | _ => True

theorem ControlOp.KeepsAdmission.step [DecidableEq Tid] {docker : Set Swarm} {i : Tid}
    (hop : op.KeepsAdmission) {w w' : World Tid} {answer : op.Ans}
    (h : Performs docker i op w answer w') : w'.admitted i = w.admitted i := by
  cases op with
  | db op =>
    have hanswered : ∀ (v : World Tid) r, (v.answered i op r).admitted = v.admitted := by
      intro v r
      cases op <;> first | exact hop.elim | rfl | (cases r <;> rfl)
    cases h <;> rw [hanswered] <;> rfl
  | randomUUID =>
    obtain ⟨-, rfl⟩ := h
    rfl
  | getConnection => cases answer <;> cases h <;> rfl
  | getLock name =>
    rcases answer with e | _ | _
    · cases h; rfl
    · cases h; rfl
    · obtain ⟨-, -, rfl⟩ := h
      rfl
  | releaseLock name =>
    cases answer with
    | ok _ =>
      change w' = _ at h
      split at h <;> cases h <;> rfl
    | error e => cases h; rfl
  | agent read =>
    obtain ⟨rfl, -⟩ := h
    rfl
  | hang => exact h.elim
  | _ => cases h; rfl

theorem ControlOp.Mutates.keepsAdmission (h : op.Mutates) : op.KeepsAdmission := by
  cases op with
  | db op => cases op <;> trivial
  | _ => trivial

theorem ControlOp.Journals.keepsAdmission (h : op.Journals) : op.KeepsAdmission := by
  cases op with
  | db op => cases op <;> trivial
  | _ => trivial

/-- A callback that mutates and dispatches keeps its admission. -/
theorem keepsAdmission_of_asks {settings : Settings} {α : Type} {p : ControlProgram α}
    (h : Asks settings ControlOp.Mutates p) : p.Uses ControlOp.KeepsAdmission := by
  refine h.uses (fun _ => ControlOp.Mutates.keepsAdmission) fun β q hq => ?_
  cases hq with
  | dispatch active operationId mutation =>
    refine dispatch_sendsOnce.uses (fun op hop => ?_)
      (fun op hop => ?_) fun _ => ControlOp.Journals.keepsAdmission
    · rcases hop with hlooks | hjournals
      · exact hlooks.mutates.keepsAdmission
      · exact hjournals.keepsAdmission
    · obtain ⟨request, -, rfl⟩ := hop
      trivial

variable {type : ResourceType} {resourceId : String}

namespace System

variable [DecidableEq Tid] {S : System Tid} {i : Tid} {w : World Tid} {α : Type}
  {K : World Tid → Prop}

theorem wp_unlocking {p : ControlProgram α} (hp : p.Uses ControlOp.Unlocking) :
    S.wp i p Whatever w := by
  refine wp_whatever (wp_uses (K := fun _ => True) stable_true
    (fun op hop s a s' hinv _ hperf => ?_) hp trivial)
  obtain ⟨hinv', hguar⟩ := ControlOp.Unlocking.step hop hinv hperf.2
  exact ⟨hinv', hguar, trivial⟩

theorem releaseLocks_unlocking {names : List String} :
    (releaseLocks names).Uses ControlOp.Unlocking := by
  induction names with
  | nil => exact ⟨trivial, fun _ => uses_pure⟩
  | cons name rest ih =>
    refine ⟨trivial, fun answer => ?_⟩
    cases answer with
    | ok _ => exact ih
    | error e => exact ⟨trivial, fun _ => uses_pure⟩

/-! ## Named locks -/

/-- What a call knows once it was granted these locks: what held when it asked for one is still true
as long as the lock is held. -/
def Granted (E : Premises) (i : Tid) (F : String → World Tid → Prop) (names : List String)
    (w : World Tid) : Prop :=
  ∀ name ∈ names, Knows E i [name] (F name) w

variable {fn : ControlProgram α}

section Granted

variable {F : String → World Tid → Prop} {names : List String}

/-- Facts that a lock protects. -/
structure Protected (S : System Tid) (i : Tid) (K : World Tid → Prop)
    (F : String → World Tid → Prop) : Prop where
  grant : ∀ name s, Inv S.premises s → K s → S.Allowed i (.getLock name) s → S.premises.clean →
    F name s
  stable : ∀ name {s s'}, S.premises.clean → Rely S.premises i s s' → Inv S.premises s' →
    s'.lock name = some i → F name s → F name s'
  ignoresLocks : ∀ name, IgnoresLocks (F name)
  ignoresAdmissions : ∀ name, IgnoresAdmissions (F name)

omit [DecidableEq Tid] in
theorem Protected.stable_granted (hF : Protected S i K F) {names : List String} :
    Stable S.protocol i (Granted S.premises i F names) := by
  intro s s' h hr hinv name hname
  exact Knows.stable (fun hclean hr' hinv' hlocks hf =>
    hF.stable name hclean hr' hinv' (hlocks name (List.mem_singleton_self name)) hf)
    (h name hname) hr hinv

omit [DecidableEq Tid] in
theorem Protected.granted (hF : Protected S i K F) {s : World Tid} {name : String}
    (hinv : Inv S.premises s) (hs : K s) (hallowed : S.Allowed i (.getLock name) s)
    (h : Granted S.premises i F names s) :
    Granted S.premises i F (name :: names)
      { s with lock := Function.update s.lock name (some i) } := by
  intro name' hname'
  refine ⟨fun n hn => ?_, fun hclean hlocks => ?_⟩
  · obtain rfl := List.mem_singleton.mp hn
    by_cases heq : n = name
    · exact .inl (by simp [heq])
    · rcases (h n ((List.mem_cons.mp hname').resolve_left heq)).1 n hn with hlock | hlost
      · exact .inl (by simpa [heq] using hlock)
      · exact .inr hlost
  · refine hF.ignoresLocks name' s _ s.session ?_
    by_cases heq : name' = name
    · exact heq ▸ hF.grant name s hinv hs hallowed hclean
    · refine (h name' ((List.mem_cons.mp hname').resolve_left heq)).2 hclean fun n hn => ?_
      obtain rfl := List.mem_singleton.mp hn
      simpa [heq] using hlocks n hn

theorem wp_withNamedLocks (hK : Stable S.protocol i K) (hlocks : IgnoresLocks K)
    (hF : Protected S i K F) {names : List String} {acquired : List String}
    (hinv : Inv S.premises w) (hs : K w) (hacquired : Granted S.premises i F acquired w)
    (hfn : ∀ s, Inv S.premises s → K s → Granted S.premises i F (names.reverse ++ acquired) s →
      S.wp i fn Whatever s) : S.wp i (withNamedLocks fn names acquired) Whatever w := by
  have hrelease (held : List String) {β : Type} {p : ControlProgram β} {s : World Tid}
      (hinv : Inv S.premises s) (h : S.wp i p Whatever s) :
      S.wp i (p.andFinally (releaseLocks held)) Whatever s :=
    wp_andFinally (K := fun _ => True) hinv h
      fun _ _ _ => wp_unlocking releaseLocks_unlocking
  induction names generalizing acquired w with
  | nil => exact hrelease acquired hinv (hfn w hinv hs (by simpa using hacquired))
  | cons name rest ih =>
    refine wp_request (hK.and hF.stable_granted) ⟨hs, hacquired⟩
      fun s hinv ⟨hs, hacquired⟩ answer s' hperf => ?_
    obtain ⟨hallowed, hperf⟩ := hperf
    rcases answer with e | _ | _
    · cases hperf
      exact ⟨hinv, .refl _ i hinv, hrelease acquired hinv fun _ _ _ => trivial⟩
    · cases hperf
      exact ⟨hinv, .refl _ i hinv, hrelease acquired hinv fun _ _ _ => trivial⟩
    · obtain ⟨-, hfree, rfl⟩ := hperf
      obtain ⟨hinv', hguar⟩ := getLock_step (i := i) hinv hfree
      refine ⟨hinv', hguar, ih hinv' ?_ (hF.granted hinv hs hallowed hacquired) ?_⟩
      · exact hlocks s _ s.session hs
      · simpa using hfn

theorem wp_withResourceLocks {settings : Settings} (hsettings : settings ∈ S.settings)
    (hK : Stable S.protocol i K) (hlocks : IgnoresLocks K) (hF : Protected S i K F) (hs : K w)
    (hfn : ∀ s, Inv S.premises s → K s →
      Granted S.premises i F (keys.map S.premises.lockName) s → S.wp i fn Whatever s) :
    S.wp i (withResourceLocks settings keys fn) Whatever w := by
  refine wp_request hK hs fun s hinv hs answer s' hperf => ?_
  have hop : ControlOp.Unlocking .getConnection := trivial
  obtain ⟨hinv', hguar⟩ := hop.step hinv hperf.2
  refine ⟨hinv', hguar, ?_⟩
  cases answer with
  | error e => exact fun _ _ _ => trivial
  | ok _ =>
    obtain ⟨-, rfl⟩ := hperf
    have hs' : K (s.setSession i .live) := hlocks s s.lock _ hs
    refine wp_withNamedLocks hK hlocks hF hinv' hs' (fun _ h => by cases h)
      fun t hinvt ht hgranted => hfn t hinvt ht fun name hname => hgranted name ?_
    rw [List.append_nil, List.mem_reverse, mem_sortedUnique, S.names settings hsettings]
    exact hname

omit [DecidableEq Tid] in
theorem protected_trivial : Protected S i K fun _ _ => True :=
  ⟨fun _ _ _ _ _ _ => trivial, fun _ _ _ _ _ _ _ _ => trivial, fun _ _ _ _ _ => trivial,
    fun _ _ _ _ _ => trivial⟩

omit [DecidableEq Tid] in
theorem Protected.granted_ignoresAdmissions (hF : Protected S i K F) {names : List String} :
    IgnoresAdmissions (Granted S.premises i F names) :=
  fun s rows admitted h name hname =>
    ⟨(h name hname).1, fun hclean hlocks =>
      hF.ignoresAdmissions name s rows admitted ((h name hname).2 hclean hlocks)⟩

end Granted

/-! ## Admissions -/

/-- A random id was drawn for this call and is not in use. -/
def Drawn (i : Tid) (id : String) (w : World Tid) : Prop :=
  w.issued id = some i ∧ w.db.Unused id

omit [DecidableEq Tid] in
theorem Drawn.stable (id : String) : Stable S.protocol i (Drawn i id) :=
  fun h hr _ => ⟨hr.issued id h.1, hr.unused id h.1 h.2⟩

theorem wp_randomUUID (hK : Stable S.protocol i K) (hs : K w) :
    S.wp i randomUUID (Ends K (Drawn i)) w := by
  refine wp_request hK hs fun s hinv hs id s' hperf => ?_
  have hop : ControlOp.Quiet .randomUUID := trivial
  obtain ⟨hinv', hguar, hrely⟩ := hop.step hinv hperf.2
  refine ⟨hinv', hguar, wp_pure_ends hK (Drawn.stable id) (hK hs hrely hinv') ?_⟩
  obtain ⟨-, hnew, rfl⟩ := hperf
  -- what refers to an id was recorded after the id was drawn
  refine ⟨Function.update_self _ _ _, fun a ha heq => ?_, fun clusterId hmem => ?_⟩
  · obtain ⟨j, hj⟩ := hinv.issued.admissions a ha
    rw [heq, hnew] at hj
    cases hj
  · obtain ⟨j, hj⟩ := hinv.issued.resolutions _ hmem rfl
    rw [hnew] at hj
    cases hj

/-- The admission that the callback runs with. -/
def Admits (settings : Settings) (i : Tid) (clusterId : String) (w : World Tid) :
    Option ActiveAdmission → Prop
  | none => settings.maintenanceEnforced = false
  | some active => ∃ row, w.admitted i = some row ∧ row.id = active.id ∧ row.clusterId = clusterId

omit [DecidableEq Tid] in
theorem Admits.stable (settings : Settings) (clusterId : String) (active : Option ActiveAdmission) :
    Stable S.protocol i fun w => Admits settings i clusterId w active := by
  intro s s' h hr _
  cases active with
  | none => exact h
  | some active => simpa only [Admits, hr.admitted] using h

omit [DecidableEq Tid] in
theorem Admits.admitted {settings : Settings} (hsettings : settings ∈ S.settings)
    {clusterId : String} {active : Option ActiveAdmission}
    (h : Admits settings i clusterId w active) : Admitted S.premises i clusterId w := by
  intro _ henforced
  cases active with
  | none =>
    have := S.enforced henforced settings hsettings
    rw [h] at this
    cases this
  | some active =>
    obtain ⟨row, hrow, -, hcluster⟩ := h
    exact ⟨row, hrow, hcluster⟩

theorem wp_assertMaintenanceOpen {settings : Settings} (hK : Stable S.protocol i K)
    (hadmissions : IgnoresAdmissions K) (hinv : Inv S.premises w) (hs : K w) {clusterId : String} :
    S.wp i (assertMaintenanceOpen settings clusterId type resourceId)
      (Ends (fun _ => True) fun active s => K s ∧ Admits settings i clusterId s active) w := by
  unfold assertMaintenanceOpen
  split
  · next hoff =>
    exact wp_pure_ends stable_true (hK.and (Admits.stable _ _ _)) trivial ⟨hs, hoff⟩
  · refine wp_bind_ends (K := K) (R := fun _ _ => True) hinv stable_true (fun _ _ => trivial)
      (wp_quiet hK (Uses.attempt (uses_query.mpr trivial)) hs) fun answer s hinv hs _ => ?_
    rcases answer with e | _ | row
    · exact wp_throw_ends stable_true trivial
    · exact wp_throw_ends stable_true trivial
    · change S.wp i (if _ then _ else _) _ s
      split
      · refine wp_bind_returns hinv (wp_randomUUID hK hs) fun id s hinv hs hid => ?_
        let a : Admission :=
          ⟨id, clusterId, row.generation, settings.instanceId, type, resourceId, none⟩
        have hstable (inserted : Bool) : Stable S.protocol i fun s =>
            K s ∧ (inserted = true → s.admitted i = some a) :=
          fun h hr hinv => ⟨hK h.1 hr hinv, fun hin => hr.admitted.trans (h.2 hin)⟩
        refine wp_bind_ends (K := fun _ => True)
          (R := fun (inserted : Bool) s => K s ∧ (inserted = true → s.admitted i = some a)) hinv
          stable_true (fun _ _ => trivial) ?_ fun inserted s hinv _ hr => ?_
        · refine wp_query (hK.and (Drawn.stable id)) stable_true hstable
            (fun s answer s' hinv hs _ hstep => ?_) ⟨hs, hid⟩
          obtain ⟨hinv', hguar, hadmitted, rows, admitted, rfl⟩ :=
            insertAdmission_statement (a := a) hinv rfl hs.2.1 hs.2.2 hstep
          refine ⟨hinv', hguar, trivial, fun inserted hx => ⟨?_, fun hin => hadmitted ?_⟩⟩
          · exact hadmissions s rows admitted hs.1
          · rw [hx, hin]
        · change S.wp i (if _ then _ else _) _ s
          split
          · next hin =>
            exact wp_pure_ends stable_true (hK.and (Admits.stable _ _ _)) trivial
              ⟨hr.1, a, hr.2 hin, rfl, rfl⟩
          · exact wp_throw_ends stable_true trivial
      · exact wp_throw_ends stable_true trivial

/-- The callback runs with an admission, and the admission is given back. -/
theorem wp_withAdmission {settings : Settings} (hsettings : settings ∈ S.settings)
    {fn : Option ActiveAdmission → ControlProgram α} (hK : Stable S.protocol i K)
    (hadmissions : IgnoresAdmissions K) (hinv : Inv S.premises w) (hs : K w) {clusterId : String}
    (huses : ∀ active, (fn active).Uses ControlOp.KeepsAdmission)
    (hfn : ∀ active s, Inv S.premises s → K s → Admitted S.premises i clusterId s →
      S.wp i (fn active) Whatever s) :
    S.wp i (withAdmission settings clusterId type resourceId fn) Whatever w := by
  refine wp_bind_whatever hinv (wp_assertMaintenanceOpen hK hadmissions hinv hs) fun active s hinv _
    ⟨hs, hadmits⟩ => ?_
  have hrun := hfn active s hinv hs (hadmits.admitted hsettings)
  cases active with
  | none => exact wp_andFinally (K := fun _ => True) hinv hrun fun _ _ _ _ _ _ => trivial
  | some active =>
    obtain ⟨row, hrow, hid, -⟩ := hadmits
    have hkept : Stable S.protocol i fun s => s.admitted i = some row :=
      fun h hr _ => hr.admitted.trans h
    refine wp_andFinally (K := fun s => s.admitted i = some row) hinv
      (wp_mono (wp_and_uses hkept (fun op hop s a s' hs hperf => ?_) (huses _) hrun hrow)
        fun _ _ _ h => h.2) fun s hinv hs => ?_
    · exact (ControlOp.KeepsAdmission.step hop hperf.2).trans hs
    · refine wp_whatever (wp_query (L := fun _ => True) (R := fun _ _ => True) hkept stable_true
        (fun _ => stable_true) (fun s answer s' hinv hs _ hstep => ?_) hs)
      rw [← hid] at hstep
      obtain ⟨hinv', hguar⟩ := releaseAdmission_statement hinv hs hstep
      exact ⟨hinv', hguar, trivial, fun _ _ => trivial⟩

/-! ## The locks of a call -/

theorem wp_assertRegistered {settings : Settings} {clusterId : String} (hK : Stable S.protocol i K)
    (hs : K w) : S.wp i (assertRegistered settings clusterId) (Ends K fun _ _ => True) w :=
  wp_quiet hK (assertRegistered_looks.mono fun _ => ControlOp.Looks.quiet) hs

section Calls

variable {settings : Settings} (hsettings : settings ∈ S.settings) {F : String → World Tid → Prop}
  (hK : Stable S.protocol i K) (hlocks : IgnoresLocks K) (hF : Protected S i K F)
  {clusterId : String}

include hsettings hK hlocks hF

theorem wp_withRecoveryLocks (hinv : Inv S.premises w) (hs : K w)
    (hfn : ∀ s, Inv S.premises s → K s → Granted S.premises i F (keys.map S.premises.lockName) s →
      S.wp i fn Whatever s) :
    S.wp i ((assertRegistered settings clusterId).bind fun _ =>
      withResourceLocks settings keys fn) Whatever w :=
  wp_bind_whatever hinv (wp_assertRegistered hK hs) fun _ _ _ hs _ =>
    wp_withResourceLocks hsettings hK hlocks hF hs hfn

/-- The callback of a call runs with the locks of its resources and with an admission. -/
theorem wp_withCallLocks (hadmissions : IgnoresAdmissions K)
    {fn : Option ActiveAdmission → ControlProgram α} (hinv : Inv S.premises w) (hs : K w)
    (hasks : ∀ active, Asks settings ControlOp.Mutates (fn active))
    (hfn : ∀ active s, Inv S.premises s → K s →
      Granted S.premises i F (keys.map S.premises.lockName) s →
      Admitted S.premises i clusterId s → S.wp i (fn active) Whatever s) :
    S.wp i ((assertRegistered settings clusterId).bind fun _ =>
      withResourceLocks settings keys
        (withAdmission settings clusterId type resourceId fn)) Whatever w := by
  refine wp_withRecoveryLocks hsettings hK hlocks hF hinv hs fun s hinv hs hgranted => ?_
  refine wp_withAdmission hsettings (hK.and hF.stable_granted) (fun s rows admitted h => ?_) hinv
    ⟨hs, hgranted⟩ (fun active => keepsAdmission_of_asks (hasks active))
    fun active s hinv h hadmitted => hfn active s hinv h.1 h.2 hadmitted
  exact ⟨hadmissions s rows admitted h.1, hF.granted_ignoresAdmissions s rows admitted h.2⟩

end Calls

end System

end Docklane.Control
