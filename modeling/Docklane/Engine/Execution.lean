import Docklane.Engine.Resolution
import Docklane.Engine.Updates

/-!
# Mutations in a Swarm of their own

What Docker makes of an update, and the mutations of the Agent run against a Docker that nobody else
uses. With the object as the request expects it, a mutation passes all its checks, makes one update
and returns.
-/

namespace Docklane.Engine

open Concurrent Concurrent.Program
open Control (Availability Labels isBoundedIdentifier)

/-! ## Updates in Docker -/

theorem find_map_update {α : Type} (id : α → String) (f : α → α) (hid : ∀ a, id (f a) = id a)
    (objects : List α) (key : String) :
    (objects.map fun a => if id a = key then f a else a).find? (fun a => id a = key) =
      (objects.find? fun a => id a = key).map f := by
  induction objects with
  | nil => rfl
  | cons a rest ih =>
    by_cases ha : id a = key
    · simp [ha, hid]
    · simpa [ha] using ih

/-- The service after an update. -/
def Service.updated (version : UInt64) (spec : ServiceSpec) (s : Service) : Service :=
  { s with version, spec, previousSpec := some s.spec }

def Node.updated (version : UInt64) (spec : NodeSpec) (n : Node) : Node :=
  { n with version, spec }

variable {s : Service} {n : Node} {d'' : Docker}

namespace Docker

/-- Docker with another spec for a service. -/
def installService (d : Docker) (id : String) (spec : ServiceSpec) : Docker :=
  { d with
    index := d.index + 1
    services := d.services.map fun s => if s.id = id then s.updated (d.index + 1) spec else s }

def installNode (d : Docker) (id : String) (spec : NodeSpec) : Docker :=
  { d with
    index := d.index + 1
    nodes := d.nodes.map fun n => if n.id = id then n.updated (d.index + 1) spec else n }

variable {d : Docker} {id : String}

theorem find_installService (h : d.services.find? (·.id = id) = some s) (spec : ServiceSpec) :
    (d.installService id spec).services.find? (·.id = id) =
      some (s.updated (d.index + 1) spec) := by
  have hfind := find_map_update Service.id (Service.updated (d.index + 1) spec) (fun _ => rfl)
    d.services id
  rw [h] at hfind
  exact hfind

theorem find_installNode (h : d.nodes.find? (·.id = id) = some n) {spec : NodeSpec} :
    (d.installNode id spec).nodes.find? (·.id = id) = some (n.updated (d.index + 1) spec) := by
  have hfind := find_map_update Node.id (Node.updated (d.index + 1) spec) (fun _ => rfl) d.nodes id
  rw [h] at hfind
  exact hfind

/-- A service update changes nothing, or it is for the current version and installs a spec. -/
theorem answer_serviceUpdate {d : Docker} {id : String} {version : UInt64} {spec : ServiceSpec}
    {rollback : Bool} :
    (answer (.serviceUpdate id version spec rollback) d).2 = d ∨
      ∃ s target, d.services.find? (·.id = id) = some s ∧ s.version = version ∧
        installed s spec rollback = some target ∧
        answer (.serviceUpdate id version spec rollback) d =
          (.ok d.warnings, d.installService id target) := by
  simp only [answer]
  split
  · exact .inl rfl
  · rename_i s hs
    split
    · exact .inl rfl
    · rename_i hversion
      split
      · exact .inl rfl
      · rename_i target htarget
        exact .inr ⟨s, target, hs, not_not.mp hversion, htarget, rfl⟩

theorem answer_nodeUpdate {d : Docker} {id : String} {version : UInt64} {spec : NodeSpec} :
    (answer (.nodeUpdate id version spec) d).2 = d ∨
      ∃ n, d.nodes.find? (·.id = id) = some n ∧ n.version = version ∧
        answer (.nodeUpdate id version spec) d = (.ok (), d.installNode id spec) := by
  simp only [answer]
  split
  · exact .inl rfl
  · rename_i n hn
    split
    · exact .inl rfl
    · rename_i hversion
      exact .inr ⟨n, hn, not_not.mp hversion, rfl⟩

theorem answer_reads {op : DockerOp} (hop : op.Reads) (d : Docker) : (answer op d).2 = d := by
  cases op <;> try first | rfl | cases hop
  · simp only [answer]
    split <;> rfl
  · simp only [answer]
    split <;> rfl

end Docker

/-! ## In a Swarm of its own -/

/-- Alone with Docker, the program returns `a`, leaves `d'` and asks for these updates. -/
structure Performs {α : Type} (p : EngineProgram α) (d : Docker) (a : α) (d' : Docker)
    (updates : List DockerOp) : Prop where
  result : (execute p d).result = .ok a
  state : (execute p d).state = d'
  updates : (execute p d).asked.filter (·.isUpdate) = updates

section Performs

variable {α β : Type} {d d' : Docker} {a : α} {us vs : List DockerOp} {p : EngineProgram α}
  {f : α → EngineProgram β} {b : β}

theorem state_of_reads (hp : p.Uses DockerOp.Reads) (d : Docker) :
    (p.run Docker.answer d).state = d := by
  induction p with
  | pure a => rfl
  | throw e => rfl
  | request op k ih =>
    change ((k _).run Docker.answer (Docker.answer op d).2).state = d
    rw [Docker.answer_reads hp.1]
    exact ih _ (hp.2 _)

theorem performs_pure : Performs (.pure a) d a d [] := ⟨rfl, rfl, rfl⟩

theorem Performs.bind (hp : Performs p d a d' us) (hf : Performs (f a) d' b d'' vs) :
    Performs (p.bind f) d b d'' (us ++ vs) := by
  have hrun : execute (p.bind f) d = (execute (f a) d').after (execute p d).asked := by
    rw [execute, run_bind, hp.result, hp.state]
  refine ⟨?_, ?_, ?_⟩
  · rw [hrun]
    exact hf.result
  · rw [hrun]
    exact hf.state
  · rw [hrun, ← hp.updates, ← hf.updates, ← List.filter_append]
    rfl

theorem Performs.andThen (hp : Performs p d a d' []) (hf : Performs (f a) d' b d'' us) :
    Performs (p.bind f) d b d'' us :=
  hp.bind hf

theorem Performs.reading (hp : Performs p d a d' us) (hf : Performs (f a) d' b d'' []) :
    Performs (p.bind f) d b d'' us :=
  us.append_nil ▸ hp.bind hf

theorem Performs.attempt (hp : Performs p d a d' us) : Performs p.attempt d (.ok a) d' us := by
  have hrun := run_attempt Docker.answer p d
  exact ⟨by rw [execute, hrun, ← hp.result], by rw [execute, hrun, ← hp.state],
    by rw [execute, hrun, ← hp.updates]⟩

theorem performs_read {op : DockerOp} {k : op.Ans → EngineProgram α} (hop : op.Reads)
    (hk : Performs (k (Docker.answer op d).1) d a d' us) : Performs (.request op k) d a d' us := by
  have hrun : execute (.request op k) d = (execute (k (Docker.answer op d).1) d).after [op] := by
    rw [execute, run_request, Docker.answer_reads hop]
  refine ⟨by rw [hrun, ← hk.result]; rfl, by rw [hrun, ← hk.state]; rfl, ?_⟩
  rw [hrun, ← hk.updates]
  exact List.filter_cons_of_neg (by rw [hop]; exact Bool.false_ne_true)

theorem performs_require {condition : Prop} [Decidable condition] (h : condition)
    (error : EngineError) : Performs (require condition error) d () d [] := by
  rw [require, if_pos h]
  exact performs_pure

end Performs

/-- The manager that the Agent talks to belongs to the cluster of the call. -/
structure Docker.Manages (cluster : String) (d : Docker) : Prop where
  clusterId : d.clusterId = cluster
  bounded : isBoundedIdentifier cluster = true
  joined : d.nodeId ≠ ""
  manager : ∃ n, d.nodes.find? (·.id = d.nodeId) = some n ∧ n.spec.role = "manager"

section Mutations

variable {d : Docker} {cluster : String} (H : Hashes) (U : Unicode)

theorem Docker.Manages.ne_empty (hd : d.Manages cluster) : cluster ≠ "" := by
  rintro rfl
  cases hd.bounded

theorem performs_nodeInspect {id : String} (h : d.nodes.find? (·.id = id) = some n)
    {context : String} : Performs (nodeInspect id context) d n d [] := by
  refine performs_read rfl ?_
  simp only [Docker.answer, h]
  exact performs_pure

theorem performs_identity (hd : d.Manages cluster) :
    Performs Reader.identity d ⟨cluster, d.nodeId, true⟩ d [] := by
  obtain ⟨n, hn, hrole⟩ := hd.manager
  have hid : n.id = d.nodeId := by simpa using List.find?_some hn
  refine performs_read rfl (performs_pure.andThen ((performs_require hd.joined _).andThen ?_))
  refine performs_read rfl (performs_pure.andThen ((performs_nodeInspect hn).andThen ?_))
  rw [hid, hd.clusterId]
  exact (performs_require rfl _).andThen ((performs_require hrole _).andThen performs_pure)

theorem performs_requireMutationCluster (hd : d.Manages cluster) :
    Performs (requireMutationCluster [cluster]) d (.ok cluster) d [] := by
  simp only [requireMutationCluster, hd.bounded]
  refine performs_read rfl ((performs_identity hd).attempt.andThen (performs_read rfl ?_))
  rw [if_neg (by simp [Docker.answer, hd.ne_empty, hd.joined]), if_neg (by simp)]
  exact performs_pure

theorem performs_requireFinalMutationCluster (hd : d.Manages cluster) :
    Performs (requireFinalMutationCluster (some cluster)) d () d [] := by
  rw [requireFinalMutationCluster, if_neg (by simpa using hd.ne_empty)]
  have hid : d.clusterId ≠ "" := hd.clusterId ▸ hd.ne_empty
  refine performs_read rfl ((performs_require rfl _).andThen (performs_read rfl ?_))
  refine performs_read rfl ((performs_require ⟨rfl, hid⟩ _).andThen ?_)
  exact performs_require (congrArg some hd.clusterId) _

theorem performs_admitted (hd : d.Manages cluster) {α : Type} {a : α} {d' : Docker}
    {us : List DockerOp} {mutate : Option String → EngineProgram α} {reply : α → MutationReply}
    (hmutate : Performs (mutate (some cluster)) d a d' us) :
    Performs (admitted [cluster] mutate reply) d (reply a) d' us := by
  refine (performs_requireMutationCluster hd).andThen ?_
  exact hmutate.attempt.reading performs_pure

theorem performs_serviceInspect {ref : String} (h : d.inspectService ref = some s)
    (context : String) : Performs (serviceInspect ref context) d s d [] := by
  refine performs_read rfl ?_
  simp only [Docker.answer, h]
  exact performs_pure

theorem performs_serviceUpdate {spec target : ServiceSpec} {rollback : Bool}
    (h : d.services.find? (·.id = s.id) = some s)
    (htarget : Docker.installed s spec rollback = some target) (action ref : String) :
    Performs (serviceUpdate s.id s.version spec rollback action ref) d d.warnings
      (d.installService s.id target) [.serviceUpdate s.id s.version spec rollback] := by
  have hanswer : Docker.answer (.serviceUpdate s.id s.version spec rollback) d =
      (.ok d.warnings, d.installService s.id target) := by
    simp only [Docker.answer, h, htarget, ne_eq, not_true_eq_false, if_false]
    rfl
  simp only [serviceUpdate]
  refine ⟨?_, ?_, ?_⟩ <;> rw [execute, run_request, hanswer] <;> rfl

/-- With the service as the request expects it, its spec becomes the target. -/
theorem performs_changeService (hd : d.Manages cluster) {change : ServiceChange}
    (hchange : change.Installs) {input : ServiceMutationRequest} {target : ServiceSpec}
    (h : d.services.find? (·.id = s.id) = some s) (hversion : s.version = input.expectedVersion)
    (hbefore : H.service s.spec = input.expectedSpecHash)
    (htarget : change.target s.id s input = .ok target)
    (hhash : H.service target = input.targetSpecHash) :
    Performs (Reader.changeService H change (some cluster) s.id input) d
      ⟨s.id, (d.index + 1).toNat, H.service target, target.taskTemplate.forceUpdate.toNat,
        d.warnings⟩
      (d.installService s.id target)
      [.serviceUpdate s.id s.version (change.sent s target) change.rollback] := by
  have hfound : d.inspectService s.id = some s := by rw [Docker.inspectService, h]; rfl
  have hafter : (d.installService s.id target).inspectService s.id =
      some (s.updated (d.index + 1) target) := by
    rw [Docker.inspectService, Docker.find_installService h]
    rfl
  have hupdate := performs_serviceUpdate h (hchange _ s input target htarget) change.action s.id
  refine (performs_serviceInspect hfound _).andThen ?_
  refine ((performs_require hversion _).andThen (performs_require hbefore _)).andThen ?_
  rw [htarget, ← hversion]
  refine performs_pure.andThen ((performs_require hhash _).andThen ?_)
  refine (performs_requireFinalMutationCluster hd).andThen (hupdate.reading ?_)
  exact (performs_serviceInspect hafter _).andThen performs_pure

theorem find_of_findRef {α : Type} {id name : α → String} {objects : List α} {x : α}
    (h : findRef id name objects (id x) = some x) :
    objects.find? (fun y => id y = id x) = some x := by
  obtain ⟨-, before, after, rfl, hbefore⟩ := List.find?_eq_some_iff_append.mp h
  refine List.find?_eq_some_iff_append.mpr ⟨by simp, before, after, rfl, fun y hy => ?_⟩
  have hy := hbefore y hy
  simp only [Bool.not_eq_true', Bool.or_eq_false_iff, decide_eq_false_iff_not] at hy
  simpa using hy.1

theorem performs_resolveNode {ref : String} (h : findNode d.nodes ref = some n) :
    Performs (Reader.resolveNode ref) d n d [] := by
  refine performs_read rfl (performs_pure.andThen ?_)
  rw [h]
  exact performs_pure

theorem performs_nodeUpdate (h : d.nodes.find? (·.id = n.id) = some n) {spec : NodeSpec}
    {stale failed : String} :
    Performs (nodeUpdate n.id n.version spec stale failed) d () (d.installNode n.id spec)
      [.nodeUpdate n.id n.version spec] := by
  have hanswer : Docker.answer (.nodeUpdate n.id n.version spec) d =
      (.ok (), d.installNode n.id spec) := by
    simp only [Docker.answer, h, ne_eq, not_true_eq_false, if_false]
    rfl
  simp only [nodeUpdate]
  refine ⟨?_, ?_, ?_⟩ <;> rw [execute, run_request, hanswer] <;> rfl

theorem performs_requireServices (h : findNode d.nodes n.id = some n) {expected : List String}
    (hexpected : (nodeDetail H d.tasks n).serviceIds.mergeSort (· ≤ ·) =
      expected.mergeSort (· ≤ ·)) :
    Performs (Reader.requireServices H n.id expected) d () d [] := by
  have hnode : Performs (Reader.node H n.id) d (nodeDetail H d.tasks n) d [] :=
    ⟨by rw [run_node H h], by rw [run_node H h], by rw [run_node H h]; rfl⟩
  exact hnode.andThen (performs_require hexpected _)

/-- With the node as the request expects it, and for a drain also its services, it gets the
availability. -/
theorem performs_updateNodeAvailability (hd : d.Manages cluster) {input : NodeMutationRequest}
    {target : Availability} (h : findNode d.nodes n.id = some n)
    (hversion : n.version = input.expectedVersion)
    (hservices : target = .drain → (nodeDetail H d.tasks n).serviceIds.mergeSort (· ≤ ·) =
      input.expectedServiceIds.mergeSort (· ≤ ·)) (hbefore : H.node n.spec = input.expectedSpecHash)
    (htarget : H.node { n.spec with availability := target } = input.targetSpecHash) :
    Performs (Reader.updateNodeAvailability H (some cluster) n.id input target) d
      ⟨n.id, (d.index + 1).toNat, H.node { n.spec with availability := target }, target⟩
      (d.installNode n.id { n.spec with availability := target })
      [.nodeUpdate n.id n.version { n.spec with availability := target }] := by
  have hfind := find_of_findRef h
  refine (performs_resolveNode h).andThen ((performs_require hversion _).andThen ?_)
  have hcheck : Performs (if target = .drain then Reader.requireServices H n.id
      input.expectedServiceIds else .pure ()) d () d [] := by
    split
    · exact performs_requireServices H h (hservices ‹_›)
    · exact performs_pure
  refine hcheck.andThen ((performs_require hbefore _).andThen ?_)
  refine (performs_require htarget _).andThen ?_
  rw [← hversion]
  refine (performs_requireFinalMutationCluster hd).andThen ?_
  refine (performs_nodeUpdate hfind).reading ?_
  exact (performs_nodeInspect (Docker.find_installNode hfind)).andThen performs_pure

theorem performs_serviceIDsAffected {keys ids : List String}
    (h : serviceIDsAffectedByNodeLabels U d.services keys = .ok ids) :
    Performs (Reader.serviceIDsAffected U keys) d ids d [] := by
  have hresult := run_serviceIDsAffected U (d := d) keys
  rw [h] at hresult
  refine ⟨hresult, ?_, ?_⟩
  · unfold Reader.serviceIDsAffected
    split
    · rfl
    · simp [serviceList, request_bind]
  · refine List.filter_eq_nil_iff.mpr fun op hop => ?_
    have hreads : op.Reads := serviceIDsAffected_reads.asked_run _ _ op hop
    rw [hreads]
    exact Bool.false_ne_true

theorem performs_updateNodeLabels (hd : d.Manages cluster) {input : NodeMutationRequest}
    {labels : Labels} (h : findNode d.nodes n.id = some n)
    (hversion : n.version = input.expectedVersion) (hlabels : input.targetLabels = some labels)
    (hbefore : H.node n.spec = input.expectedSpecHash)
    (hservices : serviceIDsAffectedByNodeLabels U d.services
      (changedNodeLabelKeys n.spec.labels labels) = .ok
      (input.expectedServiceIds.mergeSort (· ≤ ·)))
    (htarget : H.node { n.spec with labels } = input.targetSpecHash) :
    Performs (Reader.updateNodeLabels H U (some cluster) n.id input) d
      ⟨n.id, (d.index + 1).toNat, H.node { n.spec with labels }, n.spec.availability⟩
      (d.installNode n.id { n.spec with labels })
      [.nodeUpdate n.id n.version { n.spec with labels }] := by
  have hfind := find_of_findRef h
  refine (performs_resolveNode h).andThen ((performs_require hversion _).andThen ?_)
  rw [hlabels]
  refine performs_pure.andThen ((performs_require hbefore _).andThen ?_)
  refine (performs_serviceIDsAffected U hservices).andThen ((performs_require rfl _).andThen ?_)
  refine (performs_require htarget _).andThen ?_
  rw [← hversion]
  refine (performs_requireFinalMutationCluster hd).andThen ?_
  refine (performs_nodeUpdate hfind).reading ?_
  exact (performs_nodeInspect (Docker.find_installNode hfind)).andThen performs_pure

end Mutations

end Docklane.Engine
