import Docklane.Engine.Execution

/-!
# Mutations in a Swarm that others change

Anything can happen to Docker between two requests of a mutation, and its answers can get lost.
Since an update is a compare-and-set on the version and a version determines the spec, an update
takes effect only on what the mutation has compared with its plan.
-/

namespace Docklane.Engine

open Concurrent Concurrent.Program

/-- The specs that the versions of the objects stand for. -/
structure Versions where
  service : String → UInt64 → ServiceSpec × Option ServiceSpec
  node : String → UInt64 → NodeSpec

/-- A version determines the spec and the previous spec. -/
structure Docker.Keeps (V : Versions) (d : Docker) : Prop where
  service : ∀ s ∈ d.services, V.service s.id s.version = (s.spec, s.previousSpec)
  node : ∀ n ∈ d.nodes, V.node n.id n.version = n.spec

/-- No other object has the id for its name. -/
structure Docker.Addressed (id : String) (d : Docker) : Prop where
  service : ∀ s ∈ d.services, s.spec.name = id → s.id = id
  node : ∀ n ∈ d.nodes, n.description.hostname = id → n.id = id

/-- One request of the Agent, with Docker right before and right after it. Between two requests
anything can happen to Docker. -/
structure Encounter where
  op : DockerOp
  answer : op.Ans
  before : Docker
  after : Docker

def Encounter.event (x : Encounter) : DockerEvent := ⟨x.op, x.answer⟩

/-- The answer is an error, or the context has been cancelled. -/
def DockerOp.Failed : (op : DockerOp) → op.Ans → Prop
  | .contextErr, _ => True
  | .info, answer | .swarmInspect, answer | .serviceList, answer | .serviceInspect _, answer
  | .serviceUpdate _ _ _ _, answer | .nodeList, answer | .nodeInspect _, answer
  | .nodeUpdate _ _ _, answer | .taskList, answer => ∃ error, answer = .error error

/-- Docker answers the request, or reports an error: without any effect, or, where the error is no
conflict, after the request has been carried out. -/
structure Encounter.Real (V : Versions) (id : String) (x : Encounter) : Prop where
  keeps : x.before.Keeps V
  addressed : x.before.Addressed id
  reacts : (x.answer, x.after) = Docker.answer x.op x.before ∨ x.op.Failed x.answer ∧
    (x.after = x.before ∨ MayApply x.event ∧ x.after = (Docker.answer x.op x.before).2)

/-- The planned version of an object has been taken to the planned spec. -/
inductive Fulfils (H : Hashes) (id : String) (e : Expectation) (before after : Docker) : Prop where
  | service (s s' : Service) (hbefore : before.services.find? (·.id = id) = some s)
      (hversion : s.version = e.version) (hhash : H.service s.spec = e.before)
      (hafter : after.services.find? (·.id = id) = some s') (htarget : H.service s'.spec = e.target)
  | node (n n' : Node) (hbefore : before.nodes.find? (·.id = id) = some n)
      (hversion : n.version = e.version) (hhash : H.node n.spec = e.before)
      (hafter : after.nodes.find? (·.id = id) = some n') (htarget : H.node n'.spec = e.target)

section Shared

variable {V : Versions} {id : String} {x : Encounter} {H : Hashes} {e : Expectation}

theorem Encounter.Real.effect (hx : x.Real V id) :
    x.after = x.before ∨ x.after = (Docker.answer x.op x.before).2 := by
  rcases hx.reacts with heq | ⟨-, heq | ⟨-, heq⟩⟩
  · exact .inr (congrArg Prod.snd heq)
  · exact .inl heq
  · exact .inr heq

theorem Encounter.Real.service_seen (hx : x.Real V id) {s : Service}
    (hseen : x.event = ⟨.serviceInspect id, (.ok s : Except DockerError Service)⟩) :
    s.id = id ∧ V.service s.id s.version = (s.spec, s.previousSpec) := by
  obtain ⟨op, answer, before, after⟩ := x
  obtain ⟨⟩ := hseen
  obtain ⟨hkeeps, haddressed, heq | ⟨⟨error, herror⟩, -⟩⟩ := hx
  · have hfound : before.inspectService id = some s := by
      have hanswer := congrArg Prod.fst heq
      simp only [Docker.answer] at hanswer
      split at hanswer
      · rename_i s' hs'
        rw [hs', Except.ok.inj hanswer]
      · cases hanswer
    rcases Option.or_eq_some_iff.mp hfound with hid | ⟨-, hname⟩
    · exact ⟨by simpa using List.find?_some hid, hkeeps.service s (List.mem_of_find?_eq_some hid)⟩
    · have hmem := List.mem_of_find?_eq_some hname
      exact ⟨haddressed.service s hmem (by simpa using List.find?_some hname),
        hkeeps.service s hmem⟩
  · cases herror

theorem Encounter.Real.node_seen (hx : x.Real V id) {nodes : List Node} {n : Node}
    (hseen : x.event = ⟨.nodeList, (.ok nodes : Except DockerError (List Node))⟩)
    (hfound : findNode nodes id = some n) : n.id = id ∧ V.node n.id n.version = n.spec := by
  obtain ⟨op, answer, before, after⟩ := x
  obtain ⟨⟩ := hseen
  obtain ⟨hkeeps, haddressed, heq | ⟨⟨error, herror⟩, -⟩⟩ := hx
  · obtain rfl : nodes = before.nodes := Except.ok.inj (congrArg Prod.fst heq)
    obtain ⟨hmem, hid | hname⟩ := findRef_some hfound
    · exact ⟨hid, hkeeps.node n hmem⟩
    · exact ⟨haddressed.node n hmem hname, hkeeps.node n hmem⟩
  · cases herror

/-- A justified update changes nothing, or does what the plan says: Docker applies it to the version
that was looked at, so to the same spec. -/
theorem Encounter.Real.fulfils (hx : x.Real V id) {h : List DockerEvent}
    (hh : ∀ z ∈ h, ∃ y : Encounter, y.Real V id ∧ y.event = z) (hj : Justified H id e h x.op) :
    x.after = x.before ∨ Fulfils H id e x.before x.after := by
  rcases hx.effect with heq | heq
  · exact .inl heq
  obtain ⟨op, answer, before, after⟩ := x
  dsimp only at heq hj ⊢
  cases op with
  | serviceUpdate key version spec rollback =>
    rcases Docker.answer_serviceUpdate with
      hsame | ⟨s, target, hfound, hversion, hinstalled, hupdate⟩
    · exact .inl (heq.trans hsame)
    obtain ⟨-, seen, target', hlooked, rfl, hseen, rfl, hbefore, hplanned, htarget⟩ := hj
    obtain ⟨y, hy, hevent⟩ := hh _ hlooked
    obtain ⟨rfl, hdetermined⟩ := hy.service_seen hevent
    have hs := hx.keeps.service s (List.mem_of_find?_eq_some hfound)
    have hid : s.id = seen.id := by simpa using List.find?_some hfound
    rw [hid, hversion, ← hseen, hdetermined] at hs
    obtain ⟨hspec, hprevious⟩ := Prod.mk.inj hs
    obtain rfl : target = target' := by
      rw [Docker.installed, ← hprevious] at hinstalled
      exact Option.some.inj (hinstalled.symm.trans hplanned)
    rw [hupdate] at heq
    refine .inr (.service s (s.updated (before.index + 1) target) hfound hversion ?_ ?_ htarget)
    · rw [← hspec, hbefore]
    · rw [heq]
      exact Docker.find_installService hfound target
  | nodeUpdate key version spec =>
    rcases Docker.answer_nodeUpdate with
      hsame | ⟨n, hfound, hversion, hupdate⟩
    · exact .inl (heq.trans hsame)
    obtain ⟨-, nodes, seen, hlooked, hresolved, rfl, hseen, rfl, hbefore, htarget⟩ := hj
    obtain ⟨y, hy, hevent⟩ := hh _ hlooked
    obtain ⟨hself, hdetermined⟩ := hy.node_seen hevent hresolved
    have hn := hx.keeps.node n (List.mem_of_find?_eq_some hfound)
    have hid : n.id = seen.id := by simpa using List.find?_some hfound
    rw [hid, hversion, ← hseen, hdetermined] at hn
    rw [hupdate] at heq
    subst hself
    refine .inr (.node n (n.updated (before.index + 1) spec) hfound hversion ?_ ?_ htarget)
    · rw [← hn, hbefore]
    · rw [heq]
      exact Docker.find_installNode hfound
  | _ =>
    refine .inl (heq.trans (Docker.answer_reads ?_ before))
    rfl

/-- Whatever happens to Docker, each request of a mutation leaves it as it is or takes the planned
version of the object to the planned spec. -/
theorem handleMutation_fulfils {D : Decoder} {U : Unicode} {call : MutationCall}
    (he : expectation D call = some e) {t : List Encounter} {q : EngineProgram MutationReply}
    (ht : Trace (handleMutation D H U call) (t.map (·.event)) q)
    (hreal : ∀ x ∈ t, x.Real V call.id) :
    ∀ x ∈ t, x.after = x.before ∨ Fulfils H call.id e x.before x.after := by
  intro x hx
  obtain ⟨t₁, t₂, rfl⟩ := List.append_of_mem hx
  rw [List.map_append, List.map_cons] at ht
  have hfollows : (handleMutation D H U call).Follows (Licensed _ H call.id e) Answered [] :=
    handleMutation_follows (fun e' he' => Option.some.inj (he'.symm.trans he))
      (List.forall_mem_nil _)
  refine (hreal x hx).fulfils (fun z hz => ?_) (hfollows.allowed_of_mem ht).2
  obtain ⟨y, hy, rfl⟩ : ∃ y ∈ t₁, y.event = z := by simpa using hz
  exact ⟨y, hreal y (List.mem_append_left _ hy), rfl⟩

end Shared

end Docklane.Engine
