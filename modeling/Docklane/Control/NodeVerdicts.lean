import Docklane.Control.OperationIds
import Docklane.Control.ServiceVerdicts
import Docklane.Engine.Resolution
import Mathlib.Tactic.IntervalCases

/-!
# When drain, activate and labels succeed

Every path to the verdict on a node operation ends in `verifyAndCompleteLocked`. Each round of its
loop inspects the node, and for a label change then checks the placement of every affected service;
only when all of that is in order is `SUCCESS` written. The answers of the Agent come from the
states of Docker, so that the verdict says something about those.
-/

namespace Docklane.Control

open Concurrent Concurrent.Program

/-! ## Statements that make a node operation a success -/

/-- The statement can give the node operation `id` this status. -/
def DbOp.MarksNodeOperation (op : DbOp) (id : String) (status : OperationStatus) : Prop :=
  ∃ db reply db', op.exec db = .ok (reply, db') ∧
    (∃ o ∈ db'.nodeOperations, o.id = id ∧ o.status = status) ∧
    ∀ o ∈ db.nodeOperations, o.id = id → o.status ≠ status

/-- Requests that make no node operation a success. -/
def ControlOp.NodeUnmarking : ControlOp → Prop
  | .db op => ∀ id, ¬ op.MarksNodeOperation id .SUCCESS
  | _ => True

variable {op : ControlOp} {id : String} {change : OperationChange} {x : ControlEvent} {d : Docker}

theorem not_marksNodeOperation_of_eq {op : DbOp} {status : OperationStatus}
    (h : ∀ db reply db', op.exec db = .ok (reply, db') → db'.nodeOperations = db.nodeOperations) :
    ¬ op.MarksNodeOperation id status := by
  rintro ⟨db, reply, db', hexec, ⟨row, hrow, hid, hstatus⟩, hnew⟩
  rw [h db reply db' hexec] at hrow
  exact hnew row hrow hid hstatus

theorem changeNodeOperation_marks {operationId id : String} {status : OperationStatus}
    (h : (DbOp.changeNodeOperation operationId change).MarksNodeOperation id status) :
    operationId = id ∧ change.status = status := by
  obtain ⟨db, reply, db', hexec, ⟨row, hrow, hid, hstatus⟩, hnew⟩ := h
  cases hexec
  obtain ⟨old, hold, rfl⟩ := List.mem_map.mp hrow
  split at hid
  · rename_i hchanged
    rw [if_pos hchanged] at hstatus
    exact ⟨hchanged.1.symm.trans hid, hstatus⟩
  · rename_i hkept
    rw [if_neg hkept] at hstatus
    exact absurd hstatus (hnew old hold hid)

theorem ControlOp.Harmless.nodeUnmarking (h : op.Harmless) : op.NodeUnmarking := by
  cases op with
  | db op =>
    exact fun id => not_marksNodeOperation_of_eq fun db reply db' hexec =>
      (DbOp.exec_sameRecords h hexec).1.nodeOperations
  | _ => trivial

theorem ControlOp.Looks.nodeUnmarking (h : op.Looks) : op.NodeUnmarking := by
  by_cases hharmless : op.Harmless
  · exact hharmless.nodeUnmarking
  · cases op with
    | db op =>
      cases op with
      | backfillTargetRuntimeSpecHash id hash =>
        refine fun _ => not_marksNodeOperation_of_eq fun db reply db' hexec => ?_
        cases hexec
        rfl
      | _ => first | exact absurd id hharmless | exact h.elim
    | _ => trivial

theorem ControlOp.Journals.nodeUnmarking (h : op.Journals) : op.NodeUnmarking := by
  refine ControlOp.Harmless.nodeUnmarking ?_
  cases op with
  | db op => cases op <;> first | exact id | exact h.elim
  | _ => exact h.elim

theorem createNodeOperation_unmarking {input : NodeOperationInput} :
    (ControlOp.db (.createNodeOperation input)).NodeUnmarking := by
  rintro id ⟨db, reply, db', hexec, ⟨row, hrow, hid, hstatus⟩, hnew⟩
  obtain ⟨-, rfl⟩ := Db.createNodeOperation_ok (made_of_exec hexec)
  rcases List.mem_append.mp hrow with hold | hadded
  · exact hnew row hold hid hstatus
  · rw [List.mem_singleton.mp hadded] at hstatus
    cases hstatus

variable {settings : Settings} {ref : String}

theorem dispatch_nodeUnmarking {active : Option ActiveAdmission} {operationId : String}
    {mutation : Mutation} :
    (dispatch settings active operationId mutation).Uses ControlOp.NodeUnmarking := by
  refine dispatch_sendsOnce.uses ?_ ?_ ?_
  · rintro op (hlooks | hjournals)
    · exact hlooks.nodeUnmarking
    · exact hjournals.nodeUnmarking
  · rintro op ⟨request, -, rfl⟩
    trivial
  · exact fun op hjournals => hjournals.nodeUnmarking

/-! ## One round of the verification -/

/-- The answer of a statement that reads a node operation. -/
def readNodeOperation (id : String) (operation : NodeOperationRecord) : ControlEvent :=
  ⟨.db (.findNodeOperation id),
    (.ok (some operation) : Except Failure (Option NodeOperationRecord))⟩

/-- The answer of an inspection. -/
def inspectedNode (nodeId : String) (current : NodeDetailResponse) : ControlEvent :=
  ⟨.agent (.inspectNode nodeId), (.ok current : Except Failure NodeDetailResponse)⟩

/-- No record was read with this answer. -/
def ReadsNothing (x : ControlEvent) : Prop :=
  ∀ id operation, x ≠ readNodeOperation id operation

/-- The operation is the record that was read last. -/
def ReadLast (operation : NodeOperationRecord) (h : List ControlEvent) : Prop :=
  ∃ id newer older, h = newer ++ readNodeOperation id operation :: older ∧
    ∀ x ∈ newer, ReadsNothing x

/-- The node was inspected, the verdict on the snapshot is `SUCCESS`, and for a label change the
placement of every affected service was found converged after that. The operation is the record
that was read last before the inspection. -/
def NodeJudged (id : String) (operation : NodeOperationRecord) (current : NodeDetailResponse)
    (h : List ControlEvent) : Prop :=
  operation.id = id ∧ classifyNodeMutation operation current = .SUCCESS ∧
    ∃ checks older, h = checks ++ inspectedNode operation.nodeId current :: older ∧
      ReadLast operation older ∧
      (operation.type = .LABELS →
        ∀ serviceId ∈ operation.affectedServiceIds, placed serviceId ∈ checks)

/-- A statement may make a node operation a success only when that is the verdict. -/
def AfterNodeJudgement : List ControlEvent → ControlOp → Prop :=
  OnStatements fun h op => ∀ id, op.MarksNodeOperation id .SUCCESS →
    ∃ operation current, NodeJudged id operation current h

theorem ControlOp.NodeUnmarking.afterJudgement (hop : op.NodeUnmarking) {h : List ControlEvent} :
    AfterNodeJudgement h op := by
  cases op with
  | db op => exact fun id hmarks => absurd hmarks (hop id)
  | _ => trivial

theorem follows_of_nodeUnmarking {α : Type} {p : ControlProgram α}
    (hp : p.Uses ControlOp.NodeUnmarking) {h : List ControlEvent} :
    p.Follows AfterNodeJudgement (fun _ _ => True) h := by
  have hbuilt : p.Built ControlOp.NodeUnmarking fun _ _ => False := .of_uses hp
  exact hbuilt.follows (fun _ h' hop => hop.afterJudgement) nofun h

theorem ReadLast.append {operation : NodeOperationRecord} {h : List ControlEvent}
    (hread : ReadLast operation h) {newer : List ControlEvent}
    (hnewer : ∀ x ∈ newer, ReadsNothing x) : ReadLast operation (newer ++ h) := by
  obtain ⟨id, newer', older, rfl, hnewer'⟩ := hread
  refine ⟨id, newer ++ newer', older, by simp, fun x hx => ?_⟩
  rcases List.mem_append.mp hx with hx | hx
  · exact hnewer x hx
  · exact hnewer' x hx

theorem ReadLast.cons {operation : NodeOperationRecord} {h : List ControlEvent}
    (hread : ReadLast operation h) (hx : ReadsNothing x) : ReadLast operation (x :: h) := by
  have hone : ∀ y ∈ [x], ReadsNothing y := by simpa using hx
  exact hread.append hone

/-- The request reads a node operation. -/
def ControlOp.readsNodeOperation : ControlOp → Bool
  | .db (.findNodeOperation _) => true
  | _ => false

theorem readsNothing_of_eq_false (h : x.1.readsNodeOperation = false) : ReadsNothing x := by
  rintro id operation rfl
  cases h

namespace NodeMutationService

variable {operation : NodeOperationRecord} {h : List ControlEvent}

/-- What a round leaves: unless it has ended the verification, the record is still the one that was
read last. -/
def RoundEnds (operation : NodeOperationRecord) (r : Except Failure (Option NodeOperationRecord))
    (h : List ControlEvent) : Prop :=
  (∃ ended, r = .ok (some ended)) ∨ ReadLast operation h

theorem RoundEnds.readLast {r : Except Failure (Option NodeOperationRecord)}
    (hround : RoundEnds operation r h) (hr : ∀ ended, r ≠ .ok (some ended)) :
    ReadLast operation h :=
  hround.resolve_left fun ⟨ended, heq⟩ => hr ended heq

theorem requireOperation_round {id : String} (hread : ReadLast operation h) :
    ((requireOperation id).bind fun ended => .pure (some ended)).Follows AfterNodeJudgement
      (RoundEnds operation) h := by
  have hlooks : (ControlOp.db (.findNodeOperation id)).Looks := trivial
  refine ⟨hlooks.nodeUnmarking.afterJudgement,
    fun (answer : Except Failure (Option NodeOperationRecord)) => ?_⟩
  match answer with
  | .error e => exact .inr (hread.cons fun id' o heq => by cases heq)
  | .ok none => exact .inr (hread.cons fun id' o heq => by cases heq)
  | .ok (some ended) => exact .inl ⟨ended, rfl⟩

theorem change_round (hread : ReadLast operation h)
    (hmarks : change.status = .SUCCESS → ∃ current, NodeJudged operation.id operation current h) :
    ((changeNodeOperation operation.id change).bind fun _ =>
      (requireOperation operation.id).bind fun ended => .pure (some ended)).Follows
        AfterNodeJudgement (RoundEnds operation) h := by
  refine ⟨fun id hop => ?_, fun (answer : Except Failure Unit) => ?_⟩
  · obtain ⟨rfl, hstatus⟩ := changeNodeOperation_marks hop
    exact ⟨operation, hmarks hstatus⟩
  · have hread' : ReadLast operation
        (⟨.db (.changeNodeOperation operation.id change), answer⟩ :: h) :=
      hread.cons (readsNothing_of_eq_false rfl)
    cases answer with
    | error e => exact .inr hread'
    | ok _ => exact requireOperation_round hread'

theorem affectedServicesConverged_follows {serviceIds : List String}
    {α : Type} {k : Bool → ControlProgram α} {Q : Except Failure α → List ControlEvent → Prop}
    (herror : ∀ e checks, (∀ x ∈ checks, ReadsNothing x) → Q (.error e) (checks ++ h))
    (hfalse : ∀ checks, (∀ x ∈ checks, ReadsNothing x) →
      (k false).Follows AfterNodeJudgement Q (checks ++ h))
    (htrue : ∀ checks, (∀ x ∈ checks, ReadsNothing x) →
      (∀ serviceId ∈ serviceIds, placed serviceId ∈ checks) →
      (k true).Follows AfterNodeJudgement Q (checks ++ h)) :
    ((affectedServicesConverged serviceIds).bind k).Follows AfterNodeJudgement Q h := by
  induction serviceIds generalizing h with
  | nil => exact htrue [] (List.forall_mem_nil _) (List.forall_mem_nil _)
  | cons serviceId rest ih =>
    refine ⟨trivial, fun (answer : Except Failure PlacementStatus) => ?_⟩
    have hone (answer : Except Failure PlacementStatus) (checks : List ControlEvent)
        (hchecks : ∀ x ∈ checks, ReadsNothing x) :
        ∀ x ∈ checks ++ [⟨.agent (.checkServicePlacement serviceId), answer⟩],
          ReadsNothing x := by
      intro x hx
      rcases List.mem_append.mp hx with hx | hx
      · exact hchecks x hx
      · rw [List.mem_singleton.mp hx]
        exact readsNothing_of_eq_false rfl
    cases answer with
    | error e => exact herror e _ (hone (.error e) [] (List.forall_mem_nil _))
    | ok placement =>
      change Follows _ _ (Program.bind (if placement = .CONVERGED then _ else _) _) _
      split
      · rename_i hconverged
        subst hconverged
        have hcheck (checks : List ControlEvent) : checks ++ placed serviceId :: h =
            (checks ++ [placed serviceId]) ++ h := by simp
        refine ih (fun e checks hchecks => ?_) (fun checks hchecks => ?_)
          fun checks hchecks hplaced => ?_
        · change Q _ (checks ++ placed serviceId :: h)
          rw [hcheck]
          exact herror e _ (hone (.ok .CONVERGED) checks hchecks)
        · change Follows _ _ _ (checks ++ placed serviceId :: h)
          rw [hcheck]
          exact hfalse _ (hone (.ok .CONVERGED) checks hchecks)
        · change Follows _ _ _ (checks ++ placed serviceId :: h)
          rw [hcheck]
          refine htrue _ (hone (.ok .CONVERGED) checks hchecks) fun s hs => ?_
          rcases List.mem_cons.mp hs with rfl | hs
          · simp
          · exact List.mem_append_left _ (hplaced s hs)
      · exact hfalse _ (hone (.ok placement) [] (List.forall_mem_nil _))

theorem change_unmarking (hstatus : change.status ≠ .SUCCESS) {id : String} :
    (ControlOp.db (.changeNodeOperation id change)).NodeUnmarking :=
  fun _ hmarks => hstatus (changeNodeOperation_marks hmarks).2

theorem giveUp_unmarking {operation : NodeOperationRecord} {code message : String} :
    (giveUp operation code message).Uses ControlOp.NodeUnmarking :=
  Uses.bind (uses_query.mpr (change_unmarking (fun h => by cases h))) fun _ =>
    requireOperation_looks.mono fun _ hop => hop.nodeUnmarking

theorem verifyOnce_follows (hread : ReadLast operation h) :
    (verifyOnce operation).Follows AfterNodeJudgement (RoundEnds operation) h := by
  refine ⟨trivial, fun (answer : Except Failure NodeDetailResponse) => ?_⟩
  have hread' : ReadLast operation (⟨.agent (.inspectNode operation.nodeId), answer⟩ :: h) :=
    hread.cons (readsNothing_of_eq_false rfl)
  cases answer with
  | error e => exact .inr hread'
  | ok current =>
    dsimp only [Program.ofExcept, Program.bind]
    split
    · exact .inr hread'
    · rename_i message _
      change Follows _ _ (Program.bind (Program.bind _ _) _) _
      rw [bind_assoc]
      exact change_round hread' nofun
    · rename_i hsuccess
      have hmark (checks : List ControlEvent) (hchecks : ∀ x ∈ checks, ReadsNothing x)
          (hplaced : operation.type = .LABELS →
            ∀ serviceId ∈ operation.affectedServiceIds, placed serviceId ∈ checks) :
          ((changeNodeOperation operation.id (.success current.node.version)).bind fun _ =>
            (requireOperation operation.id).bind fun ended => .pure (some ended)).Follows
              AfterNodeJudgement (RoundEnds operation)
              (checks ++ inspectedNode operation.nodeId current :: h) :=
        change_round (hread'.append hchecks) fun _ =>
          ⟨current, rfl, hsuccess, checks, h, rfl, hread, hplaced⟩
      by_cases hlabels : operation.type = .LABELS
      · simp only [hlabels, if_true]
        refine affectedServicesConverged_follows (fun e checks hchecks => ?_)
          (fun checks hchecks => ?_) fun checks hchecks hplaced => ?_
        · exact .inr (hread'.append hchecks)
        · exact .inr (hread'.append hchecks)
        · exact hmark checks hchecks fun _ => hplaced
      · simp only [hlabels, if_false]
        exact hmark [] (List.forall_mem_nil _) fun h => absurd h hlabels

theorem verifyLoop_follows (deadline : Int) (fuel : Nat) (lastError : Option String)
    (hread : ReadLast operation h) :
    (verifyLoop operation deadline fuel lastError).Follows AfterNodeJudgement
      (fun _ _ => True) h := by
  induction fuel generalizing lastError h with
  | zero => exact hang_follows
  | succ fuel ih =>
    refine now_follows fun t => ?_
    have hnow : ReadLast operation (⟨.now, (t : Int)⟩ :: h) :=
      hread.cons (readsNothing_of_eq_false rfl)
    split
    · refine follows_bind (follows_attempt ((verifyOnce_follows hnow).mono fun r h' hround => ?_))
      have hsleep (hread : ReadLast operation h') (lastError : Option String) :
          ((sleep VERIFY_INTERVAL_MS).bind fun _ => verifyLoop operation deadline fuel
            lastError).Follows AfterNodeJudgement (fun _ _ => True) h' :=
        sleep_follows (ih lastError (hread.cons (readsNothing_of_eq_false rfl)))
      rcases r with e | _ | ended
      · exact hsleep (hround.readLast fun ended heq => by cases heq) _
      · exact hsleep (hround.readLast fun ended heq => by cases heq) _
      · trivial
    · exact follows_of_nodeUnmarking giveUp_unmarking

theorem verifyRefreshed_follows {id : String} {fuel : Nat} {h : List ControlEvent} :
    (verifyRefreshed id fuel).Follows AfterNodeJudgement (fun _ _ => True) h := by
  have hlooks : (ControlOp.db (.findNodeOperation id)).Looks := trivial
  refine ⟨hlooks.nodeUnmarking.afterJudgement,
    fun (answer : Except Failure (Option NodeOperationRecord)) => ?_⟩
  match answer with
  | .error e => trivial
  | .ok none => trivial
  | .ok (some operation) =>
    have hread : ReadLast operation (readNodeOperation id operation :: h) :=
      ⟨id, [], h, rfl, List.forall_mem_nil _⟩
    refine now_follows fun t => ?_
    exact verifyLoop_follows _ fuel none (hread.cons (readsNothing_of_eq_false rfl))

/-! ## The calls -/

/-- Whole verifications. -/
inductive Verifies : (β : Type) → ControlProgram β → Prop where
  | verify (id fuel) : Verifies _ (verifyRefreshed id fuel)

theorem pieces_unmarking :
    Pieces .changeNodeOperation verifyRefreshed ControlOp.NodeUnmarking Verifies where
  looks _ hop := hop.nodeUnmarking
  change _ _ hstatus := change_unmarking hstatus
  verify id fuel := .whole (.verify id fuel)

end NodeMutationService

/-- The calls that come to a verdict on a node operation: the request itself, which may be a retry,
a later request for the node, and the recovery at startup. -/
inductive NodeMutationCall (settings : Settings) : ControlProgram Unit → Prop where
  | mutate (clusterId nodeRef input fuel) :
      NodeMutationCall settings (ignoreResult
        (NodeMutationService.mutate settings clusterId nodeRef input fuel))
  | recoverOperations (fuel) :
      NodeMutationCall settings (NodeMutationService.onApplicationBootstrap settings fuel)

theorem NodeMutationCall.built {p : ControlProgram Unit} (hp : NodeMutationCall settings p) :
    p.Built ControlOp.NodeUnmarking NodeMutationService.Verifies := by
  have hharmless (op : ControlOp) (_ : op.Ordinary) (hop : op.Harmless) : op.NodeUnmarking :=
    hop.nodeUnmarking
  cases hp with
  | mutate _ _ input fuel =>
    exact ignoreResult_built (NodeMutationService.mutate_built hharmless
      (fun _ _ _ => .of_uses dispatch_nodeUnmarking) fuel
      NodeMutationService.pieces_unmarking (fun _ => createNodeOperation_unmarking) _)
  | recoverOperations fuel =>
    exact NodeMutationService.onApplicationBootstrap_built hharmless settings fuel
      NodeMutationService.pieces_unmarking

theorem NodeMutationCall.judged {p q : ControlProgram Unit} (hp : NodeMutationCall settings p)
    {t u : List ControlEvent} {op : DbOp} {answer : (ControlOp.db op).Ans}
    (ht : Trace p (t ++ ⟨.db op, answer⟩ :: u) q) (hmarks : op.MarksNodeOperation id .SUCCESS) :
    ∃ operation current, NodeJudged id operation current t.reverse := by
  have hfollows : p.Follows AfterNodeJudgement (fun _ _ => True) [] := by
    refine hp.built.follows (fun _ h' hop => hop.afterJudgement) ?_ []
    rintro _ _ ⟨id, fuel⟩ h'
    exact NodeMutationService.verifyRefreshed_follows
  obtain ⟨k, hbefore, -⟩ := ht.split
  simpa using hfollows.allowed_of_trace hbefore id hmarks

/-! ## What Docker was like -/

section

open Engine (Hashes Net Docker Node Service Placed isTerminalTaskState nodeDetail)

variable (H : Hashes) (U : Unicode) (net : Net)

/-- Nothing but the object with this id is called like that. -/
structure Unambiguous (d : Docker) (ref : String) : Prop where
  services : ∀ service ∈ d.services, service.spec.name = ref → service.id = ref
  nodes : ∀ node ∈ d.nodes, node.description.hostname = ref → node.id = ref

/-- If the Agent has answered about a node or about the placement of a service, it has computed that
from this state of Docker. -/
structure FromDocker (d : Docker) (x : ControlEvent) : Prop where
  node : ∀ ref detail, x = inspectedNode ref detail → Unambiguous d ref ∧
    (Engine.execute (Engine.Reader.node H ref) d).result = .ok detail
  placement : ∀ ref status,
    x = ⟨.agent (.checkServicePlacement ref), (.ok status : Except Failure PlacementStatus)⟩ →
    Unambiguous d ref ∧ ∃ response,
      (Engine.execute (Engine.Reader.checkServicePlacement U net ref) d).result = .ok response ∧
      response.status = status

/-- What the success of a node operation has to be seen on. -/
structure NodeConverged (operation : NodeOperationRecord) (d : Docker) (node : Node) : Prop where
  listed : node ∈ d.nodes
  id : node.id = operation.nodeId
  specHash : H.node node.spec = operation.targetSpecHash
  availability : node.spec.availability = operation.targetAvailability
  version : ∀ accepted, operation.resultVersion = some accepted → accepted ≤ node.version.toNat
  drained : operation.type = .DRAIN → ∀ task ∈ d.tasks, task.nodeId = node.id →
    isTerminalTaskState task.state = false → task.serviceId = ""
  labels : operation.type = .LABELS → ∃ target, operation.targetLabels = some target ∧
    ∀ key, node.spec.labels.lookup key = target.lookup key

variable {H U net}

/-- What the classifier has checked when its verdict is `SUCCESS`. -/
theorem classifyNodeMutation_success {operation : NodeOperationRecord}
    {current : NodeDetailResponse} (h : classifyNodeMutation operation current = .SUCCESS) :
    isStale current.node.version operation.resultVersion = false ∧
      current.node.specHash = operation.targetSpecHash ∧
      current.node.availability = operation.targetAvailability ∧
      (operation.type = .DRAIN → ∀ task ∈ current.tasks, task.serviceId = "") ∧
      (operation.type = .LABELS → ∃ target, operation.targetLabels = some target ∧
        sameLabels current.node.labels target = true) := by
  simp only [classifyNodeMutation] at h
  split at h
  · cases h
  rename_i hstale
  split at h
  · cases h
  rename_i hspec
  split at h
  · cases h
  rename_i havailability
  refine ⟨by simpa using hstale, not_not.mp hspec, not_not.mp havailability, ?_, ?_⟩
  · intro htype
    rw [htype] at h
    dsimp only at h
    split at h
    · rename_i hnone
      intro task htask
      by_contra hid
      have hmem : task ∈ current.tasks.filter fun task => !task.serviceId.isEmpty :=
        List.mem_filter.mpr ⟨htask, by simpa using hid⟩
      rw [List.isEmpty_iff.mp hnone] at hmem
      cases hmem
    · cases h
  · intro htype
    rw [htype] at h
    dsimp only at h
    split at h
    · cases h
    · rename_i target htarget
      split at h
      · rename_i hsame
        exact ⟨target, htarget, hsame⟩
      · cases h

theorem node_inspected {detail : NodeDetailResponse} (hd : Unambiguous d ref)
    (h : (Engine.execute (Engine.Reader.node H ref) d).result = .ok detail) :
    ∃ node ∈ d.nodes, node.id = ref ∧ detail = nodeDetail H d.tasks node := by
  obtain ⟨node, hfound, rfl⟩ := Engine.node_found h
  obtain ⟨hmem, hid | hname⟩ := Engine.findRef_some hfound
  · exact ⟨node, hmem, hid, rfl⟩
  · exact ⟨node, hmem, hd.nodes node hmem hname, rfl⟩

variable (U net) in
/-- The placement check of the service, on this state of Docker, has found it converged; and so it
is. -/
structure SeenPlaced (serviceId : String) (d : Docker) : Prop where
  answer : ∃ response, response.status = .CONVERGED ∧
    (Engine.execute (Engine.Reader.checkServicePlacement U net serviceId) d).result = .ok response
  service : ∃ service ∈ d.services, service.id = serviceId ∧ Placed U net service d.nodes d.tasks

theorem FromDocker.seenPlaced {serviceId : String}
    (h : FromDocker H U net d (placed serviceId)) : SeenPlaced U net serviceId d := by
  obtain ⟨hd, response, hresult, hstatus⟩ := h.placement _ _ rfl
  refine ⟨⟨response, hstatus, hresult⟩, ?_⟩
  obtain ⟨service, hfound, rfl⟩ := Engine.placement_found hresult
  have hplaced := Engine.placed_of_converged hstatus
  obtain ⟨hmem, hid | hname⟩ := Engine.findRef_some hfound
  · exact ⟨service, hmem, hid, hplaced⟩
  · exact ⟨service, hmem, hd.services service hmem hname, hplaced⟩

theorem nodeConverged_of_success {operation : NodeOperationRecord} {node : Node}
    (hmem : node ∈ d.nodes) (hid : node.id = operation.nodeId)
    (h : classifyNodeMutation operation (nodeDetail H d.tasks node) = .SUCCESS) :
    NodeConverged H operation d node := by
  obtain ⟨hstale, hspec, havailability, hdrained, hlabels⟩ := classifyNodeMutation_success h
  refine ⟨hmem, hid, hspec, havailability, fun _ => isStale_eq_false hstale, ?_, ?_⟩
  · intro htype task htask hnode hstate
    have hlisted : task ∈ Engine.Reader.tasksOn d.tasks node.id := by
      simp [Engine.Reader.tasksOn, htask, hnode, hstate]
    exact hdrained htype (Engine.toTaskSummary H task) (List.mem_map_of_mem hlisted)
  · intro htype
    obtain ⟨target, htarget, hsame⟩ := hlabels htype
    exact ⟨target, htarget, fun key => lookup_eq_of_sameLabels hsame key⟩

/-- Soundness of node operation success. While a call runs Docker goes through the states `docker`,
and each answer is computed from the state at its place in the trace. On every path, the statement
that makes a node operation a success comes after an inspection of its node, on a state in which the
node is as the operation, as it was read last, recorded it; and for a label change the check of
every affected service, after that inspection, was made on a state in which all its tasks run where
they may. -/
theorem node_success_sound (H : Hashes) (U : Unicode) (net : Net) (docker : Nat → Docker)
    {settings : Settings} {p q : ControlProgram Unit} (hp : NodeMutationCall settings p)
    {t u : List ControlEvent} {op : DbOp} {answer : (ControlOp.db op).Ans}
    (ht : Trace p (t ++ ⟨.db op, answer⟩ :: u) q)
    (hdocker : ∀ i x, t[i]? = some x → FromDocker H U net (docker i) x) {id : String}
    (hmarks : op.MarksNodeOperation id .SUCCESS) :
    ∃ operation i detail, operation.id = id ∧
      t[i]? = some (inspectedNode operation.nodeId detail) ∧
      ReadLast operation (t.take i).reverse ∧
      (Engine.execute (Engine.Reader.node H operation.nodeId) (docker i)).result = .ok detail ∧
      (∃ node, NodeConverged H operation (docker i) node) ∧
      (operation.type = .LABELS → ∀ serviceId ∈ operation.affectedServiceIds, ∃ j, i < j ∧
        t[j]? = some (placed serviceId) ∧ SeenPlaced U net serviceId (docker j)) := by
  obtain ⟨operation, current, hid, hsuccess, checks, older, hhistory, hread, hchecks⟩ :=
    hp.judged ht hmarks
  have ht' : t = older.reverse ++ inspectedNode operation.nodeId current :: checks.reverse := by
    simpa using congrArg List.reverse hhistory
  have hat : t[older.length]? = some (inspectedNode operation.nodeId current) := by
    simp [ht']
  obtain ⟨hd, hresult⟩ := (hdocker _ _ hat).node _ _ rfl
  obtain ⟨node, hmem, hnode, rfl⟩ := node_inspected hd hresult
  refine ⟨operation, older.length, _, hid, hat, by simpa [ht'] using hread, hresult,
    ⟨node, nodeConverged_of_success hmem hnode hsuccess⟩, fun htype serviceId hservice => ?_⟩
  -- The check stands in the part of the trace that follows the inspection.
  obtain ⟨k, hk⟩ := List.getElem?_of_mem (List.mem_reverse.mpr (hchecks htype serviceId hservice))
  have hlater : t[older.length + (k + 1)]? = some (placed serviceId) := by
    rw [ht', List.getElem?_append_right (by simp)]
    simpa using hk
  exact ⟨older.length + (k + 1), by omega, hlater, (hdocker _ _ hlater).seenPlaced⟩

/-! ## A label change that is recovered -/

/-- The request asks an Agent about a node or a placement. -/
def ControlOp.looksAtDocker : ControlOp → Bool
  | .agent (.inspectNode _) => true
  | .agent (.checkServicePlacement _) => true
  | _ => false

theorem fromDocker_of_eq_false (h : x.1.looksAtDocker = false) : FromDocker H U net d x where
  node ref detail hx := by
    subst hx
    cases h
  placement ref status hx := by
    subst hx
    cases h

theorem fromDocker_inspected {node : Node} (hd : Unambiguous d ref)
    (hfound : Engine.findNode d.nodes ref = some node) :
    FromDocker H U net d (inspectedNode ref (nodeDetail H d.tasks node)) where
  node ref' detail hx := by
    obtain ⟨hop, hanswer⟩ := Sigma.mk.inj hx
    obtain rfl : ref = ref' := by cases hop; rfl
    have hdetail : nodeDetail H d.tasks node = detail := Except.ok.inj (eq_of_heq hanswer)
    exact ⟨hd, by rw [Engine.run_node H hfound, hdetail]⟩
  placement ref' status hx := by
    have hop := congrArg (fun x : ControlEvent => x.1) hx
    cases hop

theorem fromDocker_placed {service : Service} (hd : Unambiguous d ref)
    (hfound : Engine.findService d.services ref = some service)
    (h : (Engine.evaluateServicePlacement U net service d.nodes d.tasks).status = .CONVERGED) :
    FromDocker H U net d (placed ref) where
  node ref' detail hx := by
    have hop := congrArg (fun x : ControlEvent => x.1) hx
    cases hop
  placement ref' status hx := by
    obtain ⟨hop, hanswer⟩ := Sigma.mk.inj hx
    obtain rfl : ref = ref' := by cases hop; rfl
    have hstatus : PlacementStatus.CONVERGED = status := Except.ok.inj (eq_of_heq hanswer)
    exact ⟨hd, _, Engine.run_checkServicePlacement U net hfound, h.trans hstatus⟩

end

/-- The node is in the zone its label names. -/
def zonedNode : Engine.Node :=
  { Engine.workerNode with spec := { Engine.workerNode.spec with labels := [("zone", "a")] } }

/-- A service of one replica for the nodes of that zone. -/
def zonedService : Engine.Service :=
  { Engine.webService with spec := { Engine.webService.spec with
      taskTemplate := { Engine.webService.spec.taskTemplate with
        placement := some ⟨["node.labels.zone == a"], [], 0, []⟩ } } }

def zonedSwarm (state : Engine.TaskState) : Engine.Docker :=
  { Engine.twoServices "api" with
    services := [zonedService], nodes := [zonedNode], tasks := [{ Engine.webTask with state }] }

/-- The task of the service starts to run after the inspection of the node. -/
def zonedStates (i : Nat) : Engine.Docker :=
  zonedSwarm (if i ≤ 9 then .starting else .running)

def labelOperation : NodeOperationRecord where
  id := "o"
  clusterId := "c"
  nodeId := "worker"
  type := .LABELS
  actorId := "actor"
  expectedVersion := 1
  beforeSpecHash := "before"
  targetSpecHash := ""
  targetAvailability := .active
  affectedServiceIds := ["web"]
  targetLabels := some [("zone", "a")]
  labelPatch := none
  status := .VERIFYING
  resultVersion := some 2
  errorCode := none
  errorMessage := none

/-- What the recovery of the operation is answered up to its verdict. -/
def labelAnswers : List ControlEvent :=
  let clock : ControlEvent := ⟨.now, (0 : Int)⟩
  let locked (key : LockKey) : ControlEvent :=
    ⟨.getLock (plainProcess.namedLockName key), (.ok true : Except Failure Bool)⟩
  let inspected := inspectedNode "worker"
    (Engine.nodeDetail Engine.blankHashes (zonedSwarm .starting).tasks zonedNode)
  [⟨.db .listNonTerminalNode, (.ok [labelOperation] : Except Failure (List NodeOperationRecord))⟩,
    ⟨.getConnection, (.ok () : Except Failure Unit)⟩,
    locked ⟨.node, "c", "worker"⟩, locked ⟨.service, "c", "web"⟩,
    readNodeOperation "o" labelOperation, inspected, readNodeOperation "o" labelOperation,
    clock, clock, inspected, placed "web"]

/-- The statement that makes the operation a success. -/
def markLabelled : ControlEvent :=
  ⟨.db (.changeNodeOperation "o" (.success 2)), (.ok () : Except Failure Unit)⟩

theorem markLabelled_marks :
    (DbOp.changeNodeOperation "o" (.success 2)).MarksNodeOperation "o" .SUCCESS :=
  ⟨{ emptyDb with nodeOperations := [labelOperation] }, (), _, rfl,
    ⟨(OperationChange.success 2).applyNode labelOperation, List.mem_singleton_self _, rfl, rfl⟩,
    by simp [labelOperation]⟩

theorem labelAnswers_trace :
    ∃ q, Trace (NodeMutationService.onApplicationBootstrap plainProcess 1)
      (labelAnswers ++ [markLabelled]) q := by
  -- Sorting does not evaluate, so the names of the locks are put in by hand.
  have hnames : sortedUnique ((nodeLockKeys "c" "worker" ["web"]).map plainProcess.namedLockName) =
      (nodeLockKeys "c" "worker" ["web"]).map plainProcess.namedLockName := by
    rw [sortedUnique, List.Nodup.dedup (by decide +kernel)]
    exact List.mergeSort_of_pairwise (by decide +kernel)
  have hsome : (replay (NodeMutationService.recoverOperations plainProcess 1 [labelOperation])
      (labelAnswers.tail ++ [markLabelled])).isSome = true := by
    simp only [NodeMutationService.recoverOperations, NodeMutationService.recoverOperation,
      withNodeRecoveryLocks, withResourceLocks, labelOperation, hnames]
    decide +kernel
  obtain ⟨q, hq⟩ := Option.isSome_iff_exists.mp hsome
  exact ⟨q, .cons (trace_of_replay hq)⟩

theorem labelAnswers_fromDocker (i : Nat) (x : ControlEvent) (hx : labelAnswers[i]? = some x) :
    FromDocker Engine.blankHashes .ascii Engine.noNet (zonedStates i) x := by
  have hi : i < 11 := (List.getElem?_eq_some_iff.mp hx).1
  have hd (i : Nat) (ref : String) (href : ref = "worker" ∨ ref = "web") :
      Unambiguous (zonedStates i) ref := by
    constructor <;> intro y hy <;> obtain rfl := List.mem_singleton.mp hy <;>
      rcases href with rfl | rfl <;> decide +kernel
  interval_cases i <;> obtain rfl := Option.some.inj hx
  case «5» => exact fromDocker_inspected (hd 5 _ (.inl rfl)) rfl
  case «9» => exact fromDocker_inspected (hd 9 _ (.inl rfl)) rfl
  case «10» => exact fromDocker_placed (hd 10 _ (.inr rfl)) rfl (by decide +kernel)
  all_goals exact fromDocker_of_eq_false rfl

theorem eq_labelOperation_of_readLast {operation : NodeOperationRecord} {i : Nat}
    (h : ReadLast operation (labelAnswers.take i).reverse) : operation = labelOperation := by
  obtain ⟨id, newer, older, heq, -⟩ := h
  have hmem : readNodeOperation id operation ∈ labelAnswers :=
    List.mem_of_mem_take (List.mem_reverse.mp (by rw [heq]; simp))
  obtain ⟨i, hi⟩ := List.getElem?_of_mem hmem
  have hlt : i < 11 := (List.getElem?_eq_some_iff.mp hi).1
  interval_cases i <;> obtain ⟨hop, hanswer⟩ := Sigma.mk.inj (Option.some.inj hi)
  case «4» | «6» => exact (Option.some.inj (Except.ok.inj (eq_of_heq hanswer))).symm
  all_goals cases hop

/-- The placement of the service is checked on the state in which its task runs, after the node was
inspected on one in which it did not. -/
theorem recovered_labels_sound :
    ∃ i j detail, i < j ∧ labelAnswers[i]? = some (inspectedNode "worker" detail) ∧
      (∃ node, NodeConverged Engine.blankHashes labelOperation (zonedStates i) node) ∧
      labelAnswers[j]? = some (placed "web") ∧
      SeenPlaced .ascii Engine.noNet "web" (zonedStates j) := by
  obtain ⟨q, ht⟩ := labelAnswers_trace
  obtain ⟨operation, i, detail, -, hat, hread, -, hconverged, hservices⟩ :=
    node_success_sound Engine.blankHashes .ascii Engine.noNet zonedStates (.recoverOperations 1) ht
      labelAnswers_fromDocker markLabelled_marks
  obtain rfl := eq_labelOperation_of_readLast hread
  obtain ⟨j, hj, hplaced, hseen⟩ := hservices rfl "web" (List.mem_singleton_self _)
  exact ⟨i, j, detail, hj, hat, hconverged, hplaced, hseen⟩

end Docklane.Control
