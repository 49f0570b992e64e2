import Docklane.Engine.Capacity
import Docklane.Engine.Placement
import Mathlib.Data.List.Dedup

/-!
# The services that a change of node labels affects

`dockerengine/node_labels.go` reports, with a label plan, the services whose placement mentions a
label that changes. It reads the constraints with a parser of its own: that of
`dockerengine/capacity.go` compares the lower case of a key, this one folds it. Both find the same
label in a constraint (`labelOf_eq`). So a service that is not reported is judged
as before, by the placement check and by the capacity check.
-/

namespace Docklane.Engine

open Unicode
open Control (Labels)

/-! ## Patches -/

/-- `labels[key] = value` -/
def setLabel (labels : Labels) (entry : String × String) : Labels :=
  entry :: labels.filter (·.1 ≠ entry.1)

/-- `delete(labels, key)` -/
def removeLabel (labels : Labels) (key : String) : Labels :=
  labels.filter (·.1 ≠ key)

/-- `model.NodeLabelPatchRequest` -/
structure NodeLabelPatchRequest where
  expectedVersion : UInt64
  set : Labels
  remove : List String
  deriving DecidableEq, Repr

/-- The labels of a plan. -/
def patchLabels (labels : Labels) (input : NodeLabelPatchRequest) : Labels :=
  input.remove.foldl removeLabel (input.set.foldl setLabel labels)

/-- The keys that a patch names. -/
def NodeLabelPatchRequest.keys (input : NodeLabelPatchRequest) : List String :=
  input.set.map (·.1) ++ input.remove

def changedNodeLabelKeys (before after : Labels) : List String :=
  (((before ++ after).map (·.1)).dedup.filter fun key =>
    before.lookup key ≠ after.lookup key).mergeSort (· ≤ ·)

variable {labels : Labels} {key : String}

section

variable (U : Unicode)

def nodeLabelKeyFromDescriptor (raw : Text) : Option String :=
  (splitBytes (U.trimSpace raw) nodeLabelsKey.length).bind fun (first, name) =>
    if name ≠ [] ∧ U.equalFold first nodeLabelsKey then some (String.ofList name) else none

def nodeLabelKeyFromConstraint (raw : String) : Option String :=
  (splitConstraint raw.toList).bind fun (_, left, _) =>
    nodeLabelKeyFromDescriptor U (U.trimSpace left)

def placementReferencesNodeLabels (placement : Option Placement) (changedKeys : List String) :
    Bool :=
  match placement with
  | none => false
  | some placement =>
    placement.constraints.any (fun raw =>
        (nodeLabelKeyFromConstraint U raw).any (changedKeys.contains ·)) ||
      placement.preferences.any fun preference => preference.any fun descriptor =>
        (nodeLabelKeyFromDescriptor U descriptor.toList).any (changedKeys.contains ·)

def validateAffectedServiceModes (services : List Service) (changedKeys : List String) :
    Except EngineError Unit :=
  match services.find? fun service =>
      placementReferencesNodeLabels U service.spec.taskTemplate.placement changedKeys &&
        !(service.spec.mode matches .replicated _) with
  | some service => .error <| .validation <|
      "node label mutation affects unsupported non-replicated service " ++ quoted service.spec.name
  | none => .ok ()

def affectedServiceIDsForNodeLabels (services : List Service) (changedKeys : List String) :
    List String :=
  ((services.filter fun service => placementReferencesNodeLabels U
    service.spec.taskTemplate.placement changedKeys).map (·.id)).mergeSort (· ≤ ·)

/-- `serviceIDsAffectedByNodeLabels`, with the services that Docker lists. -/
def serviceIDsAffectedByNodeLabels (services : List Service) (changedKeys : List String) :
    Except EngineError (List String) :=
  if changedKeys = [] then .ok []
  else do
    validateAffectedServiceModes U services changedKeys
    return affectedServiceIDsForNodeLabels U services changedKeys

variable {U}

/-! ## What changes -/

theorem lookup_cons_of_ne {entry : String × String} (hkey : key ≠ entry.1) :
    List.lookup key (entry :: labels) = labels.lookup key := by
  rw [List.lookup_cons, beq_eq_false_iff_ne.mpr hkey]

theorem lookup_removeLabel {removed key : String} (hkey : key ≠ removed) :
    (removeLabel labels removed).lookup key = labels.lookup key := by
  unfold removeLabel
  induction labels with
  | nil => rfl
  | cons entry labels ih =>
    by_cases hentry : entry.1 = removed
    · rw [List.filter_cons_of_neg (by simpa using hentry), ih, lookup_cons_of_ne (hentry ▸ hkey)]
    · rw [List.filter_cons_of_pos (by simpa using hentry), List.lookup_cons, ih, List.lookup_cons]

theorem lookup_setLabel {entry : String × String} (hkey : key ≠ entry.1) :
    (setLabel labels entry).lookup key = labels.lookup key :=
  (lookup_cons_of_ne hkey).trans (lookup_removeLabel hkey)

/-- A patch leaves the labels alone that it does not name. -/
theorem lookup_patchLabels {input : NodeLabelPatchRequest} (hkey : key ∉ input.keys) :
    (patchLabels labels input).lookup key = labels.lookup key := by
  simp only [NodeLabelPatchRequest.keys, List.mem_append, not_or] at hkey
  have hset : ∀ (entries labels : Labels), key ∉ entries.map (·.1) →
      (entries.foldl setLabel labels).lookup key = labels.lookup key := by
    intro entries
    induction entries with
    | nil => intro labels _; rfl
    | cons entry entries ih =>
      intro labels hentries
      rw [List.map_cons, List.mem_cons, not_or] at hentries
      rw [List.foldl_cons, ih _ hentries.2, lookup_setLabel hentries.1]
  have hremove : ∀ (keys : List String) (labels : Labels), key ∉ keys →
      (keys.foldl removeLabel labels).lookup key = labels.lookup key := by
    intro keys
    induction keys with
    | nil => intro labels _; rfl
    | cons removed keys ih =>
      intro labels hkeys
      rw [List.mem_cons, not_or] at hkeys
      rw [List.foldl_cons, ih _ hkeys.2, lookup_removeLabel hkeys.1]
  rw [patchLabels, hremove _ _ hkey.2, hset _ _ hkey.1]

theorem mem_changedNodeLabelKeys {before after : Labels} :
    key ∈ changedNodeLabelKeys before after ↔ before.lookup key ≠ after.lookup key := by
  simp only [changedNodeLabelKeys, List.mem_mergeSort, List.mem_filter, List.mem_dedup,
    decide_eq_true_eq, and_iff_right_iff_imp]
  intro hne
  -- a key without an entry has no value on either side
  by_contra hnone
  have habsent : ∀ labels : Labels, (∀ entry ∈ labels, entry ∈ before ++ after) →
      labels.lookup key = none := by
    intro labels hlabels
    rw [List.lookup_eq_none_iff]
    intro entry hentry
    rw [bne_iff_ne]
    rintro rfl
    exact hnone (List.mem_map_of_mem (hlabels entry hentry))
  refine hne ((habsent before fun _ h => ?_).trans (habsent after fun _ h => ?_).symm)
  · exact List.mem_append_left _ h
  · exact List.mem_append_right _ h

/-! ## The two parsers -/

theorem plain_nodeLabelsKey : ∀ c ∈ nodeLabelsKey, Plain c := by
  have h : nodeLabelsKey.all (fun c => decide (Plain c)) = true := by decide
  simpa using h

/-- A key that the capacity parser takes for a node label is cut after the same twelve runes by
both parsers. -/
theorem splitBytes_nodeLabelsKey {key : Text}
    (h : nodeLabelsKey.isPrefixOf (U.toLower key) = true) :
    ∃ first name, splitBytes key nodeLabelsKey.length = some (first, name) ∧
      U.equalFold first nodeLabelsKey = true := by
  obtain ⟨first, name, rfl, hlen, hascii, hfold⟩ :=
    U.of_isPrefix_toLower plain_nodeLabelsKey (List.isPrefixOf_iff_prefix.mp h)
  exact ⟨first, name, hlen ▸ splitBytes_of_ascii hascii, hfold⟩

/-- The label that the capacity parser finds in a constraint is the one that the label plan finds,
unless its name is empty. -/
theorem labelOf_eq {raw : String} {constraint : ParsedConstraint}
    (hparse : parseCapacityConstraint U raw = some constraint)
    (hlabel : nodeLabelsKey.isPrefixOf (U.toLower constraint.key) = true) :
    ∃ name, (name = "" ∨ nodeLabelKeyFromConstraint U raw = some name) ∧
      ∀ labels, labelOf labels constraint.key nodeLabelsKey.length = lookup labels name := by
  obtain ⟨first, name, hsplit, hfold⟩ := splitBytes_nodeLabelsKey hlabel
  refine ⟨String.ofList name, ?_, fun labels => by rw [labelOf, hsplit]⟩
  by_cases hname : name = []
  · exact .inl (by rw [hname])
  · refine .inr ?_
    unfold parseCapacityConstraint at hparse
    cases hraw : splitConstraint raw.toList with
    | none => simp [hraw] at hparse
    | some parts =>
      obtain ⟨op, left, right⟩ := parts
      have hkey : constraint.key = U.trimSpace left := by
        simp only [hraw, Option.bind_some] at hparse
        split at hparse
        next => cases hparse
        next => exact (congrArg ParsedConstraint.key (Option.some.inj hparse)).symm
      simp only [nodeLabelKeyFromConstraint, hraw, Option.bind_some, nodeLabelKeyFromDescriptor,
        U.trimSpace_trimSpace, ← hkey, hsplit, ne_eq, hname, not_false_eq_true, hfold, and_self,
        if_true]

/-! ## Nodes that a service cannot tell apart -/

variable {net : Net} {service : Service}

variable (U net service) in
/-- The checks of the service look at nothing in which the two nodes differ. -/
structure Alike (left right : Node) : Prop where
  id : left.id = right.id
  description : left.description = right.description
  state : left.state = right.state
  availability : left.spec.availability = right.spec.availability
  constraints : ∀ constraint ∈ (parseCapacityConstraints U service.spec.taskTemplate.placement).1,
    constraintMatchesNode U net constraint left = constraintMatchesNode U net constraint right

namespace Alike

theorem refl (node : Node) : Alike U net service node node :=
  ⟨rfl, rfl, rfl, rfl, fun _ _ => rfl⟩

variable {left right : Node}

theorem matchesPlatforms_eq (h : Alike U net service left right) (platforms : List Platform) :
    matchesPlatforms U left platforms = matchesPlatforms U right platforms := by
  unfold matchesPlatforms
  rw [h.description]

theorem matchesConstraints_eq (h : Alike U net service left right) :
    matchesConstraints U net left (parseCapacityConstraints U
      service.spec.taskTemplate.placement).1 = matchesConstraints U net right
        (parseCapacityConstraints U service.spec.taskTemplate.placement).1 := by
  rw [Bool.eq_iff_iff, matchesConstraints, matchesConstraints, List.all_eq_true, List.all_eq_true]
  exact forall₂_congr fun constraint hc => by rw [h.constraints constraint hc]

theorem eligibleNode_eq (h : Alike U net service left right) :
    eligibleNode U net service left = eligibleNode U net service right := by
  unfold eligibleNode
  rw [h.state, h.availability, h.matchesPlatforms_eq, h.matchesConstraints_eq]

theorem capacityNode_eq (h : Alike U net service left right) (required : UInt64)
    (usage : String → NodeUsage) :
    capacityNode service required usage left = capacityNode service required usage right := by
  unfold capacityNode
  rw [h.id, h.description]

end Alike

section Pointwise

variable {left right : List Node} (h : List.Forall₂ (Alike U net service) left right)

include h

theorem capacityNodes_eq (required : UInt64) (usage : String → NodeUsage) :
    (left.filter (eligibleNode U net service)).map (capacityNode service required usage) =
      (right.filter (eligibleNode U net service)).map (capacityNode service required usage) := by
  induction h with
  | nil => rfl
  | cons hnode _ ih =>
    rw [List.filter_cons, List.filter_cons, hnode.eligibleNode_eq]
    split
    · rw [List.map_cons, List.map_cons, ih, hnode.capacityNode_eq]
    · exact ih

theorem evaluateServiceCapacity_eq {tasks : List Task} {input : CapacityCheckRequest} :
    evaluateServiceCapacity U net service left tasks input =
      evaluateServiceCapacity U net service right tasks input := by
  simp only [evaluateServiceCapacity, capacityFindings, capacityNodes_eq h]

theorem find_alike {id : String} :
    Option.Rel (Alike U net service) (left.find? (·.id = id)) (right.find? (·.id = id)) := by
  induction h with
  | nil => exact .none
  | cons hnode _ ih =>
    rw [List.find?_cons, List.find?_cons, hnode.id]
    split
    · exact .some hnode
    · exact ih

theorem placementViolation_eq (task : Task) :
    placementViolation U net service left task = placementViolation U net service right task := by
  have hfind : Option.Rel (Alike U net service) (nodeById left task.nodeId)
      (nodeById right task.nodeId) := find_alike (List.rel_reverse h)
  unfold placementViolation
  generalize nodeById left task.nodeId = a at hfind
  generalize nodeById right task.nodeId = b at hfind
  cases hfind with
  | none => rfl
  | some hnode => simp only [hnode.matchesPlatforms_eq, hnode.matchesConstraints_eq]

theorem evaluateServicePlacement_eq {tasks : List Task} :
    evaluateServicePlacement U net service left tasks =
      evaluateServicePlacement U net service right tasks := by
  have hviolations := funext (placementViolation_eq h)
  simp only [evaluateServicePlacement, hviolations]

end Pointwise

/-! ## The labels of one node -/

/-- The node with other labels. -/
def Node.withLabels (node : Node) (labels : Labels) : Node :=
  { node with spec := { node.spec with labels } }

/-- A constraint that mentions no changed label is decided as before. -/
theorem constraintMatchesNode_withLabels {node : Node} {raw : String}
    {constraint : ParsedConstraint} (hparse : parseCapacityConstraint U raw = some constraint)
    (hempty : labels.lookup "" = node.spec.labels.lookup "")
    (hkey : ∀ key, nodeLabelKeyFromConstraint U raw = some key →
      labels.lookup key = node.spec.labels.lookup key) :
    constraintMatchesNode U net constraint (node.withLabels labels) =
      constraintMatchesNode U net constraint node := by
  have hvalue : constraintValue U constraint.key (node.withLabels labels) =
      constraintValue U constraint.key node := by
    unfold constraintValue
    by_cases hlabel : nodeLabelsKey.isPrefixOf (U.toLower constraint.key) = true
    · obtain ⟨name, hname, hlookup⟩ := labelOf_eq hparse hlabel
      have hsame : lookup labels name = lookup node.spec.labels name := by
        unfold lookup
        rcases hname with rfl | hname
        · rw [hempty]
        · rw [hkey name hname]
      simp only [hlookup, Node.withLabels, hsame]
    · simp only [hlabel, Node.withLabels]
      rfl
  unfold constraintMatchesNode
  rw [hvalue]
  rfl

/-- A service whose placement mentions no changed label cannot tell the labels apart. -/
theorem alike_withLabels {node : Node} (hempty : labels.lookup "" = node.spec.labels.lookup "")
    (hunmentioned : placementReferencesNodeLabels U service.spec.taskTemplate.placement
      (changedNodeLabelKeys node.spec.labels labels) = false) :
    Alike U net service (node.withLabels labels) node := by
  refine ⟨rfl, rfl, rfl, rfl, fun constraint hconstraint => ?_⟩
  cases hplacement : service.spec.taskTemplate.placement with
  | none => simp [hplacement, parseCapacityConstraints] at hconstraint
  | some placement =>
    rw [hplacement] at hconstraint hunmentioned
    simp only [parseCapacityConstraints, List.mem_filterMap] at hconstraint
    obtain ⟨raw, hraw, hparse⟩ := hconstraint
    refine constraintMatchesNode_withLabels hparse hempty fun key hkey => ?_
    simp only [placementReferencesNodeLabels, Bool.or_eq_false_iff, List.any_eq_false]
      at hunmentioned
    have hunchanged : key ∉ changedNodeLabelKeys node.spec.labels labels := by
      simpa [hkey] using hunmentioned.1 raw hraw
    rw [mem_changedNodeLabelKeys, not_not] at hunchanged
    exact hunchanged.symm

/-- The affected set holds the service if its placement mentions a changed label. -/
theorem unmentioned_of_notMem {services : List Service} {changedKeys ids : List String}
    (haffected : serviceIDsAffectedByNodeLabels U services changedKeys = .ok ids)
    (hservice : service ∈ services) (hid : service.id ∉ ids) :
    placementReferencesNodeLabels U service.spec.taskTemplate.placement changedKeys = false := by
  unfold serviceIDsAffectedByNodeLabels at haffected
  split at haffected
  next hnone =>
    subst hnone
    cases service.spec.taskTemplate.placement <;> simp [placementReferencesNodeLabels]
  next =>
    cases hmodes : validateAffectedServiceModes U services changedKeys with
    | error e => simp [hmodes, bind, Except.bind] at haffected
    | ok _ =>
      have hids : affectedServiceIDsForNodeLabels U services changedKeys = ids := by
        simpa [hmodes, bind, Except.bind, pure, Except.pure] using haffected
      by_contra hmentioned
      rw [Bool.not_eq_false] at hmentioned
      refine hid (hids ▸ ?_)
      simp only [affectedServiceIDsForNodeLabels, List.mem_mergeSort, List.mem_map, List.mem_filter]
      exact ⟨service, ⟨hservice, hmentioned⟩, rfl⟩

/-- A label change affects no service outside the reported set. Whatever the other nodes and the
tasks are, a service that is not reported gets the same answer of the placement check and of the
capacity check with the old and with the new labels of the node. A patch that changes nothing is
reported to affect nothing. -/
theorem unreported_service_unaffected (U : Unicode) (net : Net) (node : Node)
    (services : List Service) (input : NodeLabelPatchRequest) (hkeys : "" ∉ input.keys) :
    let labels := patchLabels node.spec.labels input
    let affected := serviceIDsAffectedByNodeLabels U services
      (changedNodeLabelKeys node.spec.labels labels)
    (∀ ids, affected = .ok ids → ∀ service ∈ services, service.id ∉ ids →
      ∀ (before after : List Node) (tasks : List Task) (request : CapacityCheckRequest),
        evaluateServicePlacement U net service (before ++ node.withLabels labels :: after) tasks =
          evaluateServicePlacement U net service (before ++ node :: after) tasks ∧
        evaluateServiceCapacity U net service (before ++ node.withLabels labels :: after) tasks
            request =
          evaluateServiceCapacity U net service (before ++ node :: after) tasks request) ∧
    ((∀ key, labels.lookup key = node.spec.labels.lookup key) → affected = .ok []) := by
  intro labels affected
  constructor
  · intro ids haffected service hservice hid before after tasks request
    have hempty : labels.lookup "" = node.spec.labels.lookup "" := lookup_patchLabels hkeys
    have hnode : Alike U net service (node.withLabels labels) node :=
      alike_withLabels hempty (unmentioned_of_notMem haffected hservice hid)
    have hothers : ∀ nodes : List Node, List.Forall₂ (Alike U net service) nodes nodes :=
      fun nodes => List.forall₂_same.mpr fun n _ => .refl n
    have hnodes := List.rel_append (hothers before) (List.Forall₂.cons hnode (hothers after))
    exact ⟨evaluateServicePlacement_eq hnodes, evaluateServiceCapacity_eq hnodes⟩
  · intro hsame
    have hnone : changedNodeLabelKeys node.spec.labels labels = [] := by
      rw [List.eq_nil_iff_forall_not_mem]
      intro key hkey
      exact mem_changedNodeLabelKeys.mp hkey (hsame key).symm
    simp [affected, serviceIDsAffectedByNodeLabels, hnone]

end

/-- A patch of another label leaves the service with its constraint on `zone` as it was. -/
theorem rack_patch_spares_zone_service :
    let service := { webService with
      spec := { webService.spec with
        taskTemplate := { webService.spec.taskTemplate with
          placement := some ⟨["node.labels.zone==a"], [], 0, []⟩ } } }
    let labels := patchLabels workerNode.spec.labels ⟨2, [("rack", "r1")], []⟩
    "" ∉ (NodeLabelPatchRequest.mk 2 [("rack", "r1")] []).keys ∧
      serviceIDsAffectedByNodeLabels .ascii [service]
        (changedNodeLabelKeys workerNode.spec.labels labels) = .ok [] ∧
      evaluateServicePlacement .ascii noNet service [workerNode.withLabels labels] [webTask] =
        evaluateServicePlacement .ascii noNet service [workerNode] [webTask] := by
  intro service labels
  have hkeys : "" ∉ (NodeLabelPatchRequest.mk 2 [("rack", "r1")] []).keys := by decide
  have haffected : serviceIDsAffectedByNodeLabels .ascii [service]
      (changedNodeLabelKeys workerNode.spec.labels labels) = .ok [] := by decide +kernel
  have hunaffected := (unreported_service_unaffected .ascii noNet workerNode [service]
    ⟨2, [("rack", "r1")], []⟩ hkeys).1 [] haffected service (by simp) (by simp)
  exact ⟨hkeys, haffected, (hunaffected [] [] [webTask] ⟨7, 3, true⟩).1⟩

end Docklane.Engine
