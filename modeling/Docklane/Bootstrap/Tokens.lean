import Docklane.Control.Records
import Docklane.Storage.Rows

/-!
# Bootstrap tokens

The table `bootstrap_tokens`, the part of `audit_events` that is about tokens, and the transactions
of `BootstrapRepository`. A transaction locks the row of its token until it ends, so it is one step
of the database. Times are those of the database server, in microseconds.
-/

namespace Docklane.Bootstrap

open Control (Labels Failure)

/-! ## Rows -/

inductive BootstrapNodeRole where
  | manager
  | worker
  deriving DecidableEq, Repr

structure BootstrapTokenRow where
  id : String
  tokenHash : String
  clusterId : String
  nodeRole : BootstrapNodeRole
  labels : Labels
  createdBy : String
  expiresAt : Nat
  usedAt : Option Nat
  claimId : Option String
  completedNodeId : Option String
  createdAt : Nat
  deriving DecidableEq, Repr

structure BootstrapTokenRecord where
  id : String
  clusterId : String
  nodeRole : BootstrapNodeRole
  labels : Labels
  createdBy : String
  expiresAt : Nat
  usedAt : Option Nat
  claimId : Option String
  createdAt : Nat
  deriving DecidableEq, Repr

def mapRow (row : BootstrapTokenRow) : BootstrapTokenRecord where
  id := row.id
  clusterId := row.clusterId
  nodeRole := row.nodeRole
  labels := row.labels
  createdBy := row.createdBy
  expiresAt := row.expiresAt
  usedAt := row.usedAt
  claimId := row.claimId
  createdAt := row.createdAt

inductive AuditAction where
  | BOOTSTRAP_TOKEN_ISSUED
  | BOOTSTRAP_TOKEN_CLAIMED
  | BOOTSTRAP_COMPLETED
  deriving DecidableEq, Repr

/-- What `recordCompletionAudit` is told about the node. -/
structure Completion where
  nodeId : String
  hostname : String
  role : String
  labels : Labels
  verifiedAt : String
  deriving DecidableEq, Repr

/-- The column `after_json`. -/
inductive AuditDetails where
  | issued (nodeRole : BootstrapNodeRole) (labels : Labels) (expiresAt : Nat)
  | claimed (claimId : String) (nodeRole : BootstrapNodeRole) (labels : Labels)
      (claimedAt : Option Nat)
  | completed (claimId : Option String) (completion : Completion)
  deriving DecidableEq, Repr

/-- A row of `audit_events` whose resource is a token. -/
structure AuditRow where
  operationId : String
  actorId : String
  clusterId : String
  serviceId : String
  resourceId : String
  action : AuditAction
  afterJson : AuditDetails
  deriving DecidableEq, Repr

structure TokenStore where
  clock : Nat
  tokens : List BootstrapTokenRow
  audits : List AuditRow
  deriving DecidableEq, Repr

/-! ## Transactions -/

/-- `SET used_at = …, claim_id = …`. -/
def BootstrapTokenRow.use (row : BootstrapTokenRow) (id claimId : String) (stamp : Nat) :
    BootstrapTokenRow :=
  if row.id = id ∧ row.usedAt = none then
    { row with usedAt := some stamp, claimId := some claimId }
  else row

/-- `SET completed_node_id = …`. -/
def BootstrapTokenRow.bindNode (row : BootstrapTokenRow) (id nodeId : String) : BootstrapTokenRow :=
  if row.id = id ∧ row.completedNodeId = none then { row with completedNodeId := some nodeId }
  else row

namespace TokenStore

variable (store : TokenStore)

def findById (id : String) : Option BootstrapTokenRow :=
  store.tokens.find? fun row => row.id = id

def findByHash (tokenHash : String) : Option BootstrapTokenRow :=
  store.tokens.find? fun row => row.tokenHash = tokenHash

def update (change : BootstrapTokenRow → BootstrapTokenRow) : TokenStore :=
  { store with tokens := store.tokens.map change }

/-- Nothing is recorded twice for one token and action. -/
def insertAuditOnce (tokenId actorId clusterId : String) (action : AuditAction)
    (afterJson : AuditDetails) : TokenStore :=
  if ∃ a ∈ store.audits, a.operationId = tokenId ∧ a.action = action then store
  else { store with
    audits := store.audits ++ [⟨tokenId, actorId, clusterId, tokenId, tokenId, action, afterJson⟩] }

structure CreateInput where
  id : String
  tokenHash : String
  clusterId : String
  nodeRole : BootstrapNodeRole
  labels : Labels
  createdBy : String
  ttlSeconds : Nat
  deriving DecidableEq, Repr

/-- The row that `INSERT` makes at this time. -/
def CreateInput.row (input : CreateInput) (clock : Nat) : BootstrapTokenRow where
  id := input.id
  tokenHash := input.tokenHash
  clusterId := input.clusterId
  nodeRole := input.nodeRole
  labels := input.labels
  createdBy := input.createdBy
  expiresAt := clock + input.ttlSeconds * 1000000
  usedAt := none
  claimId := none
  completedNodeId := none
  createdAt := clock

/-- The id is the primary key and the hash is unique. -/
def create (input : CreateInput) : Except Failure (BootstrapTokenRecord × TokenStore) :=
  if ∃ row ∈ store.tokens, row.id = input.id ∨ row.tokenHash = input.tokenHash then
    .error (.database true "Duplicate entry")
  else
    let inserted := { store with tokens := store.tokens ++ [input.row store.clock] }
    match inserted.findById input.id with
    | none => .error (.error "Bootstrap token disappeared after insert")
    | some row => .ok (mapRow row, inserted.insertAuditOnce row.id input.createdBy row.clusterId
        .BOOTSTRAP_TOKEN_ISSUED (.issued row.nodeRole row.labels row.expiresAt))

/-- The server compares `claim_id` with its collation, which is coarser than equality. -/
def findClaimableByHash (collation : String → String → Bool) (tokenHash claimId : String) :
    Option BootstrapTokenRecord :=
  (store.tokens.find? fun row => row.tokenHash = tokenHash ∧ store.clock < row.expiresAt ∧
    (row.usedAt = none ∨ ∃ claimed ∈ row.claimId, collation claimed claimId)).map mapRow

/-- The audit row of a claim, first or repeated. -/
def recordClaim (row : BootstrapTokenRow) (claimId : String) : TokenStore :=
  store.insertAuditOnce row.id ("bootstrap:" ++ row.id) row.clusterId .BOOTSTRAP_TOKEN_CLAIMED
    (.claimed claimId row.nodeRole row.labels row.usedAt)

structure Consumed where
  record : BootstrapTokenRecord
  replayed : Bool
  deriving DecidableEq, Repr

/-- The expiry is checked when the transaction begins; the `UPDATE` is executed at the time `stamp`,
which may be later. -/
def consume (tokenHash claimId : String) (stamp : Nat) :
    Except Failure (Option Consumed × TokenStore) :=
  match store.tokens.find? fun row => row.tokenHash = tokenHash ∧ store.clock < row.expiresAt with
  | none => .ok (none, store)
  | some current =>
    if current.usedAt ≠ none then
      if current.claimId ≠ some claimId then .ok (none, store)
      else .ok (some ⟨mapRow current, true⟩, store.recordClaim current claimId)
    else
      let used := { store with clock := stamp }.update (·.use current.id claimId stamp)
      match used.findByHash tokenHash with
      | none => .error (.error "Consumed bootstrap token state is inconsistent")
      | some row =>
        if row.usedAt = none ∨ row.claimId ≠ some claimId then
          .error (.error "Consumed bootstrap token state is inconsistent")
        else .ok (some ⟨mapRow row, false⟩, used.recordClaim row claimId)

inductive Binding where
  | BOUND
  | REPLAY
  | CONFLICT
  | INACTIVE
  deriving DecidableEq, Repr

def bindCompletionNode (tokenId claimId nodeId : String) : Binding × TokenStore :=
  match store.tokens.find? fun row => row.id = tokenId ∧ store.clock < row.expiresAt with
  | none => (.INACTIVE, store)
  | some current =>
    if current.usedAt = none ∨ current.claimId ≠ some claimId then (.INACTIVE, store)
    else
      match current.completedNodeId with
      | some bound => (if bound = nodeId then .REPLAY else .CONFLICT, store)
      | none => (.BOUND, store.update (·.bindNode tokenId nodeId))

def recordCompletionAudit (record : BootstrapTokenRecord) (input : Completion) :
    Except Failure TokenStore :=
  match store.findById record.id with
  | none => .error (.error "Bootstrap token state changed before completion audit")
  | some locked =>
    if locked.claimId ≠ record.claimId ∨ locked.usedAt = none ∨
        locked.completedNodeId ≠ some input.nodeId then
      .error (.error "Bootstrap token state changed before completion audit")
    else .ok (store.insertAuditOnce record.id ("bootstrap:" ++ record.id) record.clusterId
      .BOOTSTRAP_COMPLETED (.completed record.claimId input))

end TokenStore

/-! ## The rules of a token -/

/-- What a row may become: a claim and a node are written once, each into a free column. -/
structure BootstrapTokenRow.Becomes (row row' : BootstrapTokenRow) : Prop where
  id : row'.id = row.id
  tokenHash : row'.tokenHash = row.tokenHash
  expiresAt : row'.expiresAt = row.expiresAt
  usedAt : row.usedAt ≠ none → row'.usedAt = row.usedAt
  claimId : row.usedAt ≠ none → row'.claimId = row.claimId
  completedNodeId : row.completedNodeId ≠ none → row'.completedNodeId = row.completedNodeId

/-- A used token has a claim, and only a used token has a node. -/
structure BootstrapTokenRow.Consistent (row : BootstrapTokenRow) : Prop where
  claimed : row.usedAt ≠ none ↔ row.claimId ≠ none
  completed : row.completedNodeId ≠ none → row.usedAt ≠ none

variable {id claimId : String} {stamp : Nat}

namespace BootstrapTokenRow

variable {row row' row'' : BootstrapTokenRow}

theorem Becomes.refl (row : BootstrapTokenRow) : row.Becomes row :=
  ⟨rfl, rfl, rfl, fun _ => rfl, fun _ => rfl, fun _ => rfl⟩

theorem Becomes.used (h : row.Becomes row') (hused : row.usedAt ≠ none) : row'.usedAt ≠ none := by
  rw [h.usedAt hused]
  exact hused

theorem Becomes.trans (h : row.Becomes row') (h' : row'.Becomes row'') : row.Becomes row'' where
  id := h'.id.trans h.id
  tokenHash := h'.tokenHash.trans h.tokenHash
  expiresAt := h'.expiresAt.trans h.expiresAt
  usedAt hused := (h'.usedAt (h.used hused)).trans (h.usedAt hused)
  claimId hused := (h'.claimId (h.used hused)).trans (h.claimId hused)
  completedNodeId hnode := by
    have heq := h.completedNodeId hnode
    exact (h'.completedNodeId (heq ▸ hnode)).trans heq

theorem becomes_use (row : BootstrapTokenRow) (id claimId : String) (stamp : Nat) :
    row.Becomes (row.use id claimId stamp) := by
  unfold use
  split
  · rename_i hfree
    exact ⟨rfl, rfl, rfl, fun h => absurd hfree.2 h, fun h => absurd hfree.2 h, fun _ => rfl⟩
  · exact .refl row

theorem consistent_use (h : row.Consistent) : (row.use id claimId stamp).Consistent := by
  unfold use
  split
  · exact ⟨by simp, fun _ => by simp⟩
  · exact h

theorem used_use : (row.use id claimId stamp).usedAt ≠ none ↔ row.usedAt ≠ none ∨ row.id = id := by
  unfold use
  split
  · rename_i hfree
    simp [hfree.1]
  · rename_i hkept
    refine ⟨.inl, ?_⟩
    rintro (hused | hid)
    · exact hused
    · exact fun hfree => hkept ⟨hid, hfree⟩

theorem use_completedNodeId {row : BootstrapTokenRow} {id claimId : String} {stamp : Nat} :
    (row.use id claimId stamp).completedNodeId = row.completedNodeId := by
  unfold use
  split <;> rfl

theorem becomes_bindNode (row : BootstrapTokenRow) (id nodeId : String) :
    row.Becomes (row.bindNode id nodeId) := by
  unfold bindNode
  split
  · rename_i hfree
    exact ⟨rfl, rfl, rfl, fun _ => rfl, fun _ => rfl, fun h => absurd hfree.2 h⟩
  · exact .refl row

theorem bindNode_usedAt (row : BootstrapTokenRow) (id nodeId : String) :
    (row.bindNode id nodeId).usedAt = row.usedAt := by
  unfold bindNode
  split <;> rfl

theorem bindNode_of_ne {id nodeId : String} (h : row.id ≠ id) : row.bindNode id nodeId = row :=
  if_neg fun hfree => h hfree.1

end BootstrapTokenRow

namespace TokenStore

/-- The audit trail has a row of this kind for the token. -/
def Recorded (store : TokenStore) (tokenId : String) (action : AuditAction) : Prop :=
  ∃ a ∈ store.audits, a.operationId = tokenId ∧ a.action = action

structure Valid (store : TokenStore) : Prop where
  ids : (store.tokens.map (·.id)).Nodup
  hashes : (store.tokens.map (·.tokenHash)).Nodup
  consistent : ∀ row ∈ store.tokens, row.Consistent
  audits : (store.audits.map fun a => (a.operationId, a.action)).Nodup
  /-- Only tokens are audited. -/
  audited : ∀ a ∈ store.audits, ∃ row ∈ store.tokens, row.id = a.operationId
  claimed : ∀ row ∈ store.tokens,
    store.Recorded row.id .BOOTSTRAP_TOKEN_CLAIMED ↔ row.usedAt ≠ none

/-- What may happen to the store: time passes, rows follow their rules and new ones are added. -/
structure Evolves (store store' : TokenStore) : Prop where
  clock : store.clock ≤ store'.clock
  tokens : ∀ row ∈ store.tokens, ∃ row' ∈ store'.tokens, row.Becomes row'

variable {store store' store'' : TokenStore}

theorem Evolves.refl (store : TokenStore) : store.Evolves store :=
  ⟨Nat.le_refl _, fun row hrow => ⟨row, hrow, .refl row⟩⟩

theorem Evolves.trans (h : store.Evolves store') (h' : store'.Evolves store'') :
    store.Evolves store'' := by
  refine ⟨h.clock.trans h'.clock, fun row hrow => ?_⟩
  obtain ⟨row', hrow', hstep⟩ := h.tokens row hrow
  obtain ⟨row'', hrow'', hstep'⟩ := h'.tokens row' hrow'
  exact ⟨row'', hrow'', hstep.trans hstep'⟩

/-! ### Audit rows -/

section Audit

variable {tokenId actorId clusterId : String} {action : AuditAction} {afterJson : AuditDetails}

@[simp] theorem insertAuditOnce_tokens (store : TokenStore) :
    (store.insertAuditOnce tokenId actorId clusterId action afterJson).tokens = store.tokens := by
  unfold insertAuditOnce
  split <;> rfl

@[simp] theorem insertAuditOnce_clock (store : TokenStore) :
    (store.insertAuditOnce tokenId actorId clusterId action afterJson).clock = store.clock := by
  unfold insertAuditOnce
  split <;> rfl

theorem recorded_insertAuditOnce {other : AuditAction} :
    (store.insertAuditOnce tokenId actorId clusterId action afterJson).Recorded id other ↔
      store.Recorded id other ∨ tokenId = id ∧ action = other := by
  unfold insertAuditOnce
  split
  · rename_i hthere
    refine ⟨.inl, ?_⟩
    rintro (hrec | ⟨rfl, rfl⟩)
    · exact hrec
    · exact hthere
  · simp only [Recorded, List.mem_append, List.mem_singleton]
    constructor
    · rintro ⟨a, ha | rfl, hid, haction⟩
      · exact .inl ⟨a, ha, hid, haction⟩
      · exact .inr ⟨hid, haction⟩
    · rintro (⟨a, ha, hid, haction⟩ | ⟨rfl, rfl⟩)
      · exact ⟨a, .inl ha, hid, haction⟩
      · exact ⟨_, .inr rfl, rfl, rfl⟩

theorem nodup_insertAuditOnce (h : (store.audits.map fun a => (a.operationId, a.action)).Nodup) :
    ((store.insertAuditOnce tokenId actorId clusterId action afterJson).audits.map
      fun a => (a.operationId, a.action)).Nodup := by
  unfold insertAuditOnce
  split
  · exact h
  · rename_i hnew
    refine Storage.nodup_keys_insert h fun a ha heq => hnew ⟨a, ha, ?_⟩
    exact ⟨congrArg Prod.fst heq, congrArg Prod.snd heq⟩

theorem audited_insertAuditOnce {a : AuditRow}
    (ha : a ∈ (store.insertAuditOnce tokenId actorId clusterId action afterJson).audits) :
    a ∈ store.audits ∨ a.operationId = tokenId := by
  unfold insertAuditOnce at ha
  split at ha
  · exact .inl ha
  · rcases List.mem_append.mp ha with ha | ha
    · exact .inl ha
    · rw [List.mem_singleton.mp ha]
      exact .inr rfl

end Audit

/-! ### Transactions keep the rules -/

/-- Which node a row is bound to is as it was, and new rows are bound to none. -/
def BindsNothing (store store' : TokenStore) : Prop :=
  ∀ row' ∈ store'.tokens, row'.completedNodeId ≠ none →
    ∃ row ∈ store.tokens, row.id = row'.id ∧ row.completedNodeId = row'.completedNodeId

theorem BindsNothing.of_tokens (h : store'.tokens = store.tokens) : store.BindsNothing store' :=
  fun row' hrow' _ => ⟨row', h ▸ hrow', rfl, rfl⟩

theorem Evolves.of_tokens (hclock : store.clock ≤ store'.clock)
    (h : store'.tokens = store.tokens) : store.Evolves store' :=
  ⟨hclock, fun row hrow => ⟨row, h ▸ hrow, .refl row⟩⟩

variable {row : BootstrapTokenRow}

section Update

variable {change : BootstrapTokenRow → BootstrapTokenRow}

theorem map_update_tokens {κ : Type} {key : BootstrapTokenRow → κ}
    (h : ∀ row, key (change row) = key row) :
    (store.update change).tokens.map key = store.tokens.map key := by
  simp only [update, List.map_map, Function.comp_def, h]

theorem Evolves.update (h : ∀ row : BootstrapTokenRow, row.Becomes (change row)) :
    store.Evolves (store.update change) :=
  ⟨Nat.le_refl _, fun row hrow => ⟨change row, List.mem_map_of_mem hrow, h row⟩⟩

/-- An update of the rows together with the audit row of the claim. -/
theorem Valid.claim (h : store.Valid) (hrow : row ∈ store.tokens) {claimed : BootstrapTokenRow}
    (hclaimed : claimed.id = row.id) (claimId : String)
    (hchange : ∀ r : BootstrapTokenRow, r.Becomes (change r))
    (hcons : ∀ r ∈ store.tokens, (change r).Consistent)
    (hused : ∀ r ∈ store.tokens, (change r).usedAt ≠ none ↔ r.usedAt ≠ none ∨ r.id = row.id) :
    ((store.update change).recordClaim claimed claimId).Valid where
  ids := by
    rw [recordClaim, insertAuditOnce_tokens, map_update_tokens fun r => (hchange r).id]
    exact h.ids
  hashes := by
    rw [recordClaim, insertAuditOnce_tokens, map_update_tokens fun r => (hchange r).tokenHash]
    exact h.hashes
  consistent := by
    rw [recordClaim, insertAuditOnce_tokens]
    exact List.forall_mem_map.mpr hcons
  audits := nodup_insertAuditOnce h.audits
  audited a ha := by
    rw [recordClaim, insertAuditOnce_tokens]
    have howner : ∃ r ∈ store.tokens, r.id = a.operationId := by
      rcases audited_insertAuditOnce ha with ha | ha
      · exact h.audited a ha
      · exact ⟨row, hrow, by rw [ha, hclaimed]⟩
    obtain ⟨r, hr, hid⟩ := howner
    exact ⟨change r, List.mem_map_of_mem hr, (hchange r).id.trans hid⟩
  claimed := by
    rw [recordClaim, insertAuditOnce_tokens]
    refine List.forall_mem_map.mpr fun r hr => ?_
    have hrecorded : (store.update change).Recorded (change r).id .BOOTSTRAP_TOKEN_CLAIMED ↔
        r.usedAt ≠ none := by
      rw [(hchange r).id]
      exact h.claimed r hr
    rw [recorded_insertAuditOnce, hrecorded, hused r hr, hclaimed, (hchange r).id]
    simp only [and_true, eq_comm]

/-- An update that neither uses a token nor frees it. -/
theorem Valid.update (h : store.Valid) (hchange : ∀ r : BootstrapTokenRow, r.Becomes (change r))
    (hcons : ∀ r ∈ store.tokens, (change r).Consistent)
    (hused : ∀ r, (change r).usedAt = r.usedAt) : (store.update change).Valid where
  ids := by
    rw [map_update_tokens fun r => (hchange r).id]
    exact h.ids
  hashes := by
    rw [map_update_tokens fun r => (hchange r).tokenHash]
    exact h.hashes
  consistent := List.forall_mem_map.mpr hcons
  audits := h.audits
  audited a ha := by
    obtain ⟨r, hr, hid⟩ := h.audited a ha
    exact ⟨change r, List.mem_map_of_mem hr, (hchange r).id.trans hid⟩
  claimed := by
    refine List.forall_mem_map.mpr fun r hr => ?_
    rw [(hchange r).id, hused]
    exact h.claimed r hr

end Update

theorem Valid.insertAuditOnce (h : store.Valid) {tokenId actorId clusterId : String}
    {action : AuditAction} {afterJson : AuditDetails} (haction : action ≠ .BOOTSTRAP_TOKEN_CLAIMED)
    (htoken : ∃ row ∈ store.tokens, row.id = tokenId) :
    (store.insertAuditOnce tokenId actorId clusterId action afterJson).Valid where
  ids := by
    rw [insertAuditOnce_tokens]
    exact h.ids
  hashes := by
    rw [insertAuditOnce_tokens]
    exact h.hashes
  consistent := by
    rw [insertAuditOnce_tokens]
    exact h.consistent
  audits := nodup_insertAuditOnce h.audits
  audited a ha := by
    rw [insertAuditOnce_tokens]
    rcases audited_insertAuditOnce ha with ha | ha
    · exact h.audited a ha
    · rw [ha]
      exact htoken
  claimed := by
    rw [insertAuditOnce_tokens]
    intro row hrow
    rw [recorded_insertAuditOnce, h.claimed row hrow]
    exact or_iff_left fun hsame => haction hsame.2

theorem Valid.at (h : store.Valid) (clock : Nat) : Valid { store with clock := clock } :=
  ⟨h.ids, h.hashes, h.consistent, h.audits, h.audited, h.claimed⟩

theorem mem_of_findByHash {hash : String} (h : store.findByHash hash = some row) :
    row ∈ store.tokens ∧ row.tokenHash = hash :=
  ⟨List.mem_of_find?_eq_some h, by simpa using List.find?_some h⟩

theorem mem_of_findById (h : store.findById id = some row) : row ∈ store.tokens ∧ row.id = id :=
  ⟨List.mem_of_find?_eq_some h, by simpa using List.find?_some h⟩

theorem Valid.eq_of_id (h : store.Valid) {row row' : BootstrapTokenRow} (hrow : row ∈ store.tokens)
    (hrow' : row' ∈ store.tokens) (hid : row.id = row'.id) : row = row' :=
  List.inj_on_of_nodup_map h.ids hrow hrow' hid

theorem Valid.eq_of_hash (h : store.Valid) {row row' : BootstrapTokenRow}
    (hrow : row ∈ store.tokens) (hrow' : row' ∈ store.tokens)
    (hhash : row.tokenHash = row'.tokenHash) : row = row' :=
  List.inj_on_of_nodup_map h.hashes hrow hrow' hhash

/-- A claim that has been granted: the row is used by it, and was not expired. -/
structure Grants (store : TokenStore) (hash claimId : String) (consumed : Consumed)
    (row : BootstrapTokenRow) : Prop where
  record : consumed.record = mapRow row
  tokenHash : row.tokenHash = hash
  used : row.usedAt ≠ none
  claimId : row.claimId = some claimId
  unexpired : store.clock < row.expiresAt

theorem consume_spec {hash claimId : String} {result : Option Consumed} (h : store.Valid)
    (hstamp : store.clock ≤ stamp) (hok : store.consume hash claimId stamp = .ok (result, store')) :
    store'.Valid ∧ store.Evolves store' ∧ store.BindsNothing store' ∧
      ∀ consumed, result = some consumed → ∃ row ∈ store'.tokens,
        store.Grants hash claimId consumed row := by
  unfold consume at hok
  split at hok
  · cases hok
    exact ⟨h, .refl _, .of_tokens rfl, nofun⟩
  · rename_i current hfind
    have hcurrent := List.mem_of_find?_eq_some hfind
    obtain ⟨hhash, hlive⟩ : current.tokenHash = hash ∧ store.clock < current.expiresAt := by
      simpa using List.find?_some hfind
    split at hok
    · rename_i hused
      split at hok
      · cases hok
        exact ⟨h, .refl _, .of_tokens rfl, nofun⟩
      · rename_i hclaim
        cases hok
        -- A replay only makes sure that the audit row is there.
        have hvalid : (store.recordClaim current claimId).Valid := by
          have hsame : ((store.update id).recordClaim current claimId).Valid :=
            h.claim hcurrent rfl claimId (fun r => .refl r) h.consistent fun r hr =>
              ⟨.inl, fun hr' => hr'.elim id fun hid => h.eq_of_id hr hcurrent hid ▸ hused⟩
          simpa [update] using hsame
        have htokens : (store.recordClaim current claimId).tokens = store.tokens :=
          insertAuditOnce_tokens _
        refine ⟨hvalid, .of_tokens (by simp [recordClaim]) htokens, .of_tokens htokens, ?_⟩
        rintro consumed ⟨⟩
        exact ⟨current, htokens ▸ hcurrent, rfl, hhash, hused, not_not.mp hclaim, hlive⟩
    · rename_i hfree
      simp only at hok
      split at hok
      · cases hok
      · rename_i row hrow
        split at hok
        · cases hok
        · rename_i hclaim
          cases hok
          obtain ⟨hrow, hrowHash⟩ := mem_of_findByHash hrow
          obtain ⟨old, hold, rfl⟩ := List.mem_map.mp hrow
          have hbecomes := BootstrapTokenRow.becomes_use old current.id claimId stamp
          obtain rfl : old = current :=
            h.eq_of_hash hold hcurrent (hbecomes.tokenHash.symm.trans (hrowHash.trans hhash.symm))
          have htokens : ∀ s : TokenStore, (s.recordClaim
              (old.use old.id claimId stamp) claimId).tokens = s.tokens :=
            fun _ => insertAuditOnce_tokens _
          refine ⟨(h.at stamp).claim hold hbecomes.id claimId
            (fun r => BootstrapTokenRow.becomes_use r _ _ _)
            (fun r hr => BootstrapTokenRow.consistent_use (h.consistent r hr))
            fun r _ => BootstrapTokenRow.used_use, ⟨?_, fun r hr => ?_⟩, ?_, ?_⟩
          · simpa [recordClaim, update] using hstamp
          · rw [htokens]
            exact ⟨_, List.mem_map_of_mem hr, BootstrapTokenRow.becomes_use r _ _ _⟩
          · intro r' hr' _
            rw [htokens] at hr'
            obtain ⟨r, hr, rfl⟩ := List.mem_map.mp hr'
            exact ⟨r, hr, (BootstrapTokenRow.becomes_use r _ _ _).id.symm,
              BootstrapTokenRow.use_completedNodeId.symm⟩
          · rintro consumed ⟨⟩
            obtain ⟨hused, hclaim⟩ := not_or.mp hclaim
            rw [htokens]
            refine ⟨_, hrow, rfl, hrowHash, hused, not_not.mp hclaim, ?_⟩
            rw [hbecomes.expiresAt]
            exact hlive

/-- A row that is bound for the first time. -/
structure Binds (store store' : TokenStore) (tokenId claimId nodeId : String) : Prop where
  free : ∃ row ∈ store.tokens, row.id = tokenId ∧ row.completedNodeId = none
  bound : ∃ row ∈ store'.tokens, row.id = tokenId ∧ row.claimId = some claimId ∧
    row.completedNodeId = some nodeId
  others : ∀ row' ∈ store'.tokens, row'.id ≠ tokenId → row' ∈ store.tokens

theorem bindCompletionNode_spec {tokenId claimId nodeId : String} {binding : Binding}
    (h : store.Valid)
    (hresult : store.bindCompletionNode tokenId claimId nodeId = (binding, store')) :
    store'.Valid ∧ store.Evolves store' ∧ (store' = store ∧ binding ≠ .BOUND ∨
      binding = .BOUND ∧ store.Binds store' tokenId claimId nodeId) := by
  unfold bindCompletionNode at hresult
  split at hresult
  · cases hresult
    exact ⟨h, .refl _, .inl ⟨rfl, nofun⟩⟩
  · rename_i current hfind
    have hcurrent := List.mem_of_find?_eq_some hfind
    obtain ⟨hid, -⟩ : current.id = tokenId ∧ store.clock < current.expiresAt := by
      simpa using List.find?_some hfind
    split at hresult
    · cases hresult
      exact ⟨h, .refl _, .inl ⟨rfl, nofun⟩⟩
    · rename_i hactive
      obtain ⟨hused, hclaim⟩ := not_or.mp hactive
      split at hresult
      · cases hresult
        refine ⟨h, .refl _, .inl ⟨rfl, ?_⟩⟩
        split <;> nofun
      · rename_i hfree
        cases hresult
        have hbecomes := fun r : BootstrapTokenRow => r.becomes_bindNode tokenId nodeId
        refine ⟨h.update hbecomes (fun r hr => ?_) fun r => r.bindNode_usedAt tokenId nodeId,
          .update hbecomes, .inr ⟨rfl, ⟨current, hcurrent, hid, hfree⟩, ?_, ?_⟩⟩
        · by_cases hr' : r.id = tokenId
          · obtain rfl := h.eq_of_id hr hcurrent (hr'.trans hid.symm)
            refine ⟨?_, fun _ => ?_⟩
            · rw [r.bindNode_usedAt, (hbecomes r).claimId hused]
              exact (h.consistent r hr).claimed
            · rw [r.bindNode_usedAt]
              exact hused
          · rw [BootstrapTokenRow.bindNode_of_ne hr']
            exact h.consistent r hr
        · refine ⟨_, List.mem_map_of_mem hcurrent, (hbecomes current).id.trans hid, ?_, ?_⟩
          · rw [(hbecomes current).claimId hused]
            exact not_not.mp hclaim
          · exact congrArg _ (if_pos ⟨hid, hfree⟩)
        · intro r' hr' hne
          obtain ⟨r, hr, rfl⟩ := List.mem_map.mp hr'
          rw [(hbecomes r).id] at hne
          rw [BootstrapTokenRow.bindNode_of_ne hne]
          exact hr

theorem recordCompletionAudit_spec {record : BootstrapTokenRecord} {input : Completion}
    (h : store.Valid) (hok : store.recordCompletionAudit record input = .ok store') :
    store'.Valid ∧ store.Evolves store' ∧ store.BindsNothing store' ∧
      ∃ row ∈ store'.tokens, row.id = record.id ∧ row.claimId = record.claimId ∧
        row.completedNodeId = some input.nodeId := by
  unfold recordCompletionAudit at hok
  split at hok
  · cases hok
  · rename_i locked hfind
    obtain ⟨hlocked, hid⟩ := mem_of_findById hfind
    split at hok
    · cases hok
    · rename_i hstate
      cases hok
      simp only [not_or, not_not] at hstate
      obtain ⟨hclaim, -, hnode⟩ := hstate
      have htokens : ∀ actor details, (store.insertAuditOnce record.id actor record.clusterId
          .BOOTSTRAP_COMPLETED details).tokens = store.tokens := fun _ _ => insertAuditOnce_tokens _
      refine ⟨h.insertAuditOnce nofun ⟨locked, hlocked, hid⟩, .of_tokens (by simp) (htokens _ _),
        .of_tokens (htokens _ _), locked, ?_, hid, hclaim, hnode⟩
      rw [htokens]
      exact hlocked

theorem Valid.insert (h : store.Valid) (hid : ∀ r ∈ store.tokens, r.id ≠ row.id)
    (hhash : ∀ r ∈ store.tokens, r.tokenHash ≠ row.tokenHash) (hcons : row.Consistent)
    (hfree : row.usedAt = none) : Valid { store with tokens := store.tokens ++ [row] } where
  ids := Storage.nodup_keys_insert h.ids hid
  hashes := Storage.nodup_keys_insert h.hashes hhash
  consistent r hr := by
    rcases List.mem_append.mp hr with hr | hr
    · exact h.consistent r hr
    · exact List.mem_singleton.mp hr ▸ hcons
  audits := h.audits
  audited a ha := by
    obtain ⟨r, hr, hra⟩ := h.audited a ha
    exact ⟨r, List.mem_append_left _ hr, hra⟩
  claimed r hr := by
    rcases List.mem_append.mp hr with hr | hr
    · exact h.claimed r hr
    · obtain rfl := List.mem_singleton.mp hr
      refine ⟨?_, fun hused => absurd hfree hused⟩
      rintro ⟨a, ha, haid, -⟩
      obtain ⟨r', hr', hr'a⟩ := h.audited a ha
      exact absurd (hr'a.trans haid) (hid r' hr')

theorem create_spec {input : CreateInput} {record : BootstrapTokenRecord} (h : store.Valid)
    (hok : store.create input = .ok (record, store')) :
    store'.Valid ∧ store.Evolves store' ∧ store.BindsNothing store' := by
  unfold create at hok
  split at hok
  · cases hok
  · rename_i hnew
    simp only at hok
    split at hok
    · cases hok
    · rename_i row hfind
      cases hok
      have hfresh : ∀ r ∈ store.tokens, r.id ≠ input.id ∧ r.tokenHash ≠ input.tokenHash :=
        fun r hr => not_or.mp fun hsame => hnew ⟨r, hr, hsame⟩
      have hvalid : Valid { store with tokens := store.tokens ++ [input.row store.clock] } :=
        h.insert (fun r hr => (hfresh r hr).1) (fun r hr => (hfresh r hr).2)
          ⟨by simp [CreateInput.row], by simp [CreateInput.row]⟩ rfl
      refine ⟨hvalid.insertAuditOnce nofun ⟨row, (mem_of_findById hfind).1, rfl⟩,
        ⟨by simp, fun r hr => ?_⟩, fun r hr hbound => ?_⟩
      · rw [insertAuditOnce_tokens]
        exact ⟨r, List.mem_append_left _ hr, .refl r⟩
      · rw [insertAuditOnce_tokens] at hr
        rcases List.mem_append.mp hr with hr | hr
        · exact ⟨r, hr, rfl, rfl⟩
        · rw [List.mem_singleton.mp hr] at hbound
          exact absurd rfl hbound

end TokenStore

end Docklane.Bootstrap
