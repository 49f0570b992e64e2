import Docklane.Bootstrap.Service

/-!
# One claim and one node for each token

Any number of processes issue, claim and complete at the same time. The state keeps a log that the
code does not see: which thread looked a token up, when a claim was granted, when a node was bound
and what was answered. The invariant ties every entry of the log to the row of its token; a row only
ever moves along `BootstrapTokenRow.Becomes`, so what the entries say of it stays true. The answer
to a claim also follows the grant of its own call.
-/

namespace Docklane.Bootstrap

open Concurrent
open Control (Failure)

/-! ## The machine -/

/-- An entry of the log. -/
inductive Event where
  /-- A token was looked up, which is what a claim and a completion begin with. -/
  | sought (tokenHash claimId : String)
  /-- The token was found unexpired at this time and its claim was granted, first or repeated. -/
  | granted (tokenId claimId : String) (time : Nat)
  /-- `completed_node_id` was written. -/
  | bound (tokenId claimId nodeId : String)
  | replied (reply : Reply)
  deriving DecidableEq, Repr

structure World (Tid : Type) where
  store : TokenStore
  /-- The entries with their threads, the newest first. -/
  log : List (Tid × Event)

/-- The result of a transaction that ends at the time `stamp`. -/
def TokenOp.exec (collation : String → String → Bool) (stamp : Nat) :
    (op : TokenOp) → TokenStore → Except Failure (op.Reply × TokenStore)
  | create input, store => store.create input
  | findClaimableByHash hash claimId, store =>
    .ok (store.findClaimableByHash collation hash claimId, store)
  | consume hash claimId, store => store.consume hash claimId stamp
  | bindCompletionNode tokenId claimId nodeId, store =>
    .ok (store.bindCompletionNode tokenId claimId nodeId)
  | recordCompletionAudit record input, store =>
    (store.recordCompletionAudit record input).map fun store' => ((), store')

/-- What the log says of a committed transaction. -/
def TokenOp.entry (clock : Nat) : (op : TokenOp) → op.Reply → List Event
  | findClaimableByHash hash claimId, _ => [.sought hash claimId]
  | consume _ claimId, (some consumed : Option TokenStore.Consumed) =>
    [.granted consumed.record.id claimId clock]
  | bindCompletionNode tokenId claimId nodeId, (.BOUND : TokenStore.Binding) =>
    [.bound tokenId claimId nodeId]
  | _, _ => []

section Machine

variable {Tid : Type}

def World.commit (w : World Tid) (i : Tid) (op : TokenOp) (reply : op.Reply) (store : TokenStore) :
    World Tid :=
  ⟨store, (op.entry w.store.clock reply).map (Prod.mk i) ++ w.log⟩

/-- One transaction: it is committed and answered, it is rolled back, or it fails, committed or
not. -/
inductive TransactionStep (collation : String → String → Bool) (i : Tid) (op : TokenOp)
    (w : World Tid) : Except Failure op.Reply → World Tid → Prop where
  | committed {stamp reply store} (hstamp : w.store.clock ≤ stamp)
      (hexec : op.exec collation stamp w.store = .ok (reply, store)) :
      TransactionStep collation i op w (.ok reply) (w.commit i op reply store)
  | rolledBack {stamp e} (hexec : op.exec collation stamp w.store = .error e) :
      TransactionStep collation i op w (.error e) w
  | failed (message : String) :
      TransactionStep collation i op w (.error (.database false message)) w
  | unacknowledged {stamp reply store} (message : String) (hstamp : w.store.clock ≤ stamp)
      (hexec : op.exec collation stamp w.store = .ok (reply, store)) :
      TransactionStep collation i op w (.error (.database false message))
        (w.commit i op reply store)

def Performs (collation : String → String → Bool) (i : Tid) :
    (op : BootstrapOp) → World Tid → op.Ans → World Tid → Prop
  | .token op, w, answer, w' => TransactionStep collation i op w answer w'
  | .respond reply, w, _, w' => w' = { w with log := (i, .replied reply) :: w.log }
  | .randomUUID, w, _, w' | .randomBytes, w, _, w' | .now, w, _, w' | .assertRegistered _, w, _, w'
  | .inspectNode _, w, _, w' | .nodeOperation _ _, w, _, w' | .nodeLabels _, w, _, w' => w' = w

/-- Time passes on its own. A crash rolls back what has not been committed. -/
def bootstrapMachine (Tid : Type) (collation : String → String → Bool) :
    Machine Tid BootstrapOp BootstrapOp.Ans (World Tid) where
  perform := Performs collation
  env w w' := ∃ clock, w.store.clock ≤ clock ∧
    w' = { w with store := { w.store with clock := clock } }
  crash _ w w' := w' = w

/-- The state after the migrations have run. -/
def emptyWorld (clock : Nat) : World Tid := ⟨⟨clock, [], []⟩, []⟩

/-- The configurations that processes with these settings can reach. -/
def BootstrapReachable [DecidableEq Tid] (tokenHash : String → String)
    (collation : String → String → Bool) (settings : Set Settings) (clock : Nat) :
    Config Tid BootstrapOp BootstrapOp.Ans BootstrapError Unit (World Tid) → Prop :=
  Reachable (bootstrapMachine Tid collation)
    (fun p => ∃ s ∈ settings, BootstrapCall tokenHash s p) (emptyWorld clock)

end Machine

/-! ## The invariant -/

variable {Tid : Type} {P : BootstrapTokenRow → Prop} {store : TokenStore} {op : TokenOp}

namespace World

variable {A B : Tid → Prop} {w w' w'' : World Tid}

/-- The store moves along the rules of the tokens, and only entries of these threads are added to
the log. -/
structure Evolves (A : Tid → Prop) (w w' : World Tid) : Prop where
  store : w.store.Evolves w'.store
  log : ∃ es, w'.log = es ++ w.log ∧ ∀ e ∈ es, A e.1

theorem Evolves.of_store (h : w.store.Evolves w'.store) (hlog : w'.log = w.log) : w.Evolves A w' :=
  ⟨h, [], hlog, List.forall_mem_nil _⟩

theorem Evolves.refl (w : World Tid) : w.Evolves A w := .of_store (.refl _) rfl

theorem Evolves.trans (h : w.Evolves A w') (h' : w'.Evolves A w'') : w.Evolves A w'' := by
  obtain ⟨es, hlog, hes⟩ := h.log
  obtain ⟨es', hlog', hes'⟩ := h'.log
  refine ⟨h.store.trans h'.store, es' ++ es, ?_, List.forall_mem_append.mpr ⟨hes', hes⟩⟩
  rw [hlog', hlog, List.append_assoc]

theorem Evolves.mono (h : w.Evolves A w') (hAB : ∀ i, A i → B i) : w.Evolves B w' := by
  obtain ⟨es, hlog, hes⟩ := h.log
  exact ⟨h.store, es, hlog, fun e he => hAB _ (hes e he)⟩

/-- Some token has a row like this. -/
def Has (P : BootstrapTokenRow → Prop) (w : World Tid) : Prop := ∃ row ∈ w.store.tokens, P row

theorem Has.evolves (h : w.Has P) (hw : w.Evolves A w')
    (hP : ∀ row row', row.Becomes row' → P row → P row') : w'.Has P := by
  obtain ⟨row, hrow, hp⟩ := h
  obtain ⟨row', hrow', hstep⟩ := hw.store.tokens row hrow
  exact ⟨row', hrow', hP row row' hstep hp⟩

end World

/-- The token with this id was handed out under this hash. -/
def HasHash (id hash : String) (row : BootstrapTokenRow) : Prop :=
  row.id = id ∧ row.tokenHash = hash

/-- The token is used by this claim, and it expires at this time. -/
def UsedBy (id claimId : String) (expiresAt : Nat) (row : BootstrapTokenRow) : Prop :=
  row.id = id ∧ row.usedAt ≠ none ∧ row.claimId = some claimId ∧ row.expiresAt = expiresAt

/-- The token is used by this claim and this node. -/
def BoundTo (id claimId nodeId : String) (row : BootstrapTokenRow) : Prop :=
  row.id = id ∧ row.usedAt ≠ none ∧ row.claimId = some claimId ∧ row.completedNodeId = some nodeId

section Persistent

variable {id hash claimId nodeId : String} {expiresAt : Nat} {row row' : BootstrapTokenRow}

theorem HasHash.becomes (hstep : row.Becomes row') (h : HasHash id hash row) :
    HasHash id hash row' :=
  ⟨hstep.id.trans h.1, hstep.tokenHash.trans h.2⟩

theorem UsedBy.becomes (hstep : row.Becomes row') (h : UsedBy id claimId expiresAt row) :
    UsedBy id claimId expiresAt row' := by
  obtain ⟨hid, hused, hclaim, hexp⟩ := h
  exact ⟨hstep.id.trans hid, hstep.used hused, (hstep.claimId hused).trans hclaim,
    hstep.expiresAt.trans hexp⟩

theorem BoundTo.becomes (hstep : row.Becomes row') (h : BoundTo id claimId nodeId row) :
    BoundTo id claimId nodeId row' := by
  obtain ⟨hid, hused, hclaim, hnode⟩ := h
  refine ⟨hstep.id.trans hid, hstep.used hused, (hstep.claimId hused).trans hclaim, ?_⟩
  rw [hstep.completedNodeId (by rw [hnode]; exact Option.some_ne_none _)]
  exact hnode

end Persistent

/-- The newest entry of the thread. -/
def NewestOf (i : Tid) (event : Event) (log : List (Tid × Event)) : Prop :=
  ∃ later earlier, log = later ++ (i, event) :: earlier ∧ ∀ e ∈ later, e.1 ≠ i

theorem NewestOf.append {i : Tid} {event : Event} {log es : List (Tid × Event)}
    (h : NewestOf i event log) (hes : ∀ e ∈ es, e.1 ≠ i) : NewestOf i event (es ++ log) := by
  obtain ⟨later, earlier, rfl, hlater⟩ := h
  exact ⟨es ++ later, earlier, (List.append_assoc ..).symm,
    List.forall_mem_append.mpr ⟨hes, hlater⟩⟩

/-- The last thing that the thread did is that its claim was granted, before the token expired. -/
def GrantedTo (i : Tid) (tokenId claimId : String) (expiresAt : Nat) (log : List (Tid × Event)) :
    Prop :=
  ∃ time < expiresAt, NewestOf i (.granted tokenId claimId time) log

/-- What an entry of the log says about the tokens. -/
def Event.Holds (tokenHash : String → String) (w : World Tid) : Event → Prop
  | sought _ _ => True
  | granted tokenId claimId time =>
    ∃ expiresAt, time < expiresAt ∧ w.Has (UsedBy tokenId claimId expiresAt)
  | bound tokenId claimId nodeId => w.Has (BoundTo tokenId claimId nodeId)
  | replied (.issued _) => True
  | replied (.claimed request response) =>
    w.Has (HasHash response.tokenId (tokenHash request.token)) ∧
      w.Has (UsedBy response.tokenId request.claimId response.expiresAt)
  | replied (.completed request response) =>
    w.Has (HasHash response.tokenId (tokenHash request.token)) ∧
      w.Has (BoundTo response.tokenId request.claimId response.node.id)

/-- What an entry of the thread says about the entries before it. -/
def Event.Follows (i : Tid) (earlier : List (Tid × Event)) : Event → Prop
  | replied (.claimed request response) =>
    GrantedTo i response.tokenId request.claimId response.expiresAt earlier
  | _ => True

/-- Every entry follows what it says. -/
def Justified : List (Tid × Event) → Prop
  | [] => True
  | (i, event) :: earlier => event.Follows i earlier ∧ Justified earlier

theorem Justified.of_append {i : Tid} {event : Event} {later earlier : List (Tid × Event)}
    (h : Justified (later ++ (i, event) :: earlier)) : event.Follows i earlier := by
  induction later with
  | nil => exact h.1
  | cons x later ih => exact ih h.2

/-- The token that an entry binds. -/
def Event.boundToken : Event → Option String
  | bound tokenId _ _ => some tokenId
  | _ => none

/-- The tokens that were bound to a node. -/
def boundTokens (log : List (Tid × Event)) : List String := log.filterMap fun e => e.2.boundToken

structure Inv (tokenHash : String → String) (w : World Tid) : Prop where
  valid : w.store.Valid
  log : ∀ e ∈ w.log, e.2.Holds tokenHash w
  justified : Justified w.log
  bound : ∀ row ∈ w.store.tokens, ∀ nodeId, row.completedNodeId = some nodeId →
    ∃ i claimId, (i, .bound row.id claimId nodeId) ∈ w.log
  once : (boundTokens w.log).Nodup

variable {e : Event} {clusterId : String} {record : BootstrapTokenRecord}

section Invariant

variable {tokenHash : String → String} {w w' : World Tid} {i : Tid} {A : Tid → Prop}

theorem GrantedTo.evolves {tokenId claimId : String} {expiresAt : Nat}
    (h : GrantedTo i tokenId claimId expiresAt w.log) (hw : w.Evolves (· ≠ i) w') :
    GrantedTo i tokenId claimId expiresAt w'.log := by
  obtain ⟨time, htime, hnewest⟩ := h
  obtain ⟨es, hlog, hes⟩ := hw.log
  rw [hlog]
  exact ⟨time, htime, hnewest.append hes⟩

theorem Event.Follows.evolves (h : e.Follows i w.log) (hw : w.Evolves (· ≠ i) w') :
    e.Follows i w'.log := by
  match e, h with
  | .replied (.claimed _ _), h => exact GrantedTo.evolves h hw
  | .sought _ _, _ | .granted _ _ _, _ | .bound _ _ _, _ => trivial
  | .replied (.issued _), _ | .replied (.completed _ _), _ => trivial

theorem Event.Holds.evolves (h : e.Holds tokenHash w) (hw : w.Evolves A w') :
    e.Holds tokenHash w' := by
  match e, h with
  | .sought _ _, _ => trivial
  | .granted _ _ _, ⟨expiresAt, htime, hused⟩ =>
    exact ⟨expiresAt, htime, hused.evolves hw fun _ _ => .becomes⟩
  | .bound _ _ _, h => exact World.Has.evolves h hw fun _ _ => .becomes
  | .replied (.issued _), _ => trivial
  | .replied (.claimed _ _), ⟨hhash, hused⟩ =>
    exact ⟨hhash.evolves hw fun _ _ => .becomes, hused.evolves hw fun _ _ => .becomes⟩
  | .replied (.completed _ _), ⟨hhash, hbound⟩ =>
    exact ⟨hhash.evolves hw fun _ _ => .becomes, hbound.evolves hw fun _ _ => .becomes⟩

/-- Two rows that are known by their id are one row. -/
theorem Inv.unique (h : Inv tokenHash w) {P Q : BootstrapTokenRow → Prop} (hP : w.Has P)
    (hQ : w.Has Q) (hid : ∀ row row', P row → Q row' → row.id = row'.id) :
    ∃ row ∈ w.store.tokens, P row ∧ Q row := by
  obtain ⟨row, hrow, hp⟩ := hP
  obtain ⟨row', hrow', hq⟩ := hQ
  obtain rfl := h.valid.eq_of_id hrow hrow' (hid row row' hp hq)
  exact ⟨row, hrow, hp, hq⟩

/-- Without a new entry, for a store that binds nothing. -/
theorem Inv.unlogged (h : Inv tokenHash w) (hvalid : store.Valid) (hstore : w.store.Evolves store)
    (hbinds : w.store.BindsNothing store) : Inv tokenHash ⟨store, w.log⟩ := by
  have hevolves : w.Evolves (fun _ => True) ⟨store, w.log⟩ := .of_store hstore rfl
  refine ⟨hvalid, fun e he => (h.log e he).evolves hevolves, h.justified,
    fun row' hrow' nodeId hnode => ?_, h.once⟩
  obtain ⟨row, hrow, hid, hsame⟩ := hbinds row' hrow' (hnode ▸ Option.some_ne_none _)
  exact hid ▸ h.bound row hrow nodeId (hsame.trans hnode)

theorem Inv.logged (h : Inv tokenHash w) (hvalid : store.Valid) (hstore : w.store.Evolves store)
    (hbinds : w.store.BindsNothing store) (he : e.Holds tokenHash (⟨store, w.log⟩ : World Tid))
    (hfollows : e.Follows i w.log) (hnone : e.boundToken = none) :
    Inv tokenHash ⟨store, (i, e) :: w.log⟩ := by
  have hsame : (⟨store, w.log⟩ : World Tid).Evolves (fun _ => True) ⟨store, (i, e) :: w.log⟩ :=
    ⟨.refl _, [(i, e)], rfl, fun _ _ => trivial⟩
  obtain ⟨-, hlog, -, hbound, -⟩ := h.unlogged hvalid hstore hbinds
  refine ⟨hvalid, List.forall_mem_cons.mpr ⟨he.evolves hsame, fun e' he' => ?_⟩,
    ⟨hfollows, h.justified⟩, fun row hrow nodeId hnode => ?_, ?_⟩
  · exact (hlog e' he').evolves hsame
  · obtain ⟨j, claimId, hmem⟩ := hbound row hrow nodeId hnode
    exact ⟨j, claimId, List.mem_cons_of_mem _ hmem⟩
  · simpa [boundTokens, hnone] using h.once

end Invariant

/-! ## One transaction -/

/-- What a call knows after a transaction. -/
def TokenOp.Learns (i : Tid) (w : World Tid) : (op : TokenOp) → op.Reply → Prop
  | findClaimableByHash hash _, (some record : Option BootstrapTokenRecord) =>
    w.Has (HasHash record.id hash)
  | consume hash claimId, (some consumed : Option TokenStore.Consumed) =>
    w.Has (HasHash consumed.record.id hash) ∧
      w.Has (UsedBy consumed.record.id claimId consumed.record.expiresAt) ∧
      GrantedTo i consumed.record.id claimId consumed.record.expiresAt w.log
  | recordCompletionAudit record input, _ =>
    ∀ claimId, record.claimId = some claimId → w.Has (BoundTo record.id claimId input.nodeId)
  | _, _ => True

section Transactions

variable {tokenHash : String → String} {collation : String → String → Bool} {w w' : World Tid}
  {i : Tid}

theorem TokenOp.Learns.evolves {reply : op.Reply} (h : op.Learns i w reply)
    (hw : w.Evolves (· ≠ i) w') : op.Learns i w' reply := by
  match op, reply, h with
  | .create _, _, _ => trivial
  | .findClaimableByHash _ _, none, _ => trivial
  | .findClaimableByHash _ _, some _, h => exact World.Has.evolves h hw fun _ _ => .becomes
  | .consume _ _, none, _ => trivial
  | .consume _ _, some _, ⟨hhash, hused, hgranted⟩ =>
    exact ⟨hhash.evolves hw fun _ _ => .becomes, hused.evolves hw fun _ _ => .becomes,
      hgranted.evolves hw⟩
  | .bindCompletionNode _ _ _, _, _ => trivial
  | .recordCompletionAudit _ _, _, h =>
    exact fun claimId hclaim => (h claimId hclaim).evolves hw fun _ _ => .becomes

/-- A node is bound once: a token that has an entry has a node already. -/
theorem Inv.bind (h : Inv tokenHash w) {tokenId claimId nodeId : String} (hvalid : store.Valid)
    (hstore : w.store.Evolves store) (hbinds : w.store.Binds store tokenId claimId nodeId) :
    Inv tokenHash ⟨store, (i, .bound tokenId claimId nodeId) :: w.log⟩ := by
  obtain ⟨bound, hbound, hid, hclaim, hnode⟩ := hbinds.bound
  have hevolves : w.Evolves (fun _ => True) ⟨store, (i, .bound tokenId claimId nodeId) :: w.log⟩ :=
    ⟨hstore, [_], rfl, fun _ _ => trivial⟩
  refine ⟨hvalid, List.forall_mem_cons.mpr ⟨⟨bound, hbound, hid, ?_, hclaim, hnode⟩,
    fun e he => (h.log e he).evolves hevolves⟩, ⟨trivial, h.justified⟩,
    fun row' hrow' node hnode' => ?_, List.nodup_cons.mpr ⟨fun hlogged => ?_, h.once⟩⟩
  · exact (hvalid.consistent bound hbound).completed (hnode ▸ Option.some_ne_none _)
  · by_cases hrow'id : row'.id = tokenId
    · obtain rfl := hvalid.eq_of_id hrow' hbound (hrow'id.trans hid.symm)
      obtain rfl : nodeId = node := Option.some.inj (hnode.symm.trans hnode')
      exact ⟨i, claimId, by rw [hrow'id]; exact List.mem_cons_self⟩
    · obtain ⟨j, claim, hmem⟩ := h.bound row' (hbinds.others row' hrow' hrow'id) node hnode'
      exact ⟨j, claim, List.mem_cons_of_mem _ hmem⟩
  · obtain ⟨⟨j, e⟩, he, htoken⟩ := List.mem_filterMap.mp hlogged
    cases e with
    | bound _ claim node =>
      cases htoken
      obtain ⟨free, hfree, hfreeId, hnone⟩ := hbinds.free
      obtain ⟨old, hold, holdId, -, -, hsome⟩ := h.log _ he
      obtain rfl := h.valid.eq_of_id hfree hold (hfreeId.trans holdId.symm)
      exact absurd (hnone.symm.trans hsome) nofun
    | _ => cases htoken

theorem commit_spec {stamp : Nat} {reply : op.Reply} (h : Inv tokenHash w)
    (hstamp : w.store.clock ≤ stamp)
    (hexec : op.exec collation stamp w.store = .ok (reply, store)) :
    Inv tokenHash (w.commit i op reply store) ∧ w.Evolves (· = i) (w.commit i op reply store) ∧
      op.Learns i (w.commit i op reply store) reply := by
  have hevolves (hstore : w.store.Evolves store) : w.Evolves (· = i) (w.commit i op reply store) :=
    ⟨hstore, _, rfl, List.forall_mem_map.mpr fun _ _ => rfl⟩
  match op, reply, hexec with
  | .create input, record, hexec =>
    obtain ⟨hvalid, hstore, hbinds⟩ := TokenStore.create_spec h.valid hexec
    exact ⟨h.unlogged hvalid hstore hbinds, hevolves hstore, trivial⟩
  | .findClaimableByHash hash claimId, found, hexec =>
    cases hexec
    refine ⟨h.logged h.valid (.refl _) (.of_tokens rfl) trivial trivial rfl, hevolves (.refl _), ?_⟩
    cases hfound : w.store.findClaimableByHash collation hash claimId with
    | none => trivial
    | some record =>
      obtain ⟨row, hrow, rfl⟩ := Option.map_eq_some_iff.mp hfound
      have hmatch := List.find?_some hrow
      simp only [decide_eq_true_eq] at hmatch
      exact ⟨row, List.mem_of_find?_eq_some hrow, rfl, hmatch.1⟩
  | .consume hash claimId, none, hexec =>
    obtain ⟨hvalid, hstore, hbinds, -⟩ := TokenStore.consume_spec h.valid hstamp hexec
    exact ⟨h.unlogged hvalid hstore hbinds, hevolves hstore, trivial⟩
  | .consume hash claimId, some consumed, hexec =>
    obtain ⟨hvalid, hstore, hbinds, hgrant⟩ := TokenStore.consume_spec h.valid hstamp hexec
    obtain ⟨row, hrow, hrecord, hhash, hused, hclaim, hlive⟩ := hgrant consumed rfl
    have husedBy : UsedBy consumed.record.id claimId consumed.record.expiresAt row := by
      rw [hrecord]
      exact ⟨rfl, hused, hclaim, rfl⟩
    have hlive' : w.store.clock < consumed.record.expiresAt := by
      rw [hrecord]
      exact hlive
    refine ⟨h.logged hvalid hstore hbinds ⟨_, hlive', row, hrow, husedBy⟩ trivial rfl,
      hevolves hstore, ⟨row, hrow, by rw [hrecord]; rfl, hhash⟩, ⟨row, hrow, husedBy⟩, _, hlive',
      ?_⟩
    exact ⟨[], w.log, rfl, List.forall_mem_nil _⟩
  | .bindCompletionNode tokenId claimId nodeId, binding, hexec =>
    obtain ⟨hvalid, hstore, hbinds⟩ :=
      TokenStore.bindCompletionNode_spec h.valid (Except.ok.inj hexec)
    refine ⟨?_, hevolves hstore, trivial⟩
    rcases hbinds with ⟨rfl, hnot⟩ | ⟨rfl, hbinds⟩
    · cases binding with
      | BOUND => exact absurd rfl hnot
      | REPLAY => exact h
      | CONFLICT => exact h
      | INACTIVE => exact h
    · exact h.bind hvalid hstore hbinds
  | .recordCompletionAudit record input, (), hexec =>
    have haudit : w.store.recordCompletionAudit record input = .ok store := by
      have hmap : (w.store.recordCompletionAudit record input).map (fun store' => ((), store')) =
        .ok ((), store) := hexec
      cases hresult : w.store.recordCompletionAudit record input with
      | error e =>
        rw [hresult] at hmap
        cases hmap
      | ok store' =>
        rw [hresult] at hmap
        cases hmap
        rfl
    obtain ⟨hvalid, hstore, hbinds, row, hrow, hid, hclaim, hnode⟩ :=
      TokenStore.recordCompletionAudit_spec h.valid haudit
    refine ⟨h.unlogged hvalid hstore hbinds, hevolves hstore,
      fun claimId hclaim' => ⟨row, hrow, hid, ?_, hclaim.trans hclaim', hnode⟩⟩
    exact (hvalid.consistent row hrow).completed (hnode ▸ Option.some_ne_none _)

theorem TransactionStep.spec {answer : Except Failure op.Reply}
    (hstep : TransactionStep collation i op w answer w') (h : Inv tokenHash w) :
    Inv tokenHash w' ∧ w.Evolves (· = i) w' ∧ ∀ reply, answer = .ok reply →
    op.Learns i w' reply := by
  cases hstep with
  | committed hstamp hexec =>
    obtain ⟨hinv, hevolves, hlearns⟩ := commit_spec h hstamp hexec
    refine ⟨hinv, hevolves, ?_⟩
    rintro _ ⟨⟩
    exact hlearns
  | rolledBack hexec => exact ⟨h, .refl w, fun _ h => nomatch h⟩
  | failed message => exact ⟨h, .refl w, fun _ h => nomatch h⟩
  | unacknowledged message hstamp hexec =>
    obtain ⟨hinv, hevolves, -⟩ := commit_spec h hstamp hexec
    exact ⟨hinv, hevolves, fun _ h => nomatch h⟩

end Transactions

/-! ## The calls -/

/-- Every step of a thread moves the state along the rules, and logs what this thread has done. -/
def bootstrapProtocol (Tid : Type) (tokenHash : String → String) : Protocol Tid (World Tid) where
  Inv := Inv tokenHash
  Rely i := World.Evolves (· ≠ i)
  Guar i := World.Evolves (· = i)
  Idle _ _ := True
  rely_refl _ := .refl
  rely_trans := .trans
  rely_of_guar hne _ h := h.mono fun _ hk => hk ▸ hne
  idle_rely _ _ := trivial

/-- The requests that neither touch the tokens nor answer the call. -/
def BootstrapOp.Quiet : BootstrapOp → Prop
  | .token _ | .respond _ => False
  | _ => True

section Calls

variable {tokenHash : String → String} {collation : String → String → Bool} {i : Tid}
  {w : World Tid} {K : World Tid → Prop} {α : Type} {settings : Settings}

theorem BootstrapOp.Quiet.step {op : BootstrapOp} (hop : op.Quiet) {answer : op.Ans}
    {w' : World Tid} (h : Performs collation i op w answer w') : w' = w := by
  cases op with
  | token op => exact hop.elim
  | respond reply => exact hop.elim
  | _ => exact h

/-- The thread may run the program. -/
abbrev CallWp (tokenHash : String → String) (collation : String → String → Bool) (i : Tid)
    (p : BootstrapProgram α) (Q : Except BootstrapError α → World Tid → Prop) (w : World Tid) :
    Prop :=
  wp (bootstrapMachine Tid collation) (bootstrapProtocol Tid tokenHash) i p Q w

/-- Knowledge that no step of anybody can take away. -/
def Persistent (K : World Tid → Prop) : Prop :=
  ∀ {A w w'}, K w → w.Evolves A w' → K w'

theorem Persistent.stable (hK : Persistent K) : Stable (bootstrapProtocol Tid tokenHash) i K :=
  fun hs hw _ => hK hs hw

theorem persistent_true : Persistent fun _ : World Tid => True := fun _ _ => trivial

theorem persistent_has (hP : ∀ row row', row.Becomes row' → P row → P row') :
    Persistent fun w : World Tid => w.Has P :=
  fun h hw => h.evolves hw hP

/-- The thread may make this entry. -/
def Event.MayFollow (tokenHash : String → String) (i : Tid) (e : Event) (w : World Tid) : Prop :=
  e.Holds tokenHash w ∧ e.Follows i w.log

theorem Event.mayFollow_stable :
    Stable (bootstrapProtocol Tid tokenHash) i (e.MayFollow tokenHash i) :=
  fun h hw _ => ⟨h.1.evolves hw, h.2.evolves hw⟩

theorem wp_quiet {p : BootstrapProgram α} (hK : Persistent K) (hp : p.Uses BootstrapOp.Quiet)
    (hs : K w) : CallWp tokenHash collation i p (Ends K fun _ _ => True) w := by
  refine wp_ends (wp_uses hK.stable (fun op hop s a s' hinv hs hperf => ?_) hp hs)
  obtain rfl := hop.step hperf
  exact ⟨hinv, .refl _, hs⟩

theorem wp_transact (hK : Persistent K) (hs : K w) :
    CallWp tokenHash collation i (transact op) (Ends K fun reply w => op.Learns i w reply) w := by
  refine wp_request hK.stable hs fun s hinv hs answer s' hstep => ?_
  obtain ⟨hinv', hevolves, hlearns⟩ := TransactionStep.spec hstep hinv
  refine ⟨hinv', hevolves, ?_⟩
  cases answer with
  | error e => exact wp_throw_ends hK.stable (hK hs hevolves)
  | ok reply =>
    exact wp_pure_ends hK.stable (fun h hw _ => h.evolves hw) (hK hs hevolves) (hlearns reply rfl)

theorem assertBinding_quiet : (assertBinding settings clusterId).Uses BootstrapOp.Quiet := by
  refine .bind ?_ fun _ => ⟨trivial, fun answer => ?_⟩
  · unfold assertCluster
    split <;> trivial
  · cases answer <;> trivial

theorem requireSwarmJoinCredentials_quiet {role : BootstrapNodeRole} :
    (requireSwarmJoinCredentials settings clusterId role).Uses BootstrapOp.Quiet := by
  unfold requireSwarmJoinCredentials
  split <;> trivial

theorem inspectNode_quiet {ref message : String} :
    (inspectNode ref message).Uses BootstrapOp.Quiet := by
  refine ⟨trivial, fun answer => ?_⟩
  cases answer <;> trivial

theorem assertNodeMatchesBootstrapScope_quiet {node : ObservedNode} :
    (assertNodeMatchesBootstrapScope record node).Uses BootstrapOp.Quiet := by
  unfold assertNodeMatchesBootstrapScope
  split <;> trivial

theorem applyBootstrapLabels_quiet {observed : ObservedNode} :
    (applyBootstrapLabels record observed).Uses BootstrapOp.Quiet := by
  unfold applyBootstrapLabels
  split
  · trivial
  · refine .bind ⟨trivial, fun answer => ?_⟩ fun version => ⟨trivial, fun answer => .bind ?_ ?_⟩
    · match answer with
      | .ok _ => trivial
      | .error e => cases e <;> trivial
    · cases answer <;> trivial
    · intro status
      split
      · trivial
      · refine inspectNode_quiet.bind fun verified =>
          assertNodeMatchesBootstrapScope_quiet.bind fun _ => ?_
        split <;> trivial

theorem wp_claim {input : BootstrapClaimRequest} (hinv : Inv tokenHash w) :
    CallWp tokenHash collation i (claim tokenHash settings input)
      (Ends (fun _ => True)
        fun response => (Event.replied (.claimed input response)).MayFollow tokenHash i) w := by
  refine wp_bind_returns hinv (wp_transact persistent_true trivial) fun found s hinv _ _ => ?_
  match found with
  | none => exact wp_throw_ends stable_true trivial
  | some pending =>
    refine wp_bind_returns hinv
      (wp_quiet persistent_true assertBinding_quiet trivial) fun _ s hinv _ _ => ?_
    refine wp_bind_returns hinv
      (wp_quiet persistent_true requireSwarmJoinCredentials_quiet trivial)
        fun swarmJoin s hinv _ _ => ?_
    refine wp_bind_returns hinv (wp_transact persistent_true trivial)
      fun consumed s hinv _ hconsumed => ?_
    match consumed, hconsumed with
    | none, _ => exact wp_throw_ends stable_true trivial
    | some ⟨record, replayed⟩, ⟨hhash, hused, hgranted⟩ =>
      dsimp only
      split
      · exact wp_throw_ends stable_true trivial
      · exact wp_pure_ends stable_true Event.mayFollow_stable trivial ⟨⟨hhash, hused⟩, hgranted⟩

theorem wp_finishCompletion {input : BootstrapCompleteRequest} {observed : ObservedNode}
    (hclaim : record.claimId = some input.claimId) (hinv : Inv tokenHash w)
    (hrecord : w.Has (HasHash record.id (tokenHash input.token))) :
    CallWp tokenHash collation i (finishCompletion record input.claimId observed)
      (Ends (fun _ => True)
        fun response => (Event.replied (.completed input response)).MayFollow tokenHash i) w := by
  have hK : Persistent fun w : World Tid => w.Has (HasHash record.id (tokenHash input.token)) :=
    persistent_has fun _ _ => .becomes
  refine wp_bind_returns hinv
    (wp_quiet hK applyBootstrapLabels_quiet hrecord)
    fun verified s hinv hrecord _ => ?_
  refine wp_request hK.stable hrecord fun s hinv hrecord verifiedAt s' hsame => ?_
  obtain rfl : s' = s := hsame
  refine ⟨hinv, .refl _, wp_bind_returns hinv (wp_transact hK hrecord)
    fun _ s hinv hrecord hbound => ?_⟩
  exact wp_pure_ends stable_true Event.mayFollow_stable trivial
    ⟨⟨hrecord, hbound _ hclaim⟩, trivial⟩

theorem wp_complete {input : BootstrapCompleteRequest} (hinv : Inv tokenHash w) :
    CallWp tokenHash collation i (complete tokenHash settings input)
      (Ends (fun _ => True)
        fun response => (Event.replied (.completed input response)).MayFollow tokenHash i) w := by
  refine wp_bind_returns hinv (wp_transact persistent_true trivial) fun found s hinv _ hfound => ?_
  match found, hfound with
  | none, _ => exact wp_throw_ends stable_true trivial
  | some record, hrecord =>
    dsimp only
    split
    · exact wp_throw_ends stable_true trivial
    · rename_i hactive
      obtain ⟨-, hclaim⟩ := not_or.mp hactive
      -- What the first query has found stays true through all that follows.
      have hK : Persistent fun w : World Tid => w.Has (HasHash record.id (tokenHash input.token)) :=
        persistent_has fun _ _ => .becomes
      refine wp_bind_returns hinv
        (wp_quiet hK assertBinding_quiet hrecord) fun _ s hinv hrecord _ => ?_
      refine wp_bind_returns hinv
        (wp_quiet hK inspectNode_quiet hrecord) fun observed s hinv hrecord _ => ?_
      refine wp_bind_returns hinv
        (wp_quiet hK assertNodeMatchesBootstrapScope_quiet hrecord)
        fun _ s hinv hrecord _ => ?_
      refine wp_bind_returns hinv (wp_transact hK hrecord) fun binding s hinv hrecord _ => ?_
      match binding with
      | .INACTIVE => exact wp_throw_ends stable_true trivial
      | .CONFLICT => exact wp_throw_ends stable_true trivial
      | .BOUND => exact wp_finishCompletion (not_not.mp hclaim) hinv hrecord
      | .REPLAY => exact wp_finishCompletion (not_not.mp hclaim) hinv hrecord

theorem wp_issue {clusterId actorId : String} {input : CreateBootstrapTokenRequest}
    (hinv : Inv tokenHash w) :
    CallWp tokenHash collation i (issue tokenHash settings clusterId input actorId)
      (Ends (fun _ => True)
        fun response => (Event.replied (.issued response)).MayFollow tokenHash i) w := by
  refine wp_bind_returns hinv
    (wp_quiet persistent_true assertBinding_quiet trivial) fun _ s hinv _ _ => ?_
  refine wp_bind_returns hinv
    (wp_quiet persistent_true requireSwarmJoinCredentials_quiet trivial) fun _ s hinv _ _ => ?_
  refine wp_request stable_true trivial fun s hinv _ bytes s' hsame => ?_
  obtain rfl : s' = s := hsame
  refine ⟨hinv, .refl _, wp_request stable_true trivial fun s hinv _ id s' hsame => ?_⟩
  obtain rfl : s' = s := hsame
  refine ⟨hinv, .refl _, wp_bind_returns hinv (wp_transact persistent_true trivial)
    fun record s hinv _ _ => ?_⟩
  exact wp_pure_ends stable_true Event.mayFollow_stable trivial ⟨trivial, trivial⟩

theorem wp_serve {call : BootstrapProgram α} {reply : α → Reply} (hinv : Inv tokenHash w)
    (h : CallWp tokenHash collation i call (Ends (fun _ => True)
      fun response => (Event.replied (reply response)).MayFollow tokenHash i) w) :
    CallWp tokenHash collation i (serve call reply) Whatever w := by
  refine wp_bind_whatever hinv h fun response s hinv _ hmay => ?_
  refine wp_request Event.mayFollow_stable hmay fun s hinv hmay _ s' hsame => ?_
  obtain rfl : s' = { s with log := (i, .replied (reply response)) :: s.log } := hsame
  exact ⟨hinv.logged hinv.valid (.refl _) (.of_tokens rfl) hmay.1 hmay.2 rfl,
    ⟨.refl _, [_], rfl, List.forall_mem_singleton.mpr rfl⟩, fun _ _ _ => trivial⟩

end Calls

section Soundness

variable [DecidableEq Tid] {tokenHash : String → String}
  {collation : String → String → Bool} {settings : Set Settings} {clock : Nat}
  {c c' : Config Tid BootstrapOp BootstrapOp.Ans BootstrapError Unit (World Tid)}

omit [DecidableEq Tid] in
theorem bootstrap_sound : Sound (bootstrapMachine Tid collation) (bootstrapProtocol Tid tokenHash)
    (fun p => ∃ s ∈ settings, BootstrapCall tokenHash s p) where
  entry hp hinv _ := by
    obtain ⟨s, -, hcall⟩ := hp
    cases hcall with
    | issue clusterId input actorId => exact wp_serve hinv (wp_issue hinv)
    | claim input => exact wp_serve hinv (wp_claim hinv)
    | complete input => exact wp_serve hinv (wp_complete hinv)
  env := by
    rintro w _ hinv ⟨clock, hclock, rfl⟩
    have hstore : w.store.Evolves { w.store with clock := clock } := .of_tokens hclock rfl
    exact ⟨hinv.unlogged (hinv.valid.at clock) hstore (.of_tokens rfl),
      fun _ => .of_store hstore rfl⟩
  crash := by
    rintro S w _ hinv rfl
    exact ⟨hinv, fun _ _ => trivial, fun _ _ => .refl _⟩

omit [DecidableEq Tid] in
theorem inv_emptyWorld {clock : Nat} : Inv tokenHash (emptyWorld clock : World Tid) :=
  ⟨⟨List.nodup_nil, List.nodup_nil, List.forall_mem_nil _, List.nodup_nil, List.forall_mem_nil _,
    List.forall_mem_nil _⟩, List.forall_mem_nil _, trivial, List.forall_mem_nil _, List.nodup_nil⟩

theorem BootstrapReachable.safe (hc : BootstrapReachable tokenHash collation settings clock c) :
    Safe (bootstrapMachine Tid collation) (bootstrapProtocol Tid tokenHash) c :=
  Reachable.safe bootstrap_sound inv_emptyWorld (fun _ => trivial) hc

theorem BootstrapReachable.inv (hc : BootstrapReachable tokenHash collation settings clock c) :
    Inv tokenHash c.state :=
  hc.safe.inv

theorem BootstrapReachable.evolves (hc : BootstrapReachable tokenHash collation settings clock c)
    (h : Relation.ReflTransGen (Step (bootstrapMachine Tid collation)
      fun p => ∃ s ∈ settings, BootstrapCall tokenHash s p) c c') :
    c.state.Evolves (fun _ => True) c'.state := by
  induction h with
  | refl => exact .refl _
  | tail hsteps hstep ih =>
    have hb := (Reachable.steps hc hsteps)
    refine ih.trans ?_
    rcases (BootstrapReachable.safe hb).step_state hstep with hsame | ⟨_, hguar⟩ | henv |
      ⟨_, hcrash⟩
    · rw [hsame]
      exact .refl _
    · exact hguar.mono fun _ _ => trivial
    · obtain ⟨clock, hclock, hnext⟩ := henv
      rw [hnext]
      exact .of_store (.of_tokens hclock rfl) rfl
    · rw [show _ = _ from hcrash]
      exact .refl _

/-- What the log and the tables say of the use of the tokens. -/
structure UsedOnce (tokenHash : String → String) (w : World Tid) : Prop where
  /-- All claims that were ever granted for a token are one. -/
  grants_agree : ∀ {i j id claimId claimId' time time'}, (i, .granted id claimId time) ∈ w.log →
    (j, .granted id claimId' time') ∈ w.log → claimId = claimId'
  claims_agree : ∀ {i j request request' response response'},
    (i, .replied (.claimed request response)) ∈ w.log →
    (j, .replied (.claimed request' response')) ∈ w.log →
    request.token = request'.token → request.claimId = request'.claimId
  granted_in_time : ∀ {i id claimId time}, (i, .granted id claimId time) ∈ w.log →
    ∃ row ∈ w.store.tokens, row.id = id ∧ row.claimId = some claimId ∧ time < row.expiresAt
  /-- Join credentials are in no other answer than that to a claim, and the last thing the call did
  before it was to have this claim granted. -/
  credentials_granted : ∀ {i request response later earlier},
    w.log = later ++ (i, .replied (.claimed request response)) :: earlier →
    ∃ row ∈ w.store.tokens, row.tokenHash = tokenHash request.token ∧
      row.claimId = some request.claimId ∧
      ∃ time < row.expiresAt, NewestOf i (.granted row.id request.claimId time) earlier
  /-- `completed_node_id` is written at most once for each token. -/
  bound_once : (boundTokens w.log).Nodup
  bound_for_claim : ∀ row ∈ w.store.tokens, ∀ nodeId, row.completedNodeId = some nodeId →
    ∃ i claimId, row.claimId = some claimId ∧ (i, .bound row.id claimId nodeId) ∈ w.log
  completions_agree : ∀ {i j request request' response response'},
    (i, .replied (.completed request response)) ∈ w.log →
    (j, .replied (.completed request' response')) ∈ w.log → request.token = request'.token →
    request.claimId = request'.claimId ∧ response.node.id = response'.node.id
  audited_once : (w.store.audits.map fun a => (a.operationId, a.action)).Nodup
  claimed_iff_used : ∀ row ∈ w.store.tokens,
    w.store.Recorded row.id .BOOTSTRAP_TOKEN_CLAIMED ↔ row.usedAt ≠ none

omit [DecidableEq Tid] in
theorem Inv.unique_hash {w : World Tid} (h : Inv tokenHash w) {id id' hash : String}
    {P Q : String → BootstrapTokenRow → Prop} (hhash : w.Has (HasHash id hash))
    (hhash' : w.Has (HasHash id' hash)) (hP : w.Has (P id)) (hQ : w.Has (Q id'))
    (hPid : ∀ row, P id row → row.id = id) (hQid : ∀ row, Q id' row → row.id = id') :
    ∃ row ∈ w.store.tokens, P id row ∧ Q id' row := by
  obtain ⟨row, hrow, hid, hrowHash⟩ := hhash
  obtain ⟨row', hrow', hid', hrowHash'⟩ := hhash'
  obtain rfl := h.valid.eq_of_hash hrow hrow' (hrowHash.trans hrowHash'.symm)
  refine h.unique hP hQ fun a b ha hb => ?_
  rw [hPid a ha, hQid b hb, ← hid, hid']

omit [DecidableEq Tid] in
theorem Inv.usedOnce {w : World Tid} (h : Inv tokenHash w) : UsedOnce tokenHash w where
  grants_agree hg hg' := by
    obtain ⟨_, -, hused⟩ := h.log _ hg
    obtain ⟨_, -, hused'⟩ := h.log _ hg'
    obtain ⟨row, -, hrow, hrow'⟩ := h.unique hused hused' fun _ _ hp hq => hp.1.trans hq.1.symm
    exact Option.some.inj (hrow.2.2.1.symm.trans hrow'.2.2.1)
  claims_agree {i j request request' response response'} hr hr' htoken := by
    obtain ⟨hhash, hused⟩ := h.log _ hr
    obtain ⟨hhash', hused'⟩ := h.log _ hr'
    rw [← htoken] at hhash'
    obtain ⟨row, -, hrow, hrow'⟩ := h.unique_hash
      (P := fun id => UsedBy id request.claimId response.expiresAt)
      (Q := fun id => UsedBy id request'.claimId response'.expiresAt)
      hhash hhash' hused hused' (fun _ hp => hp.1) fun _ hq => hq.1
    exact Option.some.inj (hrow.2.2.1.symm.trans hrow'.2.2.1)
  granted_in_time hg := by
    obtain ⟨expiresAt, htime, row, hrow, hid, -, hclaim, rfl⟩ := h.log _ hg
    exact ⟨row, hrow, hid, hclaim, htime⟩
  credentials_granted {i request response later earlier} hlog := by
    obtain ⟨hhash, hused⟩ := h.log (i, .replied (.claimed request response)) (by simp [hlog])
    obtain ⟨time, htime, hgrant⟩ := (hlog ▸ h.justified).of_append
    obtain ⟨row, hrow, ⟨-, hrowHash⟩, hid, -, hclaim, hexp⟩ :=
      h.unique hhash hused fun _ _ hp hq => hp.1.trans hq.1.symm
    refine ⟨row, hrow, hrowHash, hclaim, time, ?_, ?_⟩
    · rw [hexp]
      exact htime
    · rw [hid]
      exact hgrant
  bound_once := h.once
  bound_for_claim row hrow nodeId hnode := by
    obtain ⟨i, claimId, hlog⟩ := h.bound row hrow nodeId hnode
    obtain ⟨row', hrow', hid, -, hclaim, -⟩ := h.log _ hlog
    obtain rfl := h.valid.eq_of_id hrow' hrow hid
    exact ⟨i, claimId, hclaim, hlog⟩
  completions_agree {i j request request' response response'} hr hr' htoken := by
    obtain ⟨hhash, hbound⟩ := h.log _ hr
    obtain ⟨hhash', hbound'⟩ := h.log _ hr'
    rw [← htoken] at hhash'
    obtain ⟨row, -, hrow, hrow'⟩ := h.unique_hash
      (P := fun id => BoundTo id request.claimId response.node.id)
      (Q := fun id => BoundTo id request'.claimId response'.node.id)
      hhash hhash' hbound hbound' (fun _ hp => hp.1) fun _ hq => hq.1
    exact ⟨Option.some.inj (hrow.2.2.1.symm.trans hrow'.2.2.1),
      Option.some.inj (hrow.2.2.2.symm.trans hrow'.2.2.2)⟩
  audited_once := h.valid.audits
  claimed_iff_used := h.valid.claimed

end Soundness

section Example

def lab : Settings := ⟨"lab", [⟨"lab", "10.0.0.1:2377", "SWMTKN-manager", "SWMTKN-worker"⟩]⟩

/-- A server that compares exactly. -/
def labMachine : Machine Nat BootstrapOp BootstrapOp.Ans (World Nat) :=
  bootstrapMachine Nat fun a b => a = b

theorem runs_token {i : Nat} {α : Type} {w w' : World Nat} {p : BootstrapProgram α} {op : TokenOp}
    {k : Except Failure op.Reply → BootstrapProgram α} {stamp : Nat} {reply : op.Reply}
    {store : TokenStore} (hstamp : w.store.clock ≤ stamp)
    (hexec : op.exec (fun a b => a = b) stamp w.store = .ok (reply, store))
    (hrest : Runs labMachine i (k (.ok reply)) (w.commit i op reply store) p w') :
    Runs labMachine i (.request (.token op) k) w p w' := by
  have hperform : labMachine.perform i (.token op) w (.ok reply : Except Failure op.Reply)
      (w.commit i op reply store) := TransactionStep.committed hstamp hexec
  exact .step hperform hrest

def labInput : TokenStore.CreateInput :=
  ⟨"id", "docklane_bootstrap_x", "lab", .worker, [], "admin", 600⟩

/-- The token of the example. -/
def labToken : BootstrapTokenRow := labInput.row 0

def labStore : TokenStore := ⟨0, [labToken], [⟨"id", "admin", "lab", "id", "id",
  .BOOTSTRAP_TOKEN_ISSUED, .issued .worker [] labToken.expiresAt⟩]⟩

def labLog : List (Nat × Event) :=
  [(0, .replied (.issued ⟨mapRow labToken, "docklane_bootstrap_x"⟩))]

theorem lab_issue :
    Runs labMachine 0 (serve (issue id lab "lab" ⟨.worker, [], 600⟩ "admin") .issued)
      (emptyWorld 0) (.pure ()) ⟨labStore, labLog⟩ := by
  refine .step (a := .ok ()) rfl (.step (a := "x") rfl (.step (a := "id") rfl ?_))
  exact runs_token (Nat.le_refl _) rfl (.step (a := ()) rfl .refl)

def labClaim : BootstrapClaimRequest := ⟨"docklane_bootstrap_x", "claim"⟩

def labUsed : BootstrapTokenRow := labToken.use "id" "claim" 7

def usedStore : TokenStore := ⟨7, [labUsed], labStore.audits ++ [⟨"id", "bootstrap:id", "lab", "id",
  "id", .BOOTSTRAP_TOKEN_CLAIMED, .claimed "claim" .worker [] (some 7)⟩]⟩

def labAnswer (replayed : Bool) : BootstrapClaimResponse :=
  ⟨"id", "lab", .worker, [], labToken.expiresAt, 7, "claim", replayed,
    ⟨"10.0.0.1:2377", "SWMTKN-worker"⟩⟩

/-- What a claim of thread `i` adds to the log. -/
def claimLog (i : Nat) (replayed : Bool) (time : Nat) : List (Nat × Event) :=
  [(i, .replied (.claimed labClaim (labAnswer replayed))), (i, .granted "id" "claim" time),
    (i, .sought "docklane_bootstrap_x" "claim")]

theorem lab_claim :
    Runs labMachine 1 (serve (claim id lab labClaim) (.claimed labClaim)) ⟨labStore, labLog⟩
      (.pure ()) ⟨usedStore, claimLog 1 false 0 ++ labLog⟩ := by
  refine runs_token (Nat.le_refl _) rfl (.step (a := .ok ()) rfl ?_)
  exact runs_token (Nat.zero_le 7) rfl (.step (a := ()) rfl .refl)

theorem lab_replay {log : List (Nat × Event)} :
    Runs labMachine 2 (serve (claim id lab labClaim) (.claimed labClaim)) ⟨usedStore, log⟩
      (.pure ()) ⟨usedStore, claimLog 2 true 7 ++ log⟩ := by
  refine runs_token (Nat.le_refl _) rfl (.step (a := .ok ()) rfl ?_)
  exact runs_token (Nat.le_refl _) rfl (.step (a := ()) rfl .refl)

def labCompletion : BootstrapCompleteRequest := ⟨"docklane_bootstrap_x", "claim", "node"⟩

def labNode : ObservedNode := ⟨"node", "host", "worker", "ready", "active", false, 3, []⟩

def labCompleted : BootstrapCompleteResponse :=
  ⟨"id", "claim", "lab", .worker, [], ⟨"node", "host", "worker", "ready", "active", []⟩, "noon"⟩

def boundStore : TokenStore := usedStore.update (·.bindNode "id" "node")

def verifiedNode : Completion := ⟨"node", "host", "worker", [], "noon"⟩

def completedStore : TokenStore :=
  boundStore.insertAuditOnce "id" "bootstrap:id" "lab" .BOOTSTRAP_COMPLETED
    (.completed (some "claim") verifiedNode)

/-- What the completion adds to the log. -/
def completionLog : List (Nat × Event) :=
  [(3, .replied (.completed labCompletion labCompleted)), (3, .bound "id" "claim" "node"),
    (3, .sought "docklane_bootstrap_x" "claim")]

theorem lab_complete {log : List (Nat × Event)} :
    Runs labMachine 3 (serve (complete id lab labCompletion) (.completed labCompletion))
      ⟨usedStore, log⟩ (.pure ()) ⟨completedStore, completionLog ++ log⟩ := by
  refine runs_token (Nat.le_refl _) rfl (.step (a := .ok ()) rfl (.step (a := .ok labNode) rfl ?_))
  refine runs_token (Nat.le_refl _) rfl (.step (a := "noon") rfl ?_)
  exact runs_token (Nat.le_refl _) rfl (.step (a := ()) rfl .refl)

end Example

end Docklane.Bootstrap
