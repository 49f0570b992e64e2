import Docklane.Bootstrap.Tokens
import Docklane.Concurrent.RelyGuarantee
import Docklane.Control.Records

/-!
# Issuing, claiming and completing

The calls of `BootstrapService` as programs, and the machine that runs any number of them at once
over one token store. A transaction may fail, and may have been committed when it fails; a crash
ends any set of calls. What the registration check, the Agents and the node mutations answer is
arbitrary: nothing of them touches a token or an audit row of one.
-/

namespace Docklane.Bootstrap

open Concurrent
open Control (Labels Failure OperationStatus)

/-! ## Requests -/

/-- What `inspectNode` tells about a node. -/
structure ObservedNode where
  id : String
  hostname : String
  role : String
  state : String
  availability : String
  manager : Bool
  version : Nat
  labels : Labels
  deriving DecidableEq, Repr

structure SwarmJoinEntry where
  clusterId : String
  remoteAddr : String
  managerToken : String
  workerToken : String
  deriving DecidableEq, Repr

structure SwarmJoinCredential where
  remoteAddr : String
  joinToken : String
  deriving DecidableEq, Repr

structure CreateBootstrapTokenRequest where
  nodeRole : BootstrapNodeRole
  labels : Labels
  ttlSeconds : Nat
  deriving DecidableEq, Repr

structure BootstrapClaimRequest where
  token : String
  claimId : String
  deriving DecidableEq, Repr

structure BootstrapCompleteRequest where
  token : String
  claimId : String
  nodeId : String
  deriving DecidableEq, Repr

structure BootstrapTokenIssueResponse where
  record : BootstrapTokenRecord
  token : String
  deriving DecidableEq, Repr

structure BootstrapClaimResponse where
  tokenId : String
  clusterId : String
  nodeRole : BootstrapNodeRole
  labels : Labels
  expiresAt : Nat
  claimedAt : Nat
  claimId : String
  replayed : Bool
  swarmJoin : SwarmJoinCredential
  deriving DecidableEq, Repr

structure CompletedNode where
  id : String
  hostname : String
  role : String
  state : String
  availability : String
  labels : Labels
  deriving DecidableEq, Repr

structure BootstrapCompleteResponse where
  tokenId : String
  claimId : String
  clusterId : String
  nodeRole : BootstrapNodeRole
  labels : Labels
  node : CompletedNode
  verifiedAt : String
  deriving DecidableEq, Repr

/-- The answer to a call, together with its request. -/
inductive Reply where
  | issued (response : BootstrapTokenIssueResponse)
  | claimed (request : BootstrapClaimRequest) (response : BootstrapClaimResponse)
  | completed (request : BootstrapCompleteRequest) (response : BootstrapCompleteResponse)
  deriving DecidableEq, Repr

/-- The request for the labels of a joined node. -/
structure NodeLabelsInput where
  clusterId : String
  nodeId : String
  operationId : String
  expectedVersion : Nat
  set : Labels
  actorId : String
  deriving DecidableEq, Repr

/-- One transaction, or the one query of `findClaimableByHash`. -/
inductive TokenOp where
  | create (input : TokenStore.CreateInput)
  | findClaimableByHash (tokenHash claimId : String)
  | consume (tokenHash claimId : String)
  | bindCompletionNode (tokenId claimId nodeId : String)
  | recordCompletionAudit (record : BootstrapTokenRecord) (input : Completion)
  deriving DecidableEq, Repr

abbrev TokenOp.Reply : TokenOp → Type
  | create _ => BootstrapTokenRecord
  | findClaimableByHash _ _ => Option BootstrapTokenRecord
  | consume _ _ => Option TokenStore.Consumed
  | bindCompletionNode _ _ _ => TokenStore.Binding
  | recordCompletionAudit _ _ => Unit

inductive BootstrapOp where
  | token (op : TokenOp)
  | randomUUID
  /-- `randomBytes(32).toString('base64url')`. -/
  | randomBytes
  /-- `new Date().toISOString()`. -/
  | now
  | assertRegistered (clusterId : String)
  | inspectNode (ref : String)
  /-- `nodeMutations.operation`, of which only the version is used. -/
  | nodeOperation (clusterId operationId : String)
  /-- `nodeMutations.labels`, of which only the status is used. -/
  | nodeLabels (input : NodeLabelsInput)
  /-- The answer is sent to the client. -/
  | respond (reply : Reply)
  deriving DecidableEq, Repr

abbrev BootstrapOp.Ans : BootstrapOp → Type
  | token op => Except Failure op.Reply
  | randomUUID | randomBytes | now => String
  | assertRegistered _ => Except Failure Unit
  | inspectNode _ => Except Failure ObservedNode
  | nodeOperation _ _ => Except Failure Nat
  | nodeLabels _ => Except Failure OperationStatus
  | respond _ => Unit

inductive BootstrapError where
  | unauthorized (message : String)
  | failure (error : Failure)
  deriving DecidableEq, Repr

abbrev BootstrapProgram (α : Type) := Program BootstrapOp BootstrapOp.Ans BootstrapError α

/-! ## The service -/

/-- The environment of a process. -/
structure Settings where
  clusterId : String
  /-- `DOCKLANE_SWARM_JOIN_JSON`; no cluster stands in it twice. -/
  swarmJoin : List SwarmJoinEntry
  deriving DecidableEq, Repr

/-- The value of an answer, or its exception. -/
def orThrow {α : Type} : Except Failure α → BootstrapProgram α
  | .ok a => .pure a
  | .error e => .throw (.failure e)

def transact (op : TokenOp) : BootstrapProgram op.Reply :=
  .request (.token op) orThrow

def credentials (settings : Settings) (clusterId : String) (role : BootstrapNodeRole) :
    Option SwarmJoinCredential :=
  (settings.swarmJoin.find? fun entry => entry.clusterId = clusterId).map fun entry =>
    ⟨entry.remoteAddr, if role = .manager then entry.managerToken else entry.workerToken⟩

def requireSwarmJoinCredentials (settings : Settings) (clusterId : String)
    (role : BootstrapNodeRole) : BootstrapProgram SwarmJoinCredential :=
  match credentials settings clusterId role with
  | some credential => .pure credential
  | none => .throw (.failure (.unavailable
      ("Swarm join credentials are not configured for cluster " ++ clusterId)))

def assertCluster (settings : Settings) (clusterId : String) : BootstrapProgram Unit :=
  if clusterId ≠ settings.clusterId then .throw (.failure (.notFound "Cluster not found"))
  else .pure ()

/-- The cluster is the configured one, and it is registered. -/
def assertBinding (settings : Settings) (clusterId : String) : BootstrapProgram Unit :=
  (assertCluster settings clusterId).bind fun _ => .request (.assertRegistered clusterId) orThrow

def tokenPrefix : String := "docklane_bootstrap_"

section Calls

variable (tokenHash : String → String) (settings : Settings)

def issue (clusterId : String) (input : CreateBootstrapTokenRequest) (actorId : String) :
    BootstrapProgram BootstrapTokenIssueResponse :=
  (assertBinding settings clusterId).bind fun _ =>
    (requireSwarmJoinCredentials settings clusterId input.nodeRole).bind fun _ =>
      .request .randomBytes fun (bytes : String) =>
        .request .randomUUID fun (id : String) =>
          (transact (.create
            { id := id
              tokenHash := tokenHash (tokenPrefix ++ bytes)
              clusterId := clusterId
              nodeRole := input.nodeRole
              labels := input.labels
              createdBy := actorId
              ttlSeconds := input.ttlSeconds })).bind fun (record : BootstrapTokenRecord) =>
            .pure ⟨record, tokenPrefix ++ bytes⟩

def claim (input : BootstrapClaimRequest) : BootstrapProgram BootstrapClaimResponse :=
  (transact (.findClaimableByHash (tokenHash input.token) input.claimId)).bind
    fun (found : Option BootstrapTokenRecord) =>
      match found with
      | none => .throw (.unauthorized "Invalid, expired, or already used bootstrap token")
      | some pending =>
        (assertBinding settings pending.clusterId).bind fun _ =>
          (requireSwarmJoinCredentials settings pending.clusterId pending.nodeRole).bind
            fun swarmJoin =>
              (transact (.consume (tokenHash input.token) input.claimId)).bind
                fun (consumed : Option TokenStore.Consumed) =>
                  match consumed with
                  | none => .throw (.unauthorized
                      "Invalid, expired, or claimed by another bootstrap request")
                  | some ⟨record, replayed⟩ =>
                    match record.usedAt with
                    | none => .throw (.failure
                        (.error "Consumed bootstrap claim is missing usedAt"))
                    | some claimedAt => .pure
                        { tokenId := record.id
                          clusterId := record.clusterId
                          nodeRole := record.nodeRole
                          labels := record.labels
                          expiresAt := record.expiresAt
                          claimedAt := claimedAt
                          claimId := input.claimId
                          replayed := replayed
                          swarmJoin := swarmJoin }

def BootstrapNodeRole.text : BootstrapNodeRole → String
  | .manager => "manager"
  | .worker => "worker"

def assertNodeMatchesBootstrapScope (record : BootstrapTokenRecord) (node : ObservedNode) :
    BootstrapProgram Unit :=
  if node.state ≠ "ready" ∨ node.availability ≠ "active" ∨ node.role ≠ record.nodeRole.text ∨
      node.manager ≠ decide (record.nodeRole = .manager) then
    .throw (.failure (.conflict "Joined node state or role does not match bootstrap scope"))
  else .pure ()

/-- An inspection of which any failure is answered in the same way. -/
def inspectNode (ref message : String) : BootstrapProgram ObservedNode :=
  .request (.inspectNode ref) fun (answer : Except Failure ObservedNode) =>
    match answer with
    | .ok node => .pure node
    | .error _ => .throw (.failure (.badGateway message))

/-- The version of an earlier attempt, or the one that was observed. -/
def labelsVersion (record : BootstrapTokenRecord) (observed : ObservedNode) :
    BootstrapProgram Nat :=
  .request (.nodeOperation record.clusterId record.id) fun (answer : Except Failure Nat) =>
    match answer with
    | .ok expectedVersion => .pure expectedVersion
    | .error (.notFound _) => .pure observed.version
    | .error e => .throw (.failure e)

def applyBootstrapLabels (record : BootstrapTokenRecord) (observed : ObservedNode) :
    BootstrapProgram ObservedNode :=
  if record.labels = [] then .pure observed
  else
    (labelsVersion record observed).bind fun expectedVersion =>
      .request (.nodeLabels
          { clusterId := record.clusterId
            nodeId := observed.id
            operationId := record.id
            expectedVersion := expectedVersion
            set := record.labels
            actorId := "bootstrap:" ++ record.id })
        fun (answer : Except Failure OperationStatus) =>
          (orThrow answer).bind fun status =>
            if status ≠ .SUCCESS then
              .throw (.failure (.conflict
                ("Bootstrap node labels did not converge: " ++ status.text)))
            else
              (inspectNode observed.id
                "Joined node labels could not be verified through the cluster Agent").bind
                fun verified =>
                  (assertNodeMatchesBootstrapScope record verified).bind fun _ =>
                    if ∃ label ∈ record.labels,
                        verified.labels.lookup label.1 ≠ some label.2 then
                      .throw (.failure (.conflict
                        "Joined node labels do not match bootstrap scope"))
                    else .pure verified

/-- What is left to do once the node is bound. -/
def finishCompletion (record : BootstrapTokenRecord) (claimId : String) (observed : ObservedNode) :
    BootstrapProgram BootstrapCompleteResponse :=
  (applyBootstrapLabels record observed).bind fun verified =>
    .request .now fun (verifiedAt : String) =>
      (transact (.recordCompletionAudit record
          { nodeId := verified.id
            hostname := verified.hostname
            role := verified.role
            labels := verified.labels
            verifiedAt := verifiedAt })).bind fun _ =>
        .pure
          { tokenId := record.id
            claimId := claimId
            clusterId := record.clusterId
            nodeRole := record.nodeRole
            labels := record.labels
            node :=
              { id := verified.id
                hostname := verified.hostname
                role := verified.role
                state := verified.state
                availability := verified.availability
                labels := verified.labels }
            verifiedAt := verifiedAt }

def inactiveClaim : BootstrapError :=
  .unauthorized "Bootstrap claim is not active for this claimId"

def complete (input : BootstrapCompleteRequest) : BootstrapProgram BootstrapCompleteResponse :=
  (transact (.findClaimableByHash (tokenHash input.token) input.claimId)).bind
    fun (found : Option BootstrapTokenRecord) =>
      match found with
      | none => .throw inactiveClaim
      | some record =>
        if record.usedAt = none ∨ record.claimId ≠ some input.claimId then .throw inactiveClaim
        else
          (assertBinding settings record.clusterId).bind fun _ =>
            (inspectNode input.nodeId
              "Joined node could not be verified through the cluster Agent").bind fun observed =>
              (assertNodeMatchesBootstrapScope record observed).bind fun _ =>
                (transact (.bindCompletionNode record.id input.claimId observed.id)).bind
                  fun (binding : TokenStore.Binding) =>
                    match binding with
                    | .INACTIVE => .throw inactiveClaim
                    | .CONFLICT => .throw (.failure (.conflict
                        "Bootstrap claim is already bound to a different node"))
                    | .BOUND | .REPLAY => finishCompletion record input.claimId observed

/-- Answer a call. -/
def serve {α : Type} (call : BootstrapProgram α) (reply : α → Reply) : BootstrapProgram Unit :=
  call.bind fun response => .request (.respond (reply response)) fun _ => .pure ()

/-- The calls that a process may take up. -/
inductive BootstrapCall : BootstrapProgram Unit → Prop where
  | issue (clusterId input actorId) :
      BootstrapCall (serve (issue tokenHash settings clusterId input actorId) .issued)
  | claim (input) : BootstrapCall (serve (claim tokenHash settings input) (.claimed input))
  | complete (input) :
      BootstrapCall (serve (complete tokenHash settings input) (.completed input))

end Calls

end Docklane.Bootstrap
