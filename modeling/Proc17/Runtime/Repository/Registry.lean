import Mathlib.Logic.Function.Basic
import Proc17.Runtime.Repository.Action

/-!
# The repository capability registry

The private state behind a registry of `runtime/repository_capability.lua` and the
operations its entry points share.  A grant or a root is reached through its id, a
lease through its place among the leases issued.  Foreign code (the provider, the id
source, a QA consumer) answers through a `World` that the caller supplies for each
call; it makes no call back.  The log lists, newest first, the revisions handed out,
the states roots take, the leases issued and the entries into foreign code.
-/

namespace Proc17.Runtime.Repository

open Lua Core

/-! ## Data -/

inductive RootState where
  | unclaimed
  | materializing
  | sealPending
  | sealed
  | quarantined
  deriving DecidableEq

def RootState.name : RootState → String
  | .unclaimed => "unclaimed"
  | .materializing => "materializing"
  | .sealPending => "seal_pending"
  | .sealed => "sealed"
  | .quarantined => "quarantined"

inductive GrantState where
  | active
  | revoked
  | sealed
  | quarantined
  deriving DecidableEq

def GrantState.name : GrantState → String
  | .active => "active"
  | .revoked => "revoked"
  | .sealed => "sealed"
  | .quarantined => "quarantined"

inductive SourceState where
  | available
  | reserved
  | inUse
  | used
  | consumed
  | quarantined
  deriving DecidableEq

structure Claim where
  lifecycleId : Bytes
  lineageId : Bytes
  generation : Number
  repositoryId : Bytes
  firstActionId : Bytes
  claimRevision : Nat

structure Identity where
  baseDevice : Number
  baseInode : Number
  hostPath : Bytes
  device : Number
  inode : Number
  fingerprint : Bytes

inductive Verdict where
  | consumed
  | quarantined (reason : Bytes)
  deriving DecidableEq

def Verdict.state : Verdict → SourceState
  | .consumed => .consumed
  | .quarantined _ => .quarantined

structure QaSource where
  handle : Option Nat
  grantId : Bytes
  state : SourceState
  transactionId : Option Bytes
  disposition : Option Verdict

structure Root where
  rootAuthorityId : Bytes
  identity : Identity
  lineageId : Bytes
  repositoryId : Bytes
  state : RootState
  revision : Nat
  claim : Option Claim
  grantIds : List Bytes
  inFlight : List Bytes
  sealTransactionId : Option Bytes
  sealRequestId : Option Bytes
  closureId : Option Bytes
  inventoryId : Option Bytes
  inventoryDigest : Option Bytes
  inventoryBounds : Value
  closureProjection : Value
  quarantineReason : Value
  qaSource : Option QaSource

structure Grant where
  grantId : Bytes
  revision : Nat
  state : GrantState
  lineageId : Bytes
  repositoryId : Bytes
  handle : Option Nat
  identity : Identity
  rootAuthorityId : Bytes
  createTextFile : Bool
  bounds : Bounds
  fileMode : Number
  policyDigest : Bytes
  effectCounts : Bytes → Nat
  actionDispatches : Bytes → Bool

structure EffectLease where
  grantId : Bytes
  grantRevision : Nat
  rootId : Bytes
  rootRevision : Nat
  lifecycleId : Bytes
  generation : Number
  actionId : Bytes
  relativePath : Bytes
  contentBytes : Number
  contentSha256 : Bytes
  precondition : Value
  createCalled : Bool
  createSucceeded : Bool
  readCalled : Bool

structure SealLease where
  rootId : Bytes
  grantId : Bytes
  grantRevision : Nat
  lifecycleId : Bytes
  requestId : Bytes
  transactionId : Bytes
  inventoryBounds : Value
  revisionBefore : Nat
  pendingRevision : Nat
  inventoryCalled : Bool
  consumed : Bool

structure QaLease where
  rootId : Bytes
  rootRevision : Nat
  closureId : Option Bytes
  transactionId : Bytes
  attempted : Bool
  finished : Bool
  disposition : Option Verdict

/-- What `provider.create_text_file` is given besides the handle. -/
structure CreateRequest where
  relativePath : Bytes
  content : Bytes
  contentBytes : Number
  precondition : Value
  fileMode : Number
  deriving DecidableEq

structure Warrant where
  lease : Nat
  grant : Bytes
  root : Bytes
  action : Bytes
  deriving DecidableEq

def EffectLease.warrant (lease : EffectLease) (i : Nat) : Warrant :=
  ⟨i, lease.grantId, lease.rootId, lease.actionId⟩

inductive Happening where
  | revised (revision : Nat)
  | moved (root : Bytes) (state : RootState)
  | opened (handle : Nat)
  | closed (handle : Nat)
  | leased (warrant : Warrant) (action : Value)
  | created (warrant : Warrant) (handle : Nat) (request : CreateRequest)
  | createReturned (warrant : Warrant)
  | readBack (warrant : Warrant) (handle : Nat)
  | inventoried (lease handle : Nat)
  | reserved (root : Bytes)
  | consumed (root : Bytes) (handle : Nat)
  deriving DecidableEq

structure Registry where
  sessionId : Bytes
  provider : Option Value
  idSource : Bool
  grants : Bytes → Option Grant
  roots : Bytes → Option Root
  nextSerial : Nat
  nextRevision : Nat
  nextHandle : Nat
  effectLeases : List EffectLease
  sealLeases : List SealLease
  qaLeases : List QaLease
  log : List Happening

/-! ## Foreign code -/

inductive Outcome where
  | returned (values : List Value)
  | raised (err : Value)

/-- How `provider.open_repository` ends: a handle it gives is a new opaque object,
known here by its number. -/
inductive Opening where
  | opened (identity : Value)
  | refused (err other : Value)
  | raised (err : Value)

structure World where
  available : Outcome
  opening : Opening
  suppliedId : Outcome
  close : Nat → Outcome
  dispatch : Outcome
  consumer : Outcome

def handleValue (handle : Nat) : Value := .ref .userdata handle

namespace Registry

/-! ## Single writes -/

def note (r : Registry) (happening : Happening) : Registry :=
  { r with log := happening :: r.log }

/-- `state.next_revision` is handed out. -/
def advance (r : Registry) : Registry :=
  { r with nextRevision := r.nextRevision + 1, log := .revised r.nextRevision :: r.log }

def setRoot (r : Registry) (id : Bytes) (root : Root) : Registry :=
  { r with roots := Function.update r.roots id (some root) }

/-- `root.state = ...`, or a root newly stored. -/
def moveRoot (r : Registry) (id : Bytes) (root : Root) : Registry :=
  (r.setRoot id root).note (.moved id root.state)

def setGrant (r : Registry) (id : Bytes) (grant : Grant) : Registry :=
  { r with grants := Function.update r.grants id (some grant) }

def setEffectLease (r : Registry) (i : Nat) (lease : EffectLease) : Registry :=
  { r with effectLeases := r.effectLeases.set i lease }

def setSealLease (r : Registry) (i : Nat) (lease : SealLease) : Registry :=
  { r with sealLeases := r.sealLeases.set i lease }

def setQaLease (r : Registry) (i : Nat) (lease : QaLease) : Registry :=
  { r with qaLeases := r.qaLeases.set i lease }

def grantAt (r : Registry) (id : Value) : Option Grant :=
  match id with
  | .str s => r.grants s
  | _ => none

/-! ## Projections -/

def optionText : Option Bytes → Value
  | some s => .str s
  | none => .nil

def activeGrantCount (r : Registry) (root : Root) : Nat :=
  root.grantIds.countP fun id =>
    match r.grants id with
    | some grant => grant.state = .active
    | none => false

def rootProjection (r : Registry) (root : Root) : Value :=
  .record [
    ("protocol_version", .text "repository.root_authority_projection.v0"),
    ("root_authority_id", .str root.rootAuthorityId),
    ("root_fingerprint", .str root.identity.fingerprint),
    ("lineage_id", .str root.lineageId),
    ("repository_id", .str root.repositoryId),
    ("state", .text root.state.name),
    ("revision", .nat root.revision),
    ("lifecycle_id", optionText (root.claim.map Claim.lifecycleId)),
    ("owner_generation", (root.claim.map fun claim => Value.num claim.generation).getD .nil),
    ("active_grant_count", .nat (r.activeGrantCount root)),
    ("active_dispatch_count", .nat root.inFlight.length),
    ("seal_request_id", optionText root.sealRequestId),
    ("closure_id", optionText root.closureId),
    ("inventory_digest", optionText root.inventoryDigest),
    ("event_truth_status", .text "runtime_confirmed")]

def projection (r : Registry) (grant : Grant) (root : Root) : Value :=
  .record [
    ("protocol_version", .text "repository.capability_projection.v0"),
    ("grant_id", .str grant.grantId),
    ("revision", .nat grant.revision),
    ("state", .text grant.state.name),
    ("session_id", .str r.sessionId),
    ("lineage_id", .str grant.lineageId),
    ("repository_id", .str grant.repositoryId),
    ("provider_id", .str allowedProviderId),
    ("root_fingerprint", .str grant.identity.fingerprint),
    ("root_authority_id", .str root.rootAuthorityId),
    ("root_state", .text root.state.name),
    ("root_revision", .nat root.revision),
    ("lifecycle_id", optionText (root.claim.map Claim.lifecycleId)),
    ("owner_generation", (root.claim.map fun claim => Value.num claim.generation).getD .nil),
    ("active_dispatch_count", .nat root.inFlight.length),
    ("operations", publicOperations grant.createTextFile),
    ("bounds", grant.bounds.table),
    ("policy_digest", .str grant.policyDigest),
    ("event_truth_status", .text "runtime_confirmed")]

/-! ## Closing handles -/

/-- The answer of `pcall(provider.close, handle)`. -/
def closeAnswer (label : String) (outcome : Outcome) : Except Failure Unit :=
  match outcome with
  | .raised err => .error (refuseWith label err)
  | .returned values =>
    let closed := values.getD 0 .nil
    if closed = .bool true then .ok ()
    else .error (refuseWith label ((values.getD 1 .nil).orElse closed))

def closeHandle (r : Registry) (w : World) (id : Bytes) : Reply Registry Unit :=
  match r.grants id with
  | none => (.ok (), r)
  | some grant =>
    match grant.handle with
    | none => (.ok (), r)
    | some handle =>
      (closeAnswer "provider close failed: " (w.close handle),
        (r.setGrant id { grant with handle := none }).note (.closed handle))

def endGrant (r : Registry) (state : GrantState) (id : Bytes) : Registry :=
  match r.grants id with
  | some grant =>
    if grant.state = .active then
      (r.setGrant id { grant with state := state, revision := r.nextRevision }).advance
    else r
  | none => r

def keepFirst (first second : Except Failure Unit) : Except Failure Unit :=
  match first with
  | .error failure => .error failure
  | .ok _ => second

/-- The loop over `root.grant_ids` that ends every grant of a root: all handles are
closed, and the first close failure is reported. -/
def endGrants (r : Registry) (w : World) (state : GrantState) : List Bytes → Reply Registry Unit
  | [] => (.ok (), r)
  | id :: rest =>
    let closed := (r.endGrant state id).closeHandle w id
    let others := closed.2.endGrants w state rest
    (keepFirst closed.1 others.1, others.2)

/-! ## Quarantine and dispatch -/

def reasonDigest (reason : Value) : Except Failure Bytes :=
  Digest.record (.record [("reason", reason)])

/-- What `quarantine_root` decides before it writes: the normalized reason, or the
projection of a root already quarantined for it. -/
def quarantinePlan (r : Registry) (root : Root) (reason : Value) :
    Except Failure (Value ⊕ Value) :=
  let normalized := (reason.orElse
    (.record [("code", .text "repository_root_quarantined")])).deepCopy
  match reasonDigest normalized with
  | .error (.refused err) =>
    .error (refuseWith "repository quarantine reason is not digestible: " err)
  | .error failure => .error failure
  | .ok id =>
    match root.state with
    | .quarantined =>
      if (reasonDigest root.quarantineReason).toOption = some id then
        .ok (.inr (r.rootProjection root))
      else .error (refuse "repository root received contradictory quarantine reason")
    | .sealed =>
      .error (refuse "sealed repository root cannot be reclassified as quarantined")
    | _ => .ok (.inl normalized)

def markQuarantined (r : Registry) (id : Bytes) (root : Root) (reason : Value) : Registry :=
  (r.moveRoot id { root with
    state := .quarantined
    revision := r.nextRevision
    quarantineReason := reason
    inFlight := [] }).advance

def answerRoot (reply : Reply Registry Unit) (id : Bytes) : Reply Registry Value :=
  reply.andThen fun _ r =>
    match r.roots id with
    | some root => (.ok (r.rootProjection root), r)
    | none => (.error (.fault "index"), r)

def quarantineRoot (r : Registry) (w : World) (id : Bytes) (reason : Value) :
    Reply Registry Value :=
  match r.roots id with
  | none => (.error (.fault "index"), r)
  | some root =>
    transact (r.quarantinePlan root reason)
      (fun
        | .inr projection => (.ok projection, r)
        | .inl normalized =>
          answerRoot
            ((r.markQuarantined id root normalized).endGrants w .quarantined root.grantIds)
            id) r

def panicReason (phase : String) (err : Value) : Value :=
  .record [
    ("code", .text "repository_provider_panic"),
    ("phase", .text phase),
    ("message", .str err.tostring)]

def panicFailure (quarantine : Except Failure Value) (err : Value) : Failure :=
  match quarantine with
  | .error (.refused quarantineErr) =>
    .raised (.str (utf8 "repository provider panic and quarantine failed: "
      ++ quarantineErr.tostring))
  | .error failure => failure
  | .ok _ =>
    .raised (.str (utf8 "repository provider invariant failure: " ++ err.tostring))

def dispatchPlan (root : Root) (lifecycleId actionId : Bytes) (phase : String) :
    Except Failure Bytes := do
  let id ← Digest.identify "repository-dispatch:" (.record [
    ("lifecycle_id", .str lifecycleId),
    ("action_id", .str actionId),
    ("phase", .text phase)])
  require (root.inFlight.contains id = false) (refuse "repository provider dispatch is already in flight")
  pure id

def enterProvider (r : Registry) (id : Bytes) (root : Root) (dispatch : Bytes)
    (entry : Happening) : Registry :=
  (r.setRoot id { root with inFlight := dispatch :: root.inFlight }).note entry

def leaveProvider (r : Registry) (id : Bytes) (root : Root) (dispatch : Bytes) : Registry :=
  r.setRoot id { root with inFlight := (dispatch :: root.inFlight).erase dispatch }

/-- `with_provider_dispatch`: the dispatch is marked while the provider runs; a panic
quarantines the root and is raised again. -/
def withProviderDispatch (r : Registry) (w : World) (id lifecycleId actionId : Bytes)
    (phase : String) (entry : Happening) : Reply Registry (List Value) :=
  match r.roots id with
  | none => (.error (.fault "index"), r)
  | some root =>
    transact (dispatchPlan root lifecycleId actionId phase)
      (fun dispatch =>
        let left := (r.enterProvider id root dispatch entry).leaveProvider id root dispatch
        match w.dispatch with
        | .returned values => (.ok values, left)
        | .raised err =>
          let quarantine := left.quarantineRoot w id (panicReason phase err)
          (.error (panicFailure quarantine.1 err), quarantine.2)) r

/-! ## A new registry -/

/-- `options.providers`: at most the one allowed provider. -/
def chooseProvider (providers : Value) : Except Failure (Option Value) :=
  match providers with
  | .table _ entries => do
      entries.forM fun entry => do
        require (entry.1 = .str allowedProviderId)
          (refuseWith "unsupported repository provider: " entry.1)
        validateProvider entry.2
      pure (entries.head?.map Prod.snd)
  | _ => .error (refuse "providers must be table")

def new (options : Value) : Except Failure Registry := do
  let options := options.orElse .emptyTable
  validateKeys options ["session_id", "providers", "id_source"] "repository capability options"
  let sessionId ← nonEmpty (options.get "session_id") "session_id"
  require ((options.get "providers").isTable = true) (refuse "providers must be table")
  require (options.get "id_source" = .nil ∨ isFunction (options.get "id_source") = true)
    (refuse "id_source must be function")
  let provider ← chooseProvider (options.get "providers")
  pure {
    sessionId := sessionId
    provider := provider
    idSource := isFunction (options.get "id_source")
    grants := fun _ => none
    roots := fun _ => none
    nextSerial := 1
    nextRevision := 1
    nextHandle := 0
    effectLeases := []
    sealLeases := []
    qaLeases := []
    log := [] }

end Registry

end Proc17.Runtime.Repository
