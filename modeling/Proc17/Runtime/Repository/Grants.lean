import Proc17.Runtime.Repository.Registry

/-!
# Minting and revoking grants

`capability.mint` opens the repository only after every check on its input, and from
then on each failing exit closes the handle again.
-/

namespace Proc17.Runtime.Repository.Registry

open Lua Core

/-! ## Mint -/

structure MintPlan where
  lineageId : Bytes
  repositoryId : Bytes
  repositoryPath : Bytes
  createTextFile : Bool
  bounds : Bounds
  fileMode : Number

def mintPlan (r : Registry) (input : Value) : Except Failure MintPlan := do
  validateKeys input
    ["lineage_id", "repository_id", "provider_id", "project_base", "repository_path",
      "operations", "bounds", "policy"] "repository grant"
  let lineageId ← nonEmpty (input.get "lineage_id") "lineage_id"
  let repositoryId ← nonEmpty (input.get "repository_id") "repository_id"
  require (input.get "provider_id" = .str allowedProviderId)
    (refuse "unsupported repository provider")
  let _ ← validateProjectBase (input.get "project_base")
  let repositoryPath ← validateRepositoryPath (input.get "repository_path")
  let createTextFile ← normalizeOperations (input.get "operations")
  let bounds ← normalizeBounds (input.get "bounds")
  let fileMode ← normalizePolicy (input.get "policy")
  require (r.provider.isSome = true) (refuse "repository provider is not registered")
  require (Number.lt (.int 1024) bounds.maxRelativePathBytes = false)
    (refuse "bounds.max_relative_path_bytes exceeds provider ceiling")
  require (Number.lt (.int 1048576) bounds.maxContentBytes = false)
    (refuse "bounds.max_content_bytes exceeds provider ceiling")
  pure ⟨lineageId, repositoryId, repositoryPath, createTextFile, bounds, fileMode⟩

def available (w : World) : Except Failure Unit :=
  match w.available with
  | .raised err => .error (refuseWith "repository provider availability failed: " err)
  | .returned values =>
    require (values.getD 0 .nil = .bool true)
      (refuseWith "repository provider unavailable: " (values.getD 1 .nil))

def openRepository (w : World) : Except Failure Value := do
  available w
  match w.opening with
  | .raised err => .error (refuseWith "repository provider open failed: " err)
  | .refused err other =>
    .error (.refused (err.orElse (other.orElse (.text "repository provider open failed"))))
  | .opened identity => pure identity

def deviceTable (device inode : Number) : Value :=
  .record [("device", .num device), ("inode", .num inode)]

def normalizeIdentity (value : Value) (repositoryPath : Bytes) : Except Failure Identity := do
  require (value.isTable = true ∧ (value.get "project_base").isTable = true
      ∧ (value.get "root").isTable = true)
    (refuse "provider returned invalid repository identity")
  let base := value.get "project_base"
  let root := value.get "root"
  let baseDevice ← identityComponent (base.get "device") "project base device"
  let baseInode ← identityComponent (base.get "inode") "project base inode"
  let device ← identityComponent (root.get "device") "root device"
  let inode ← identityComponent (root.get "inode") "root inode"
  require (value.get "repository_path" = .nil
      ∨ value.get "repository_path" = .str repositoryPath)
    (refuse "provider repository identity path mismatch")
  match value.get "host_path" with
  | .str (b :: rest) => do
      let fingerprint ← Digest.identify "repository-root:" (.record [
        ("provider_id", .str allowedProviderId),
        ("project_base", deviceTable baseDevice baseInode),
        ("repository_path", .str repositoryPath),
        ("root", deviceTable device inode)])
      pure ⟨baseDevice, baseInode, b :: rest, device, inode, fingerprint⟩
  | _ => .error (refuse "provider repository identity lacks host path")

def rootAuthorityIdentity (r : Registry) (identity : Identity) : Except Failure Bytes :=
  Digest.identify "root-authority:" (.record [
    ("session_id", .str r.sessionId),
    ("provider_id", .str allowedProviderId),
    ("project_base_identity", deviceTable identity.baseDevice identity.baseInode),
    ("root_fingerprint", .str identity.fingerprint)])

/-- A root authority as `mint` first makes it. -/
def newRoot (r : Registry) (plan : MintPlan) (identity : Identity) (id : Bytes) : Root where
  rootAuthorityId := id
  identity := identity
  lineageId := plan.lineageId
  repositoryId := plan.repositoryId
  state := .unclaimed
  revision := r.nextRevision
  claim := none
  grantIds := []
  inFlight := []
  sealTransactionId := none
  sealRequestId := none
  closureId := none
  inventoryId := none
  inventoryDigest := none
  inventoryBounds := .nil
  closureProjection := .nil
  quarantineReason := .nil
  qaSource := none

def closedRoot : RootState → Option Failure
  | .sealPending => some (deny "repository_root_seal_pending")
  | .sealed => some (deny "repository_root_sealed")
  | .quarantined => some (deny "repository_root_quarantined")
  | _ => none

def requireOpen (state : RootState) : Except Failure Unit :=
  match closedRoot state with
  | some failure => .error failure
  | none => .ok ()

structure Located where
  identity : Identity
  policyDigest : Bytes
  rootId : Bytes
  /-- The root of that id, or none yet. -/
  root : Option Root

def locate (r : Registry) (plan : MintPlan) (identityValue : Value) : Except Failure Located := do
  let identity ← normalizeIdentity identityValue plan.repositoryPath
  let policyDigest ← Digest.record (.record [("file_mode", .num plan.fileMode)])
  let rootId ← r.rootAuthorityIdentity identity
  match r.roots rootId with
  | none => pure ⟨identity, policyDigest, rootId, none⟩
  | some root => do
      require (root.lineageId = plan.lineageId ∧ root.repositoryId = plan.repositoryId)
        (deny "repository_root_logical_alias")
      requireOpen root.state
      pure ⟨identity, policyDigest, rootId, some root⟩

def grantSeed (r : Registry) (serial : Nat) (plan : MintPlan) (found : Located) : Value :=
  .record [
    ("serial", .nat serial),
    ("session_id", .str r.sessionId),
    ("lineage_id", .str plan.lineageId),
    ("repository_id", .str plan.repositoryId),
    ("provider_id", .str allowedProviderId),
    ("root_fingerprint", .str found.identity.fingerprint),
    ("root_authority_id", .str found.rootId),
    ("operations", publicOperations plan.createTextFile),
    ("bounds", plan.bounds.table),
    ("policy_digest", .str found.policyDigest)]

def suppliedId (w : World) : Except Failure Bytes :=
  match w.suppliedId with
  | .returned (.str (b :: rest) :: _) => .ok (b :: rest)
  | _ => .error (refuse "repository grant id source failed")

def proposedId (r : Registry) (w : World) (serial : Nat) (plan : MintPlan) (found : Located) :
    Except Failure Bytes :=
  if r.idSource then suppliedId w
  else Digest.identify "repository-grant:" (r.grantSeed serial plan found)

def grantIdentity (r : Registry) (w : World) (serial : Nat) (plan : MintPlan)
    (found : Located) : Except Failure Bytes := do
  let id ← r.proposedId w serial plan found
  require ((r.grants id).isNone = true) (refuse "repository grant id collision")
  pure id

def newGrant (r : Registry) (plan : MintPlan) (found : Located) (id : Bytes) (handle : Nat) :
    Grant where
  grantId := id
  revision := r.nextRevision
  state := .active
  lineageId := plan.lineageId
  repositoryId := plan.repositoryId
  handle := some handle
  identity := found.identity
  rootAuthorityId := found.rootId
  createTextFile := plan.createTextFile
  bounds := plan.bounds
  fileMode := plan.fileMode
  policyDigest := found.policyDigest
  effectCounts := fun _ => 0
  actionDispatches := fun _ => false

def opened (r : Registry) : Registry :=
  { r with nextHandle := r.nextHandle + 1, log := .opened r.nextHandle :: r.log }

/-- A new root takes a revision even when the mint fails later on. -/
def numbered (r : Registry) (found : Located) : Registry :=
  let rooted := if found.root.isNone then r.advance else r
  { rooted with nextSerial := rooted.nextSerial + 1 }

def withGrant (root : Root) (id : Bytes) : Root :=
  { root with grantIds := root.grantIds ++ [id] }

def storeRoot (r : Registry) (found : Located) (root : Root) : Registry :=
  if found.root.isNone then r.moveRoot found.rootId root else r.setRoot found.rootId root

def addGrant (r : Registry) (found : Located) (root : Root) (id : Bytes) (grant : Grant) :
    Registry :=
  (r.advance.storeRoot found (withGrant root id)).setGrant id grant

/-- The rest of `mint` once a handle is open. -/
def mintOpened (r : Registry) (w : World) (plan : MintPlan) (handle : Nat)
    (identityValue : Value) : Reply Registry Value :=
  match r.locate plan identityValue with
  | .error failure => (.error failure, r.note (.closed handle))
  | .ok found =>
    let root := found.root.getD (r.newRoot plan found.identity found.rootId)
    let counted := r.numbered found
    match counted.grantIdentity w r.nextSerial plan found with
    | .error failure => (.error failure, counted.note (.closed handle))
    | .ok id =>
      let grant := counted.newGrant plan found id handle
      let minted := counted.addGrant found root id grant
      (.ok (minted.projection grant (withGrant root id)), minted)

def mint (r : Registry) (w : World) (input : Value) : Reply Registry Value :=
  transact (r.mintPlan input)
    (fun plan =>
      transact (openRepository w)
        (fun identity => r.opened.mintOpened w plan r.nextHandle identity) r) r

/-! ## Revoke -/

def answerGrant (reply : Reply Registry Unit) (id : Bytes) : Reply Registry Value :=
  reply.andThen fun _ r =>
    match r.grants id with
    | none => (.error (.fault "index"), r)
    | some grant =>
      match r.roots grant.rootAuthorityId with
      | none => (.error (.fault "index"), r)
      | some root => (.ok (r.projection grant root), r)

def endsByRevocation (state : GrantState) : Bool :=
  state = .active || state = .quarantined

def revokeGrant (r : Registry) (id : Bytes) (grant : Grant) : Registry :=
  (r.setGrant id { grant with state := .revoked, revision := r.nextRevision }).advance

def revoke (r : Registry) (w : World) (grantId : Value) : Reply Registry Value :=
  match grantId with
  | .str id =>
    match r.grants id with
    | none => (.error (deny "missing_capability"), r)
    | some grant =>
      if endsByRevocation grant.state then
        answerGrant ((r.revokeGrant id grant).closeHandle w id) id
      else answerGrant (.ok (), r) id
  | _ => (.error (deny "missing_capability"), r)

end Proc17.Runtime.Repository.Registry
