import Proc17.Runtime.Repository.Effects

/-!
# Candidate seals

The seal transaction of a root: `begin_candidate_seal` stops every writer by a new root
revision, the inventory is taken once, and the transaction is aborted, committed or
quarantined.  A commit moves the handle of the sealing grant into the root's QA source.
-/

namespace Proc17.Runtime.Repository.Registry

open Lua Core

/-! ## The request -/

def candidateSealRequestKeys : List String :=
  ["protocol_version", "request_id", "packet_id", "lineage_id", "generation",
    "process_contract_id", "context", "stage_id", "repository_id", "root_authority_id",
    "lifecycle_id", "lifecycle_revision", "root_fingerprint", "grant_id", "grant_revision",
    "artifact_set_id", "artifact_set_inspection_id", "expected_files",
    "expected_directories", "inventory_bounds", "source_refs", "event_truth_status",
    "content_truth_status"]

def isPlainTable (value : Value) : Bool := value.isTable && !value.hasMetatable

def validateCandidateSealRequest (value : Value) : Except Failure Bytes := do
  validatePlainRecord value candidateSealRequestKeys "candidate seal request"
  require (value.get "protocol_version" = .text "repository.candidate_seal_request.v0"
      ∧ value.get "event_truth_status" = .text "runtime_confirmed"
      ∧ (value.get "content_truth_status" = .text "semantic_proposal"
        ∨ value.get "content_truth_status" = .text "mixed"))
    (refuse "candidate seal request protocol or truth status is invalid")
  requireTexts value
    ["request_id", "packet_id", "lineage_id", "process_contract_id", "context", "stage_id",
      "repository_id", "root_authority_id", "lifecycle_id", "root_fingerprint", "grant_id",
      "artifact_set_id", "artifact_set_inspection_id"] "candidate seal "
  requirePositive value ["generation", "lifecycle_revision", "grant_revision"] "candidate seal "
  require (isPlainTable (value.get "expected_files") = true
      ∧ isPlainTable (value.get "inventory_bounds") = true)
    (refuse "candidate seal request contains invalid nested records")
  let _ ← normalizeInventoryBounds (value.get "inventory_bounds")
  strictStringArray (value.get "expected_directories") "candidate seal expected_directories"
  strictStringArray (value.get "source_refs") "candidate seal source_refs"
  let seed ← value.deepCopy.setField "request_id" .nil
  let id ← Digest.identify "candidate-seal-request:" seed
  require (value.get "request_id" = .str id)
    (refuse "candidate seal request identity mismatch")
  pure id

/-! ## Beginning -/

def requestMatchesRoot (root : Root) (claim : Claim) (request : Value) : Bool :=
  request.get "lineage_id" = .str root.lineageId
    && request.get "repository_id" = .str root.repositoryId
    && request.get "root_fingerprint" = .str root.identity.fingerprint
    && request.get "lifecycle_id" = .str claim.lifecycleId
    && request.get "lineage_id" = .str claim.lineageId
    && (request.get "generation").eq (.num claim.generation)
    && request.get "repository_id" = .str claim.repositoryId
    && (request.get "lifecycle_revision").eq (.nat root.revision)

structure SealPlan where
  rootId : Bytes
  root : Root
  grantId : Bytes
  grant : Grant
  claim : Claim
  requestId : Bytes
  transactionId : Bytes
  inventoryBounds : Value

def sealingGrant (r : Registry) (rootId : Bytes) (request : Value) :
    Except Failure (Bytes × Grant) :=
  match request.get "grant_id" with
  | .str grantId =>
    match r.grants grantId with
    | some grant => do
        require (grant.rootAuthorityId = rootId ∧ grant.state = .active
            ∧ (request.get "grant_revision").eq (.nat grant.revision) = true
            ∧ grant.handle.isSome = true)
          (refuse "candidate seal request contradicts private grant")
        pure (grantId, grant)
    | none => .error (refuse "candidate seal request contradicts private grant")
  | _ => .error (refuse "candidate seal request contradicts private grant")

def materializingClaim (root : Root) : Except Failure Claim :=
  match root.state, root.claim with
  | .materializing, some claim => .ok claim
  | _, _ => .error (deny "repository_candidate_not_materializing")

def sealPlanFor (r : Registry) (requestId rootId : Bytes) (root : Root) (request : Value) :
    Except Failure SealPlan := do
  requireOpen root.state
  let claim ← materializingClaim root
  require (requestMatchesRoot root claim request = true)
    (refuse "candidate seal request contradicts private lifecycle")
  require (root.inFlight = []) (deny "repository_provider_dispatch_in_flight")
  require (root.sealTransactionId = none)
    (refuse "repository root has contradictory pending seal identity")
  require (r.activeGrantCount root = 1) (deny "repository_candidate_grant_ambiguous")
  let (grantId, grant) ← r.sealingGrant rootId request
  let transactionId ← Digest.identify "candidate-seal-transaction:" (.record [
    ("root_authority_id", .str root.rootAuthorityId),
    ("lifecycle_id", .str claim.lifecycleId),
    ("request_id", .str requestId),
    ("revision_before", .nat root.revision)])
  pure ⟨rootId, root, grantId, grant, claim, requestId, transactionId,
    (request.get "inventory_bounds").deepCopy⟩

def sealPlan (r : Registry) (request : Value) : Except Failure SealPlan := do
  let requestId ← validateCandidateSealRequest request
  match request.get "root_authority_id" with
  | .str rootId =>
    match r.roots rootId with
    | none => .error (deny "repository_root_missing")
    | some root => r.sealPlanFor requestId rootId root request
  | _ => .error (deny "repository_root_missing")

def pendingRoot (r : Registry) (plan : SealPlan) : Root :=
  { plan.root with
    state := .sealPending
    revision := r.nextRevision
    sealTransactionId := some plan.transactionId
    sealRequestId := some plan.requestId }

def newSealLease (r : Registry) (plan : SealPlan) : SealLease where
  rootId := plan.rootId
  grantId := plan.grantId
  grantRevision := plan.grant.revision
  lifecycleId := plan.claim.lifecycleId
  requestId := plan.requestId
  transactionId := plan.transactionId
  inventoryBounds := plan.inventoryBounds
  revisionBefore := plan.root.revision
  pendingRevision := r.nextRevision
  inventoryCalled := false
  consumed := false

def beginSeal (r : Registry) (plan : SealPlan) : Registry :=
  { (r.moveRoot plan.rootId (r.pendingRoot plan)).advance with
    sealLeases := r.sealLeases ++ [r.newSealLease plan] }

/-- `capability.begin_candidate_seal`: the place of the lease issued. -/
def beginCandidateSeal (r : Registry) (request : Value) : Reply Registry Nat :=
  transact (r.sealPlan request) (fun plan => (.ok r.sealLeases.length, r.beginSeal plan)) r

/-! ## The lease -/

structure LiveSeal where
  lease : SealLease
  grant : Grant
  root : Root
  claim : Claim
  handle : Nat

def requirePending (state : RootState) : Except Failure Unit :=
  match state with
  | .quarantined => .error (deny "repository_root_quarantined")
  | .sealed => .error (deny "repository_root_sealed")
  | _ => .ok ()

def sealLeaseState (r : Registry) (i : Nat) : Except Failure LiveSeal :=
  match r.sealLeases[i]? with
  | none => .error (refuse "invalid repository candidate seal lease")
  | some lease => do
      require (lease.consumed = false)
        (refuse "repository candidate seal lease already consumed")
      match r.roots lease.rootId, r.grants lease.grantId with
      | some root, some grant => do
          requirePending root.state
          match root.claim with
          | none => .error (refuse "repository candidate seal private state changed")
          | some claim => do
              require (root.state = .sealPending ∧ root.revision = lease.pendingRevision
                  ∧ root.sealTransactionId = some lease.transactionId
                  ∧ root.sealRequestId = some lease.requestId
                  ∧ claim.lifecycleId = lease.lifecycleId)
                (refuse "repository candidate seal private state changed")
              match grant.handle with
              | none => .error (refuse "repository candidate seal grant state changed")
              | some handle => do
                  require (grant.state = .active ∧ grant.revision = lease.grantRevision)
                    (refuse "repository candidate seal grant state changed")
                  pure ⟨lease, grant, root, claim, handle⟩
      | _, _ => .error (.fault "index")

/-! ## Inventory -/

def inventoryPlan (r : Registry) (i : Nat) (input : Value) : Except Failure LiveSeal := do
  let live ← r.sealLeaseState i
  validatePlainRecord input
    ["protocol_version", "request_id", "transaction_id", "inventory_bounds"]
    "candidate inventory request"
  require (input.get "protocol_version" = .text "repository.candidate_inventory_request.v0"
      ∧ input.get "request_id" = .str live.lease.requestId
      ∧ input.get "transaction_id" = .str live.lease.transactionId
      ∧ isPlainTable (input.get "inventory_bounds") = true)
    (refuse "candidate inventory request contradicts seal lease")
  require (live.lease.inventoryCalled = false)
    (refuse "candidate inventory lease already consumed")
  pure live

def inventoryCandidate (r : Registry) (w : World) (i : Nat) (input : Value) :
    Reply Registry (List Value) :=
  transact (r.inventoryPlan i input)
    (fun live =>
      let lease := { live.lease with inventoryCalled := true }
      (r.setSealLease i lease).withProviderDispatch w lease.rootId lease.lifecycleId
        lease.transactionId "inventory_tree" (.inventoried i live.handle)) r

/-! ## Abort -/

def abortPlan (r : Registry) (i : Nat) (proof : Value) : Except Failure LiveSeal := do
  let live ← r.sealLeaseState i
  validatePlainRecord proof
    ["protocol_version", "request_id", "transaction_id", "provider", "source_refs",
      "event_truth_status"] "candidate seal abort proof"
  let provider := proof.get "provider"
  validatePlainRecord provider
    ["root_continuity", "observation_postcondition", "root_before_ref", "root_after_ref"]
    "candidate seal provider abort proof"
  strictStringArray (proof.get "source_refs") "candidate seal abort source_refs"
  require (live.lease.inventoryCalled = true
      ∧ proof.get "protocol_version" = .text "repository.candidate_seal_abort_proof.v0"
      ∧ proof.get "request_id" = .str live.lease.requestId
      ∧ proof.get "transaction_id" = .str live.lease.transactionId
      ∧ proof.get "event_truth_status" = .text "runtime_confirmed"
      ∧ (live.root.closureId = none ∧ live.root.closureProjection = .nil)
      ∧ live.root.inFlight = []
      ∧ provider.get "root_continuity" = .text "proven"
      ∧ (provider.get "observation_postcondition" = .text "stable_mismatch"
        ∨ provider.get "observation_postcondition" = .text "bounded_no_closure")
      ∧ (provider.get "root_before_ref").isNonEmptyString = true
      ∧ (provider.get "root_after_ref").isNonEmptyString = true)
    (refuse "candidate seal abort proof is insufficient")
  pure live

def abortedRoot (r : Registry) (root : Root) : Root :=
  { root with
    state := .materializing
    revision := r.nextRevision
    sealTransactionId := none
    sealRequestId := none }

def abortSeal (r : Registry) (i : Nat) (live : LiveSeal) : Registry :=
  ((r.moveRoot live.lease.rootId (r.abortedRoot live.root)).advance).setSealLease i
    { live.lease with consumed := true }

def abortCandidateSeal (r : Registry) (i : Nat) (proof : Value) : Reply Registry Value :=
  transact (r.abortPlan i proof)
    (fun live => answerRoot (.ok (), r.abortSeal i live) live.lease.rootId) r

/-! ## Commit -/

structure CommitPlan where
  live : LiveSeal
  inventoryId : Bytes
  inventoryDigest : Bytes
  bounds : Value
  closureId : Bytes
  receipt : Value

def receiptFields (r : Registry) (live : LiveSeal) (inventoryId inventoryDigest : Bytes)
    (bounds refs : Value) : List (String × Value) := [
  ("request_id", .str live.lease.requestId),
  ("root_authority_id", .str live.root.rootAuthorityId),
  ("lifecycle_id", .str live.claim.lifecycleId),
  ("root_fingerprint", .str live.root.identity.fingerprint),
  ("grant_id", .str live.grant.grantId),
  ("lifecycle_revision_before", .nat live.lease.revisionBefore),
  ("lifecycle_revision_after", .nat r.nextRevision),
  ("inventory_id", .str inventoryId),
  ("inventory_digest", .str inventoryDigest),
  ("inventory_bounds", bounds),
  ("state", .text "sealed"),
  ("source_refs", refs),
  ("event_truth_status", .text "runtime_confirmed"),
  ("protocol_version", .text "repository.candidate_closure_receipt.v0")]

def commitPlan (r : Registry) (i : Nat) (input : Value) : Except Failure CommitPlan := do
  let live ← r.sealLeaseState i
  validatePlainRecord input
    ["protocol_version", "request_id", "transaction_id", "inventory_id", "inventory_digest",
      "inventory_bounds", "root_fingerprint", "comparison", "source_refs"]
    "candidate seal commit"
  strictStringArray (input.get "source_refs") "candidate seal commit source_refs"
  let inventoryId ← nonEmpty (input.get "inventory_id") "candidate seal commit inventory_id"
  let inventoryDigest ← nonEmpty (input.get "inventory_digest")
    "candidate seal commit inventory_digest"
  let fingerprint ← nonEmpty (input.get "root_fingerprint")
    "candidate seal commit root_fingerprint"
  let bounds ← normalizeInventoryBounds (input.get "inventory_bounds")
  let sameBounds ← Json.same bounds live.lease.inventoryBounds
  require (live.lease.inventoryCalled = true
      ∧ input.get "protocol_version" = .text "repository.candidate_seal_commit.v0"
      ∧ input.get "request_id" = .str live.lease.requestId
      ∧ input.get "transaction_id" = .str live.lease.transactionId
      ∧ fingerprint = live.root.identity.fingerprint
      ∧ sameBounds = true
      ∧ input.get "comparison" = .text "exact")
    (refuse "candidate seal commit contradicts private transaction")
  let refs ← normalizedRefs (input.get "source_refs")
  let fields := r.receiptFields live inventoryId inventoryDigest bounds refs
  let closureId ← Digest.identify "candidate-closure:" (.record fields)
  pure ⟨live, inventoryId, inventoryDigest, bounds, closureId,
    .record (("closure_id", .str closureId) :: fields)⟩

def sealedRoot (r : Registry) (plan : CommitPlan) : Root :=
  { plan.live.root with
    state := .sealed
    revision := r.nextRevision
    closureId := some plan.closureId
    inventoryId := some plan.inventoryId
    inventoryDigest := some plan.inventoryDigest
    inventoryBounds := plan.bounds
    closureProjection := plan.receipt }

def sealRoot (r : Registry) (i : Nat) (plan : CommitPlan) : Registry :=
  ((r.moveRoot plan.live.lease.rootId (r.sealedRoot plan)).advance).setSealLease i
    { plan.live.lease with consumed := true }

def newSource (plan : CommitPlan) : QaSource where
  handle := some plan.live.handle
  grantId := plan.live.grant.grantId
  state := .available
  transactionId := none
  disposition := none

def retainSource (r : Registry) (root : Root) (plan : CommitPlan) : Registry :=
  (r.setRoot plan.live.lease.rootId { root with qaSource := some (newSource plan) }).setGrant
    plan.live.lease.grantId { plan.live.grant with handle := none }

def closureAnswer (receipt : Value) (closed : Except Failure Unit) : Except Failure Value :=
  match closed with
  | .ok _ => .ok receipt
  | .error (.refused err) =>
    .error (refuseWith "candidate closure committed but handle close failed: " err)
  | .error failure => .error failure

def commitSeal (r : Registry) (w : World) (i : Nat) (plan : CommitPlan) :
    Reply Registry Value :=
  let closing := r.sealRoot i plan
  let root := r.sealedRoot plan
  if root.qaSource.isSome then
    (.error (refuse "candidate closure cannot retain one exact QA source handle"), closing)
  else
    let closed := (closing.retainSource root plan).endGrants w .sealed root.grantIds
    (closureAnswer plan.receipt closed.1, closed.2)

def commitCandidateSeal (r : Registry) (w : World) (i : Nat) (input : Value) :
    Reply Registry Value :=
  transact (r.commitPlan i input) (fun plan => r.commitSeal w i plan) r

/-! ## Quarantine -/

def quarantineCandidateSeal (r : Registry) (w : World) (i : Nat) (reason : Value) :
    Reply Registry Value :=
  match r.sealLeases[i]? with
  | none => (.error (refuse "invalid repository candidate seal lease"), r)
  | some lease =>
    (r.quarantineRoot w lease.rootId reason).andThen fun projection s =>
      (.ok projection, s.setSealLease i { lease with consumed := true })

end Proc17.Runtime.Repository.Registry
