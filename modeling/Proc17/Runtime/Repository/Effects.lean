import Proc17.Runtime.Repository.Grants

/-!
# Effect leases

`capability.begin_effect` spends a grant's authority for one action and issues a lease;
`effect_create` and `effect_read_back` exercise the lease through the provider.
-/

namespace Proc17.Runtime.Repository.Registry

open Lua Core

/-! ## Beginning an effect -/

def fixedGrantIdentity (r : Registry) (grant : Grant) (action : Value) : Bool :=
  let capability := action.get "capability"
  action.get "session_id" = .str r.sessionId
    && action.get "lineage_id" = .str grant.lineageId
    && capability.get "repository_id" = .str grant.repositoryId
    && capability.get "provider_id" = .str allowedProviderId
    && (capability.get "revision").eq (.nat grant.revision)
    && capability.get "root_authority_id" = .str grant.rootAuthorityId
    && capability.get "root_fingerprint" = .str grant.identity.fingerprint
    && capability.get "policy_digest" = .str grant.policyDigest

def dispatchedAlready (grant : Grant) (actionId : Value) : Bool :=
  match actionId with
  | .str id => grant.actionDispatches id
  | _ => false

def limitExhausted (grant : Grant) (generation : Value) : Bool :=
  Number.le grant.bounds.maxEffectsPerGeneration
    (.int (grant.effectCounts generation.tostring : Nat))

def requireUnspent (grant : Grant) (action : Value) : Except Failure Unit := do
  require (dispatchedAlready grant (action.get "action_id") = false)
    (deny "action_already_dispatched")
  require (limitExhausted grant (action.get "generation") = false)
    (deny "effect_limit_exhausted")

/-- The replay check that comes before the state of the grant. -/
def preflight (r : Registry) (action : Value) : Except Failure Unit :=
  match r.grantAt ((action.get "capability").get "grant_id") with
  | none => .ok ()
  | some grant =>
    if r.fixedGrantIdentity grant action then requireUnspent grant action else .ok ()

structure Envelope where
  actionId : Bytes
  lineageId : Bytes
  generation : Number
  relativePath : Bytes
  contentBytes : Number
  contentSha256 : Bytes
  precondition : Value

def envelopeOf (action : Value) : Option Envelope :=
  match action.get "action_id", action.get "lineage_id", action.get "generation",
      (action.get "target").get "relative_path", (action.get "content").get "bytes",
      (action.get "content").get "sha256" with
  | .str actionId, .str lineageId, .num generation, .str path, .num bytes, .str sha256 =>
    some ⟨actionId, lineageId, generation, path, bytes, sha256,
      (action.get "target").get "precondition"⟩
  | _, _, _, _, _, _ => none

def requireEnvelope (action : Value) : Except Failure Envelope :=
  match envelopeOf action with
  | none => .error (refuse "repository effect action envelope is invalid")
  | some envelope => do
      require (action.isTable = true ∧ (action.get "capability").isTable = true
          ∧ (action.get "target").isTable = true ∧ (action.get "content").isTable = true
          ∧ envelope.actionId ≠ [] ∧ (action.get "session_id").isNonEmptyString = true
          ∧ envelope.lineageId ≠ []
          ∧ (action.get "generation").isPositiveInteger = true
          ∧ action.get "operation" = .text "create_text_file")
        (refuse "repository effect action envelope is invalid")
      pure envelope

def requireActive (state : GrantState) : Except Failure Unit :=
  match state with
  | .active => .ok ()
  | .revoked => .error (deny "grant_revoked")
  | .quarantined => .error (deny "grant_quarantined")
  | .sealed => .error (refuse "repository grant has invalid private state")

/-- A materializing root serves the lineage, generation and repository of its claim. -/
def claimAdmits (root : Root) (envelope : Envelope) (repositoryId : Bytes) : Bool :=
  match root.claim with
  | none => false
  | some claim =>
    claim.lineageId = envelope.lineageId
      && Number.eq claim.generation envelope.generation
      && claim.repositoryId = repositoryId

structure ExactGrant where
  grantId : Bytes
  grant : Grant
  root : Root
  envelope : Envelope

def exactActionGrant (r : Registry) (action : Value) : Except Failure ExactGrant := do
  let envelope ← requireEnvelope action
  match (action.get "capability").get "grant_id" with
  | .str grantId =>
    match r.grants grantId with
    | none => .error (deny "missing_capability")
    | some grant => do
        requireActive grant.state
        require (r.fixedGrantIdentity grant action = true ∧ grant.grantId = grantId
            ∧ grant.createTextFile = true)
          (refuse "repository action contradicts private grant identity")
        match r.roots grant.rootAuthorityId with
        | none => .error (.fault "index")
        | some root => do
            requireOpen root.state
            require (root.state = .unclaimed
                ∨ claimAdmits root envelope grant.repositoryId = true)
              (deny "repository_root_claimed_by_other_generation")
            require (Number.lt grant.bounds.maxRelativePathBytes
                  (.int envelope.relativePath.length) = false
                ∧ Number.lt grant.bounds.maxContentBytes envelope.contentBytes = false)
              (deny "capability_bounds_exceeded")
            pure ⟨grantId, grant, root, envelope⟩
  | _ => .error (deny "missing_capability")

def newClaim (r : Registry) (exact : ExactGrant) : Except Failure Claim := do
  let lifecycleId ← Digest.identify "candidate-lifecycle:" (.record [
    ("root_authority_id", .str exact.root.rootAuthorityId),
    ("lineage_id", .str exact.envelope.lineageId),
    ("generation", .num exact.envelope.generation),
    ("repository_id", .str exact.grant.repositoryId)])
  pure ⟨lifecycleId, exact.envelope.lineageId, exact.envelope.generation,
    exact.grant.repositoryId, exact.envelope.actionId, r.nextRevision⟩

def claimedRoot (r : Registry) (exact : ExactGrant) : Except Failure (Root × Claim) :=
  match exact.root.state, exact.root.claim with
  | .unclaimed, _ => do
      let claim ← r.newClaim exact
      pure ({ exact.root with
        state := .materializing, revision := r.nextRevision, claim := some claim }, claim)
  | _, some claim => pure (exact.root, claim)
  | _, none => .error (.fault "index")

structure EffectPlan where
  exact : ExactGrant
  root : Root
  claim : Claim

def beginEffectPlan (r : Registry) (derive : DeriveIntent) (action inst : Value) :
    Except Failure EffectPlan := do
  Action.validate derive inst action
  r.preflight action
  let exact ← r.exactActionGrant action
  requireUnspent exact.grant action
  let (root, claim) ← r.claimedRoot exact
  pure ⟨exact, root, claim⟩

def claimRoot (r : Registry) (plan : EffectPlan) : Registry :=
  if plan.exact.root.state = .unclaimed then
    (r.moveRoot plan.exact.grant.rootAuthorityId plan.root).advance
  else r

/-- `effect_counts` and `action_dispatches`: never refunded from here on. -/
def spend (grant : Grant) (envelope : Envelope) : Grant :=
  let key := Value.tostring (.num envelope.generation)
  { grant with
    effectCounts := Function.update grant.effectCounts key (grant.effectCounts key + 1)
    actionDispatches := Function.update grant.actionDispatches envelope.actionId true }

def newLease (plan : EffectPlan) : EffectLease where
  grantId := plan.exact.grantId
  grantRevision := plan.exact.grant.revision
  rootId := plan.exact.grant.rootAuthorityId
  rootRevision := plan.root.revision
  lifecycleId := plan.claim.lifecycleId
  generation := plan.exact.envelope.generation
  actionId := plan.exact.envelope.actionId
  relativePath := plan.exact.envelope.relativePath
  contentBytes := plan.exact.envelope.contentBytes
  contentSha256 := plan.exact.envelope.contentSha256
  precondition := plan.exact.envelope.precondition
  createCalled := false
  createSucceeded := false
  readCalled := false

def issueLease (r : Registry) (plan : EffectPlan) (action : Value) : Registry :=
  { r.setGrant plan.exact.grantId (spend plan.exact.grant plan.exact.envelope) with
    effectLeases := r.effectLeases ++ [newLease plan]
    log := .leased ((newLease plan).warrant r.effectLeases.length) action :: r.log }

/-- `capability.begin_effect`: the place of the lease issued. -/
def beginEffect (r : Registry) (derive : DeriveIntent) (action inst : Value) :
    Reply Registry Nat :=
  transact (r.beginEffectPlan derive action inst)
    (fun plan => (.ok r.effectLeases.length, (r.claimRoot plan).issueLease plan action)) r

/-! ## Exercising a lease -/

structure LiveLease where
  lease : EffectLease
  grant : Grant
  root : Root
  handle : Nat

def leaseState (r : Registry) (i : Nat) : Except Failure LiveLease :=
  match r.effectLeases[i]? with
  | none => .error (refuse "invalid repository effect lease")
  | some lease =>
    match r.roots lease.rootId, r.grants lease.grantId with
    | some root, some grant => do
        requireOpen root.state
        match grant.state with
        | .revoked => .error (deny "grant_revoked")
        | .quarantined => .error (deny "grant_quarantined")
        | _ =>
          match grant.handle with
          | none => .error (refuse "repository effect lease grant state changed")
          | some handle => do
              require (grant.state = .active ∧ grant.revision = lease.grantRevision)
                (refuse "repository effect lease grant state changed")
              require (root.state = .materializing ∧ root.revision = lease.rootRevision
                  ∧ (root.claim.any fun claim => claim.lifecycleId = lease.lifecycleId
                    && Number.eq claim.generation lease.generation) = true)
                (refuse "repository effect lease root state changed")
              pure ⟨lease, grant, root, handle⟩
    | _, _ => .error (.fault "index")

def createRequestKeys : List String :=
  ["protocol_version", "action_id", "grant_id", "grant_revision", "root_fingerprint",
    "relative_path", "content", "content_bytes", "content_sha256", "precondition"]

structure CreatePlan where
  live : LiveLease
  content : Bytes

def createPlan (r : Registry) (i : Nat) (request : Value) : Except Failure CreatePlan := do
  let live ← r.leaseState i
  let lease := live.lease
  require (lease.createCalled = false) (refuse "repository effect create lease already consumed")
  validatePlainRecord request createRequestKeys "repository effect request"
  match request.get "content" with
  | .str content => do
      require (request.get "protocol_version"
            = .text "repository.create_text_file.request.v0"
          ∧ request.get "action_id" = .str lease.actionId
          ∧ request.get "grant_id" = .str live.grant.grantId
          ∧ (request.get "grant_revision").eq (.nat live.grant.revision) = true
          ∧ request.get "root_fingerprint" = .str live.grant.identity.fingerprint
          ∧ request.get "relative_path" = .str lease.relativePath
          ∧ (request.get "content_bytes").eq (.num lease.contentBytes) = true
          ∧ request.get "content_sha256" = .str lease.contentSha256
          ∧ (request.get "precondition").eq lease.precondition = true
          ∧ Number.eq (.int content.length) lease.contentBytes = true
          ∧ Digest.sha256 content = lease.contentSha256)
        (refuse "repository effect request contradicts lease")
      pure ⟨live, content⟩
  | _ => .error (refuse "repository effect request contradicts lease")

def providerRequest (plan : CreatePlan) : CreateRequest where
  relativePath := plan.live.lease.relativePath
  content := plan.content
  contentBytes := plan.live.lease.contentBytes
  precondition := plan.live.lease.precondition
  fileMode := plan.live.grant.fileMode

def recordCreate (r : Registry) (i : Nat) (lease : EffectLease) (values : List Value) :
    Registry :=
  if values.getD 0 .nil = .nil then r
  else
    (r.setEffectLease i { lease with createSucceeded := true }).note
      (.createReturned (lease.warrant i))

def effectCreate (r : Registry) (w : World) (i : Nat) (request : Value) :
    Reply Registry (List Value) :=
  transact (r.createPlan i request)
    (fun plan =>
      let lease := { plan.live.lease with createCalled := true }
      ((r.setEffectLease i lease).withProviderDispatch w lease.rootId lease.lifecycleId
          lease.actionId "create_text_file"
          (.created (lease.warrant i) plan.live.handle (providerRequest plan))).andThen
        fun values left =>
          (.ok [values.getD 0 .nil, values.getD 1 .nil], left.recordCreate i lease values)) r

def readPlan (r : Registry) (i : Nat) : Except Failure LiveLease := do
  let live ← r.leaseState i
  require (live.lease.createSucceeded = true)
    (refuse "repository effect read-back requires writer success")
  require (live.lease.readCalled = false)
    (refuse "repository effect read-back lease already consumed")
  pure live

def effectReadBack (r : Registry) (w : World) (i : Nat) : Reply Registry (List Value) :=
  transact (r.readPlan i)
    (fun live =>
      let lease := { live.lease with readCalled := true }
      (r.setEffectLease i lease).withProviderDispatch w lease.rootId lease.lifecycleId
        lease.actionId "read_text_file" (.readBack (lease.warrant i) live.handle)) r

def quarantineEffect (r : Registry) (w : World) (i : Nat) (reason : Value) :
    Reply Registry Value :=
  match r.effectLeases[i]? with
  | none => (.error (refuse "invalid repository effect lease"), r)
  | some lease => r.quarantineRoot w lease.rootId reason

end Proc17.Runtime.Repository.Registry
