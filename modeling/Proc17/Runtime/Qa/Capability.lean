import Proc17.Lua.Detach
import Proc17.Runtime.Qa.PrivateResult
import Proc17.Runtime.Repository.Registry

/-!
# The QA capability registry

`runtime/qa_capability.lua`: one grant for each request, one lease for each grant, one entry
of its consumer, and one receipt.  `with_execution` is split where the consumer runs: it
is entered, the consumer may call the registry again, and it is left with what the consumer
returned or raised.

What `mint` and `begin` learn from the Packet, the request, the candidate seal and the
measured environment is given with each call.
-/

namespace Proc17.Runtime.Qa

open Lua Core Runtime.Repository

inductive GrantState where
  | active
  | running
  | completed
  | consumedFailed
  | quarantined
  deriving DecidableEq

def GrantState.name : GrantState → String
  | .active => "active"
  | .running => "running"
  | .completed => "completed"
  | .consumedFailed => "consumed_failed"
  | .quarantined => "quarantined"

def GrantState.isTerminal : GrantState → Bool
  | .active | .running => false
  | .completed | .consumedFailed | .quarantined => true

structure Grant where
  requestId : Bytes
  grantId : Bytes
  /-- The fields of `grant_identity`. -/
  identity : Value
  state : GrantState
  revision : Nat
  request : Value
  candidateSeal : Value
  closure : Value
  environmentLease : Value
  physicalTransactionId : Value
  physicalWitnessId : Value
  executionEntered : Bool
  pendingResult : Option Value
  pendingResultId : Option Bytes
  executionReceipt : Option Value
  quarantineReason : Option Bytes

structure Lease where
  grant : Nat
  runningRevision : Nat

/-- An entry of `state.receipts`. -/
structure Committed where
  receipt : Value
  result : Value
  grant : Nat

/-- What happened, for statements about runs; no call reads it. -/
inductive Happening where
  | entered (grant : Nat)
  | returned (grant : Nat) (result : Value)
  | revised (revision : Nat)

structure Capability where
  sessionId : Bytes
  /-- The registry table and the two private registries, which no result may hold. -/
  self : Value
  environmentRegistry : Value
  repositoryRegistry : Value
  grants : List Grant
  byRequest : Bytes → Option Nat
  leases : List Lease
  receipts : Bytes → Option Committed
  receiptsById : Bytes → Option Committed
  nextRevision : Nat
  /-- The calls of `with_execution` whose consumer still runs, the innermost first. -/
  frames : List Nat
  log : List Happening

def diagnostic (code : String) (detail : Value) : Value :=
  .record [
    ("protocol_version", .text "qa.execution_diagnostic.v0"),
    ("code", .text code),
    ("detail", detail.orElse (.text code)),
    ("event_truth_status", .text "runtime_confirmed")]

/-- `return nil, diagnostic(code, err)` for an answer `nil, err`. -/
def diagnosed {α : Type} (code : String) (answer : Except Failure α) : Except Failure α :=
  match answer with
  | .error (.refused err) => .error (.refused (diagnostic code err))
  | other => other

namespace Capability

def note (c : Capability) (happening : Happening) : Capability :=
  { c with log := c.log ++ [happening] }

/-- `next_revision`: the revision handed out is the one before. -/
def advance (c : Capability) : Capability :=
  ({ c with nextRevision := c.nextRevision + 1 }).note (.revised c.nextRevision)

def setGrant (c : Capability) (i : Nat) (grant : Grant) : Capability :=
  { c with grants := c.grants.set i grant }

def moveGrant (c : Capability) (i : Nat) (grant : Grant) (state : GrantState) : Capability :=
  (c.setGrant i { grant with state := state, revision := c.nextRevision }).advance

/-! ## Minting -/

def identityNames : List String :=
  ["packet_id", "lineage_id", "generation", "process_contract_id", "context", "stage_id",
    "repository_id", "candidate_seal_id", "candidate_seal_event_ref", "artifact_alignment_id",
    "qa_contract_id", "check_id", "profile_id", "environment_id", "request_id"]

def grantIdentity (request requestRef : Value) (sessionId : Bytes) : Value :=
  .record (("protocol_version", .text "qa.execution_grant.v1") ::
    ("session_id", .str sessionId) ::
    identityNames.map (fun name => (name, request.get name)) ++ [("request_ref", requestRef)])

def grantMatches (grant : Grant) (identity : Value) : Bool :=
  ("protocol_version" :: "session_id" :: "request_ref" :: identityNames).all fun name =>
    identity.get name = .nil || (grant.identity.get name).eq (identity.get name)

def projectionNames : List String :=
  ["session_id", "packet_id", "lineage_id", "generation", "process_contract_id", "context",
    "stage_id", "repository_id", "candidate_seal_id", "candidate_seal_event_ref",
    "artifact_alignment_id", "qa_contract_id", "check_id", "profile_id", "environment_id",
    "request_id", "request_ref"]

def grantProjection (grant : Grant) : Value :=
  .record (("protocol_version", .text "qa.execution_grant.v1") ::
    ("grant_id", .str grant.grantId) ::
    projectionNames.map (fun name => (name, (grant.identity.get name).deepCopy)) ++ [
      ("state", .text grant.state.name),
      ("revision", .nat grant.revision)])

/-- What the other modules answer when `mint` asks them. -/
structure MintFacts where
  mutable : Except Failure Unit
  actor : Except Failure Unit
  verified : Except Failure Unit
  /-- The body's request and its event. -/
  found : Except Failure (Value × Value)
  /-- The candidate seal and its closure. -/
  sealed : Except Failure (Value × Value)
  resolved : Except Failure Value
  measured : Except Failure Value

def requireEligible (c : Capability) (inst : Value) : Except Failure Unit := do
  let session ← inst.index "session_id"
  let status ← inst.index "status"
  let regime ← inst.index "regime"
  let work ← Action.guarded regime "work"
  let mode ← Action.guarded work "mode"
  require (session.eq (.str c.sessionId) = true ∧ status = .text "running"
      ∧ mode = .text "build")
    (.refused (diagnostic "packet_not_eligible"
      (.text "QA grant requires one living build Packet in its own session")))

def requireMeasured (code : String) (measured : Except Failure Value) (named : Value) :
    Except Failure Unit := do
  let value ← diagnosed code measured
  let environment ← value.index "environment_id"
  let profile ← value.index "profile_id"
  require (environment.eq (named.get "environment_id") = true
      ∧ profile.eq (named.get "profile_id") = true)
    (.refused (diagnostic code .nil))

structure MintPlan where
  requestId : Bytes
  identity : Value
  /-- The place of the grant that exists already. -/
  existing : Option (Nat × Grant)

/-- The checks of `mint` up to an existing grant. -/
def mintPlan (c : Capability) (inst request requestRef : Value) (facts : MintFacts) :
    Except Failure MintPlan := do
  diagnosed "packet_not_eligible" facts.mutable
  diagnosed "packet_not_eligible" facts.actor
  c.requireEligible inst
  diagnosed "request_invalid" facts.verified
  let (bodyRequest, event) ← diagnosed "request_event_absent" facts.found
  require ((event.get "id").eq requestRef = true ∧ event.get "operator" = .text "☶"
      ∧ event.get "truth_status" = .text "runtime_confirmed" ∧ same bodyRequest request = true)
    (.refused (diagnostic "request_event_ref_mismatch"
      (.text "private mint requires the exact body request event")))
  let identity := grantIdentity request requestRef c.sessionId
  match request.get "request_id" with
  | .str requestId =>
    match (c.byRequest requestId).bind fun i => (c.grants[i]?).map (Prod.mk i) with
    | some (i, grant) => do
        require (grantMatches grant identity = true)
          (.refused (diagnostic "grant_conflict"
            (.text "existing QA grant contradicts current request")))
        pure ⟨requestId, identity, some (i, grant)⟩
    | none => pure ⟨requestId, identity, none⟩
  | _ => .error (.fault "index")

/-- The rest of `mint` for a request without a grant. -/
def newGrant (c : Capability) (request : Value) (facts : MintFacts) (plan : MintPlan) :
    Except Failure Grant := do
  let (candidateSeal, closure) ← diagnosed "candidate_not_sealed" facts.sealed
  let lease ← diagnosed "environment_unavailable" facts.resolved
  requireMeasured "environment_unavailable" facts.measured request
  let grantId ← diagnosed "grant_identity_invalid" (Digest.identify "qa-grant:" plan.identity)
  pure {
    requestId := plan.requestId
    grantId := grantId
    identity := plan.identity.deepCopy
    state := .active
    revision := c.nextRevision
    request := request.deepCopy
    candidateSeal := candidateSeal
    closure := closure
    environmentLease := lease
    physicalTransactionId := .nil
    physicalWitnessId := .nil
    executionEntered := false
    pendingResult := none
    pendingResultId := none
    executionReceipt := none
    quarantineReason := none }

def addGrant (c : Capability) (grant : Grant) : Capability :=
  { c.advance with
    grants := c.grants ++ [grant]
    byRequest := Function.update c.byRequest grant.requestId (some c.grants.length) }

inductive Answer where
  | value (v : Value)
  | lease (place : Nat) (state : Value)
  | entered

def mint (c : Capability) (inst request requestRef : Value) (facts : MintFacts) :
    Reply Capability Answer :=
  transact (c.mintPlan inst request requestRef facts)
    (fun plan =>
      match plan.existing with
      | some (_, grant) => (.ok (.value (grantProjection grant)), c)
      | none =>
        transact (c.newGrant request facts plan)
          (fun grant => (.ok (.value (grantProjection grant)), c.addGrant grant)) c) c

/-! ## Beginning -/

def seedFields (grant : Grant) : List (String × Value) := [
  ("transaction_kind", .text "body_execution"),
  ("session_id", grant.identity.get "session_id"),
  ("lineage_id", grant.identity.get "lineage_id"),
  ("generation", grant.identity.get "generation"),
  ("repository_id", grant.identity.get "repository_id"),
  ("root_authority_id", grant.candidateSeal.get "root_authority_id"),
  ("lifecycle_id", grant.candidateSeal.get "lifecycle_id"),
  ("root_fingerprint", grant.candidateSeal.get "root_fingerprint"),
  ("closure_id", grant.closure.get "closure_id"),
  ("closure_request_id", grant.closure.get "request_id"),
  ("candidate_seal_id", grant.identity.get "candidate_seal_id"),
  ("candidate_seal_event_ref", grant.identity.get "candidate_seal_event_ref"),
  ("qa_request_id", .str grant.requestId),
  ("inventory_id", grant.candidateSeal.get "inventory_id"),
  ("inventory_digest", grant.candidateSeal.get "inventory_digest"),
  ("inventory_bounds", (grant.candidateSeal.get "inventory_bounds").deepCopy)]

def sourceSeed (grant : Grant) : Value :=
  .record (("protocol_version", .text "qa.body_source_transaction_seed.v0") :: seedFields grant)

def physicalIdentity (grant : Grant) : Except Failure (Bytes × Bytes) := do
  let transaction ← Digest.identify "qa-provider-transaction:" (sourceSeed grant)
  let witness ← Digest.identify "qa-provider-witness:" (.record [
    ("protocol_version", .text "qa.body_physical_witness_seed.v0"),
    ("transaction_id", .str transaction),
    ("request_id", .str grant.requestId),
    ("profile_id", grant.identity.get "profile_id"),
    ("environment_id", grant.identity.get "environment_id"),
    ("entrypoint", (grant.request.get "entrypoint").deepCopy),
    ("resource_limits", (grant.request.get "resource_limits").deepCopy)])
  pure (transaction, witness)

def executionState (grant : Grant) : Value :=
  .record [
    ("protocol_version", .text "qa.execution_state.v1"),
    ("grant_id", .str grant.grantId),
    ("request_id", .str grant.requestId),
    ("request_ref", (grant.identity.get "request_ref").deepCopy),
    ("state", .text grant.state.name),
    ("revision", .nat grant.revision),
    ("physical_transaction_id", grant.physicalTransactionId),
    ("event_truth_status", .text "runtime_confirmed")]

def grantFor (c : Capability) (requestId : Value) : Option (Nat × Grant) :=
  match requestId with
  | .str id => (c.byRequest id).bind fun i => (c.grants[i]?).map (Prod.mk i)
  | _ => none

def absentGrant : Failure :=
  .refused (diagnostic "grant_absent" (.text "exact private QA grant is absent"))

def beginPlan (c : Capability) (requestId requestRef : Value) (measured : Except Failure Value) :
    Except Failure (Nat × Grant) :=
  match c.grantFor requestId with
  | none => .error absentGrant
  | some (i, grant) => do
      require ((grant.identity.get "request_ref").eq requestRef = true) absentGrant
      require (grant.state = .active)
        (.refused (diagnostic "grant_not_active"
          (.text "QA execution authority was already consumed")))
      requireMeasured "environment_lease_stale" measured grant.identity
      let (transaction, witness) ← diagnosed "transaction_identity_invalid"
        (physicalIdentity grant)
      pure (i, { grant with
        physicalTransactionId := .str transaction
        physicalWitnessId := .str witness })

def startGrant (c : Capability) (i : Nat) (grant : Grant) : Capability :=
  { c.moveGrant i grant .running with leases := c.leases ++ [⟨i, c.nextRevision⟩] }

def beginExecution (c : Capability) (requestId requestRef : Value)
    (measured : Except Failure Value) : Reply Capability Answer :=
  transact (c.beginPlan requestId requestRef measured)
    (fun plan =>
      let running := { plan.2 with state := GrantState.running, revision := c.nextRevision }
      (.ok (.lease c.leases.length (executionState running)), c.startGrant plan.1 plan.2)) c

/-! ## The lease -/

/-- `execution_lease`: the place of the grant and the grant. -/
def executionLease (c : Capability) (place : Nat) (allowTerminal : Bool) :
    Except Failure (Nat × Grant) :=
  match c.leases[place]? with
  | none => .error (refuse "private QA execution lease required")
  | some lease =>
    match c.grants[lease.grant]? with
    | none => .error (.fault "index")
    | some grant => do
        require (c.byRequest grant.requestId = some lease.grant)
          (refuse "private QA grant identity changed")
        require (grant.state = .running ∨ allowTerminal = true ∧ grant.state.isTerminal = true)
          (refuse "private QA execution lease is not running")
        pure (lease.grant, grant)

/-! ## Execution -/

/-- `native_request` of a grant; a refused request is an assertion failure. -/
def nativeRequest (grant : Grant) : Except Failure Value := do
  let table ← PrivateResult.nativeRequestTable grant.request grant.physicalTransactionId
    grant.physicalWitnessId
  match Process.normalizeRequestV1 table with
  | .error (.refused err) => .error (.raised err)
  | answer => answer

def enterPlan (c : Capability) (place : Nat) (consumer : Value) : Except Failure (Nat × Grant) := do
  let (i, grant) ← c.executionLease place false
  require (grant.executionEntered = false) (refuse "QA execution callback was already entered")
  require (isFunction consumer = true) (refuse "QA execution consumer must be function")
  pure (i, grant)

def enter (c : Capability) (i : Nat) (grant : Grant) : Capability :=
  c.setGrant i { grant with executionEntered := true }

/-- `with_execution` up to the entry of the consumer.  The context it builds holds copies and
the native request. -/
def enterExecution (c : Capability) (place : Nat) (consumer : Value) :
    Reply Capability Answer :=
  transact (c.enterPlan place consumer)
    (fun plan =>
      let entered := c.enter plan.1 plan.2
      match nativeRequest plan.2 with
      | .error failure => (.error failure, entered)
      | .ok _ =>
        (.ok .entered, ({ entered with frames := plan.1 :: c.frames }).note (.entered plan.1)))
    c

def forbiddenResultKeys : List String :=
  ["registry", "environment_registry", "repository_registry", "lease", "environment_lease",
    "source_lease", "adapter", "provider", "handle", "fd", "descriptor", "host_path", "userdata"]

def resultGate (c : Capability) (grant : Grant) : Gate :=
  ⟨"QA execution callback", forbiddenResultKeys,
    [c.self, grant.environmentLease, c.environmentRegistry, c.repositoryRegistry]⟩

def consumerFailure (outcome : Outcome) : Value :=
  match outcome with
  | .raised err => err
  | .returned values => (values.getD 1 .nil).orElse (values.getD 0 .nil)

def consumerResult (c : Capability) (grant : Grant) (outcome : Outcome) :
    Except Failure (Value × Bytes) :=
  match outcome with
  | .raised _ => .error (refuseWith "QA execution consumer failed: " (consumerFailure outcome))
  | .returned values => do
      require (values.getD 0 .nil ≠ .nil)
        (refuseWith "QA execution consumer failed: " (consumerFailure outcome))
      require (values.length ≤ 2) (refuse "QA execution consumer returned too many values")
      let detached ← (c.resultGate grant).detach [] (values.getD 0 .nil)
      require (detached.truthy = true) (.refused .nil)
      let id ← Digest.identify "qa-provider-result:" detached
      pure (detached, id)

def keepResult (c : Capability) (i : Nat) (grant : Grant) (result : Value) (id : Bytes) :
    Capability :=
  (c.setGrant i { grant with
    pendingResult := some result.deepCopy, pendingResultId := some id }).note
    (.returned i result.deepCopy)

/-- The rest of `with_execution`, for the innermost consumer. -/
def leaveExecution (c : Capability) (outcome : Outcome) : Reply Capability Answer :=
  match c.frames with
  | [] => (.error (.fault "return"), c)
  | i :: rest =>
    match c.grants[i]? with
    | none => (.error (.fault "index"), c)
    | some grant =>
      let left := { c with frames := rest }
      match c.consumerResult grant outcome with
      | .error failure => (.error failure, left.moveGrant i grant .quarantined)
      | .ok (result, id) => (.ok (.value result.deepCopy), left.keepResult i grant result id)

/-! ## Commit -/

def authorityOf (grant : Grant) : Authority where
  request := grant.request
  physicalTransactionId := grant.physicalTransactionId
  physicalWitnessId := grant.physicalWitnessId
  inventoryId := grant.candidateSeal.get "inventory_id"

def isReport (result : Value) : Bool :=
  result.get "protocol_version" = .text "qa.provider_candidate_report.v1"

def sourceDisposition (result : Value) : Except Failure Value :=
  if isReport result then (result.get "source").index "disposition"
  else .ok (result.get "source_disposition")

def dispositionOf (result source : Value) : GrantState :=
  if isReport result then .completed
  else if source = .text "quarantined" then .quarantined
  else .consumedFailed

def receiptNames : List String :=
  ["packet_id", "lineage_id", "generation", "process_contract_id", "context", "stage_id",
    "repository_id", "candidate_seal_id", "artifact_alignment_id", "qa_contract_id", "check_id",
    "profile_id", "environment_id"]

def receiptFields (grant : Grant) (result source : Value) (resultId : Bytes) :
    List (String × Value) :=
  [("protocol_version", .text "qa.execution_receipt.v1"),
    ("request_id", .str grant.requestId),
    ("request_ref", grant.identity.get "request_ref"),
    ("grant_id", .str grant.grantId),
    ("physical_transaction_id", grant.physicalTransactionId)]
  ++ receiptNames.map (fun name => (name, grant.identity.get name))
  ++ [("result_kind", .text (if isReport result then "candidate_report" else "provider_error")),
    ("source_acquisition",
      if isReport result then .text "acquired" else result.get "source_acquisition"),
    ("source_disposition", source),
    ("normalized_result_id", .str resultId),
    ("transaction_disposition", .text (dispositionOf result source).name),
    ("cost", (result.get (if isReport result then "cost" else "measured_cost")).deepCopy),
    ("committed", .bool true)]

structure CommitPlan where
  place : Nat
  grant : Grant
  result : Value
  disposition : GrantState
  receiptId : Bytes
  receipt : Value

/-- Everything `commit` checks for a grant without a receipt. -/
def newReceipt (i : Nat) (grant : Grant) (supplied : Value) : Except Failure CommitPlan :=
  match grant.pendingResult, grant.pendingResultId with
  | some pending, some resultId => do
      require (grant.state = .running ∧ grant.executionEntered = true)
        (refuse "QA execution result is not ready for commit")
      require (same supplied pending = true)
        (refuse "QA execution commit changed callback result")
      let normalized ← PrivateResult.normalize supplied (authorityOf grant)
      require (same normalized pending = true)
        (refuse "QA execution result is not normalized")
      let source ← sourceDisposition normalized
      let fields := receiptFields grant normalized source resultId
      let id ← Digest.identify "qa-execution-receipt:" (.record fields)
      pure ⟨i, grant, normalized, dispositionOf normalized source, id,
        .record (("execution_receipt_id", .str id) :: fields)⟩
  | _, _ => .error (refuse "QA execution result is not ready for commit")

/-- `commit` on a grant that has its receipt. -/
def repeatedCommit (grant : Grant) (receipt supplied : Value) : Except Failure Value :=
  match Digest.identify "qa-provider-result:" supplied with
  | .ok id =>
    if some id = grant.pendingResultId then .ok receipt.deepCopy
    else .error (refuse "QA execution commit contradicts existing receipt")
  | .error (.refused _) => .error (refuse "QA execution commit contradicts existing receipt")
  | .error failure => .error failure

def committedOf (plan : CommitPlan) : Committed :=
  ⟨plan.receipt.deepCopy, plan.result.deepCopy, plan.place⟩

def keepReceipt (c : Capability) (plan : CommitPlan) : Capability :=
  { c.moveGrant plan.place
      { plan.grant with
        pendingResult := some plan.result.deepCopy
        executionReceipt := some plan.receipt.deepCopy } plan.disposition with
    receipts := Function.update c.receipts plan.grant.requestId (some (committedOf plan))
    receiptsById := Function.update c.receiptsById plan.receiptId (some (committedOf plan)) }

def commit (c : Capability) (place : Nat) (supplied : Value) : Reply Capability Answer :=
  transact (c.executionLease place true)
    (fun (i, grant) =>
      match grant.executionReceipt with
      | some receipt => ((repeatedCommit grant receipt supplied).map .value, c)
      | none =>
        transact (newReceipt i grant supplied)
          (fun plan => (.ok (.value plan.receipt.deepCopy), c.keepReceipt plan)) c) c

/-! ## Quarantine -/

def isForbiddenByte (b : UInt8) : Bool := b < 32 || b = 127

def quarantineReason (reason : Value) : Except Failure Bytes :=
  match reason with
  | .str s => do
      require (s ≠ [] ∧ s.length ≤ 4096 ∧ s.any isForbiddenByte = false)
        (refuse "QA execution quarantine reason is invalid")
      pure s
  | _ => .error (refuse "QA execution quarantine reason is invalid")

def quarantinePlan (c : Capability) (place : Nat) (reason : Value) :
    Except Failure (Nat × Grant × Bytes) := do
  let (i, grant) ← c.executionLease place true
  let text ← quarantineReason reason
  require (grant.state ≠ .completed ∧ grant.state ≠ .consumedFailed)
    (refuse "committed QA execution cannot be quarantined")
  pure (i, grant, text)

def quarantine (c : Capability) (place : Nat) (reason : Value) : Reply Capability Answer :=
  transact (c.quarantinePlan place reason)
    (fun (i, grant, text) =>
      if grant.state = .quarantined then (.ok (.value (executionState grant)), c)
      else
        let ended := { grant with
          state := GrantState.quarantined
          revision := c.nextRevision
          quarantineReason := some text }
        (.ok (.value (executionState ended)),
          c.moveGrant i { grant with quarantineReason := some text } .quarantined)) c

end Capability

/-! ## The machine -/

inductive Call where
  | mint (inst request requestRef : Value) (facts : Capability.MintFacts)
  | beginExecution (requestId requestRef : Value) (measured : Except Failure Value)
  | enter (lease : Nat) (consumer : Value)
  | leave (outcome : Outcome)
  | commit (lease : Nat) (result : Value)
  | quarantine (lease : Nat) (reason : Value)

def Capability.step (c : Capability) : Call → Reply Capability Capability.Answer
  | .mint inst request requestRef facts => c.mint inst request requestRef facts
  | .beginExecution requestId requestRef measured => c.beginExecution requestId requestRef measured
  | .enter lease consumer => c.enterExecution lease consumer
  | .leave outcome => c.leaveExecution outcome
  | .commit lease result => c.commit lease result
  | .quarantine lease reason => c.quarantine lease reason

def capabilityMachine : Machine Capability Call Capability.Answer := ⟨Capability.step⟩

def Capability.new (sessionId : Bytes) (self environmentRegistry repositoryRegistry : Value) :
    Capability where
  sessionId := sessionId
  self := self
  environmentRegistry := environmentRegistry
  repositoryRegistry := repositoryRegistry
  grants := []
  byRequest := fun _ => none
  leases := []
  receipts := fun _ => none
  receiptsById := fun _ => none
  nextRevision := 1
  frames := []
  log := []

end Proc17.Runtime.Qa
