import Proc17.Lua.Detach
import Proc17.Runtime.Repository.Seal

/-!
# The QA source of a sealed root

A sealed root lends its retained handle once: `reserve_qa_source` binds it to one
transaction, `with_qa_source` passes it to one consumer and detaches what comes back,
and `finish_qa_source` closes it under a disposition.
-/

namespace Proc17.Runtime.Repository.Registry

open Lua Core

/-! ## The binding -/

def qaSourceBindingKeys : List String :=
  ["protocol_version", "transaction_kind", "session_id", "lineage_id", "generation",
    "repository_id", "root_authority_id", "lifecycle_id", "root_fingerprint", "closure_id",
    "candidate_seal_id", "candidate_seal_event_ref", "closure_request_id", "qa_request_id",
    "inventory_id", "inventory_digest", "inventory_bounds", "transaction_id",
    "event_truth_status"]

/-- The seed of a transaction: the binding's own fields in the order of the source, with
the normalized bounds. -/
def transactionSeed (protocol : String) (binding bounds : Value) (names : List String) : Value :=
  .record (("protocol_version", .text protocol) ::
    names.map (fun name => (name, binding.get name)) ++ [("inventory_bounds", bounds)])

def seedNames : List String :=
  ["transaction_kind", "session_id", "lineage_id", "generation", "repository_id",
    "root_authority_id", "lifecycle_id", "root_fingerprint", "closure_id",
    "closure_request_id", "candidate_seal_id", "candidate_seal_event_ref"]

inductive TransactionKind where
  | providerWitness
  | bodyExecution

def requireTransaction (binding seed : Value) (message : String) : Except Failure Unit := do
  let id ← Digest.identify "qa-provider-transaction:" seed
  require (binding.get "transaction_id" = .str id) (refuse message)

def transactionKind (binding bounds : Value) : Except Failure TransactionKind :=
  if binding.get "transaction_kind" = .text "provider_witness" then do
    require (binding.get "qa_request_id" = .nil)
      (refuse "provider witness binding cannot carry qa_request_id")
    requireTransaction binding
      (transactionSeed "qa.provider_source_transaction_seed.v0" binding bounds
        (seedNames ++ ["inventory_id", "inventory_digest"]))
      "provider witness transaction identity mismatch"
    pure .providerWitness
  else if binding.get "transaction_kind" = .text "body_execution" then do
    requireTexts binding ["qa_request_id"] "QA source "
    requireTransaction binding
      (transactionSeed "qa.body_source_transaction_seed.v0" binding bounds
        (seedNames ++ ["qa_request_id", "inventory_id", "inventory_digest"]))
      "body execution transaction identity mismatch"
    pure .bodyExecution
  else .error (refuse "QA source transaction_kind is invalid")

def validateQaSourceBinding (binding : Value) : Except Failure (Value × TransactionKind) := do
  require (isPlainTable binding = true) (refuse "QA source binding must be a plain table")
  validateKeys binding qaSourceBindingKeys "QA source binding"
  requireKeys binding (qaSourceBindingKeys.filter (· ≠ "qa_request_id")) "QA source binding"
  require (binding.get "protocol_version" = .text "repository.qa_source_binding.v1"
      ∧ binding.get "event_truth_status" = .text "runtime_confirmed")
    (refuse "QA source binding protocol or truth status is invalid")
  requireTexts binding
    ["session_id", "lineage_id", "repository_id", "root_authority_id", "lifecycle_id",
      "root_fingerprint", "closure_id", "candidate_seal_id", "candidate_seal_event_ref",
      "closure_request_id", "inventory_id", "inventory_digest", "transaction_id"] "QA source "
  requirePositive binding ["generation"] "QA source "
  let bounds ← normalizeInventoryBounds (binding.get "inventory_bounds")
  let kind ← transactionKind binding bounds
  pure (bounds, kind)

/-! ## Reservation -/

def bindingMatches (r : Registry) (root : Root) (claim : Claim) (source : QaSource)
    (binding : Value) : Bool :=
  let closure := root.closureProjection
  binding.get "session_id" = .str r.sessionId
    && binding.get "lineage_id" = .str root.lineageId
    && binding.get "repository_id" = .str root.repositoryId
    && binding.get "root_authority_id" = .str root.rootAuthorityId
    && binding.get "root_fingerprint" = .str root.identity.fingerprint
    && binding.get "lifecycle_id" = .str claim.lifecycleId
    && (binding.get "generation").eq (.num claim.generation)
    && closure.get "closure_id" = binding.get "closure_id"
    && closure.get "request_id" = binding.get "closure_request_id"
    && closure.get "root_authority_id" = binding.get "root_authority_id"
    && closure.get "lifecycle_id" = binding.get "lifecycle_id"
    && closure.get "root_fingerprint" = binding.get "root_fingerprint"
    && closure.get "inventory_id" = binding.get "inventory_id"
    && closure.get "inventory_digest" = binding.get "inventory_digest"
    && closure.get "grant_id" = .str source.grantId

def reservationDenial (binding bounds : Value) : Except Failure Value := do
  let fields : List (String × Value) :=
    ("protocol_version", .text "repository.qa_source_reservation_denial.v0") ::
      ["transaction_kind", "transaction_id", "qa_request_id", "session_id", "lineage_id",
        "generation", "repository_id", "root_authority_id", "lifecycle_id",
        "root_fingerprint", "closure_id", "closure_request_id", "candidate_seal_id",
        "candidate_seal_event_ref", "inventory_id", "inventory_digest"].map
        (fun name => (name, binding.get name))
      ++ [("inventory_bounds", bounds),
        ("code", .text "source_reservation_unavailable"),
        ("source_acquisition", .text "not_acquired"),
        ("source_lease_created", .bool false),
        ("provider_entry_observed", .bool false),
        ("event_truth_status", .text "runtime_confirmed")]
  let id ← Digest.identify "repository-qa-source-denial:" (.record fields)
  pure (.record (("denial_id", .str id) :: fields))

structure ReservePlan where
  rootId : Bytes
  root : Root
  source : QaSource
  transactionId : Bytes

def refuseReservation (kind : TransactionKind) (binding bounds : Value) : Failure :=
  match kind with
  | .providerWitness => deny "repository_qa_source_already_reserved"
  | .bodyExecution =>
    match reservationDenial binding bounds with
    | .ok denial => .refused denial
    | .error failure => failure

def reservePlanFor (r : Registry) (rootId : Bytes) (root : Root) (kind : TransactionKind)
    (binding bounds : Value) : Except Failure ReservePlan := do
  require (root.state = .sealed) (deny "repository_candidate_not_sealed")
  match root.claim, root.qaSource with
  | some claim, some source => do
      require (root.closureProjection.isTable = true)
        (refuse "sealed repository root lacks private QA source")
      let closureSame ← Json.same (root.closureProjection.get "inventory_bounds") bounds
      let rootSame ← Json.same root.inventoryBounds bounds
      require (r.bindingMatches root claim source binding = true ∧ closureSame = true
          ∧ rootSame = true)
        (deny "repository_qa_source_binding_mismatch")
      if source.state = .available ∧ source.transactionId = none then do
        require (source.handle.isSome = true)
          (refuse "available repository QA source lacks private handle")
        let transactionId ← nonEmpty (binding.get "transaction_id") "QA source transaction_id"
        pure ⟨rootId, root, source, transactionId⟩
      else .error (refuseReservation kind binding bounds)
  | _, _ => .error (refuse "sealed repository root lacks private QA source")

def reservePlan (r : Registry) (binding : Value) : Except Failure ReservePlan := do
  let (bounds, kind) ← validateQaSourceBinding binding
  match binding.get "root_authority_id" with
  | .str rootId =>
    match r.roots rootId with
    | none => .error (deny "repository_root_missing")
    | some root => r.reservePlanFor rootId root kind binding bounds
  | _ => .error (deny "repository_root_missing")

def setSource (r : Registry) (id : Bytes) (root : Root) (source : QaSource) : Registry :=
  r.setRoot id { root with qaSource := some source }

def newQaLease (plan : ReservePlan) : QaLease where
  rootId := plan.rootId
  rootRevision := plan.root.revision
  closureId := plan.root.closureId
  transactionId := plan.transactionId
  attempted := false
  finished := false
  disposition := none

def reserve (r : Registry) (plan : ReservePlan) : Registry :=
  { (r.setSource plan.rootId plan.root
      { plan.source with state := .reserved, transactionId := some plan.transactionId }).note
      (.reserved plan.rootId) with
    qaLeases := r.qaLeases ++ [newQaLease plan] }

/-- `capability.reserve_qa_source`: the place of the lease issued. -/
def reserveQaSource (r : Registry) (binding : Value) : Reply Registry Nat :=
  transact (r.reservePlan binding) (fun plan => (.ok r.qaLeases.length, r.reserve plan)) r

/-! ## The lease -/

structure LiveSource where
  lease : QaLease
  root : Root
  source : QaSource
  handle : Nat

/-- `qa_source_lease_state` of a lease that is not finished.  The source of a root is
made once, so it is the one the lease was issued for. -/
def liveSource (r : Registry) (lease : QaLease) : Except Failure LiveSource :=
  match r.roots lease.rootId with
  | none => .error (.fault "index")
  | some root =>
    match root.qaSource with
    | none => .error (refuse "repository QA source private state changed")
    | some source =>
      match source.handle with
      | none => .error (refuse "repository QA source private state changed")
      | some handle => do
          require (root.state = .sealed ∧ root.revision = lease.rootRevision
              ∧ root.closureId = lease.closureId ∧ root.closureProjection ≠ .nil
              ∧ (r.provider.any fun provider =>
                provider.isTable && isFunction (provider.get "inventory_tree")) = true
              ∧ source.transactionId = some lease.transactionId)
            (refuse "repository QA source private state changed")
          pure ⟨lease, root, source, handle⟩

def qaLeaseAt (r : Registry) (i : Nat) : Except Failure QaLease :=
  match r.qaLeases[i]? with
  | none => .error (refuse "invalid repository QA source lease")
  | some lease => .ok lease

/-! ## Detaching a consumer's result -/

def forbiddenDetachedKeys : List String :=
  ["fd", "descriptor", "handle", "host_path", "repository_handle", "userdata"]

def sourceGate (handle provider : Value) : Gate :=
  ⟨"QA source consumer", forbiddenDetachedKeys, [handle, provider]⟩

def detachedKey (key : Value) : Except Failure Unit := (sourceGate .nil .nil).key key

/-- `detach_qa_source_result`; `seen` holds the tables on the way to the value. -/
def detach (handle provider : Value) (seen : List Nat) (v : Value) : Except Failure Value :=
  (sourceGate handle provider).detach seen v

/-! ## Consumption -/

def withPlan (r : Registry) (i : Nat) (consumer : Value) : Except Failure LiveSource := do
  let lease ← r.qaLeaseAt i
  require (lease.finished = false) (refuse "repository QA source lease already finished")
  let live ← r.liveSource lease
  require (isFunction consumer = true) (refuse "repository QA source consumer must be function")
  require (lease.attempted = false) (refuse "repository QA source lease already consumed")
  pure live

def consumerAnswer (handle provider : Value) (outcome : Outcome) : Except Failure Value :=
  match outcome with
  | .raised err => .error (refuseWith "repository QA source consumer failed: " err)
  | .returned values =>
    if 2 < values.length then
      .error (refuse "repository QA source consumer returned too many values")
    else if values.getD 0 .nil = .nil then do
      let detached ← detach handle provider [] (values.getD 1 .nil)
      .error (.refused (detached.orElse (.text "QA source consumer failed")))
    else detach handle provider [] (values.getD 0 .nil)

def consume (r : Registry) (i : Nat) (live : LiveSource) : Registry :=
  ((r.setQaLease i { live.lease with attempted := true }).setSource live.lease.rootId live.root
    { live.source with state := .inUse }).note (.consumed live.lease.rootId live.handle)

def withQaSource (r : Registry) (w : World) (i : Nat) (consumer : Value) :
    Reply Registry Value :=
  transact (r.withPlan i consumer)
    (fun live =>
      (consumerAnswer (handleValue live.handle) (r.provider.getD .nil) w.consumer,
        (r.consume i live).setSource live.lease.rootId live.root
          { live.source with state := .used })) r

/-! ## Finishing -/

def validateQaSourceDisposition (value : Value) (transactionId : Bytes) :
    Except Failure Verdict := do
  validateKeys value
    ["protocol_version", "transaction_id", "state", "reason", "event_truth_status"]
    "QA source disposition"
  require (value.hasMetatable = false) (refuse "QA source disposition must be a plain table")
  require (value.get "protocol_version" = .text "repository.qa_source_disposition.v0"
      ∧ value.get "transaction_id" = .str transactionId
      ∧ value.get "event_truth_status" = .text "runtime_confirmed")
    (refuse "QA source disposition is invalid")
  if value.get "state" = .text "consumed" ∧ value.get "reason" = .nil then pure .consumed
  else
    match value.get "reason" with
    | .str (b :: rest) => do
        require (value.get "state" = .text "quarantined")
          (refuse "QA source disposition is invalid")
        pure (.quarantined (b :: rest))
    | _ => .error (refuse "QA source disposition is invalid")

structure FinishPlan where
  lease : QaLease
  verdict : Verdict
  /-- None when the lease is finished already, with this verdict. -/
  live : Option LiveSource

def finishPlan (r : Registry) (i : Nat) (disposition : Value) : Except Failure FinishPlan := do
  let lease ← r.qaLeaseAt i
  if lease.finished then do
    let verdict ← validateQaSourceDisposition disposition lease.transactionId
    require (lease.disposition = some verdict)
      (refuse "repository QA source received contradictory disposition")
    pure ⟨lease, verdict, none⟩
  else do
    let live ← r.liveSource lease
    let verdict ← validateQaSourceDisposition disposition lease.transactionId
    require (lease.attempted = true)
      (refuse "repository QA source cannot finish before consumption")
    pure ⟨lease, verdict, some live⟩

def finish (r : Registry) (i : Nat) (live : LiveSource) (verdict : Verdict) : Registry :=
  ((r.setQaLease i { live.lease with finished := true, disposition := some verdict }).setSource
    live.lease.rootId live.root
    { live.source with state := verdict.state, disposition := some verdict, handle := none }).note
    (.closed live.handle)

def finishQaSource (r : Registry) (w : World) (i : Nat) (disposition : Value) :
    Reply Registry Unit :=
  transact (r.finishPlan i disposition)
    (fun plan =>
      match plan.live with
      | none => (.ok (), r)
      | some live =>
        (closeAnswer "repository QA source close failed: " (w.close live.handle),
          r.finish i live plan.verdict)) r

end Proc17.Runtime.Repository.Registry
