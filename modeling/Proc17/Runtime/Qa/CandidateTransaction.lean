import Proc17.Runtime.Qa.Process
import Proc17.Runtime.Repository.QaSource

/-!
# The candidate transaction

`runtime/qa_candidate_transaction.lua`: one lent QA source is inventoried, run in the
measured environment and inventoried again, and then finished under one disposition.
The three foreign parties answer as they like; what they were asked is kept in the list
of steps.
-/

namespace Proc17.Runtime.Qa

open Lua Core Runtime.Repository

namespace CandidateTransaction

open Process

/-! ## The plan -/

def planKeys : List String :=
  ["protocol_version", "transaction_kind", "physical_transaction_id", "physical_witness_id",
    "profile_id", "environment_id", "repository_id", "root_authority_id", "lifecycle_id",
    "root_fingerprint", "closure_id", "closure_request_id", "candidate_seal_id",
    "candidate_seal_event_ref", "inventory_id", "inventory_digest", "inventory_bounds",
    "native_request"]

def planCoordinates : List String :=
  ["physical_transaction_id", "physical_witness_id", "profile_id", "environment_id",
    "repository_id", "root_authority_id", "lifecycle_id", "root_fingerprint", "closure_id",
    "closure_request_id", "candidate_seal_id", "candidate_seal_event_ref", "inventory_id",
    "inventory_digest"]

structure Plan where
  table : Value
  bounds : Value
  nativeRequest : Value

def Plan.get (plan : Plan) (name : String) : Value := plan.table.get name

def exactPlan (value : Value) : Except Failure Plan := do
  exactKeys value planKeys planKeys "QA candidate transaction plan"
  require (value.get "protocol_version" = .text "qa.candidate_transaction_plan.v0"
      ∧ (value.get "transaction_kind" = .text "provider_witness"
        ∨ value.get "transaction_kind" = .text "body_execution"))
    (refuse "QA candidate transaction plan envelope is invalid")
  planCoordinates.forM fun key =>
    require ((value.get key).isNonEmptyString = true)
      (refuse ("QA candidate transaction coordinate is invalid: " ++ key))
  let bounds ← normalizeInventoryBounds (value.get "inventory_bounds")
  let request ← normalizeRequestV1 (value.get "native_request")
  require (request.get "transaction_id" = value.get "physical_transaction_id"
      ∧ request.get "witness_id" = value.get "physical_witness_id"
      ∧ request.get "profile_id" = value.get "profile_id"
      ∧ request.get "environment_id" = value.get "environment_id"
      ∧ value.get "profile_id" = profileId)
    (refuse "QA candidate transaction native identity mismatch")
  pure ⟨value.deepCopy, bounds, request⟩

/-! ## Foreign parties -/

/-- One entry into the function `with_environment` is given: the pair it is entered with,
and what `provider.run` does if it is reached. -/
structure Entry where
  provider : Value
  measured : Value
  run : Outcome

/-- `with_environment`: how often it enters the function, and what it makes of the replies. -/
structure Callback where
  entries : List Entry
  answer : List Outcome → Outcome

structure Foreign where
  first : Outcome
  callback : Callback
  second : Outcome

inductive Step where
  | inventory (answer : Outcome)
  | run (entry : Entry)

/-! ## Inventories -/

/-- The third value of `inventory_observation`. -/
inductive Distrust where
  | trusted
  | identity
  | provider
  | world

def Distrust.contradicts : Distrust → Bool
  | .trusted => true
  | .identity => true
  | _ => false

structure Miss where
  detail : Value
  distrust : Distrust

def isAt (identity : Identity) (value : Value) : Bool :=
  value.isTable && (value.get "device").eq (.num identity.device)
    && (value.get "inode").eq (.num identity.inode)

def inventoryRootMatches (r : Registry) (i : Nat) (before after : Value) : Except Failure Bool := do
  let lease ← r.qaLeaseAt i
  require (lease.finished = false) (refuse "repository QA source lease already finished")
  let live ← r.liveSource lease
  pure (isAt live.root.identity before && isAt live.root.identity after)

def Plan.coordinates (plan : Plan) : Value :=
  .record [
    ("request_id", plan.get "closure_request_id"),
    ("root_fingerprint", plan.get "root_fingerprint"),
    ("inventory_bounds", plan.bounds),
    ("root_continuity", .text "proven")]

def normalized (plan : Plan) (raw : Value) : Except Failure (Except Miss Inventory) :=
  match Inventory.normalizeProviderResult raw plan.coordinates with
  | .error (.refused err) => .ok (.error ⟨err, .trusted⟩)
  | .error failure => .error failure
  | .ok observation =>
    match observation.verdict with
    | .observed inventory => .ok (.ok inventory)
    | _ => .ok (.error ⟨.text "QA source inventory is not an exact observation", .world⟩)

/-- `inventory_observation`, from the answer of the provider on. -/
def inventoryObservation (r : Registry) (i : Nat) (plan : Plan) (answer : Outcome) :
    Except Failure (Except Miss Inventory) :=
  match answer with
  | .raised err => .error (.raised err)
  | .returned values => do
      let raw := values.getD 0 .nil
      if raw.truthy = false then
        pure (.error ⟨(values.getD 1 .nil).orElse (.text "repository inventory failed"), .provider⟩)
      else do
        let before ← raw.index "root_before"
        let after ← raw.index "root_after"
        match inventoryRootMatches r i before after with
        | .error (.refused err) => pure (.error ⟨err, .trusted⟩)
        | .error failure => .error failure
        | .ok false => pure (.error ⟨.text "QA source inventory root changed", .identity⟩)
        | .ok true => normalized plan raw

/-- `inventory_observation` -/
def takeInventory (r : Registry) (i : Nat) (plan : Plan) (answer : Outcome) (steps : List Step) :
    Reply (List Step) (Except Miss Inventory) :=
  let provider := r.provider.getD .nil
  if provider.isTable && isFunction (provider.get "inventory_tree") then
    (inventoryObservation r i plan answer, steps ++ [.inventory answer])
  else
    (.ok (.error ⟨.text "root-bound repository inventory provider is invalid", .trusted⟩), steps)

def matchesSeal (inventory : Inventory) (plan : Plan) : Except Failure Bool :=
  if .str inventory.inventoryId = plan.get "inventory_id"
      ∧ .str inventory.inventoryDigest = plan.get "inventory_digest" then
    Json.same inventory.bounds plan.bounds
  else pure false

/-! ## The run -/

def Entry.isMeasured (entry : Entry) (plan : Plan) : Bool :=
  entry.provider.isTable && isFunction (entry.provider.get "run") && entry.measured.isTable
    && entry.measured.get "environment_id" = plan.get "environment_id"
    && entry.measured.get "profile_id" = plan.get "profile_id"
    && entry.measured.get "provider_id" = providerId
    && entry.measured.get "supervisor_abi" = supervisorAbi

/-- What the function given to `with_environment` replies to an entry. -/
def Entry.reply (entry : Entry) (plan : Plan) : Outcome :=
  if entry.isMeasured plan then
    match entry.run with
    | .raised err => .raised err
    | .returned values =>
      .returned [.record [
        ("process", (values.getD 0 .nil).deepCopy),
        ("process_error", (values.getD 1 .nil).deepCopy)]]
  else .raised (.text "measured QA provider/environment pair changed")

def callbackFailed (err : Value) : Failure :=
  .raised (.str (utf8 "QA candidate environment callback failed: " ++ err.tostring))

/-- `run_candidate`, and the error its caller raises when it answers nothing. -/
def runCandidate (plan : Plan) (withEnvironment : Value) (callback : Callback)
    (steps : List Step) : Reply (List Step) Value :=
  if isFunction withEnvironment then
    let entered := callback.entries.filter fun entry => entry.isMeasured plan
    let joined : Except Failure Value :=
      match callback.answer (callback.entries.map fun entry => entry.reply plan) with
      | .raised err => .error (.raised err)
      | .returned values =>
        let joined := values.getD 0 .nil
        if joined.truthy = false then
          .error (callbackFailed ((values.getD 1 .nil).orElse
            (.text "measured QA environment callback failed")))
        else if joined.isTable = false then
          .error (callbackFailed
            (.text "measured QA environment callback returned invalid data"))
        else .ok joined
    (joined, steps ++ entered.map .run)
  else (.error (callbackFailed (.text "measured QA environment callback is required")), steps)

/-! ## Pending records -/

def pendingError (disposition : String) (code errorClass stage process sourceStable loud
    detail : Value) : Value :=
  .record [
    ("kind", .text "error"),
    ("disposition", .text disposition),
    ("loud", loud),
    ("code", code),
    ("class", errorClass),
    ("stage", stage),
    ("process", process),
    ("source_stable", sourceStable),
    ("detail", detail)]

def preflightMissed (miss : Miss) : Value :=
  if miss.distrust.contradicts then
    pendingError "quarantined" (.text "trusted_inventory_contradiction") (.text "ambiguous")
      (.text "preflight") .nil (.bool false) (.bool true) miss.detail
  else
    pendingError "consumed" (.text "source_preflight_unavailable") (.text "world")
      (.text "preflight") .nil (.bool false) (.bool false) miss.detail

def preflightMismatch : Value :=
  pendingError "consumed" (.text "source_preflight_mismatch") (.text "world")
    (.text "preflight") .nil (.bool true) .nil .nil

def postflightFailed (contradicts : Bool) (process detail : Value) : Value :=
  pendingError "quarantined"
    (.text (if contradicts then "trusted_inventory_contradiction" else "source_drift"))
    (.text "ambiguous") (.text "postflight") process (.bool false) (.bool contradicts) detail

def report (process : Value) (pre post : Inventory) : Value :=
  .record [
    ("kind", .text "report"),
    ("disposition", .text "consumed"),
    ("process", process),
    ("pre_inventory_id", .str pre.inventoryId),
    ("post_inventory_id", .str post.inventoryId)]

def processFailed (reuse : ReuseClass) (err : Value) : Value :=
  pendingError (if reuse = .cleanPrestart then "consumed" else "quarantined") (err.get "code")
    (err.get "class") (err.get "stage") err (.bool true) .nil .nil

/-- A run that left no observation and a stable source. -/
def concludeError (err : Value) : Except Failure Value := do
  require (err.isTable = true
      ∧ err.get "protocol_version" = .text "qa.provider_process_error.v1")
    (raise "QA provider returned an invalid process error")
  match errorReuseClassV1 err with
  | .error (.refused reason) =>
    .error (.raised (.str
      (utf8 "QA provider returned an invalid process error topology: " ++ reason.tostring)))
  | .error failure => .error failure
  | .ok reuse => pure (processFailed reuse err)

def conclude (pre : Inventory) (joined : Value) (post : Except Miss Inventory) :
    Except Failure Value :=
  let process := joined.get "process"
  let err := joined.get "process_error"
  match post with
  | .error miss =>
    pure (postflightFailed miss.distrust.contradicts (process.orElse err) miss.detail)
  | .ok post => do
      let stable ← Json.same pre.table post.table
      if stable = false then pure (postflightFailed false (process.orElse err) .nil)
      else if process.truthy then pure (report process pre post)
      else concludeError err

def consumer (r : Registry) (i : Nat) (plan : Plan) (withEnvironment : Value) (f : Foreign) :
    Reply (List Step) Value :=
  (takeInventory r i plan f.first []).andThen fun observed steps =>
    match observed with
    | .error miss => (.ok (preflightMissed miss), steps)
    | .ok pre =>
      match matchesSeal pre plan with
      | .error failure => (.error failure, steps)
      | .ok false => (.ok preflightMismatch, steps)
      | .ok true =>
        (runCandidate plan withEnvironment f.callback steps).andThen fun joined steps =>
          (takeInventory r i plan f.second steps).andThen fun post steps =>
            (conclude pre joined post, steps)

/-! ## The transaction -/

def sourceDisposition (plan : Plan) (state reason : Value) : Value :=
  .record [
    ("protocol_version", .text "repository.qa_source_disposition.v0"),
    ("transaction_id", plan.get "physical_transaction_id"),
    ("state", state),
    ("reason", reason),
    ("event_truth_status", .text "runtime_confirmed")]

def outcomeOf (answer : Except Failure Value) : Outcome :=
  match answer with
  | .ok v => .returned [v]
  | .error (.refused err) => .returned [.nil, err]
  | .error (.raised err) => .raised err
  | .error (.fault operation) => .raised (.text operation)

def consumerValue : Value := .ref .function 1

def lent (r : Registry) (i : Nat) (plan : Plan) (withEnvironment : Value) (f : Foreign) :
    Reply (List Step) Value :=
  match r.withPlan i consumerValue with
  | .error failure => (.error failure, [])
  | .ok live => consumer (r.consume i live) i plan withEnvironment f

def raiseWith (label : String) (err : Value) : Failure :=
  .raised (.str (utf8 label ++ err.tostring))

/-- `error(label .. tostring(err))` after a call that answered nothing. -/
def orRaise {α : Type} (label : String) (answer : Except Failure α) : Except Failure α :=
  match answer with
  | .error (.refused err) => .error (raiseWith label err)
  | other => other

/-- `pending.code or "candidate_transaction_ambiguous"` of a pending quarantine. -/
def finishReason (pending : Value) : Value :=
  if pending.get "disposition" = .text "quarantined" then
    (pending.get "code").orElse (.text "candidate_transaction_ambiguous")
  else .nil

def settle (r : Registry) (w : World) (i : Nat) (plan : Plan) (pending : Value) :
    Reply Registry Value :=
  let finished := r.finishQaSource w i
    (sourceDisposition plan (pending.get "disposition") (finishReason pending))
  (do
    orRaise "QA candidate transaction source finality failed: " finished.1
    require ((pending.get "loud").truthy = false)
      (raiseWith "QA candidate transaction trusted contradiction after finality: "
        ((pending.get "detail").orElse (pending.get "code")))
    pure pending.deepCopy, finished.2)

/-- The part of `transaction.execute` after the consumer failed. -/
def abandon (r : Registry) (w : World) (i : Nat) (plan : Plan) (err : Value) :
    Reply Registry Value :=
  let finished := r.finishQaSource w i
    (sourceDisposition plan (.text "quarantined")
      (.text "candidate_transaction_callback_failed"))
  (do
    orRaise "QA candidate transaction cleanup failed: " finished.1
    .error (raiseWith "QA candidate transaction callback failed: " err), finished.2)

/-- How `transaction.execute` ends, the registry it leaves, and what it asked for. -/
structure Conclusion where
  answer : Except Failure Value
  registry : Registry
  steps : List Step

def execute (r : Registry) (w : World) (i : Nat) (supplied withEnvironment : Value)
    (f : Foreign) : Conclusion :=
  match exactPlan supplied with
  | .error failure => ⟨.error failure, r, []⟩
  | .ok plan =>
    let consumed := lent r i plan withEnvironment f
    let answered := r.withQaSource { w with consumer := outcomeOf consumed.1 } i consumerValue
    let ended :=
      match answered.1 with
      | .ok pending =>
        if pending.truthy then settle answered.2 w i plan pending
        else abandon answered.2 w i plan .nil
      | .error (.refused err) => abandon answered.2 w i plan err
      | .error failure => (.error failure, answered.2)
    ⟨ended.1, ended.2, consumed.2⟩

end CandidateTransaction

end Proc17.Runtime.Qa
