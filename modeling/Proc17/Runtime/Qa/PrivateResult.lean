import Proc17.Runtime.Qa.Process

/-!
# Private results

`runtime/qa_private_result.lua`: what a QA execution hands back to the capability registry.
A pending record of the candidate transaction becomes a report or an error, and either is
checked again against the authority it was made under.
-/

namespace Proc17.Runtime.Qa

open Lua Core Runtime.Repository

/-- The fields of the `authority` argument that are read. -/
structure Authority where
  request : Value
  physicalTransactionId : Value
  physicalWitnessId : Value
  inventoryId : Value

namespace PrivateResult

open Process

def reportKeys : List String :=
  ["protocol_version", "operation", "request_id", "physical_transaction_id",
    "physical_witness_id", "profile_id", "environment_id", "outcome", "reason", "termination",
    "cause", "finality", "source", "stdout", "stderr", "resources", "scratch", "cost",
    "event_truth_status"]

def errorKeys : List String :=
  ["protocol_version", "request_id", "physical_transaction_id", "physical_witness_id",
    "profile_id", "environment_id", "class", "code", "stage", "candidate_start_state",
    "source_acquisition", "source_stable", "source_disposition", "cleanup_state",
    "launcher_reaped", "result_eof", "measured_cost", "event_truth_status"]

def sourceKeys : List String := ["pre_inventory_id", "post_inventory_id", "stable", "disposition"]

def bodyErrorCodes : List String :=
  ["source_reservation_unavailable", "source_preflight_unavailable", "source_preflight_mismatch",
    "source_drift", "supervisor_unavailable", "source_staging_failed", "supervisor_crashed",
    "result_pipe_lost", "terminal_frame_missing", "reap_ambiguous",
    "output_observation_incomplete", "scratch_observation_incomplete",
    "namespace_cleanup_incomplete"]

def first (value : Value) : Except Failure Value := Action.indexBy value (.nat 1)

def nativeRequestTable (request transactionId witnessId : Value) : Except Failure Value := do
  let entrypoint ← request.index "entrypoint"
  let path ← entrypoint.index "relative_path"
  let codes ← request.index "expected_exit_codes"
  let code ← first codes
  pure (.record [
    ("protocol_version", .text "qa.native_run_request.v1"),
    ("operation", .text "run_lua54_test_suite"),
    ("transaction_id", transactionId),
    ("witness_id", witnessId),
    ("profile_id", request.get "profile_id"),
    ("environment_id", request.get "environment_id"),
    ("entrypoint_relative_path", path),
    ("expected_exit_code", code),
    ("resource_limits", (request.get "resource_limits").deepCopy)])

def nativeRequest (authority : Authority) : Except Failure Value := do
  require (authority.request.isTable = true) (refuse "QA private result authority lacks request")
  let table ← nativeRequestTable authority.request authority.physicalTransactionId
    authority.physicalWitnessId
  normalizeRequestV1 table

def identityMatches (value : Value) (authority : Authority) : Bool :=
  let request := authority.request
  request.isTable
    && (value.get "request_id").eq (request.get "request_id")
    && (value.get "physical_transaction_id").eq authority.physicalTransactionId
    && (value.get "physical_witness_id").eq authority.physicalWitnessId
    && (value.get "profile_id").eq (request.get "profile_id")
    && (value.get "environment_id").eq (request.get "environment_id")
    && value.get "event_truth_status" = .text "runtime_confirmed"

/-! ## Reports -/

/-- `termination_kinds[kind]`, the ordinal of a kind. -/
def terminationOrdinal (kind : Value) : Value :=
  if kind = .text "exit" then .nat 1
  else if kind = .text "signal" then .nat 2
  else if kind = .text "supervisor_kill" then .nat 3
  else .nil

def rawFromReport (value : Value) : Except Failure Value := do
  let termination := value.get "termination"
  let kind ← termination.index "kind"
  let exitCode ← termination.index "exit_code"
  let signal ← termination.index "signal"
  pure (.record [
    ("protocol_version", .text "qa.native_run_result.v1"),
    ("transaction_id", value.get "physical_transaction_id"),
    ("witness_id", value.get "physical_witness_id"),
    ("profile_id", value.get "profile_id"),
    ("environment_id", value.get "environment_id"),
    ("phase_ordinal", .nat 2),
    ("disposition", .text "contained_candidate"),
    ("start_attested", .bool true),
    ("source_staging_policy", .text "qa.source_staging.detached_mount.v0"),
    ("source_staging_complete", .bool true),
    ("reason", value.get "reason"),
    ("termination", .record [
      ("kind", terminationOrdinal kind),
      ("exit_code", exitCode.orElse (.nat 0)),
      ("signal", signal.orElse (.nat 0))]),
    ("cause", (value.get "cause").deepCopy),
    ("finality", (value.get "finality").deepCopy),
    ("stdout", (value.get "stdout").deepCopy),
    ("stderr", (value.get "stderr").deepCopy),
    ("resources", (value.get "resources").deepCopy),
    ("scratch", (value.get "scratch").deepCopy),
    ("event_truth_status", .text "runtime_confirmed")])

/-- `local ok, normalized = pcall(...)`: what was raised is answered as a refusal. -/
def protect {α : Type} (answer : Except Failure α) : Except Failure α :=
  match answer with
  | .error (.raised err) => .error (.refused (.str err.tostring))
  | .error (.fault operation) => .error (refuse operation)
  | other => other

def processFromReport (value : Value) (authority : Authority) : Except Failure Value := do
  let request ← nativeRequest authority
  let raw ← rawFromReport value
  protect (normalizeResultV1 raw request)

def reportParts : List String :=
  ["termination", "cause", "finality", "stdout", "stderr", "resources", "scratch", "cost"]

def outcomeOf (process : Value) : Value :=
  if process.get "outcome" = .text "expected_exit" then .text "accepted" else .text "rejected"

def requireSource (value : Value) (authority : Authority) : Except Failure Unit := do
  let source := value.get "source"
  exactRecord source sourceKeys "private QA report source" []
  require (source.get "stable" = .bool true
      ∧ source.get "disposition" = .text "consumed"
      ∧ (source.get "pre_inventory_id").isNonEmptyString = true
      ∧ (source.get "pre_inventory_id").eq (source.get "post_inventory_id") = true
      ∧ (authority.inventoryId = .nil
        ∨ (source.get "pre_inventory_id").eq authority.inventoryId = true))
    (refuse "private QA candidate report source is invalid")

def normalizeReport (value : Value) (authority : Authority) : Except Failure Value := do
  exactRecord value reportKeys "private QA candidate report" []
  require (value.get "operation" = .text "run_lua54_test_suite"
      ∧ (value.get "outcome" = .text "accepted" ∨ value.get "outcome" = .text "rejected")
      ∧ identityMatches value authority = true)
    (refuse "private QA candidate report envelope is invalid")
  requireSource value authority
  let process ← processFromReport value authority
  require (value.get "outcome" = outcomeOf process
      ∧ (process.get "outcome").eq (value.get "reason") = true
      ∧ (reportParts.all fun part => same (process.get part) (value.get part)) = true)
    (refuse "private QA candidate report contradicts RUN evidence")
  pure value.deepCopy

/-! ## Errors -/

def nativeError (value : Value) : Value :=
  .record [
    ("protocol_version", .text "qa.provider_process_error.v1"),
    ("operation", .text "run_lua54_test_suite"),
    ("transaction_id", value.get "physical_transaction_id"),
    ("witness_id", value.get "physical_witness_id"),
    ("profile_id", value.get "profile_id"),
    ("environment_id", value.get "environment_id"),
    ("class", value.get "class"),
    ("code", value.get "code"),
    ("stage", value.get "stage"),
    ("candidate_start_state", value.get "candidate_start_state"),
    ("cleanup_state", value.get "cleanup_state"),
    ("launcher_reaped", value.get "launcher_reaped"),
    ("result_eof", value.get "result_eof"),
    ("measured_cost", (value.get "measured_cost").deepCopy),
    ("event_truth_status", .text "runtime_confirmed")]

def Untouched (value : Value) : Prop :=
  value.get "stage" = .text "preflight"
    ∧ value.get "candidate_start_state" = .text "not_started"
    ∧ value.get "cleanup_state" = .text "complete"
    ∧ value.get "launcher_reaped" = .text "complete"
    ∧ value.get "result_eof" = .text "complete"
    ∧ value.get "measured_cost" = .nil

instance (value : Value) : Decidable (Untouched value) :=
  inferInstanceAs (Decidable (_ ∧ _ ∧ _ ∧ _ ∧ _ ∧ _))

def requireErrorEnvelope (value : Value) (authority : Authority) : Except Failure Unit := do
  exactRecord value errorKeys "private QA provider error" ["source_stable", "measured_cost"]
  require (identityMatches value authority = true
      ∧ isOneOf bodyErrorCodes (value.get "code") = true
      ∧ isOneOf errorStages (value.get "stage") = true
      ∧ isOneOf startStates (value.get "candidate_start_state") = true
      ∧ isOneOf completionStates (value.get "cleanup_state") = true
      ∧ isOneOf completionStates (value.get "launcher_reaped") = true
      ∧ isOneOf completionStates (value.get "result_eof") = true
      ∧ isOneOf errorClasses (value.get "class") = true)
    (refuse "private QA provider error envelope is invalid")

def requireNotAcquired (value : Value) : Except Failure Unit :=
  require (value.get "code" = .text "source_reservation_unavailable"
      ∧ value.get "class" = .text "unavailable"
      ∧ value.get "source_stable" = .nil
      ∧ value.get "source_disposition" = .text "not_acquired"
      ∧ Untouched value)
    (refuse "private QA not-acquired error topology is invalid")

def requireAcquired (value : Value) : Except Failure Unit := do
  require (value.get "source_acquisition" = .text "acquired"
      ∧ isBoolean (value.get "source_stable") = true
      ∧ (value.get "source_disposition" = .text "consumed"
        ∨ value.get "source_disposition" = .text "quarantined"))
    (refuse "private QA acquired-source topology is invalid")
  if value.get "code" = .text "source_preflight_unavailable"
      ∨ value.get "code" = .text "source_preflight_mismatch" then
    require (Untouched value) (refuse "private QA source-preflight topology is invalid")
  else if value.get "code" = .text "source_drift" then
    require (value.get "stage" = .text "postflight" ∧ value.get "class" = .text "ambiguous"
        ∧ value.get "source_disposition" = .text "quarantined"
        ∧ value.get "source_stable" = .bool false)
      (refuse "private QA source-drift topology is invalid")
  else do
    let _ ← errorReuseClassV1 (nativeError value)
    pure ()

def normalizeError (value : Value) (authority : Authority) : Except Failure Value := do
  requireErrorEnvelope value authority
  if value.get "source_acquisition" = .text "not_acquired" then requireNotAcquired value
  else requireAcquired value
  pure value.deepCopy

def normalize (value : Value) (authority : Authority) : Except Failure Value :=
  if value.isTable = false then .error (refuse "private QA result must be table")
  else if value.get "protocol_version" = .text "qa.provider_candidate_report.v1" then
    normalizeReport value authority
  else if value.get "protocol_version" = .text "qa.provider_error.v1" then
    normalizeError value authority
  else .error (refuse "private QA result protocol is invalid")

end PrivateResult

end Proc17.Runtime.Qa
