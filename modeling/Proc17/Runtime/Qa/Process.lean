import Proc17.Runtime.Qa.Schema

/-!
# RUN results and errors

`runtime/qa_process.lua`, version 1: the native request, the observation of a contained
candidate, and the errors of a run.  An error is one of a closed list of topologies; a
value outside the vocabulary is a contract failure, which is raised.
-/

namespace Proc17.Runtime.Qa

open Lua Core Runtime.Repository

namespace Process

def contractFailure : String := "QA process contract failure: "

def fail (message : String) : Failure := raise (contractFailure ++ message)

def emptySha256 : Value :=
  .text "sha256:e3b0c44298fc1c149afbf4c8996fb92427ae41e4649b934ca495991b7852b855"

def isBoolean : Value → Bool
  | .bool _ => true
  | _ => false

/-- `a > b` between numbers already checked. -/
def isGreater (a b : Value) : Bool :=
  match a, b with
  | .num m, .num n => Number.lt n m
  | _, _ => false

theorem isGreater_nat (a b : Nat) : isGreater (.nat a) (.nat b) = decide (b < a) := by
  simp [isGreater, Value.nat, Number.lt]

/-! ## The request -/

def requestKeys : List String :=
  ["protocol_version", "operation", "transaction_id", "witness_id", "profile_id",
    "environment_id", "entrypoint_relative_path", "expected_exit_code", "resource_limits"]

/-- The limits are checked only after the identity, which comes first in the answer. -/
def requestLimits (value : Value) (limits : Except Failure Value) : Except Failure Value := do
  require (value.get "protocol_version" = .text "qa.native_run_request.v1"
      ∧ value.get "operation" = .text "run_lua54_test_suite"
      ∧ taggedDigest (value.get "transaction_id") "qa-provider-transaction:" = true
      ∧ taggedDigest (value.get "witness_id") "qa-provider-witness:" = true
      ∧ value.get "profile_id" = profileId
      ∧ taggedDigest (value.get "environment_id") "qa-environment:" = true
      ∧ value.get "entrypoint_relative_path" = .text "tests/run.lua"
      ∧ (value.get "expected_exit_code").eq (.nat 0) = true)
    (refuse "native RUN v1 request identity mismatch")
  let limits ← limits
  require (same limits hardLimits = true) (refuse "native RUN v1 request limits mismatch")
  pure limits

def normalizeRequestV1 (value : Value) : Except Failure Value := do
  exactRecord value requestKeys "native RUN v1 request" []
  let limits ← requestLimits value (normalizeLimits (value.get "resource_limits"))
  value.deepCopy.setField "resource_limits" limits

/-! ## Error topologies -/

structure Variant where
  phase : Nat
  start : String
  cleanup : String
  reap : String
  eof : String

inductive ReuseClass where
  | cleanPrestart
  | nonReusable
  deriving DecidableEq

structure Topology where
  code : String
  errorClass : String
  stages : List String
  reuseClass : ReuseClass
  variants : List Variant

def topologies : List Topology := [
  ⟨"supervisor_unavailable", "unavailable", ["preflight", "launch"], .cleanPrestart,
    [⟨1, "not_started", "complete", "complete", "complete"⟩]⟩,
  ⟨"source_staging_failed", "world", ["source_staging"], .cleanPrestart,
    [⟨1, "not_started", "complete", "complete", "complete"⟩]⟩,
  ⟨"supervisor_crashed", "unavailable", ["supervision"], .nonReusable,
    [⟨1, "not_started", "unknown", "complete", "complete"⟩,
      ⟨2, "started", "unknown", "complete", "complete"⟩]⟩,
  ⟨"result_pipe_lost", "ambiguous", ["supervision"], .nonReusable,
    [⟨1, "not_started", "unknown", "complete", "unknown"⟩,
      ⟨2, "started", "unknown", "complete", "unknown"⟩]⟩,
  ⟨"terminal_frame_missing", "ambiguous", ["postflight"], .nonReusable,
    [⟨1, "not_started", "unknown", "complete", "complete"⟩,
      ⟨2, "started", "unknown", "complete", "complete"⟩]⟩,
  ⟨"reap_ambiguous", "ambiguous", ["cleanup"], .nonReusable,
    [⟨2, "started", "unknown", "unknown", "complete"⟩,
      ⟨1, "unknown", "unknown", "unknown", "unknown"⟩]⟩,
  ⟨"output_observation_incomplete", "ambiguous", ["postflight"], .nonReusable,
    [⟨2, "started", "incomplete", "complete", "complete"⟩]⟩,
  ⟨"scratch_observation_incomplete", "ambiguous", ["postflight"], .nonReusable,
    [⟨2, "started", "incomplete", "complete", "complete"⟩]⟩,
  ⟨"namespace_cleanup_incomplete", "ambiguous", ["cleanup"], .nonReusable,
    [⟨2, "started", "incomplete", "complete", "complete"⟩]⟩]

/-- `phase_ordinal == nil or phase_ordinal == variant.phase`, and the four states. -/
def Variant.fits (variant : Variant) (value : Value) (phase : Option Value) : Bool :=
  phase.all (fun ordinal => ordinal.eq (.nat variant.phase))
    && value.get "candidate_start_state" = .text variant.start
    && value.get "cleanup_state" = .text variant.cleanup
    && value.get "launcher_reaped" = .text variant.reap
    && value.get "result_eof" = .text variant.eof

def topologyMismatch (value : Value) : Failure :=
  refuseWith "native RUN v1 error causal topology mismatch: " (value.get "code")

def errorTopology (value : Value) (phase : Option Value) : Except Failure Topology :=
  match topologies.find? fun rule => value.get "code" = .text rule.code with
  | none => .error (topologyMismatch value)
  | some rule => do
      require (value.get "class" = .text rule.errorClass
          ∧ isOneOf rule.stages (value.get "stage") = true
          ∧ (rule.variants.any fun variant => variant.fits value phase) = true)
        (topologyMismatch value)
      pure rule

/-! ## Observations -/

def reasons : List String :=
  ["expected_exit", "unexpected_exit", "signal", "wall_timeout", "cpu_limit", "memory_limit",
    "output_limit", "scratch_limit", "sandbox_policy_violation"]

def resultKeys : List String :=
  ["protocol_version", "transaction_id", "witness_id", "profile_id", "environment_id",
    "phase_ordinal", "disposition", "start_attested", "source_staging_policy",
    "source_staging_complete", "reason", "termination", "cause", "finality", "stdout",
    "stderr", "resources", "scratch", "event_truth_status"]

def finalityKeys : List String :=
  ["source_staging_complete", "candidate_started", "candidate_terminal_observed",
    "process_tree_reaped", "stdout_eof_observed", "stderr_eof_observed",
    "scratch_observation_complete", "namespace_cleanup_complete"]

def streamKeys : List String :=
  ["protocol_version", "observed_bytes", "hashed_bytes", "sha256", "limit_bytes",
    "limit_reached", "eof_observed", "raw_retained"]

def resourceKeys : List String :=
  ["protocol_version", "wall_time_ms", "cpu_user_ms", "cpu_system_ms", "max_rss_bytes",
    "address_space_limit_bytes", "runtime_heap_peak_bytes", "runtime_heap_limit_bytes",
    "runtime_heap_denied", "max_processes", "max_open_files", "max_file_bytes"]

def scratchKeys : List String :=
  ["protocol_version", "stored_regular_bytes", "stored_entries", "limit_bytes",
    "limit_entries", "byte_capacity_exhausted", "entry_capacity_exhausted",
    "inventory_complete"]

def causeKeys : List String := ["protocol_version", "kind", "monotonic_sequence", "observed_value"]

def terminationKeys : List String := ["kind", "exit_code", "signal"]

/-- `v1_identity` -/
def requireIdentity (raw request : Value) (label : String) : Except Failure Unit :=
  require ((raw.get "transaction_id").eq (request.get "transaction_id") = true
      ∧ (raw.get "witness_id").eq (request.get "witness_id") = true
      ∧ (raw.get "profile_id").eq (request.get "profile_id") = true
      ∧ (raw.get "environment_id").eq (request.get "environment_id") = true
      ∧ raw.get "event_truth_status" = .text "runtime_confirmed")
    (fail (label ++ " identity mismatch"))

def stream (raw limit : Value) (label : String) : Except Failure Value := do
  orFail contractFailure (exactRecord raw streamKeys (label ++ " v1 stream") [])
  require (raw.get "protocol_version" = .text "qa.stream_measurement.v1"
      ∧ isNonNegativeInteger (raw.get "observed_bytes") = true
      ∧ isNonNegativeInteger (raw.get "hashed_bytes") = true
      ∧ taggedDigest (raw.get "sha256") "sha256:" = true
      ∧ (raw.get "limit_bytes").eq limit = true
      ∧ isBoolean (raw.get "limit_reached") = true
      ∧ raw.get "eof_observed" = .bool true
      ∧ raw.get "raw_retained" = .bool false)
    (fail (label ++ " v1 stream measurement is malformed"))
  require (isGreater (raw.get "hashed_bytes") (raw.get "observed_bytes") = false
      ∧ isGreater (raw.get "hashed_bytes") (raw.get "limit_bytes") = false
      ∧ raw.get "limit_reached"
        = .bool (isGreater (raw.get "observed_bytes") (raw.get "limit_bytes"))
      ∧ ((raw.get "hashed_bytes").eq (.nat 0) = true → raw.get "sha256" = emptySha256))
    (fail (label ++ " v1 stream measurement contradicts its bounds"))
  pure raw.deepCopy

def resources (raw limits : Value) : Except Failure Value := do
  orFail contractFailure (exactRecord raw resourceKeys "native RUN v1 resources" [])
  ["wall_time_ms", "cpu_user_ms", "cpu_system_ms", "max_rss_bytes",
    "runtime_heap_peak_bytes"].forM fun key =>
      require (isNonNegativeInteger (raw.get key) = true)
        (fail ("native RUN v1 resource measurement is invalid: " ++ key))
  require (raw.get "protocol_version" = .text "qa.resource_measurement.v1"
      ∧ (raw.get "address_space_limit_bytes").eq (limits.get "address_space_bytes") = true
      ∧ (raw.get "runtime_heap_limit_bytes").eq runtimeHeapLimitBytes = true
      ∧ isBoolean (raw.get "runtime_heap_denied") = true
      ∧ isGreater (raw.get "runtime_heap_peak_bytes") (raw.get "runtime_heap_limit_bytes") = false
      ∧ (raw.get "max_processes").eq (limits.get "max_processes") = true
      ∧ (raw.get "max_open_files").eq (limits.get "max_open_files") = true
      ∧ (raw.get "max_file_bytes").eq (limits.get "max_file_bytes") = true)
    (fail "native RUN v1 resource measurement contradicts the environment")
  pure raw.deepCopy

def scratch (raw limits : Value) : Except Failure Value := do
  orFail contractFailure (exactRecord raw scratchKeys "native RUN v1 scratch" [])
  require (raw.get "protocol_version" = .text "qa.scratch_measurement.v1"
      ∧ isNonNegativeInteger (raw.get "stored_regular_bytes") = true
      ∧ isNonNegativeInteger (raw.get "stored_entries") = true
      ∧ (raw.get "limit_bytes").eq (limits.get "scratch_bytes") = true
      ∧ (raw.get "limit_entries").eq (limits.get "scratch_entries") = true
      ∧ isGreater (raw.get "stored_regular_bytes") (raw.get "limit_bytes") = false
      ∧ isGreater (raw.get "stored_entries") (raw.get "limit_entries") = false
      ∧ isBoolean (raw.get "byte_capacity_exhausted") = true
      ∧ isBoolean (raw.get "entry_capacity_exhausted") = true
      ∧ raw.get "inventory_complete" = .bool true)
    (fail "native RUN v1 scratch measurement is malformed")
  pure raw.deepCopy

def terminationKind (kind : Value) : Option String :=
  if kind.eq (.nat 1) then some "exit"
  else if kind.eq (.nat 2) then some "signal"
  else if kind.eq (.nat 3) then some "supervisor_kill"
  else none

def termination (raw : Value) : Except Failure Value := do
  orFail contractFailure (exactRecord raw terminationKeys "native RUN v1 termination" [])
  match terminationKind (raw.get "kind") with
  | none => .error (fail "native RUN v1 termination is malformed")
  | some kind => do
      require (isNonNegativeInteger (raw.get "exit_code") = true
          ∧ isNonNegativeInteger (raw.get "signal") = true)
        (fail "native RUN v1 termination is malformed")
      pure (.record [
        ("kind", .text kind),
        ("exit_code", if kind = "exit" then raw.get "exit_code" else .nil),
        ("signal", if kind = "signal" then raw.get "signal" else .nil)])

def finality (raw : Value) : Except Failure Value := do
  orFail contractFailure (exactRecord raw finalityKeys "native RUN v1 finality" [])
  finalityKeys.forM fun key =>
    require (raw.get key = .bool true)
      (fail ("native RUN v1 candidate lacks finality: " ++ key))
  pure raw.deepCopy

def cause (raw reason : Value) : Except Failure Value := do
  orFail contractFailure (exactRecord raw causeKeys "native RUN v1 first cause" [])
  require (raw.get "protocol_version" = .text "qa.first_cause.v1"
      ∧ (raw.get "kind").eq reason = true
      ∧ isNonNegativeInteger (raw.get "monotonic_sequence") = true
      ∧ isGreater (.nat 1) (raw.get "monotonic_sequence") = false
      ∧ isNonNegativeInteger (raw.get "observed_value") = true)
    (fail "native RUN v1 first cause is malformed or mismatched")
  pure raw.deepCopy

def sum (a b : Value) : Value :=
  match a, b with
  | .num m, .num n => .num (Number.add m n)
  | _, _ => .nil

def costFromResult (resources scratch stdout stderr : Value) : Value :=
  .record [
    ("protocol_version", .text "qa.cost.v1"),
    ("tool_calls", .nat 1),
    ("qa_executions", .nat 1),
    ("wall_time_ms", resources.get "wall_time_ms"),
    ("cpu_time_ms", sum (resources.get "cpu_user_ms") (resources.get "cpu_system_ms")),
    ("scratch_written_bytes", scratch.get "stored_regular_bytes"),
    ("stdout_observed_bytes", stdout.get "observed_bytes"),
    ("stderr_observed_bytes", stderr.get "observed_bytes")]

structure Parts where
  finality : Value
  termination : Value
  cause : Value
  stdout : Value
  stderr : Value
  resources : Value
  scratch : Value

def requireResultEnvelope (raw request : Value) : Except Failure Unit := do
  orFail contractFailure (exactRecord raw resultKeys "native RUN v1 result" [])
  require (raw.get "protocol_version" = .text "qa.native_run_result.v1"
      ∧ (raw.get "phase_ordinal").eq (.nat 2) = true
      ∧ raw.get "disposition" = .text "contained_candidate"
      ∧ raw.get "start_attested" = .bool true
      ∧ raw.get "source_staging_policy" = .text "qa.source_staging.detached_mount.v0"
      ∧ raw.get "source_staging_complete" = .bool true)
    (fail "native RUN v1 result envelope is invalid")
  requireIdentity raw request "native RUN v1 result"
  require ((raw.get "reason").isString = true) (fail "native RUN v1 reason is malformed")
  require (isOneOf reasons (raw.get "reason") = true
      ∧ raw.get "reason" ≠ .text "scratch_limit")
    (fail "native RUN v1 reason is unknown or reserved")

def measure (raw limits : Value) : Except Failure Parts := do
  let finality ← finality (raw.get "finality")
  let termination ← termination (raw.get "termination")
  let cause ← cause (raw.get "cause") (raw.get "reason")
  let stdout ← stream (raw.get "stdout") (limits.get "stdout_bytes") "stdout"
  let stderr ← stream (raw.get "stderr") (limits.get "stderr_bytes") "stderr"
  let resources ← resources (raw.get "resources") limits
  let scratch ← scratch (raw.get "scratch") limits
  pure ⟨finality, termination, cause, stdout, stderr, resources, scratch⟩

def requireTermination (reason termination : Value) : Except Failure Unit :=
  if reason = .text "expected_exit" then
    require (termination.get "kind" = .text "exit"
        ∧ (termination.get "exit_code").eq (.nat 0) = true)
      (fail "native RUN v1 expected exit contradicts termination")
  else if reason = .text "unexpected_exit" then
    require (termination.get "kind" = .text "exit"
        ∧ (termination.get "exit_code").eq (.nat 0) = false)
      (fail "native RUN v1 unexpected exit contradicts termination")
  else if reason = .text "signal" ∨ reason = .text "sandbox_policy_violation" then
    require (termination.get "kind" = .text "signal")
      (fail "native RUN v1 signal reason contradicts termination")
  else .ok ()

def requireLimits (reason : Value) (parts : Parts) : Except Failure Unit := do
  require ((reason = .text "output_limit") ↔
      ((parts.stdout.get "limit_reached").truthy || (parts.stderr.get "limit_reached").truthy)
        = true)
    (fail "native RUN v1 output reason contradicts stream evidence")
  require ((reason = .text "memory_limit") ↔
      (parts.resources.get "runtime_heap_denied").truthy = true)
    (fail "native RUN v1 memory reason contradicts allocator denial")

def observation (raw : Value) (parts : Parts) : Value :=
  .record [
    ("protocol_version", .text "qa.provider_process_observation.v1"),
    ("operation", .text "run_lua54_test_suite"),
    ("transaction_id", raw.get "transaction_id"),
    ("witness_id", raw.get "witness_id"),
    ("profile_id", raw.get "profile_id"),
    ("environment_id", raw.get "environment_id"),
    ("outcome", raw.get "reason"),
    ("candidate_started", .bool true),
    ("source_staging_policy", raw.get "source_staging_policy"),
    ("source_staging_complete", .bool true),
    ("termination", parts.termination),
    ("cause", parts.cause),
    ("finality", parts.finality),
    ("stdout", parts.stdout),
    ("stderr", parts.stderr),
    ("resources", parts.resources),
    ("scratch", parts.scratch),
    ("cleanup_complete", .bool true),
    ("cost", costFromResult parts.resources parts.scratch parts.stdout parts.stderr),
    ("event_truth_status", .text "runtime_confirmed")]

def normalizeResultV1 (raw request : Value) : Except Failure Value := do
  let request ← orFail contractFailure (normalizeRequestV1 request)
  requireResultEnvelope raw request
  let parts ← measure raw (request.get "resource_limits")
  requireTermination (raw.get "reason") parts.termination
  requireLimits (raw.get "reason") parts
  pure (observation raw parts)

/-! ## Errors -/

def costKeys : List String :=
  ["protocol_version", "tool_calls", "qa_executions", "wall_time_ms", "cpu_time_ms",
    "scratch_written_bytes", "stdout_observed_bytes", "stderr_observed_bytes"]

def errorKeys : List String :=
  ["protocol_version", "transaction_id", "witness_id", "profile_id", "environment_id",
    "phase_ordinal", "class", "code", "stage", "candidate_start_state", "cleanup_state",
    "launcher_reaped", "result_eof", "measured_cost", "event_truth_status"]

def providerErrorKeys : List String :=
  ["protocol_version", "operation", "transaction_id", "witness_id", "profile_id",
    "environment_id", "class", "code", "stage", "candidate_start_state", "cleanup_state",
    "launcher_reaped", "result_eof", "measured_cost", "event_truth_status"]

def errorClasses : List String := ["world", "unavailable", "ambiguous"]

def errorStages : List String :=
  ["preflight", "source_staging", "namespace", "launch", "supervision", "postflight", "cleanup"]

def triStates : List String := ["unknown", "not_started", "started", "complete", "incomplete"]

def startStates : List String := ["not_started", "started", "unknown"]

def completionStates : List String := ["complete", "incomplete", "unknown"]

def errorCost (raw : Value) : Except Failure Value :=
  if raw = .nil then .ok .nil
  else do
    orFail contractFailure (exactRecord raw costKeys "native RUN v1 measured cost" [])
    require (raw.get "protocol_version" = .text "qa.cost.v1")
      (fail "native RUN v1 measured cost protocol mismatch")
    (costKeys.filter (· ≠ "protocol_version")).forM fun key =>
      require (isNonNegativeInteger (raw.get key) = true)
        (fail ("native RUN v1 measured cost is malformed: " ++ key))
    require ((raw.get "tool_calls").eq (.nat 1) = true
        ∧ isGreater (raw.get "qa_executions") (.nat 1) = false)
      (fail "native RUN v1 measured cost authority mismatch")
    pure raw.deepCopy

def requireErrorEnvelope (raw : Value) : Except Failure Unit := do
  orFail contractFailure (exactRecord raw errorKeys "native RUN v1 error" ["measured_cost"])
  require (raw.get "protocol_version" = .text "qa.native_run_error.v1"
      ∧ ((raw.get "phase_ordinal").eq (.nat 1) = true ∨ (raw.get "phase_ordinal").eq (.nat 2) = true)
      ∧ isOneOf errorClasses (raw.get "class") = true
      ∧ isOneOf (topologies.map Topology.code) (raw.get "code") = true
      ∧ isOneOf errorStages (raw.get "stage") = true
      ∧ isOneOf triStates (raw.get "candidate_start_state") = true
      ∧ isOneOf triStates (raw.get "cleanup_state") = true
      ∧ isOneOf triStates (raw.get "launcher_reaped") = true
      ∧ isOneOf triStates (raw.get "result_eof") = true)
    (fail "native RUN v1 error envelope is invalid")
  require (isOneOf startStates (raw.get "candidate_start_state") = true)
    (fail "native RUN v1 start state is invalid")
  require (isOneOf completionStates (raw.get "cleanup_state") = true
      ∧ isOneOf completionStates (raw.get "launcher_reaped") = true
      ∧ isOneOf completionStates (raw.get "result_eof") = true)
    (fail "native RUN v1 cleanup tri-state is invalid")

def requireErrorCausality (raw : Value) : Except Failure Unit := do
  let started := raw.get "candidate_start_state" = .text "started"
  require (¬ ((raw.get "phase_ordinal").eq (.nat 1) = true ∧ started
      ∨ (raw.get "phase_ordinal").eq (.nat 2) = true ∧ ¬ started))
    (fail "native RUN v1 error phase contradicts start state")
  require (raw.get "cleanup_state" = .text "complete" →
      raw.get "launcher_reaped" = .text "complete" ∧ raw.get "result_eof" = .text "complete")
    (fail "native RUN v1 complete cleanup lacks reap or EOF")

def errorFields (value cost : Value) : List (String × Value) := [
  ("transaction_id", value.get "transaction_id"),
  ("witness_id", value.get "witness_id"),
  ("profile_id", value.get "profile_id"),
  ("environment_id", value.get "environment_id"),
  ("class", value.get "class"),
  ("code", value.get "code"),
  ("stage", value.get "stage"),
  ("candidate_start_state", value.get "candidate_start_state"),
  ("cleanup_state", value.get "cleanup_state"),
  ("launcher_reaped", value.get "launcher_reaped"),
  ("result_eof", value.get "result_eof"),
  ("measured_cost", cost),
  ("event_truth_status", .text "runtime_confirmed")]

def processError (value cost : Value) : Value :=
  .record (("protocol_version", .text "qa.provider_process_error.v1") ::
    ("operation", .text "run_lua54_test_suite") :: errorFields value cost)

def normalizeErrorV1 (raw request : Value) : Except Failure Value := do
  let request ← orFail contractFailure (normalizeRequestV1 request)
  requireErrorEnvelope raw
  requireErrorCausality raw
  let _ ← orFail contractFailure (errorTopology raw (some (raw.get "phase_ordinal")))
  requireIdentity raw request "native RUN v1 error"
  let cost ← errorCost (raw.get "measured_cost")
  pure (processError raw cost)

def errorReuseClassV1 (value : Value) : Except Failure ReuseClass := do
  exactRecord value providerErrorKeys "provider RUN v1 error" ["measured_cost"]
  require (value.get "protocol_version" = .text "qa.provider_process_error.v1"
      ∧ value.get "operation" = .text "run_lua54_test_suite"
      ∧ taggedDigest (value.get "transaction_id") "qa-provider-transaction:" = true
      ∧ taggedDigest (value.get "witness_id") "qa-provider-witness:" = true
      ∧ value.get "profile_id" = profileId
      ∧ taggedDigest (value.get "environment_id") "qa-environment:" = true
      ∧ value.get "event_truth_status" = .text "runtime_confirmed")
    (refuse "provider RUN v1 error envelope is invalid")
  let rule ← errorTopology value none
  match errorCost (value.get "measured_cost") with
  | .error _ => .error (refuse "provider RUN v1 error measured cost is invalid")
  | .ok _ => pure rule.reuseClass

end Process

end Proc17.Runtime.Qa
