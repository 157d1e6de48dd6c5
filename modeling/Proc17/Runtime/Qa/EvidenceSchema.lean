import Proc17.Runtime.Qa.PrivateResult

/-!
# QA evidence

`core/qa_evidence_schema.lua`: the normal forms of the records a Packet keeps about a QA
execution.  A normal form repeats every check the record passed before, so a stored record is
checked by normalizing it again and comparing.
-/

namespace Proc17.Runtime.Qa.EvidenceSchema

open Lua Core Runtime.Repository

def requestKeys : List String :=
  ["protocol_version", "request_id", "packet_id", "lineage_id", "generation",
    "process_contract_id", "context", "stage_id", "repository_id", "candidate_seal_id",
    "candidate_seal_event_ref", "artifact_alignment_id", "qa_contract_id", "check_id",
    "profile_id", "environment_id", "entrypoint", "expected_exit_codes", "resource_limits",
    "source_refs", "event_truth_status", "content_truth_status"]

def entrypointKeys : List String :=
  ["relative_path", "work_unit_id", "work_unit_version", "bytes", "sha256", "completion_ref",
    "verification_ref"]

def checkKeys : List String :=
  ["protocol_version", "qa_check_id", "packet_id", "lineage_id", "generation",
    "process_contract_id", "context", "stage_id", "repository_id", "candidate_seal_id",
    "candidate_seal_event_ref", "artifact_alignment_id", "qa_contract_id", "check_id",
    "profile_id", "environment_id", "request_id", "request_ref", "execution_receipt_id",
    "outcome", "reason", "termination", "cause", "finality", "source", "stdout", "stderr",
    "resources", "scratch", "runtime_cost", "source_refs", "event_truth_status",
    "content_truth_status"]

def failureKeys : List String :=
  ["protocol_version", "failure_id", "packet_id", "lineage_id", "generation",
    "process_contract_id", "context", "stage_id", "repository_id", "candidate_seal_id",
    "candidate_seal_event_ref", "artifact_alignment_id", "qa_contract_id", "check_id",
    "profile_id", "environment_id", "request_id", "request_ref", "execution_receipt_id",
    "class", "code", "stage", "candidate_start_state", "source_acquisition", "source_stable",
    "source_disposition", "cleanup_state", "launcher_reaped", "result_eof", "measured_cost",
    "transaction_disposition", "source_refs", "event_truth_status", "content_truth_status"]

def verdictKeys : List String :=
  ["protocol_version", "verdict_id", "packet_id", "lineage_id", "generation",
    "process_contract_id", "context", "stage_id", "repository_id", "candidate_seal_id",
    "candidate_seal_event_ref", "artifact_alignment_id", "qa_contract_id", "profile_id",
    "environment_id", "verdict", "required_checks", "accepted_checks", "rejected_checks",
    "check_ids", "check_refs", "request_refs", "runtime_cost", "source_refs",
    "event_truth_status", "content_truth_status"]

def terminalProjectionKeys : List String :=
  ["protocol_version", "candidate_seal_id", "candidate_seal_event_ref",
    "artifact_alignment_id", "qa_contract_id", "profile_id", "environment_id", "request_id",
    "request_ref", "qa_check_id", "qa_check_ref", "check_outcome", "check_reason",
    "termination", "cause", "finality", "source", "stdout", "stderr", "resources", "scratch",
    "verdict_id", "verdict_ref", "verdict", "runtime_cost", "source_refs",
    "event_truth_status", "content_truth_status"]

def corpseEvidenceKeys : List String :=
  ["protocol_version", "qa_contract_id", "request_id", "request_ref", "check", "check_ref",
    "execution_failure", "execution_failure_ref", "verdict", "verdict_ref",
    "terminal_projection", "source_refs"]

/-! ## Shapes -/

mutual
def plainTree (label : String) : Value → Except Failure Unit
  | .table tag entries =>
    if tag.metatable then
      .error (refuse (label ++ " contains a metatable-bearing record"))
    else plainEntries label entries
  | _ => .ok ()

def plainEntries (label : String) : List (Value × Value) → Except Failure Unit
  | [] => .ok ()
  | entry :: rest => do
      plainEntry label entry
      plainEntries label rest

def plainEntry (label : String) : Value × Value → Except Failure Unit
  | (key, child) =>
    if key.isString || key.isPositiveInteger then plainTree label child
    else .error (refuse (label ++ " contains an invalid key"))
end

def isUnclean (b : UInt8) : Bool := b < 32 || b = 127

/-- `non_empty` -/
def cleanText (value : Value) (label : String) : Except Failure Bytes :=
  match value with
  | .str text =>
    if text.isEmpty || 4096 < text.length || text.any isUnclean || !Action.validUtf8 text then
      .error (refuse (label ++ " must be a bounded control-free UTF-8 string"))
    else .ok text
  | _ => .error (refuse (label ++ " must be a bounded control-free UTF-8 string"))

def requireCleanTexts (value : Value) (keys : List String) (label : String) :
    Except Failure Unit :=
  keys.forM fun key => do
    let _ ← cleanText (value.get key) (label ++ key)
    pure ()

def isProcessContract (value : Value) : Bool :=
  isOneOf ["build.only.v0", "software.create.v0"] value

def isContentTruth (value : Value) : Bool := isOneOf ["runtime_confirmed", "mixed"] value

def maxRefs : Nat := 256

def cleanRefs (label : String) : Nat → List Value → Except Failure (List Bytes)
  | _, [] => .ok []
  | index, ref :: rest => do
      let text ← cleanText ref (label ++ " source_refs[" ++ toString index ++ "]")
      let texts ← cleanRefs label (index + 1) rest
      pure (text :: texts)

def normalizeRefs (value : Value) (label : String) : Except Failure (List Bytes) := do
  require (value.isTable = true ∧ value.hasMetatable = false ∧ value.keys.all isArrayKey = true)
    (refuse (label ++ " source_refs must be a dense array"))
  let items ← value.ipairs
  require (value.keys.length = items.length ∧ items.length ≤ maxRefs)
    (refuse (label ++ " source_refs exceed their shape ceiling"))
  let texts ← cleanRefs label 1 items
  pure (sortedUnique texts)

def normalizeIdentity (value : Value) (key tag : String) : Except Failure Value := do
  let unnamed ← value.deepCopy.setField key .nil
  let id ← Digest.identify tag unnamed
  require (value.get key = .nil ∨ value.get key = .str id) (refuse (key ++ " identity mismatch"))
  unnamed.setField key (.str id)

def setFields : Value → List (String × Value) → Except Failure Value
  | value, [] => .ok value
  | value, (name, field) :: rest => do
      let next ← value.setField name field
      setFields next rest

def contains (refs : List Bytes) (wanted : Value) : Bool := refs.any fun ref => wanted = .str ref

/-- `for _, ref in ipairs({...}) do if not contains_ref(refs, ref) ...`: the loop ends at the
first value that is nil. -/
def listsAll (refs : List Bytes) (wanted : List Value) : Bool :=
  (wanted.takeWhile (· ≠ .nil)).all (contains refs)

/-! ## Requests -/

def requireEntrypoint (entrypoint : Value) : Except Failure Unit := do
  exactRecord entrypoint entrypointKeys "QA request entrypoint" []
  requireCleanTexts entrypoint
    ["relative_path", "work_unit_id", "completion_ref", "verification_ref"] "QA entrypoint "
  require ((entrypoint.get "work_unit_version").isPositiveInteger = true
      ∧ isNonNegativeInteger (entrypoint.get "bytes") = true
      ∧ taggedDigest (entrypoint.get "sha256") "sha256:" = true)
    (refuse "QA request entrypoint evidence is invalid")

/-- `expected_exit_codes` is exactly `{0}`. -/
def isZeroExit (value : Value) : Bool :=
  match value with
  | .table tag entries =>
    !tag.metatable && (Value.lookup entries (.nat 1)).eq (.nat 0)
      && entries.all fun entry => entry.1.eq (.nat 1)
  | _ => false

def normalizeRequest (value : Value) : Except Failure Value := do
  plainTree "QA check request" value
  exactRecord value requestKeys "QA check request" ["request_id"]
  require (value.get "protocol_version" = .text "qa.check_request.v0"
      ∧ isProcessContract (value.get "process_contract_id") = true
      ∧ value.get "context" = .text "software_task.v0"
      ∧ value.get "profile_id" = profileId
      ∧ value.get "event_truth_status" = .text "runtime_confirmed"
      ∧ isContentTruth (value.get "content_truth_status") = true)
    (refuse "QA check request envelope is invalid")
  requireCleanTexts value ["packet_id", "lineage_id", "stage_id", "repository_id",
    "candidate_seal_event_ref", "artifact_alignment_id"] "QA request "
  require ((value.get "generation").isPositiveInteger = true
      ∧ taggedDigest (value.get "candidate_seal_id") "candidate-seal:" = true
      ∧ taggedDigest (value.get "qa_contract_id") "qa-contract:" = true
      ∧ taggedDigest (value.get "check_id") "qa-check-contract:" = true
      ∧ taggedDigest (value.get "environment_id") "qa-environment:" = true)
    (refuse "QA check request identity coordinate is invalid")
  requireEntrypoint (value.get "entrypoint")
  require (isZeroExit (value.get "expected_exit_codes") = true)
    (refuse "QA request expected_exit_codes must be exactly {0}")
  let limits ← normalizeLimits (value.get "resource_limits")
  let refs ← normalizeRefs (value.get "source_refs") "QA evidence"
  let prepared ← setFields value.deepCopy
    [("request_id", .nil), ("resource_limits", limits), ("source_refs", textArray refs)]
  let id ← Digest.identify "qa-check-request:" prepared
  require (value.get "request_id" = .nil ∨ value.get "request_id" = .str id)
    (refuse "QA check request identity mismatch")
  prepared.setField "request_id" (.str id)

/-- `verify_*`: the value is its own normal form. -/
def verifyNormal (normalize : Value → Except Failure Value) (label : String) (value : Value) :
    Except Failure Unit := do
  let normalized ← normalize value
  require (same value normalized = true) (refuse (label ++ " is not normalized"))

def verifyRequest (value : Value) : Except Failure Unit :=
  verifyNormal normalizeRequest "QA check request" value

/-! ## Checks -/

def validateBodyCoordinates (value : Value) (label : String) : Except Failure Unit := do
  require (isProcessContract (value.get "process_contract_id") = true
      ∧ value.get "context" = .text "software_task.v0"
      ∧ value.get "profile_id" = profileId
      ∧ value.get "event_truth_status" = .text "runtime_confirmed")
    (refuse (label ++ " envelope is invalid"))
  requireCleanTexts value ["packet_id", "lineage_id", "stage_id", "repository_id",
    "candidate_seal_event_ref", "artifact_alignment_id", "request_ref"] (label ++ " ")
  require ((value.get "generation").isPositiveInteger = true
      ∧ taggedDigest (value.get "candidate_seal_id") "candidate-seal:" = true
      ∧ taggedDigest (value.get "qa_contract_id") "qa-contract:" = true
      ∧ taggedDigest (value.get "check_id") "qa-check-contract:" = true
      ∧ taggedDigest (value.get "environment_id") "qa-environment:" = true
      ∧ taggedDigest (value.get "request_id") "qa-check-request:" = true
      ∧ taggedDigest (value.get "execution_receipt_id") "qa-execution-receipt:" = true)
    (refuse (label ++ " identity coordinate is invalid"))

def zeroTransaction : Value :=
  .str (utf8 "qa-provider-transaction:" ++ List.replicate 64 48)

def oneWitness : Value := .str (utf8 "qa-provider-witness:" ++ List.replicate 64 49)

def containedRequest (profile environment : Value) : Value := .record [
  ("protocol_version", .text "qa.native_run_request.v1"),
  ("operation", .text "run_lua54_test_suite"),
  ("transaction_id", zeroTransaction),
  ("witness_id", oneWitness),
  ("profile_id", profile),
  ("environment_id", environment),
  ("entrypoint_relative_path", .text "tests/run.lua"),
  ("expected_exit_code", .nat 0),
  ("resource_limits", hardLimits)]

def processParts : List String :=
  ["cause", "finality", "stdout", "stderr", "resources", "scratch"]

def containedRaw (value reason : Value) (kind : Value) : Value :=
  let termination := value.get "termination"
  .record ([
    ("protocol_version", .text "qa.native_run_result.v1"),
    ("transaction_id", zeroTransaction),
    ("witness_id", oneWitness),
    ("profile_id", value.get "profile_id"),
    ("environment_id", value.get "environment_id"),
    ("phase_ordinal", .nat 2),
    ("disposition", .text "contained_candidate"),
    ("start_attested", .bool true),
    ("source_staging_policy", .text "qa.source_staging.detached_mount.v0"),
    ("source_staging_complete", .bool true),
    ("reason", reason),
    ("termination", .record [
      ("kind", kind),
      ("exit_code", (termination.get "exit_code").orElse (.nat 0)),
      ("signal", (termination.get "signal").orElse (.nat 0))])]
    ++ (processParts.map fun part => (part, (value.get part).deepCopy))
    ++ [("event_truth_status", .text "runtime_confirmed")])

def normalizeContainedProcess (value reason : Value) : Except Failure Value := do
  let termination := value.get "termination"
  let kind := PrivateResult.terminationOrdinal (termination.get "kind")
  require (termination.isTable = true ∧ kind ≠ .nil)
    (refuse "QA check termination kind is invalid")
  PrivateResult.protect (Process.normalizeResultV1 (containedRaw value reason kind)
    (containedRequest (value.get "profile_id") (value.get "environment_id")))

def requireStableSource (source : Value) (label : String) : Except Failure Unit := do
  exactRecord source PrivateResult.sourceKeys (label ++ " source") []
  require (source.get "stable" = .bool true
      ∧ source.get "disposition" = .text "consumed"
      ∧ (source.get "pre_inventory_id").isNonEmptyString = true
      ∧ (source.get "pre_inventory_id").eq (source.get "post_inventory_id") = true)
    (refuse (label ++ " source is not exact and stable"))

def repeatsProcess (value process outcome reason : Value) : Bool :=
  outcome = PrivateResult.outcomeOf process && (process.get "outcome").eq reason
    && (("termination" :: processParts).all fun part => same (process.get part) (value.get part))
    && same (process.get "cost") (value.get "runtime_cost")

def processFields (process : Value) : List (String × Value) :=
  (("termination" :: processParts).map fun part => (part, (process.get part).deepCopy))
    ++ [("runtime_cost", (process.get "cost").deepCopy)]

def normalizeCheck (value : Value) : Except Failure Value := do
  plainTree "QA check" value
  exactRecord value checkKeys "QA check" ["qa_check_id"]
  require (value.get "protocol_version" = .text "qa.check.v0"
      ∧ isOneOf ["accepted", "rejected"] (value.get "outcome") = true
      ∧ isContentTruth (value.get "content_truth_status") = true)
    (refuse "QA check envelope is invalid")
  validateBodyCoordinates value "QA check"
  requireStableSource (value.get "source") "QA check"
  let process ← normalizeContainedProcess value (value.get "reason")
  require (repeatsProcess value process (value.get "outcome") (value.get "reason") = true)
    (refuse "QA check contradicts normalized RUN v1 evidence")
  let refs ← normalizeRefs (value.get "source_refs") "QA check"
  let prepared ← setFields value.deepCopy
    (processFields process ++ [("source_refs", textArray refs)])
  normalizeIdentity prepared "qa_check_id" "qa-check:"

def verifyCheck (value : Value) : Except Failure Unit :=
  verifyNormal normalizeCheck "QA check" value

/-! ## Failures -/

def topologyError (value : Value) : Value := .record [
  ("protocol_version", .text "qa.provider_error.v1"),
  ("request_id", value.get "request_id"),
  ("physical_transaction_id", zeroTransaction),
  ("physical_witness_id", oneWitness),
  ("profile_id", value.get "profile_id"),
  ("environment_id", value.get "environment_id"),
  ("class", value.get "class"),
  ("code", value.get "code"),
  ("stage", value.get "stage"),
  ("candidate_start_state", value.get "candidate_start_state"),
  ("source_acquisition", value.get "source_acquisition"),
  ("source_stable", value.get "source_stable"),
  ("source_disposition", value.get "source_disposition"),
  ("cleanup_state", value.get "cleanup_state"),
  ("launcher_reaped", value.get "launcher_reaped"),
  ("result_eof", value.get "result_eof"),
  ("measured_cost", (value.get "measured_cost").deepCopy),
  ("event_truth_status", .text "runtime_confirmed")]

def topologyAuthority (value : Value) : Authority where
  request := .record [
    ("request_id", value.get "request_id"),
    ("profile_id", value.get "profile_id"),
    ("environment_id", value.get "environment_id")]
  physicalTransactionId := zeroTransaction
  physicalWitnessId := oneWitness
  inventoryId := .nil

def normalizeFailureTopology (value : Value) : Except Failure Value :=
  PrivateResult.normalize (topologyError value) (topologyAuthority value)

def failureDisposition (sourceDisposition : Value) : Value :=
  if sourceDisposition = .text "quarantined" then .text "quarantined"
  else .text "consumed_failed"

def normalizeFailure (value : Value) : Except Failure Value := do
  plainTree "QA execution failure" value
  exactRecord value failureKeys "QA execution failure"
    ["failure_id", "source_stable", "measured_cost"]
  require (value.get "protocol_version" = .text "qa.execution_failure.v0"
      ∧ value.get "content_truth_status" = .text "runtime_confirmed")
    (refuse "QA execution failure envelope is invalid")
  validateBodyCoordinates value "QA execution failure"
  let topology ← normalizeFailureTopology value
  require (value.get "transaction_disposition"
      = failureDisposition (topology.get "source_disposition"))
    (refuse "QA execution failure transaction disposition is invalid")
  let refs ← normalizeRefs (value.get "source_refs") "QA execution failure"
  let prepared ← setFields value.deepCopy
    [("source_refs", textArray refs), ("measured_cost", (topology.get "measured_cost").deepCopy)]
  normalizeIdentity prepared "failure_id" "qa-execution-failure:"

def verifyFailure (value : Value) : Except Failure Unit :=
  verifyNormal normalizeFailure "QA execution failure" value

/-! ## Verdicts -/

def normalizeQaCost (value : Value) : Except Failure Value := do
  exactRecord value Process.costKeys "QA verdict cost" []
  require (value.get "protocol_version" = .text "qa.cost.v1"
      ∧ (value.get "tool_calls").eq (.nat 1) = true
      ∧ (value.get "qa_executions").eq (.nat 1) = true)
    (refuse "QA verdict cost authority is invalid")
  require ((Process.costKeys.all fun key =>
      key = "protocol_version" || isNonNegativeInteger (value.get key)) = true)
    (refuse "QA verdict cost is invalid")
  pure value.deepCopy

def normalizeOneRef (value : Value) (label : String) (tag : Option String) :
    Except Failure Bytes := do
  let refs ← normalizeRefs value label
  match refs with
  | [ref] =>
    require ((tag.all fun tag => taggedDigest (.str ref) tag) = true)
      (refuse (label ++ " must contain exactly one exact reference"))
    pure ref
  | _ => .error (refuse (label ++ " must contain exactly one exact reference"))

def countOf (verdict : Value) (wanted : String) : Value :=
  .nat (if verdict = .text wanted then 1 else 0)

def requireVerdictEnvelope (value : Value) : Except Failure Unit := do
  require (value.get "protocol_version" = .text "qa.candidate_verdict.v0"
      ∧ isOneOf ["accepted", "rejected"] (value.get "verdict") = true
      ∧ (value.get "required_checks").eq (.nat 1) = true
      ∧ value.get "event_truth_status" = .text "runtime_confirmed"
      ∧ isContentTruth (value.get "content_truth_status") = true)
    (refuse "QA candidate verdict envelope is invalid")
  requireCleanTexts value ["packet_id", "lineage_id", "stage_id", "repository_id",
    "candidate_seal_event_ref", "artifact_alignment_id"] "QA verdict "
  require ((value.get "generation").isPositiveInteger = true
      ∧ isProcessContract (value.get "process_contract_id") = true
      ∧ value.get "context" = .text "software_task.v0"
      ∧ taggedDigest (value.get "candidate_seal_id") "candidate-seal:" = true
      ∧ taggedDigest (value.get "qa_contract_id") "qa-contract:" = true
      ∧ value.get "profile_id" = profileId
      ∧ taggedDigest (value.get "environment_id") "qa-environment:" = true)
    (refuse "QA candidate verdict identity coordinate is invalid")
  require ((value.get "accepted_checks").eq (countOf (value.get "verdict") "accepted") = true
      ∧ (value.get "rejected_checks").eq (countOf (value.get "verdict") "rejected") = true)
    (refuse "QA candidate verdict counts contradict verdict")

def normalizeVerdict (value : Value) : Except Failure Value := do
  plainTree "QA candidate verdict" value
  exactRecord value verdictKeys "QA candidate verdict" ["verdict_id"]
  requireVerdictEnvelope value
  let checkId ← normalizeOneRef (value.get "check_ids") "QA verdict check_ids" (some "qa-check:")
  let checkRef ← normalizeOneRef (value.get "check_refs") "QA verdict check_refs" none
  let requestRef ← normalizeOneRef (value.get "request_refs") "QA verdict request_refs" none
  let cost ← normalizeQaCost (value.get "runtime_cost")
  let refs ← normalizeRefs (value.get "source_refs") "QA candidate verdict"
  require (listsAll refs [value.get "candidate_seal_id", value.get "candidate_seal_event_ref",
      value.get "artifact_alignment_id", value.get "qa_contract_id", .str checkId, .str checkRef,
      .str requestRef] = true)
    (refuse "QA candidate verdict omits an identity source")
  let prepared ← setFields value.deepCopy
    [("check_ids", textArray [checkId]), ("check_refs", textArray [checkRef]),
      ("request_refs", textArray [requestRef]), ("runtime_cost", cost),
      ("source_refs", textArray refs)]
  normalizeIdentity prepared "verdict_id" "qa-verdict:"

def verifyVerdict (value : Value) : Except Failure Unit :=
  verifyNormal normalizeVerdict "QA candidate verdict" value

/-! ## Terminal projections -/

def requireProjectionEnvelope (value : Value) : Except Failure Unit := do
  require (value.get "protocol_version" = .text "qa.terminal_projection.v1"
      ∧ isOneOf ["accepted", "rejected"] (value.get "check_outcome") = true
      ∧ (value.get "verdict").eq (value.get "check_outcome") = true
      ∧ value.get "profile_id" = profileId
      ∧ value.get "event_truth_status" = .text "runtime_confirmed"
      ∧ isContentTruth (value.get "content_truth_status") = true)
    (refuse "QA terminal projection envelope is invalid")
  requireCleanTexts value ["candidate_seal_event_ref", "artifact_alignment_id", "request_ref",
    "qa_check_ref", "verdict_ref"] "QA terminal projection "
  require (taggedDigest (value.get "candidate_seal_id") "candidate-seal:" = true
      ∧ taggedDigest (value.get "qa_contract_id") "qa-contract:" = true
      ∧ taggedDigest (value.get "environment_id") "qa-environment:" = true
      ∧ taggedDigest (value.get "request_id") "qa-check-request:" = true
      ∧ taggedDigest (value.get "qa_check_id") "qa-check:" = true
      ∧ taggedDigest (value.get "verdict_id") "qa-verdict:" = true)
    (refuse "QA terminal projection identity coordinate is invalid")

def normalizeTerminalProjection (value : Value) : Except Failure Value := do
  plainTree "QA terminal projection" value
  exactRecord value terminalProjectionKeys "QA terminal projection" []
  requireProjectionEnvelope value
  requireStableSource (value.get "source") "QA terminal projection"
  let process ← normalizeContainedProcess value (value.get "check_reason")
  require (repeatsProcess value process (value.get "check_outcome") (value.get "check_reason")
      = true)
    (refuse "QA terminal projection contradicts RUN v1 evidence")
  let refs ← normalizeRefs (value.get "source_refs") "QA terminal projection"
  require (listsAll refs (["candidate_seal_id", "candidate_seal_event_ref",
      "artifact_alignment_id", "qa_contract_id", "request_id", "request_ref", "qa_check_id",
      "qa_check_ref", "verdict_id", "verdict_ref"].map value.get) = true)
    (refuse "QA terminal projection omits an identity source")
  setFields value.deepCopy (processFields process ++ [("source_refs", textArray refs)])

/-! ## The evidence of a corpse -/

def halfPresent (value : Value) (left right : String) : Bool :=
  decide (value.get left = .nil) != decide (value.get right = .nil)

def normalPart (value : Value) (key label : String) (normalize : Value → Except Failure Value) :
    Except Failure (List (String × Value)) :=
  if value.get key = .nil then .ok []
  else do
    let part ← normalize (value.get key)
    require (same part (value.get key) = true) (refuse (label ++ " is not normalized"))
    pure [(key, part)]

def requireContract (value : Value) : Except Failure Unit :=
  require (value.get "qa_contract_id" = .nil
      ∨ taggedDigest (value.get "qa_contract_id") "qa-contract:" = true)
    (refuse "corpse QA contract identity is invalid")

def requirePairs (value : Value) : Except Failure Unit := do
  require (halfPresent value "request_id" "request_ref" = false)
    (refuse "corpse QA request identity is incomplete")
  if value.get "request_id" ≠ .nil then
    require (taggedDigest (value.get "request_id") "qa-check-request:" = true
        ∧ (cleanText (value.get "request_ref") "corpse QA request_ref").isOk = true)
      (refuse "corpse QA request identity is invalid")
  require (halfPresent value "check" "check_ref" = false
      ∧ halfPresent value "execution_failure" "execution_failure_ref" = false
      ∧ halfPresent value "verdict" "verdict_ref" = false)
    (refuse "corpse QA evidence ref pair is incomplete")
  require (value.get "check" = .nil ∨ value.get "execution_failure" = .nil)
    (refuse "corpse QA evidence contains check and execution failure")

/-- `refs[1]` of an array. -/
def firstItem : Value → Value
  | .table _ entries => Value.lookup entries (.nat 1)
  | _ => .nil

def requireJoins (value : Value) : Except Failure Unit := do
  let check := value.get "check"
  let failure := value.get "execution_failure"
  let verdict := value.get "verdict"
  let projection := value.get "terminal_projection"
  let coordinates := (check.orElse failure).orElse verdict
  require (coordinates = .nil
      ∨ ((value.get "qa_contract_id").eq (coordinates.get "qa_contract_id") = true
        ∧ value.get "request_id" ≠ .nil ∧ value.get "request_ref" ≠ .nil))
    (refuse "corpse QA evidence coordinates are incomplete")
  require (check = .nil ∨ ((check.get "request_id").eq (value.get "request_id") = true
      ∧ (check.get "request_ref").eq (value.get "request_ref") = true))
    (refuse "corpse QA check contradicts request")
  require (failure = .nil ∨ ((failure.get "request_id").eq (value.get "request_id") = true
      ∧ (failure.get "request_ref").eq (value.get "request_ref") = true))
    (refuse "corpse QA execution failure contradicts request")
  require (verdict = .nil ∨ (check ≠ .nil
      ∧ (verdict.get "qa_contract_id").eq (value.get "qa_contract_id") = true
      ∧ (firstItem (verdict.get "check_ids")).eq (check.get "qa_check_id") = true
      ∧ (firstItem (verdict.get "check_refs")).eq (value.get "check_ref") = true
      ∧ (firstItem (verdict.get "request_refs")).eq (value.get "request_ref") = true
      ∧ (verdict.get "verdict").eq (check.get "outcome") = true))
    (refuse "corpse QA verdict contradicts current check")
  require (projection = .nil ∨ (verdict ≠ .nil ∧ check ≠ .nil
      ∧ (projection.get "qa_contract_id").eq (value.get "qa_contract_id") = true
      ∧ (projection.get "request_id").eq (value.get "request_id") = true
      ∧ (projection.get "request_ref").eq (value.get "request_ref") = true
      ∧ (projection.get "qa_check_id").eq (check.get "qa_check_id") = true
      ∧ (projection.get "qa_check_ref").eq (value.get "check_ref") = true
      ∧ (projection.get "verdict_id").eq (verdict.get "verdict_id") = true
      ∧ (projection.get "verdict_ref").eq (value.get "verdict_ref") = true
      ∧ (projection.get "verdict").eq (verdict.get "verdict") = true))
    (refuse "corpse QA terminal projection contradicts evidence")

def carriedRefs (value : Value) : List Value :=
  [value.get "qa_contract_id", value.get "request_id", value.get "request_ref",
    (value.get "check").get "qa_check_id", value.get "check_ref",
    (value.get "execution_failure").get "failure_id", value.get "execution_failure_ref",
    (value.get "verdict").get "verdict_id", value.get "verdict_ref"]

def normalizeCorpseEvidence (value : Value) : Except Failure Value := do
  plainTree "corpse QA evidence" value
  exactRecord value corpseEvidenceKeys "corpse QA evidence"
    ["qa_contract_id", "request_id", "request_ref", "check", "check_ref", "execution_failure",
      "execution_failure_ref", "verdict", "verdict_ref", "terminal_projection"]
  require (value.get "protocol_version" = .text "corpse.qa_evidence.v1")
    (refuse "corpse QA evidence protocol is invalid")
  let refs ← normalizeRefs (value.get "source_refs") "corpse QA evidence"
  requireContract value
  requirePairs value
  let check ← normalPart value "check" "corpse QA check" normalizeCheck
  let failure ← normalPart value "execution_failure" "corpse QA execution failure"
    normalizeFailure
  let verdict ← normalPart value "verdict" "corpse QA verdict" normalizeVerdict
  let projection ← normalPart value "terminal_projection" "corpse QA terminal projection"
    normalizeTerminalProjection
  requireJoins value
  require (listsAll refs (carriedRefs value) = true)
    (refuse "corpse QA evidence omits an identity source")
  setFields value.deepCopy
    (("source_refs", textArray refs) :: (check ++ failure ++ verdict ++ projection))

def verifyCorpseEvidence (value : Value) : Except Failure Unit :=
  verifyNormal normalizeCorpseEvidence "corpse QA evidence" value

end Proc17.Runtime.Qa.EvidenceSchema
