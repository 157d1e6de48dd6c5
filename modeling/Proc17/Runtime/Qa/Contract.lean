import Proc17.Runtime.Qa.EvidenceSchema

/-!
# QA contracts

`qa_schema.normalize_contract` of `core/qa_schema.lua`: the one required check a Packet is born
with, and the sources it was agreed on.
-/

namespace Proc17.Runtime.Qa.Contract

open Lua Core Runtime.Repository

def maxIdBytes : Nat := 1024

def maxRefBytes : Nat := 4096

def maxSourceRefs : Nat := 256

def boundedString (value : Value) (label : String) (maximum : Nat) : Except Failure Bytes :=
  match value with
  | .str (b :: rest) => do
      let text := b :: rest
      require (text.length ≤ maximum) (refuse (label ++ " exceeds its byte ceiling"))
      require (text.any EvidenceSchema.isUnclean = false)
        (refuse (label ++ " contains a control byte"))
      require (Action.validUtf8 text = true) (refuse (label ++ " must be valid UTF-8"))
      pure text
  | _ => .error (refuse (label ++ " must be a non-empty string"))

/-- `dense_array` -/
def denseItems (value : Value) (label : String) (expected : Option Nat) :
    Except Failure (List Value) := do
  require (value.isTable = true ∧ value.hasMetatable = false ∧ value.keys.all isArrayKey = true)
    (refuse (label ++ " must be a dense array"))
  let items ← value.ipairs
  require (value.keys.length = items.length) (refuse (label ++ " must be a dense array"))
  match expected with
  | none => pure items
  | some n => do
      require (items.length = n)
        (refuse (label ++ " must contain exactly " ++ toString n ++ " item(s)"))
      pure items

def boundedRefs (label : String) : Nat → List Value → Except Failure (List Bytes)
  | _, [] => .ok []
  | index, ref :: rest => do
      let text ← boundedString ref (label ++ "[" ++ toString index ++ "]") maxRefBytes
      let texts ← boundedRefs label (index + 1) rest
      pure (text :: texts)

def normalizeSourceRefs (value : Value) (label : String) : Except Failure (List Bytes) := do
  let items ← denseItems value label none
  require (items.length ≤ maxSourceRefs) (refuse (label ++ " exceeds its item ceiling"))
  let texts ← boundedRefs label 1 items
  pure (sortedUnique texts)

def pathComponent (component : Bytes) : Except Failure Unit := do
  require (component.head? ≠ some 46)
    (refuse "QA entrypoint path contains a forbidden component")
  require (component.length ≤ 255)
    (refuse "QA entrypoint path component exceeds its byte ceiling")

def validateRelativePath (value : Value) : Except Failure Bytes := do
  let path ← boundedString value "QA entrypoint path" 1024
  require (path.head? ≠ some 47 ∧ path.getLast? ≠ some 47 ∧ hasDoubleSlash path = false)
    (refuse "QA entrypoint path must be normalized and relative")
  (splitPath path).forM pathComponent
  require (1 ≤ (splitPath path).length ∧ (splitPath path).length ≤ 64)
    (refuse "QA entrypoint path has an invalid component count")
  pure path

def checkNames : List String :=
  ["check_id", "ordinal", "required", "kind", "profile_id", "environment_id", "entrypoint",
    "invocation", "resource_limits", "output_policy"]

def normalizeEntrypoint (entrypoint : Value) : Except Failure Bytes := do
  exactRecord entrypoint ["relative_path", "expected_kind"] "QA entrypoint" []
  let path ← validateRelativePath (entrypoint.get "relative_path")
  require (entrypoint.get "expected_kind" = .text "regular_file")
    (refuse "QA entrypoint must require a regular file")
  pure path

def requireInvocation (invocation : Value) : Except Failure Unit := do
  exactRecord invocation ["stdin", "arguments", "expected_exit_codes"] "QA invocation" []
  require (invocation.get "stdin" = .text "closed") (refuse "QA invocation stdin must be closed")
  let _ ← denseItems (invocation.get "arguments") "QA invocation arguments" (some 0)
  let codes ← denseItems (invocation.get "expected_exit_codes") "QA expected exit codes" (some 1)
  require ((codes.all fun code => code.eq (.nat 0)) = true)
    (refuse "QA expected exit code must be exactly zero")

def requireOutputPolicy (policy : Value) : Except Failure Unit := do
  exactRecord policy ["authority", "retain_raw_output"] "QA output policy" []
  require (policy.get "authority" = .text "exit_status_only"
      ∧ policy.get "retain_raw_output" = .bool false)
    (refuse "QA output policy is invalid")

def checkFields (environment : Value) (path : Bytes) (limits : Value) : List (String × Value) := [
  ("ordinal", .nat 1),
  ("required", .bool true),
  ("kind", .text "lua54_test_suite.v0"),
  ("profile_id", profileId),
  ("environment_id", environment),
  ("entrypoint", .record [
    ("relative_path", .str path),
    ("expected_kind", .text "regular_file")]),
  ("invocation", .record [
    ("stdin", .text "closed"),
    ("arguments", .emptyTable),
    ("expected_exit_codes", .array [.nat 0])]),
  ("resource_limits", limits),
  ("output_policy", .record [
    ("authority", .text "exit_status_only"),
    ("retain_raw_output", .bool false)])]

/-- `normalize_check` of `core/qa_schema.lua` -/
def normalizeRequiredCheck (input : Value) : Except Failure Value := do
  exactRecord input checkNames "QA required check" ["check_id"]
  require ((input.get "ordinal").eq (.nat 1) = true
      ∧ input.get "required" = .bool true
      ∧ input.get "kind" = .text "lua54_test_suite.v0"
      ∧ input.get "profile_id" = profileId
      ∧ taggedDigest (input.get "environment_id") "qa-environment:" = true)
    (refuse "QA required check envelope is invalid")
  let path ← normalizeEntrypoint (input.get "entrypoint")
  requireInvocation (input.get "invocation")
  requireOutputPolicy (input.get "output_policy")
  let limits ← normalizeLimits (input.get "resource_limits")
  let fields := checkFields (input.get "environment_id") path limits
  let id ← Digest.identify "qa-check-contract:" (.record fields)
  require (input.get "check_id" = .nil ∨ input.get "check_id" = .str id)
    (refuse "QA required check identity mismatch")
  pure (.record (("check_id", .str id) :: fields))

def contractNames : List String :=
  ["protocol_version", "qa_contract_id", "lineage_id", "process_contract_id", "context",
    "stage_id", "execution_policy", "required_checks", "source_refs", "event_truth_status",
    "content_truth_status"]

def normalizeContract (input : Value) : Except Failure Value := do
  plainTree "QA contract" input
  exactRecord input contractNames "QA contract" ["qa_contract_id"]
  require (input.get "protocol_version" = .text "qa.contract.v0"
      ∧ EvidenceSchema.isProcessContract (input.get "process_contract_id") = true
      ∧ input.get "context" = .text "software_task.v0"
      ∧ input.get "execution_policy" = .text "single_required_check.v0"
      ∧ input.get "event_truth_status" = .text "runtime_confirmed"
      ∧ EvidenceSchema.isContentTruth (input.get "content_truth_status") = true)
    (refuse "QA contract envelope is invalid")
  let lineage ← boundedString (input.get "lineage_id") "QA contract lineage_id" maxIdBytes
  let stage ← boundedString (input.get "stage_id") "QA contract stage_id" maxIdBytes
  let _ ← denseItems (input.get "required_checks") "QA required_checks" (some 1)
  let check ← normalizeRequiredCheck (EvidenceSchema.firstItem (input.get "required_checks"))
  let refs ← normalizeSourceRefs (input.get "source_refs") "QA contract source_refs"
  let fields : List (String × Value) := [
    ("protocol_version", .text "qa.contract.v0"),
    ("lineage_id", .str lineage),
    ("process_contract_id", input.get "process_contract_id"),
    ("context", .text "software_task.v0"),
    ("stage_id", .str stage),
    ("execution_policy", .text "single_required_check.v0"),
    ("required_checks", .array [check]),
    ("source_refs", textArray refs),
    ("event_truth_status", .text "runtime_confirmed"),
    ("content_truth_status", input.get "content_truth_status")]
  let id ← Digest.identify "qa-contract:" (.record fields)
  require (input.get "qa_contract_id" = .nil ∨ input.get "qa_contract_id" = .str id)
    (refuse "QA contract identity mismatch")
  pure (.record (("qa_contract_id", .str id) :: fields))

end Proc17.Runtime.Qa.Contract
